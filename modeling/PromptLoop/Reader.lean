/-!
# Reading from the front

A reader takes symbols from the front of a list and gives what it has read together with the symbols
that are left, or nothing if the list does not begin as it should. Texts are read character by
character and files byte by byte.
-/

namespace PromptLoop

/-- A reader. -/
abbrev Reader (σ α : Type) := List σ → Option (α × List σ)

namespace Reader

variable {σ α : Type}

/-- Drops one symbol, which has to be the given one. -/
def expect? [DecidableEq σ] (symbol : σ) : List σ → Option (List σ)
  | s :: rest => if s = symbol then some rest else none
  | [] => none

/-- Takes a number of symbols. -/
def take (count : Nat) : Reader σ (List σ) := fun symbols =>
  let taken := symbols.take count
  if taken.length = count then some (taken, symbols.drop count) else none

/-- Reads a number of things, one after the other, after those that have been read, the latest first. -/
def times (read : Reader σ α) : Nat → List α → Reader σ (List α)
  | 0, done, symbols => some (done.reverse, symbols)
  | count + 1, done, symbols =>
    match read symbols with
    | none => none
    | some (a, rest) => times read count (a :: done) rest

end Reader

end PromptLoop
