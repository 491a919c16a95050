import PromptLoop.Number.Decimal
import PromptLoop.Text.Blank

/-!
# Tables of runs of characters

A property that neighbouring characters mostly share is given by a table of runs. The text of a table has
a word for each run, its number of code points in decimal digits and then the value that they share; the
runs follow one another from code point zero on.
-/

namespace PromptLoop

/-- The words of a text, which blanks stand between. The characters of the word under way are given, the
latest first. -/
def words : List Char → List Char → List (List Char)
  | word, [] => if word.isEmpty then [] else [word.reverse]
  | word, c :: rest =>
    if isBlank c then if word.isEmpty then words [] rest else word.reverse :: words [] rest
    else words (c :: word) rest

/-- A table: runs, each with its first code point and its value. -/
structure RunTable (α : Type) where
  /-- The runs, in order. -/
  runs : Array (Nat × α)

namespace RunTable

variable {α : Type}

/-- The length and the value of a run. -/
def run? (value? : List Char → Option α) (word : List Char) : Option (Nat × α) :=
  (value? (word.dropWhile Char.isDigit)).map fun v => (natOfDigits (word.takeWhile Char.isDigit), v)

/-- Puts the first code point of each run in the place of its length. -/
def starts : Nat → List (Nat × α) → List (Nat × α)
  | _, [] => []
  | first, (length, v) :: rest => (first, v) :: starts (first + length) rest

/-- Reads a table. -/
def ofText (value? : List Char → Option α) (text : String) : RunTable α :=
  ⟨(starts 0 ((words [] text.toList).filterMap (run? value?))).toArray⟩

/-- Whether a run starts at or before a code point. -/
def startsBy (t : RunTable α) (code place : Nat) : Bool :=
  match t.runs[place]? with
  | some (first, _) => first ≤ code
  | none => false

/-- Looks for the last run that starts at or before a code point, from one place of the table to another. The
first number bounds how often what is left is halved. -/
def search (t : RunTable α) (code : Nat) : Nat → Nat → Nat → Nat
  | 0, low, _ => low
  | halvings + 1, low, high =>
    let middle := (low + high) / 2
    if high ≤ low + 1 then low
    else if t.startsBy code middle then t.search code halvings middle high
    else t.search code halvings low middle

/-- The value of a character, if the table has one. -/
def value? (t : RunTable α) (c : Char) : Option α :=
  (t.runs[t.search c.toNat (t.runs.size.log2 + 1) 0 t.runs.size]?).map (·.2)

end RunTable

end PromptLoop
