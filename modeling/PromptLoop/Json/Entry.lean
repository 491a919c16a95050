import PromptLoop.Json
import PromptLoop.Number.Double

/-!
# Entries of objects

The value of an entry is read for what it is meant to be: a count, a word, a character, a choice among
names. Entries may be required, may be null or missing, or may be there at most once. An array stands for an
object whose entries are known by their order.
-/

namespace PromptLoop

namespace Json

variable {α : Type}

/-! ### Single values -/

/-- A count, which 64 bits hold. -/
def count? (json : Json) : Option Nat := json.nat?.bind fun n => if n < UInt64.size then some n else none

/-- A word, which 32 bits hold. -/
def word? (json : Json) : Option Nat := json.nat?.bind fun n => if n < UInt32.size then some n else none

/-- A number in double precision. -/
def double? : Json → Option Float
  | number literal => Double.ofNumeral? literal
  | _ => none

/-- A string of one character. -/
def char? : Json → Option Char
  | string [c] => some c
  | _ => none

/-- The characters of a string. -/
def chars? : Json → Option (List Char)
  | string text => some text
  | _ => none

/-- A choice among names, given by itself or as the only key of an object. -/
def choice? : Json → Option String
  | string text => some (String.ofList text)
  | object [(key, null)] => some (String.ofList key)
  | _ => none

/-- A choice among names that comes with a value. -/
def choiceWith? : Json → Option (String × Json)
  | object [(key, v)] => some (String.ofList key, v)
  | _ => none

/-- A pair of values. -/
def pair? : Json → Option (Json × Json)
  | array [a, b] => some (a, b)
  | _ => none

/-- Every item of an array. -/
def each? (read : Json → Option α) (json : Json) : Option (List α) := do (← json.items?).mapM read

/-- The value itself, unless it is null. -/
def ifPresent? (read : Json → Option α) : Json → Option (Option α)
  | null => some none
  | json => (read json).map some

/-! ### Entries -/

/-- An entry that has to be there. -/
def required? (json : Json) (key : String) (read : Json → Option α) : Option α := (json.member? key).bind read

/-- An entry that may be null or missing. -/
def optional? (json : Json) (key : String) (read : Json → Option α) : Option (Option α) :=
  match json.member? key with
  | some v => v.ifPresent? read
  | none => some none

/-- An entry that may be missing. -/
def orDefault? (json : Json) (key : String) (read : Json → Option α) (default : α) : Option α :=
  match json.member? key with
  | some v => read v
  | none => some default

/-- How many entries an object has under a key. -/
def occurrences (json : Json) (key : String) : Nat :=
  ((json.entries?.getD []).filter fun (k, _) => k == key).length

/-- Whether an object has no key of a list twice. -/
def hasOnce (json : Json) (keys : List String) : Bool := keys.all fun key => json.occurrences key ≤ 1

/-- An object, or the object that an array stands for, given the keys in order. No key is there twice. -/
def record? (keys : List String) : Json → Option Json
  | object entries => if (object entries).hasOnce keys then some (object entries) else none
  | array items =>
    if items.length = keys.length then some (object ((keys.map String.toList).zip items)) else none
  | _ => none

/-! ### Ranges of numbers -/

mutual

/-- Whether all numbers of a value are within the range of doubles. -/
def isInRange : Json → Bool
  | number literal => (Double.ofNumeral? literal).isSome
  | array items => areInRange items
  | object entries => areEntriesInRange entries
  | _ => true

/-- Whether all numbers of some values are within the range of doubles. -/
def areInRange : List Json → Bool
  | [] => true
  | v :: rest => isInRange v && areInRange rest

/-- Whether all numbers of the values of some entries are within the range of doubles. -/
def areEntriesInRange : List (List Char × Json) → Bool
  | [] => true
  | (_, v) :: rest => isInRange v && areEntriesInRange rest

end

end Json

end PromptLoop
