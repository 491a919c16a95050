import PromptLoop.Text.RunTable
import PromptLoop.Text.Script.Table

/-!
# Scripts

A text in several scripts can be divided where one script follows another. The two Japanese syllabaries go
with the Han characters that they are written with. A space goes with whatever is before it, and so do
characters without a script; where nothing is before them they belong to no part.
-/

namespace PromptLoop

namespace Script

/-- The name of a script. -/
def ofWord? (name : List Char) : Option String := if name = ['-'] then none else some (String.ofList name)

/-- The scripts. -/
def scripts : RunTable (Option String) := .ofText (some ∘ ofWord?) table

/-- The script of a character. -/
def of? (c : Char) : Option String := (scripts.value? c).join

/-- The names of all scripts. -/
def names : List String := (scripts.runs.toList.filterMap (·.2)).eraseDups

/-- The script of Han characters. -/
def han : String := "Han"

/-- The scripts that go with Han characters. -/
def syllabaries : List String := ["Hiragana", "Katakana"]

/-- The mark that makes a vowel long. -/
def longMark : Char := Char.ofNat 0x30fc

/-- The script that a character is taken to be of, if it counts at all. -/
def division? (c : Char) : Option String :=
  if c = longMark then some han
  else if c = ' ' then none
  else (of? c).map fun s => if syllabaries.contains s then han else s

/-- The lengths of the parts of what is left of a text, with whether they count. The script of the part
under way is given, if there is one, and the length of that part. -/
def partsFrom : Option String → Nat → List Char → List (Nat × Bool)
  | current, length, [] => if length = 0 then [] else [(length, current.isSome)]
  | current, length, c :: rest =>
    match division? c with
    | some s =>
      if current = some s then partsFrom current (length + 1) rest
      else (length, current.isSome) :: partsFrom (some s) 1 rest
    | none => partsFrom current (length + 1) rest

/-- The lengths of the parts of a text, with whether they count. -/
def parts (text : List Char) : List (Nat × Bool) := partsFrom none 0 text

end Script

end PromptLoop
