import PromptLoop.Text.Span

/-!
# Passages

A passage is a part of a text that may have been respelled: other characters may stand for those of the
text. Each character of a passage keeps the place in the text that it stems from, and characters that are
put in stem from where their neighbours do.
-/

namespace PromptLoop

/-- A character with the place in a text that it stems from. -/
structure Placed where
  /-- The character. -/
  char : Char
  /-- The place. -/
  origin : Nat
  deriving DecidableEq, Repr

/-- A part of a text. -/
abbrev Passage := List Placed

namespace Passage

/-- The passage of a whole text. -/
def ofText (text : List Char) : Passage := text.zipIdx.map fun (c, place) => ⟨c, place⟩

/-- The characters of a passage. -/
def chars (p : Passage) : List Char := p.map (·.char)

/-- The passage of a whole text has the characters of the text. -/
@[simp] theorem chars_ofText (text : List Char) : (ofText text).chars = text := by
  simp [ofText, chars, List.map_map, Function.comp_def]

/-- Puts characters in the place of each character. -/
def spell (respell : Char → List Char) (p : Passage) : Passage :=
  p.flatMap fun a => (respell a.char).map fun c => ⟨c, a.origin⟩

/-- Puts characters before a passage, unless it is empty. -/
def prepend (cs : List Char) (p : Passage) : Passage :=
  match p with
  | [] => []
  | a :: _ => (cs.map fun c => ⟨c, a.origin⟩) ++ p

/-- Where the last character of a passage stems from, or a given place if there is none. -/
def lastOrigin (place : Nat) (p : Passage) : Nat := (p.getLast?.map (·.origin)).getD place

/-- Puts characters in the place of each match among some spans. They stem from where the last character
before them does, the match included. -/
def fill (content : List Char) : List Span → Nat → Passage → Passage
  | [], _, _ => []
  | s :: rest, place, p =>
    let here : Passage := p.take s.length
    let place := here.lastOrigin place
    (if s.found then content.map fun c => ⟨c, place⟩ else here) ++ fill content rest place (p.drop s.length)

/-- Cuts a passage at spans. -/
def split (splitting : Splitting) (spans : List Span) (p : Passage) : List Passage :=
  keptParts (splitting.parts spans) p

end Passage

end PromptLoop
