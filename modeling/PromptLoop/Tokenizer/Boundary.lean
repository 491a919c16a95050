import PromptLoop.Text.Script
import PromptLoop.Tokenizer.Respelling

/-!
# Boundaries of words

Pieces do not reach across the boundaries of words. Where these are is given by steps, each of which cuts
the passages that the steps before it leave; some of them respell what they cut. Empty passages are dropped.
-/

namespace PromptLoop

/-- When a mark for a space is put before a passage. -/
inductive Marking where
  /-- Before the first passage of a text only. -/
  | first
  /-- Never. -/
  | never
  /-- Before every passage. -/
  | always
  deriving DecidableEq, Repr

/-- A step of finding boundaries. -/
inductive BoundaryStep where
  /-- Passages are split at the matches of a pattern, or at what is between. -/
  | split (pattern : Pattern) (inverted : Bool) (splitting : Splitting)
  /-- Each byte becomes a character that can be seen. Before that, passages may be made to start with a
  space, and may be cut into words. -/
  | bytes (startsWithSpace cutsWords : Bool)
  /-- Spaces become marks, which passages may be split before. -/
  | marks (mark : Char) (marking : Marking) (splits : Bool)
  /-- Passages are cut where the script changes. -/
  | scripts
  /-- Passages are cut into passages of a length. -/
  | lengths (length : Nat)
  deriving DecidableEq, Repr

/-- Steps of finding boundaries, in order. -/
abbrev Boundaries := List BoundaryStep

namespace BoundaryStep

/-! ### Patterns -/

/-- Punctuation marks, all marks of ASCII among them. -/
def punctuation : CharSet :=
  .anyOf [.group .punctuation, .range '!' '/', .range ':' '@', .range '[' (Char.ofNat 0x60),
    .range '\x7b' '~']

/-- A single character of a set. -/
def single (set : CharSet) : Pattern := .expression (.oneOf set)

/-- A run of parts of words, or a run of other characters that are not blank. -/
def wordOrMarks : Expression :=
  .choice (.run .wordPart) (.run (.both (.not .wordPart) (.not .blank)))

/-- The endings that are cut off after an apostrophe. -/
def endings : List String := ["s", "t", "re", "ve", "m", "ll", "d"]

/-- Letters, numbers and other characters that are not blank. -/
def wordKinds : List CharSet :=
  [.group .letter, .group .number,
    .both (.not .blank) (.both (.not (.group .letter)) (.not (.group .number)))]

/-- One or more blanks. -/
def blanks : Expression := .run .blank

/-- Words with the space before them: an ending after an apostrophe, a run of characters of one kind, or
blanks, of which the last is left to the word that follows. -/
def words : Expression :=
  .anyOf ((endings.map fun e => .text ('\'' :: e.toList)) ++
    (wordKinds.map fun k => .inOrder (.rounds (.oneOf (.one ' ')) 0 (some 1) false) (.run k)) ++
    [.inOrder blanks (.ahead false (.oneOf (.not .blank))), blanks])

/-! ### Cutting -/

/-- Cuts a passage into passages of a length. What is left of the passage under way is given, and how many
characters it still takes. -/
def chunks (length : Nat) : Passage → Nat → Passage → List Passage
  | chunk, _, [] => [chunk.reverse]
  | chunk, 0, a :: rest => chunk.reverse :: chunks length [a] (length - 1) rest
  | chunk, more + 1, a :: rest => chunks length (a :: chunk) more rest

/-- Whether a passage starts with a character. -/
def startsWith (c : Char) (p : Passage) : Bool := p.head?.any (·.char = c)

/-- Whether a passage starts where the text does. -/
def startsText (p : Passage) : Bool := p.head?.any (·.origin = 0)

/-- Whether a mark is put before a passage that has none. -/
def needsMark (marking : Marking) (p : Passage) : Bool :=
  match marking with
  | .first => startsText p
  | .never => false
  | .always => true

/-- A passage with marks for spaces. -/
def marked (mark : Char) (marking : Marking) (p : Passage) : Passage :=
  let p := p.spell fun c => [if c = ' ' then mark else c]
  if !startsWith mark p && needsMark marking p then p.prepend [mark] else p

/-- Cuts a passage. -/
def cut (step : BoundaryStep) (p : Passage) : List Passage :=
  match step with
  | split pattern inverted splitting =>
    let spans := pattern.spans p.chars
    p.split splitting (if inverted then Span.inverted spans else spans)
  | bytes startsWithSpace cutsWords =>
    let p := if startsWithSpace && !startsWith ' ' p then p.prepend [' '] else p
    let parts := if cutsWords then p.split .isolated (Pattern.spans (.expression words) p.chars) else [p]
    parts.map fun part => part.spell byteCharacters
  | marks mark marking splits =>
    let p := marked mark marking p
    if splits then p.split .withNext (Pattern.spans (single (.one mark)) p.chars) else [p]
  | scripts => keptParts (Script.parts p.chars) p
  | lengths length => chunks length [] length p

end BoundaryStep

namespace Boundaries

/-- Cuts a passage at all boundaries. -/
def cut (steps : Boundaries) (p : Passage) : List Passage :=
  steps.foldl (fun passages step => (passages.flatMap step.cut).filter fun q => !q.isEmpty) [p]

end Boundaries

end PromptLoop
