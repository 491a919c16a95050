import PromptLoop.Text.ByteCharacters
import PromptLoop.Text.CharacterMap
import PromptLoop.Text.Expression
import PromptLoop.Text.NormalForm
import PromptLoop.Console.Line

/-!
# Respelling

Before pieces are looked for, a text may be respelled: brought into a normal form or into lower case, freed
from marks or blanks, or changed wherever a pattern matches. A respelling is a list of steps, each of which
is carried out on what the steps before it leave.
-/

namespace PromptLoop

/-- A step of respelling. -/
inductive RespellingStep where
  /-- A normal form. -/
  | normalForm (form : NormalForm)
  /-- Lower case. -/
  | lowercase
  /-- Characters that are not shown are left out, and blank ones become spaces. -/
  | clean
  /-- Spaces are put around ideographs. -/
  | spaceIdeographs
  /-- Marks that take no room of their own are left out. -/
  | dropNonspacing
  /-- All marks are left out. -/
  | dropMarks
  /-- Control characters are left out, and characters that part words become spaces. -/
  | plainSpaces
  /-- Clusters and characters are respelled as a map says. -/
  | mapped (map : CharacterMap)
  /-- Blank characters are left out at the start, at the end, or at both. -/
  | trim (atStart atEnd : Bool)
  /-- Each match of a pattern is changed. -/
  | replace (pattern : Pattern) (content : List Char)
  /-- Characters are put before a text that is not empty. -/
  | prepend (cs : List Char)
  /-- Each byte becomes a character that can be seen. -/
  | bytes
  deriving DecidableEq, Repr

/-- Steps of respelling, in order. -/
abbrev Respelling := List RespellingStep

/-! ### Single characters -/

/-- The characters of the bytes of a character. -/
def byteCharacters (c : Char) : List Char := (Line.bytes (String.singleton c)).map ByteCharacter.ofByte

namespace RespellingStep

/-- Whether a character is blank and shown as such. -/
def isShownBlank (c : Char) : Bool := c = '\t' || c = '\n' || c = '\r' || isBlank c

/-- Whether a character is not shown, except for the blanks of a text file. -/
def isHidden (c : Char) : Bool :=
  c.toNat = 0 || c.toNat = 0xfffd ||
    (isOfGroup .other c && !(c = '\t' || c = '\n' || c = '\r'))

/-- A character without what is not shown. -/
def cleaned (c : Char) : List Char := if isHidden c then [] else if isShownBlank c then [' '] else [c]

/-- The ranges of codes of ideographs. -/
def ideographs : List (Nat × Nat) :=
  [(0x4e00, 0x9fff), (0x3400, 0x4dbf), (0x20000, 0x2a6df), (0x2a700, 0x2b73f), (0x2b740, 0x2b81f),
    (0x2b920, 0x2ceaf), (0xf900, 0xfaff), (0x2f800, 0x2fa1f)]

/-- A character with spaces around it if it is an ideograph. -/
def spaced (c : Char) : List Char := if isWithin ideographs c then [' ', c, ' '] else [c]

/-- The ranges of codes of control characters that are left out. -/
def leftOut : List (Nat × Nat) := [(1, 8), (0xb, 0xb), (0xe, 0x1f), (0x7f, 0x7f), (0x8f, 0x8f), (0x9f, 0x9f)]

/-- The ranges of codes of characters that part words. -/
def parting : List (Nat × Nat) :=
  [(9, 0xa), (0xc, 0xd), (0x1680, 0x1680), (0x200b, 0x200f), (0x2028, 0x2029), (0x2581, 0x2581),
    (0xfeff, 0xfeff), (0xfffd, 0xfffd)]

/-- A character with plain spaces for what parts words. -/
def plain (c : Char) : List Char :=
  if isWithin leftOut c then [] else if isWithin parting c then [' '] else [c]

/-! ### Passages -/

/-- A passage without characters of a kind at its start, at its end, or at both. -/
def trimmed (isDropped : Char → Bool) (atStart atEnd : Bool) (p : Passage) : Passage :=
  let p := if atStart then p.dropWhile fun a => isDropped a.char else p
  if atEnd then (p.reverse.dropWhile fun a => isDropped a.char).reverse else p

/-- Carries out a step on a passage that starts at a place in the text. -/
def apply (place : Nat) (step : RespellingStep) (p : Passage) : Passage :=
  match step with
  | normalForm form => form.apply p
  | lowercase => p.spell LetterCase.lower
  | clean => p.spell cleaned
  | spaceIdeographs => p.spell spaced
  | dropNonspacing => p.filter fun a => !isNonspacing a.char
  | dropMarks => p.filter fun a => !isOfGroup .mark a.char
  | plainSpaces => p.spell plain
  | mapped map => map.apply p
  | trim atStart atEnd => trimmed isBlank atStart atEnd p
  | replace pattern content => Passage.fill content (pattern.spans p.chars) place p
  | prepend cs => p.prepend cs
  | bytes => p.spell byteCharacters

end RespellingStep

namespace Respelling

/-- Carries out steps on a passage that starts at a place in the text. -/
def apply (steps : Respelling) (place : Nat) (p : Passage) : Passage :=
  steps.foldl (fun p step => step.apply place p) p

/-- A text respelled by itself. -/
def text (steps : Respelling) (cs : List Char) : List Char := (apply steps 0 (Passage.ofText cs)).chars

end Respelling

end PromptLoop
