import PromptLoop.Text.Hexadecimal
import PromptLoop.Text.NormalForm.Table
import PromptLoop.Text.Passage
import PromptLoop.Text.RunTable

/-!
# Normal forms

A character with marks can be written in several ways. Texts are compared in a normal form: every character
is decomposed as far as possible and the marks after a character are put in order of their classes; then,
for the composed forms, characters and marks are composed again where nothing stands between them. The
compatible forms also undo differences of shape, such as that between a ligature and its letters.

The syllables of Hangul are made up of two or three parts by a rule, everything else is in the table.
-/

namespace PromptLoop

/-- A normal form. -/
structure NormalForm where
  /-- Whether differences of shape are undone as well. -/
  compatible : Bool
  /-- Whether characters are composed in the end. -/
  composed : Bool
  deriving DecidableEq, Repr

namespace NormalForm

/-! ### Tables -/

/-- What becomes of a decomposition. -/
inductive Lasting where
  /-- It is undone when characters are composed. -/
  | undone
  /-- It stays in all normal forms. -/
  | kept
  /-- It belongs to the compatible forms only, where it stays. -/
  | compatible
  deriving DecidableEq, Repr

/-- A step of decomposing. -/
structure Decomposition where
  /-- What becomes of it. -/
  lasting : Lasting
  /-- The parts. -/
  parts : List Char
  deriving DecidableEq, Repr

/-- What a sign of the table says. -/
def lasting? : Char → Option Lasting
  | '=' => some .undone
  | ':' => some .kept
  | '~' => some .compatible
  | _ => none

/-- The characters with some codes, with points between the codes. -/
def codedParts? (codes : List Char) : Option (List Char) :=
  ((String.ofList codes).splitOn ".").mapM fun code => (Hexadecimal.nat? code.toList).bind Hexadecimal.char?

/-- What a run of the table of decompositions says. -/
def decompositionOfWord? : List Char → Option (Option Decomposition)
  | sign :: codes =>
    some (do return ⟨← lasting? sign, ← codedParts? codes⟩)
  | [] => none

/-- What a run of the table of classes says. -/
def classOfWord? : List Char → Option Nat
  | _ :: digits => some (natOfDigits digits)
  | [] => none

/-- The decompositions. -/
def decompositions : RunTable (Option Decomposition) := .ofText decompositionOfWord? decompositionTable

/-- The classes. -/
def classes : RunTable Nat := .ofText classOfWord? classTable

/-- The class of a character; zero for whatever is no mark with a place of its own. -/
def markClass (c : Char) : Nat := (classes.value? c).getD 0

/-- The characters that two others are composed to, after those two. -/
def pairs : List (Char × Char × Char) :=
  decompositions.runs.toList.filterMap fun (code, entry) =>
    match entry with
    | some ⟨.undone, [a, b]⟩ => some (a, b, Char.ofNat code)
    | _ => none

/-! ### Hangul -/

/-- The code of the first syllable. -/
def syllables : Nat := 0xac00

/-- The number of syllables. -/
def syllableCount : Nat := 11172

/-- The code of the first leading consonant. -/
def leads : Nat := 0x1100

/-- The number of leading consonants. -/
def leadCount : Nat := 19

/-- The code of the first vowel. -/
def vowels : Nat := 0x1161

/-- The number of vowels. -/
def vowelCount : Nat := 21

/-- The code before that of the first trailing consonant. -/
def trails : Nat := 0x11a7

/-- The number of trailing consonants and of none. -/
def trailCount : Nat := 28

/-- The parts of a syllable. -/
def syllableParts? (c : Char) : Option (List Char) :=
  let place := c.toNat - syllables
  if syllables ≤ c.toNat ∧ place < syllableCount then
    let trail := place % trailCount
    some ([Char.ofNat (leads + place / (vowelCount * trailCount)),
        Char.ofNat (vowels + place / trailCount % vowelCount)] ++
      if trail = 0 then [] else [Char.ofNat (trails + trail)])
  else none

/-- The syllable that two parts make up. -/
def syllable? (a b : Char) : Option Char :=
  let lead := a.toNat - leads
  let vowel := b.toNat - vowels
  let place := a.toNat - syllables
  let trail := b.toNat - trails
  if leads ≤ a.toNat ∧ lead < leadCount ∧ vowels ≤ b.toNat ∧ vowel < vowelCount then
    some (Char.ofNat (syllables + (lead * vowelCount + vowel) * trailCount))
  else if syllables ≤ a.toNat ∧ place < syllableCount ∧ place % trailCount = 0 ∧ trails < b.toNat ∧
      trail < trailCount then
    some (Char.ofNat (a.toNat + trail))
  else none

/-! ### Decomposing -/

/-- The parts of a character in one step. -/
def parts? (compatible : Bool) (c : Char) : Option (List Char) :=
  match syllableParts? c, (decompositions.value? c).join with
  | some parts, _ => some parts
  | none, some d => if d.lasting = .compatible && !compatible then none else some d.parts
  | none, none => none

/-- No character takes more steps to decompose. -/
def depth : Nat := 8

/-- The parts of a character after a number of steps. -/
def expand (compatible : Bool) : Nat → Char → List Char
  | 0, c => [c]
  | steps + 1, c =>
    match parts? compatible c with
    | some parts => parts.flatMap (expand compatible steps)
    | none => [c]

/-- Puts a character before a passage and behind the marks of it that come before that character. -/
def insertMark (a : Placed) : Passage → Passage
  | [] => [a]
  | b :: rest =>
    if 0 < markClass b.char ∧ markClass b.char < markClass a.char then b :: insertMark a rest else a :: b :: rest

/-- A passage with marks in order. -/
def order (p : Passage) : Passage := p.foldr insertMark []

/-- A passage decomposed as far as possible. -/
def decompose (compatible : Bool) (p : Passage) : Passage := order (p.spell (expand compatible depth))

/-! ### Composing -/

/-- The character that two characters are composed to. -/
def pair? (a b : Char) : Option Char :=
  match syllable? a b with
  | some c => some c
  | none => (pairs.find? fun (x, y, _) => x = a ∧ y = b).map fun (_, _, c) => c

/-- Composes what is left of a passage. A character that marks may be composed with is given, if there is
one, the marks after it that could not be, the latest first, and the class of the latest. -/
def composeFrom : Option Placed → Passage → Nat → Passage → Passage
  | none, _, _, [] => []
  | some base, marks, _, [] => base :: marks.reverse
  | none, _, _, a :: rest =>
    if markClass a.char = 0 then composeFrom (some a) [] 0 rest else a :: composeFrom none [] 0 rest
  | some base, marks, last, a :: rest =>
    let blocked := !marks.isEmpty && markClass a.char ≤ last
    match if blocked then none else pair? base.char a.char with
    | some c => composeFrom (some ⟨c, base.origin⟩) marks last rest
    | none =>
      if markClass a.char = 0 then base :: marks.reverse ++ composeFrom (some a) [] 0 rest
      else composeFrom (some base) (a :: marks) (markClass a.char) rest

/-- A passage in a normal form. -/
def apply (form : NormalForm) (p : Passage) : Passage :=
  let decomposed := decompose form.compatible p
  if form.composed then composeFrom none [] 0 decomposed else decomposed

end NormalForm

end PromptLoop
