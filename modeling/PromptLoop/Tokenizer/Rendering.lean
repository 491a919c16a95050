import PromptLoop.Console.Line
import PromptLoop.Text.ByteCharacters
import PromptLoop.Text.Expression
import PromptLoop.Text.Hexadecimal
import PromptLoop.Text.Lossy

/-!
# Rendering

The pieces of tokens are rendered as a text by steps, each of which changes the pieces that the steps before
it leave; in the end the pieces are joined. Without steps there is a space between each two pieces.

The usual steps are those of `Rendering.byteFallback`: the mark for a space is shown as a space, and runs of
pieces for bytes become the text of the bytes. A run that is UTF-8 becomes its text, any other run becomes
one replacement character per byte.
-/

namespace PromptLoop

/-- The character that stands for what cannot be shown. -/
def replacementChar : Char := '\uFFFD'

/-! ### Pieces for bytes -/

/-- What a piece contributes to a text. -/
inductive Fragment where
  /-- One byte of a character. -/
  | byte (b : UInt8)
  /-- Characters. -/
  | text (cs : List Char)
  deriving DecidableEq, Repr

namespace Fragment

/-- The byte that two characters denote: two hexadecimal digits, or a plus sign and one digit. -/
def byteOfDigits? (high low : Char) : Option UInt8 := do
  let l ← Hexadecimal.value? low
  let h ← if high = '+' then some 0 else Hexadecimal.value? high
  return UInt8.ofNat (16 * h + l)

/-- What the characters of a piece contribute. -/
def ofChars (cs : List Char) : Fragment :=
  match cs with
  | ['<', '0', 'x', high, low, '>'] =>
    match byteOfDigits? high low with
    | some b => .byte b
    | none => .text cs
  | _ => .text cs

/-- The texts of a run of bytes. -/
def textsOfBytes (bytes : List UInt8) : List (List Char) :=
  if bytes.isEmpty then []
  else
    match Line.text? bytes with
    | some s => [s.toList]
    | none => List.replicate bytes.length [replacementChar]

/-- Joins the bytes of each run, given the bytes of the run that is under way. -/
def join : List UInt8 → List Fragment → List (List Char)
  | run, [] => textsOfBytes run
  | run, .byte b :: rest => join (run ++ [b]) rest
  | run, .text cs :: rest => textsOfBytes run ++ cs :: join [] rest

end Fragment

/-! ### Steps -/

/-- A step of rendering. -/
inductive RenderingStep where
  /-- A mark for the end of a word becomes a space, and in the last piece nothing. -/
  | endMark (mark : List Char)
  /-- Characters that stand for bytes become the text of these bytes. -/
  | bytes
  /-- Pieces after the first lose the mark that joins them to the piece before, or are parted from it by a
  space. The blanks around punctuation marks may be tidied up. -/
  | joinMark (mark : List Char) (tidy : Bool)
  /-- A mark for a space becomes a space. In the first piece it may be left out. -/
  | spaceMark (mark : Char) (inFirst : Bool)
  /-- Of equal pieces in a row only one stays. An idle piece is left out, and a mark between words may become
  a space. -/
  | collapse (idle word : List Char) (tidy : Bool)
  /-- Each match of a pattern is changed. -/
  | replace (pattern : Pattern) (content : List Char)
  /-- The pieces become one. -/
  | fuse
  /-- Up to some numbers of a character are taken off the start and the end of each piece. -/
  | strip (c : Char) (atStart atEnd : Nat)
  /-- Pieces for bytes become the text of these bytes. -/
  | byteFallback
  deriving DecidableEq, Repr

/-- Steps of rendering, in order; none if the pieces are parted by spaces. -/
abbrev Rendering := Option (List RenderingStep)

namespace RenderingStep

/-- Texts that are changed when blanks are tidied up, and what they become. -/
def tidied : List (String × String) :=
  [(" .", "."), (" ?", "?"), (" !", "!"), (" ,", ","), (" ' ", "'"), (" n't", "n't"), (" 'm", "'m"),
    (" do not", " don't"), (" 's", "'s"), (" 've", "'ve"), (" 're", "'re")]

/-- Changes each place of a text where another text stands. -/
def change (cs sought content : List Char) : List Char := (Pattern.text sought).replace content cs

/-- A text with the blanks around punctuation marks tidied up. -/
def tidyUp (cs : List Char) : List Char :=
  tidied.foldl (fun cs (sought, content) => change cs sought.toList content.toList) cs

/-- The pieces, given whether each is the first. -/
def mapFirst (f : Bool → List Char → List Char) : List (List Char) → List (List Char)
  | [] => []
  | p :: rest => f true p :: rest.map (f false)

/-- The pieces, given whether each is the last. -/
def mapLast (f : Bool → List Char → List Char) (pieces : List (List Char)) : List (List Char) :=
  (mapFirst f pieces.reverse).reverse

/-- A piece without a mark at its start, or else with a space there. -/
def joined (mark p : List Char) : List Char :=
  if mark.isPrefixOf p then p.drop mark.length else ' ' :: p

/-- The bytes that characters stand for, or else those of the characters themselves. -/
def bytesOf (cs : List Char) : List UInt8 :=
  (cs.mapM ByteCharacter.byte?).getD (Line.bytes (String.ofList cs))

/-- A piece without up to a number of a character at its start. -/
def stripStart (c : Char) : Nat → List Char → List Char
  | count + 1, a :: rest => if a = c then stripStart c count rest else a :: rest
  | _, cs => cs

/-- Pieces of which there are no equal two in a row. -/
def distinct : List (List Char) → List (List Char)
  | p :: q :: rest => if p = q then distinct (q :: rest) else p :: distinct (q :: rest)
  | pieces => pieces

/-- A piece without the idle piece and with spaces for marks between words. -/
def collapsed (idle word : List Char) (tidy : Bool) (p : List Char) : List Char :=
  let p := change p idle []
  if tidy then change (tidyUp p) word [' '] else p

/-- Carries out a step. -/
def apply (step : RenderingStep) (pieces : List (List Char)) : List (List Char) :=
  match step with
  | endMark mark => mapLast (fun isLast p => change p mark (if isLast then [] else [' '])) pieces
  | bytes => [Lossy.chars 0 (pieces.flatMap bytesOf)]
  | joinMark mark tidy =>
    mapFirst (fun isFirst p =>
      let p := if isFirst then p else joined mark p
      if tidy then tidyUp p else p) pieces
  | spaceMark mark inFirst =>
    mapFirst (fun isFirst p =>
      p.flatMap fun c => if c = mark then (if isFirst && !inFirst then [] else [' ']) else [c]) pieces
  | collapse idle word tidy =>
    ((distinct pieces).map (collapsed idle word tidy)).filter fun p => !p.isEmpty
  | replace pattern content => pieces.map (pattern.replace content)
  | fuse => [pieces.flatten]
  | strip c atStart atEnd =>
    pieces.map fun p => (stripStart c atEnd (stripStart c atStart p).reverse).reverse
  | byteFallback => Fragment.join [] (pieces.map Fragment.ofChars)

end RenderingStep

namespace Rendering

/-- The character that stands for a space within a piece. -/
def spaceMark : Char := '▁'

/-- The usual steps. -/
def byteFallback : Rendering := some [.replace (.text [spaceMark]) [' '], .byteFallback, .fuse]

/-- The text of pieces. -/
def text (r : Rendering) (pieces : List String) : List Char :=
  let pieces := pieces.map String.toList
  match r with
  | some steps => (steps.foldl (fun pieces step => step.apply pieces) pieces).flatten
  | none => [' '].intercalate pieces

end Rendering

end PromptLoop
