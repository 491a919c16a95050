/-!
# Bytes shown as text

Bytes that are meant as UTF-8 but are not are shown with replacement characters. The bytes are read from
the left; each longest beginning of a well-formed character that is cut short, and each byte that begins
none, becomes one replacement character.
-/

namespace PromptLoop

namespace Lossy

/-- What the first bytes of a non-empty sequence are: a character or the beginning of none, and how many
more bytes belong to it. -/
structure Unit where
  /-- The character, or the replacement character. -/
  char : Char
  /-- The number of bytes after the first. -/
  more : Nat
  deriving DecidableEq, Repr

/-- Bytes that make no character. -/
def broken (more : Nat) : Unit := ⟨'\uFFFD', more⟩

/-- Whether a byte continues a character. -/
def continues (b : UInt8) : Bool := 0x80 ≤ b && b ≤ 0xbf

/-- The range that the second byte of a character has to lie in, by its first byte. For some first bytes
it is narrower than that of all continuing bytes, so that every character has one form only. -/
def secondRange (b : UInt8) : UInt8 × UInt8 :=
  if b = 0xe0 then (0xa0, 0xbf)
  else if b = 0xed then (0x80, 0x9f)
  else if b = 0xf0 then (0x90, 0xbf)
  else if b = 0xf4 then (0x80, 0x8f)
  else (0x80, 0xbf)

/-- The number of bytes after the first of a character, by its first byte. -/
def length? (b : UInt8) : Option Nat :=
  if b < 0x80 then some 0
  else if 0xc2 ≤ b && b ≤ 0xdf then some 1
  else if 0xe0 ≤ b && b ≤ 0xef then some 2
  else if 0xf0 ≤ b && b ≤ 0xf4 then some 3
  else none

/-- The bits that a continuing byte contributes. -/
def low (b : UInt8) : Nat := b.toNat % 64

/-- Reads the first character of bytes. -/
def first (b : UInt8) (rest : List UInt8) : Unit :=
  let (least, greatest) := secondRange b
  let second (c : UInt8) : Bool := least ≤ c && c ≤ greatest
  match length? b, rest with
  | none, _ => broken 0
  | some 0, _ => ⟨Char.ofNat b.toNat, 0⟩
  | some _, [] => broken 0
  | some 1, c :: _ => if second c then ⟨Char.ofNat (b.toNat % 32 * 64 + low c), 1⟩ else broken 0
  | some 2, c :: d :: _ =>
    if !second c then broken 0
    else if !continues d then broken 1
    else ⟨Char.ofNat ((b.toNat % 16 * 64 + low c) * 64 + low d), 2⟩
  | some _, c :: d :: e :: _ =>
    if !second c then broken 0
    else if !continues d then broken 1
    else if !continues e then broken 2
    else ⟨Char.ofNat (((b.toNat % 8 * 64 + low c) * 64 + low d) * 64 + low e), 3⟩
  | some _, [c] => broken (if second c then 1 else 0)
  | some _, [c, d] => if !second c then broken 0 else broken (if continues d then 2 else 1)

/-- The characters of bytes after leaving out a number of bytes. -/
def chars : Nat → List UInt8 → List Char
  | _, [] => []
  | skip + 1, _ :: rest => chars skip rest
  | 0, b :: rest =>
    let unit := first b rest
    unit.char :: chars unit.more rest

/-- The text of bytes. -/
def text (bytes : List UInt8) : String := String.ofList (chars 0 bytes)

end Lossy

end PromptLoop
