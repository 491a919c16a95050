/-!
# Bytes as characters

Every byte has a character that can be seen. A byte that is the code of a visible character below 256 has
that character; the other bytes, in order, have the characters from 256 on. No two bytes share one
(`byte?_ofByte`).
-/

namespace PromptLoop

namespace ByteCharacter

/-- Whether a byte is the code of a visible character. -/
def isVisible (b : Nat) : Bool := (33 ≤ b && b ≤ 126) || (161 ≤ b && b ≤ 172) || (174 ≤ b && b ≤ 255)

/-- The bytes without a visible character, in order. -/
def hidden : List Nat := (List.range 256).filter fun b => !isVisible b

/-- The character of a byte. -/
def ofByte (b : UInt8) : Char :=
  Char.ofNat (if isVisible b.toNat then b.toNat else 256 + hidden.idxOf b.toNat)

/-- The byte that has a character. -/
def byte? (c : Char) : Option UInt8 :=
  if isVisible c.toNat then some (UInt8.ofNat c.toNat)
  else if 256 ≤ c.toNat then (hidden[c.toNat - 256]?).map UInt8.ofNat
  else none

/-- The character of a byte has that byte. -/
theorem byte?_ofByte (b : UInt8) : byte? (ofByte b) = some b := by
  have all : ∀ n : Fin 256, byte? (ofByte (UInt8.ofNat n)) = some (UInt8.ofNat n) := by decide +kernel
  simpa using all ⟨b.toNat, b.toNat_lt⟩

end ByteCharacter

end PromptLoop
