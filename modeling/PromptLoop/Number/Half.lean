import PromptLoop.Number.Single

/-!
# Numbers of sixteen bits

Two formats store a number in sixteen bits: half precision, and the upper half of single precision. Every
number of either has a single precision number of the same value; the other way round a number is rounded
to the nearest, a tie going to the even neighbour.
-/

namespace PromptLoop

namespace Format

/-- The format of half precision numbers, 16 bits with the sign. -/
def half : Format := ⟨10, 5⟩

/-- The format of the upper halves of single precision numbers. -/
def upperHalf : Format := ⟨7, 8⟩

end Format

namespace Single

/-- The single precision number of the sixteen bits of a number of a shorter format. A NaN keeps its sign
and the bits of its fraction. -/
def ofSixteen (f : Format) (bits : Nat) : Single :=
  let code := bits % (1 <<< 15)
  let negative := decide (1 <<< 15 ≤ bits)
  if f.infinity < code then
    ofCode negative (nan.code ||| (code - f.infinity) <<< (Format.single.fractionBits - f.fractionBits))
  else if code = f.infinity then ofCode negative infinity.code
  else
    let (mantissa, place) := f.parts code
    ofCode negative (Format.single.nearestScaled mantissa place)

/-- The number of half precision that is nearest to a number. -/
def toHalf (x : Single) : Single :=
  if x.isNaN then x.quieted
  else if x.isInfinite then x
  else
    let (mantissa, place) := Format.single.parts x.code
    let sign := if x.isNegative then 1 <<< 15 else 0
    ofSixteen Format.half (sign + Format.half.nearestScaled mantissa place)

/-- The number of an integer. -/
def ofInt (n : Int) : Single := if n < 0 then (ofNat n.natAbs).negate else ofNat n.natAbs

end Single

end PromptLoop
