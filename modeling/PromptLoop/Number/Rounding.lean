/-!
# Rounding to a binary format

A binary format keeps a sign, a biased exponent and a fraction. The non-negative values of a format
are numbered in order by their *codes*, the bit patterns without the sign: zero is `0`, the least
positive value `1`, and infinity the first code whose exponent is all ones.

`Format.nearest` sends a ratio of natural numbers to the code of the nearest value, a tie going to the
even code. Reading a decimal, narrowing a wider number and converting an integer are all instances of
it, so each of them rounds exactly once.
-/

namespace PromptLoop

/-- The shape of a binary floating-point format. -/
structure Format where
  /-- The number of stored fraction bits. -/
  fractionBits : Nat
  /-- The number of exponent bits. -/
  exponentBits : Nat
  deriving DecidableEq, Repr

namespace Format

/-- The format of single precision numbers, 32 bits with the sign. -/
def single : Format := ⟨23, 8⟩

/-- The format of double precision numbers, 64 bits with the sign. -/
def double : Format := ⟨52, 11⟩

/-- The code of infinity: every exponent bit set and an empty fraction. -/
def infinity (f : Format) : Nat := ((1 <<< f.exponentBits) - 1) <<< f.fractionBits

/-- The place value, as a power of two, of the last fraction bit of the least values: the least
positive value is `2 ^ f.leastPlace`. -/
def leastPlace (f : Format) : Int := (2 : Int) - (1 <<< (f.exponentBits - 1) : Nat) - f.fractionBits

/-- The whole number nearest to `num / den`, a half going to the even neighbour. -/
def roundRatio (num den : Nat) : Nat :=
  let quotient := num / den
  let twice := 2 * (num % den)
  if twice < den then quotient
  else if den < twice then quotient + 1
  else quotient + quotient % 2

/-- The power of two at or just below `num / den`, for positive `num` and `den`. -/
def floorLog (num den : Nat) : Int :=
  let guess : Int := (num.log2 : Int) - den.log2
  let below := if 0 ≤ guess then num < den <<< guess.toNat else num <<< (-guess).toNat < den
  if below then guess - 1 else guess

/-- The ratio `num / den` counted in units of `2 ^ place`, rounded to a whole number. -/
def unitsAt (num den : Nat) (place : Int) : Nat :=
  if 0 ≤ place then roundRatio num (den <<< place.toNat)
  else roundRatio (num <<< (-place).toNat) den

/-- The code of the value of the format that is nearest to `num / den`. Codes count in units of the
last place, so a mantissa that rounds up to the next power of two lands on the next exponent by
itself, and everything past the largest finite value is infinity. -/
def nearest (f : Format) (num den : Nat) : Nat :=
  if num = 0 then 0
  else
    let place := max f.leastPlace (floorLog num den - f.fractionBits)
    min f.infinity (((place - f.leastPlace).toNat <<< f.fractionBits) + unitsAt num den place)

/-- The code of the value nearest to `mantissa * 2 ^ place`. -/
def nearestScaled (f : Format) (mantissa : Nat) (place : Int) : Nat :=
  if 0 ≤ place then f.nearest (mantissa <<< place.toNat) 1
  else f.nearest mantissa (1 <<< (-place).toNat)

/-- The mantissa and the place of a finite code: the value is `mantissa * 2 ^ place`. -/
def parts (f : Format) (code : Nat) : Nat × Int :=
  let exponent := code >>> f.fractionBits
  let fraction := code % (1 <<< f.fractionBits)
  if exponent = 0 then (fraction, f.leastPlace)
  else ((1 <<< f.fractionBits) + fraction, f.leastPlace + (exponent - 1 : Nat))

end Format

end PromptLoop
