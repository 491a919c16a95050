import PromptLoop.Number.Decimal

/-!
# The shortest text of a number

Every decimal in a small interval around a binary number reads back as that number. `Format.shortest`
finds the one with the fewest digits, and of several the nearest to the number, by trying the number's
two neighbours on ever finer decimal grids. `Single.toText` writes it out in full, never with an exponent;
`Format.describe` turns to an exponent where the number is very large or very small.
-/

namespace PromptLoop

/-- The decimals that read back as one number: those between two ratios over a common denominator. -/
structure ReadingRange where
  /-- The numerator of the lower end. -/
  low : Nat
  /-- The numerator of the number itself. -/
  value : Nat
  /-- The numerator of the upper end. -/
  high : Nat
  /-- The common denominator. -/
  den : Nat
  /-- Whether the two ends read back as the number too. -/
  closed : Bool
  deriving DecidableEq, Repr

namespace ReadingRange

/-- The range of the positive finite number with the given code. The ends lie halfway to the two
neighbours, which at a power of two are not equally far away; a tie reads back as the even code. -/
def ofCode (f : Format) (code : Nat) : ReadingRange :=
  let (mantissa, place) := f.parts code
  let below := if mantissa = 1 <<< f.fractionBits ∧ f.leastPlace < place then 1 else 2
  let units := 4 * mantissa
  let scale := if 0 ≤ place then 1 <<< place.toNat else 1
  let den := if 0 ≤ place then 4 else 4 <<< (-place).toNat
  ⟨(units - below) * scale, units * scale, (units + 2) * scale, den, mantissa % 2 = 0⟩

/-- The same range in units of a power of ten. -/
def inUnits (r : ReadingRange) (exponent : Int) : ReadingRange :=
  if 0 ≤ exponent then { r with den := r.den * Nat.pow 10 exponent.toNat }
  else
    let scale := Nat.pow 10 (-exponent).toNat
    { r with low := r.low * scale, value := r.value * scale, high := r.high * scale }

/-- Whether a whole number lies in the range. -/
def holds (r : ReadingRange) (n : Nat) : Bool :=
  if r.closed then r.low ≤ n * r.den && n * r.den ≤ r.high
  else r.low < n * r.den && n * r.den < r.high

/-- The whole number in the range that is nearest to the value, if one of the value's two whole
neighbours is in the range; the upper one on a tie. -/
def nearest? (r : ReadingRange) : Option Nat :=
  let down := r.value / r.den
  let up := down + 1
  if r.holds down then
    if r.holds up ∧ r.den ≤ 2 * (r.value % r.den) then some up else some down
  else if r.holds up then some up
  else none

/-- The finest grid whose coarser neighbours need not be tried: the power of ten above the value. -/
def leadingExponent (r : ReadingRange) : Int :=
  let whole := r.value / r.den
  if whole ≠ 0 then Decimal.width whole
  else 1 - (Decimal.width (r.den / r.value) : Int)

/-- Tries grids from `10 ^ exponent` downward. -/
def search (r : ReadingRange) : Nat → Int → Decimal
  | 0, exponent => ⟨(r.inUnits exponent).value / (r.inUnits exponent).den, exponent⟩
  | tries + 1, exponent =>
    match (r.inUnits exponent).nearest? with
    | some n => ⟨n, exponent⟩
    | none => r.search tries (exponent - 1)

end ReadingRange

namespace Format

/-- The number of digits that tell all numbers of a format apart. -/
def digitsNeeded (f : Format) : Nat := 2 + (f.fractionBits + 1) * 30103 / 100000

/-- The number of grids that are tried: the search starts no more than two places above the first
digit. -/
def gridLimit (f : Format) : Nat := f.digitsNeeded + 3

/-- The shortest decimal that reads back as the finite number with the given positive code. -/
def shortest (f : Format) (code : Nat) : Decimal :=
  let range := ReadingRange.ofCode f code
  range.search f.gridLimit range.leadingExponent

end Format

namespace Decimal

/-- Writes a decimal in full, with a point only where there is a fraction. -/
def positional (d : Decimal) : List Char :=
  let digits := Nat.toDigits 10 d.mantissa
  if 0 ≤ d.exponent then
    if d.mantissa = 0 then ['0'] else digits ++ List.replicate d.exponent.toNat '0'
  else
    let places := (-d.exponent).toNat
    let padded := List.replicate (places + 1 - digits.length) '0' ++ digits
    padded.take (padded.length - places) ++ '.' :: padded.drop (padded.length - places)

/-- The power of ten of the first digit. -/
def leadingPower (d : Decimal) : Int := d.exponent + (width d.mantissa - 1 : Nat)

/-- Writes a decimal as a number with one digit before its point and a power of ten. -/
def scientific (d : Decimal) : List Char :=
  match Nat.toDigits 10 d.mantissa with
  | [] => []
  | first :: rest =>
    let point := if rest.isEmpty then [] else ['.']
    first :: point ++ rest ++ 'e' :: (toString d.leadingPower).toList

end Decimal

namespace Format

/-- The text of the number with a sign and a code: its shortest decimal in full with at least one digit
after the point, or with a power of ten if it is below `10 ^ -4` or from `10 ^ 16` on. -/
def describe (f : Format) (negative : Bool) (code : Nat) : String :=
  let sign := if negative then ['-'] else []
  let d := f.shortest code
  if f.infinity < code then "NaN"
  else if code = f.infinity then String.ofList (sign ++ "inf".toList)
  else if code = 0 then String.ofList (sign ++ "0.0".toList)
  else if d.leadingPower < -4 || 16 ≤ d.leadingPower then String.ofList (sign ++ d.scientific)
  else if 0 ≤ d.exponent then String.ofList (sign ++ d.positional ++ ".0".toList)
  else String.ofList (sign ++ d.positional)

end Format

namespace Single

/-- The text of a number: its shortest decimal in full, `inf` or `NaN`. -/
def toText (x : Single) : String :=
  let sign := if x.isNegative then ['-'] else []
  if x.isNaN then "NaN"
  else if x.isInfinite then String.ofList (sign ++ "inf".toList)
  else if x.code = 0 then String.ofList (sign ++ ['0'])
  else String.ofList (sign ++ (Format.single.shortest x.code).positional)

end Single

end PromptLoop
