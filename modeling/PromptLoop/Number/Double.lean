import PromptLoop.Number.Decimal

/-!
# Numerals in double precision

A numeral is read into a double in two roundings: its digits, as many as a word of 64 bits holds, make a
whole number, which is then multiplied or divided by a power of ten. A numeral beyond the largest double is
none.
-/

namespace PromptLoop

namespace Double

/-- The numbers that digits are gathered to are below this. -/
def capacity : Nat := UInt64.size

/-- Reads digits onto a number as long as it stays below the capacity; the digits after these are left. -/
def gather : Nat → List Char → Nat × List Char
  | n, [] => (n, [])
  | n, c :: rest =>
    if 10 * n + digitValue c < capacity then gather (10 * n + digitValue c) rest else (n, c :: rest)

/-- The largest power of ten among the doubles. -/
def largestPower : Nat := 308

/-- A power of ten. -/
def power (k : Nat) : Float := Float.ofScientific 1 false k

/-- A whole number multiplied by a power of ten. -/
def scaleUp? (n k : Nat) : Option Float :=
  if n = 0 then some 0
  else if largestPower < k then none
  else
    let scaled := Float.ofNat n * power k
    if scaled.isInf then none else some scaled

/-- A whole number divided by a power of ten. -/
def scaleDown (n k : Nat) : Float :=
  if k ≤ largestPower then Float.ofNat n / power k
  else if k ≤ 2 * largestPower then Float.ofNat n / power largestPower / power (k - largestPower)
  else 0

/-- The exponent that the end of a numeral gives. -/
def exponentOf : List Char → Int
  | 'e' :: '-' :: digits => -(natOfDigits digits : Int)
  | 'e' :: digits => natOfDigits digits
  | _ => 0

/-- The value of a numeral without a sign: digits, a point and digits, and an exponent after `e`. -/
def ofUnsigned? (text : List Char) : Option Float :=
  let whole := text.takeWhile Char.isDigit
  let rest := text.dropWhile Char.isDigit
  let (places, rest) := match rest with
    | '.' :: rest => (rest.takeWhile Char.isDigit, rest.dropWhile Char.isDigit)
    | rest => ([], rest)
  let (n, beyond) := gather 0 whole
  let (n, unread) := gather n places
  let exponent : Int := exponentOf rest + beyond.length - (places.length - unread.length : Nat)
  if 0 ≤ exponent then scaleUp? n exponent.toNat else some (scaleDown n (-exponent).toNat)

/-- The value of a numeral. -/
def ofNumeral? : List Char → Option Float
  | '-' :: text => (ofUnsigned? text).map fun x => -x
  | text => ofUnsigned? text

end Double

end PromptLoop
