import PromptLoop.Reader

/-!
# Bytes in base 64

Three bytes are written as four digits of six bits each: capitals, small letters, decimal digits, the plus
sign and the slash. One or two bytes at the end take two or three digits, whose surplus bits are zero; marks
may follow that fill the last four places.
-/

namespace PromptLoop

namespace Base64

/-- The value of a digit. -/
def value? (c : Char) : Option Nat :=
  if c.isUpper then some (c.toNat - 65)
  else if c.isLower then some (c.toNat - 71)
  else if c.isDigit then some (c.toNat + 4)
  else if c = '+' then some 62
  else if c = '/' then some 63
  else none

/-- The bytes that digits denote, after those that have been found, the latest first. -/
def bytesAfter? : List UInt8 → List Nat → Option (List UInt8)
  | done, [] => some done.reverse
  | _, [_] => none
  | done, [a, b] => if b % 16 = 0 then some (UInt8.ofNat (4 * a + b / 16) :: done).reverse else none
  | done, [a, b, c] =>
    if c % 4 = 0 then
      some (UInt8.ofNat (b % 16 * 16 + c / 4) :: UInt8.ofNat (4 * a + b / 16) :: done).reverse
    else none
  | done, a :: b :: c :: d :: rest =>
    bytesAfter? (UInt8.ofNat (c % 4 * 64 + d) :: UInt8.ofNat (b % 16 * 16 + c / 4) ::
      UInt8.ofNat (4 * a + b / 16) :: done) rest

/-- The mark that fills places. -/
def filler : Char := '='

/-- The bytes of a text. The marks fill no more than the last four places. -/
def read? (text : List Char) : Option (List UInt8) := do
  let digits := text.takeWhile (· != filler)
  let fillers := text.drop digits.length
  if fillers.all (· = filler) ∧ (fillers = [] ∨ (2 ≤ digits.length % 4 ∧ digits.length % 4 + fillers.length ≤ 4)) then
    bytesAfter? [] (← digits.mapM value?)
  else none

end Base64

end PromptLoop
