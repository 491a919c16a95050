import PromptLoop.Number.Single

/-!
# Decimal numerals

A `Decimal` is a whole number of units of a power of ten. `Decimal.code` rounds it to a binary format
in one step, a tie going to the even neighbour, however many digits it has.

`Single.ofText?` reads a number as command lines and settings give it: an optional sign, then digits
with an optional point, at least one digit in all, and an optional exponent; or one of the words `inf`,
`infinity` and `nan` in any letter case. Nothing else is a number, blanks included.
-/

namespace PromptLoop

/-- The value of a digit. -/
def digitValue (c : Char) : Nat := c.toNat - '0'.toNat

/-- Reads digits onto a number that has been read so far. -/
def appendDigits (n : Nat) (digits : List Char) : Nat :=
  digits.foldl (fun n c => 10 * n + digitValue c) n

/-- The number that a list of digits denotes. -/
def natOfDigits (digits : List Char) : Nat := appendDigits 0 digits

/-- A non-negative decimal number, `mantissa * 10 ^ exponent`. -/
structure Decimal where
  /-- The digits, read as a whole number. -/
  mantissa : Nat
  /-- The power of ten. -/
  exponent : Int
  deriving DecidableEq, Repr

namespace Decimal

/-- Beyond this power of ten every number of the binary formats here is out of reach. -/
def reach : Int := 400

/-- The number of digits of a mantissa, at least one. -/
def width (n : Nat) : Nat := (Nat.toDigits 10 n).length

/-- The code of the nearest value of a binary format. Numbers out of reach are settled without
writing down the power of ten. -/
def code (f : Format) (d : Decimal) : Nat :=
  let magnitude := d.exponent + width d.mantissa
  if d.mantissa = 0 then 0
  else if reach < magnitude then f.infinity
  else if magnitude < -reach then 0
  else if 0 ≤ d.exponent then f.nearest (d.mantissa * Nat.pow 10 d.exponent.toNat) 1
  else f.nearest d.mantissa (Nat.pow 10 (-d.exponent).toNat)

/-- Reads the exponent part of a numeral: nothing, or `e`, an optional sign and digits. -/
def exponentOfText? : List Char → Option Int
  | [] => some 0
  | mark :: rest =>
    if mark = 'e' ∨ mark = 'E' then
      let (negative, digits) := match rest with
        | '-' :: r => (true, r)
        | '+' :: r => (false, r)
        | r => (false, r)
      if digits.isEmpty ∨ ¬ digits.all Char.isDigit then none
      else some (if negative then -(natOfDigits digits : Int) else natOfDigits digits)
    else none

/-- Reads a numeral without a sign. -/
def ofText? (text : List Char) : Option Decimal :=
  let whole := text.takeWhile Char.isDigit
  let rest := text.dropWhile Char.isDigit
  let (fraction, tail) := match rest with
    | '.' :: r => (r.takeWhile Char.isDigit, r.dropWhile Char.isDigit)
    | r => ([], r)
  if whole.isEmpty && fraction.isEmpty then none
  else (exponentOfText? tail).map fun e =>
    ⟨natOfDigits (whole ++ fraction), e - fraction.length⟩

end Decimal

namespace Single

/-- The nearest number to a signed decimal. -/
def ofDecimal (negative : Bool) (d : Decimal) : Single := ofCode negative (d.code Format.single)

/-- The code that a word for a number without digits stands for. -/
def codeOfWord? (word : List Char) : Option Nat :=
  match String.ofList (word.map Char.toLower) with
  | "inf" | "infinity" => some infinity.code
  | "nan" => some nan.code
  | _ => none

/-- Reads a number. -/
def ofText? (text : String) : Option Single :=
  let (negative, body) := match text.toList with
    | '-' :: r => (true, r)
    | '+' :: r => (false, r)
    | r => (false, r)
  match Decimal.ofText? body with
  | some d => some (ofDecimal negative d)
  | none => (codeOfWord? body).map (ofCode negative)

end Single

end PromptLoop
