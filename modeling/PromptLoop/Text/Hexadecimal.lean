/-!
# Hexadecimal digits

Bytes and character codes are written with hexadecimal digits, which are read in either letter case.
-/

namespace PromptLoop

namespace Hexadecimal

/-- The value of a hexadecimal digit in either letter case. -/
def value? (c : Char) : Option Nat :=
  if c.isDigit then some (c.toNat - 48)
  else if 'a' ≤ c ∧ c ≤ 'f' then some (c.toNat - 87)
  else if 'A' ≤ c ∧ c ≤ 'F' then some (c.toNat - 55)
  else none

/-- A digit in capitals. -/
def capital (n : Nat) : Char := if n < 10 then Char.ofNat (48 + n) else Char.ofNat (55 + n)

/-- The number that digits denote. -/
def nat? (digits : List Char) : Option Nat :=
  (digits.mapM value?).map fun values => values.foldl (fun n d => 16 * n + d) 0

/-- The character with a code. -/
def char? (code : Nat) : Option Char := if code.isValidChar then some (Char.ofNat code) else none

end Hexadecimal

end PromptLoop
