import PromptLoop.Text.Category

/-!
# Quoted texts

Between quotes every character can be seen: those that cannot be printed or would join with the character
before them are written as their codes.
-/

namespace PromptLoop

namespace Quoted

/-- The code of a character in hexadecimal digits, as it is written between quotes. -/
def code (c : Char) : String := "\\u\x7b" ++ String.ofList (Nat.toDigits 16 c.toNat) ++ "\x7d"

/-- A character between quotes. -/
def char (c : Char) : String :=
  if c = '"' then "\\\""
  else if c = '\\' then "\\\\"
  else if c = '\n' then "\\n"
  else if c = '\r' then "\\r"
  else if c = '\t' then "\\t"
  else if c.toNat = 0 then "\\0"
  else if isExtending c || !isPrintable c then code c
  else String.singleton c

/-- A text in quotes. -/
def text (s : String) : String := "\"" ++ String.join (s.toList.map char) ++ "\""

end Quoted

end PromptLoop
