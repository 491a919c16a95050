import PromptLoop.Number.Decimal
import PromptLoop.Reader
import PromptLoop.Text.Hexadecimal

/-!
# JSON

A JSON text is one value with blanks around it. Numbers are kept as they are written. Of several entries
of an object under one key the last counts.

Arrays and objects are nested to a limited depth. Within strings, control characters have to be escaped,
and a character beyond the first 65536 that is escaped is given by two codes, none of which stands alone.
-/

namespace PromptLoop

/-- A JSON value. -/
inductive Json where
  /-- The null value. -/
  | null
  /-- A truth value. -/
  | boolean (b : Bool)
  /-- A number, as it is written. -/
  | number (literal : List Char)
  /-- A string. -/
  | string (text : List Char)
  /-- An array. -/
  | array (items : List Json)
  /-- An object, with the entries in the order of their appearance. -/
  | object (entries : List (List Char × Json))

namespace Json

/-! ### Looking at values -/

/-- The truth value of a boolean. -/
def boolean? : Json → Option Bool
  | boolean b => some b
  | _ => none

/-- The text of a string. -/
def string? : Json → Option String
  | string text => some (String.ofList text)
  | _ => none

/-- The value of a number that is written with digits only. -/
def nat? : Json → Option Nat
  | number literal => if literal.all Char.isDigit then some (natOfDigits literal) else none
  | _ => none

/-- The items of an array. -/
def items? : Json → Option (List Json)
  | array items => some items
  | _ => none

/-- The entries of an object. -/
def entries? : Json → Option (List (String × Json))
  | object entries => some (entries.map fun (k, v) => (String.ofList k, v))
  | _ => none

/-- The value of an entry of an object. -/
def member? (value : Json) (key : String) : Option Json :=
  value.entries?.bind fun entries => entries.reverse.lookup key

/-! ### Reading -/

/-- How deep arrays and objects may be nested. -/
def depthLimit : Nat := 127

/-- Whether a character is blank. -/
def isBlank (c : Char) : Bool := c = ' ' || c = '\n' || c = '\t' || c = '\r'

/-- Drops blanks. -/
def skipBlanks (text : List Char) : List Char := text.dropWhile isBlank

/-- The character that a letter after a backslash stands for. -/
def escaped? : Char → Option Char
  | '"' => some '"'
  | '\\' => some '\\'
  | '/' => some '/'
  | 'b' => some '\x08'
  | 'f' => some '\x0c'
  | 'n' => some '\n'
  | 'r' => some '\r'
  | 't' => some '\t'
  | _ => none

/-- The character beyond the first 65536 that two codes stand for together. -/
def pairedChar? (high low : Nat) : Option Char :=
  if 0xd800 ≤ high ∧ high ≤ 0xdbff ∧ 0xdc00 ≤ low ∧ low ≤ 0xdfff then
    Hexadecimal.char? (0x10000 + (high - 0xd800) * 0x400 + (low - 0xdc00))
  else none

/-- Puts a character in front of what a reader has read. -/
def consChar (c : Char) (result : Option (List Char × List Char)) : Option (List Char × List Char) :=
  result.map fun (text, rest) => (c :: text, rest)

/-- Reads the rest of a string after its opening quote. -/
def stringBody : Reader Char (List Char)
  | [] => none
  | '"' :: rest => some ([], rest)
  | '\\' :: 'u' :: a :: b :: c :: d :: rest =>
    match Hexadecimal.nat? [a, b, c, d], rest with
    | none, _ => none
    | some code, '\\' :: 'u' :: e :: f :: g :: h :: rest' =>
      match Hexadecimal.char? code with
      | some x => consChar x (stringBody ('\\' :: 'u' :: e :: f :: g :: h :: rest'))
      | none =>
        ((Hexadecimal.nat? [e, f, g, h]).bind (pairedChar? code)).bind fun x => consChar x (stringBody rest')
    | some code, rest => (Hexadecimal.char? code).bind fun x => consChar x (stringBody rest)
  | '\\' :: c :: rest => (escaped? c).bind fun x => consChar x (stringBody rest)
  | c :: rest => if 0x20 ≤ c.toNat && c != '\\' then consChar c (stringBody rest) else none

/-- Reads digits, at least one. -/
def digits : Reader Char (List Char) := fun text =>
  match text.takeWhile Char.isDigit with
  | [] => none
  | ds => some (ds, text.dropWhile Char.isDigit)

/-- Reads the whole part of a number: a zero by itself, or digits that do not start with one. -/
def wholePart : Reader Char (List Char)
  | '0' :: rest => some (['0'], rest)
  | text => digits text

/-- Reads the fraction of a number, if it has one. -/
def fraction : Reader Char (List Char)
  | '.' :: rest => (digits rest).map fun (ds, rest) => ('.' :: ds, rest)
  | rest => some ([], rest)

/-- Reads the exponent of a number after its mark. -/
def exponentDigits : Reader Char (List Char)
  | '-' :: rest => (digits rest).map fun (ds, rest) => ('-' :: ds, rest)
  | '+' :: rest => (digits rest).map fun (ds, rest) => ('+' :: ds, rest)
  | rest => digits rest

/-- Reads the exponent of a number, if it has one. -/
def exponent : Reader Char (List Char)
  | 'e' :: rest | 'E' :: rest => (exponentDigits rest).map fun (ds, rest) => ('e' :: ds, rest)
  | rest => some ([], rest)

/-- Reads a number. -/
def number? : Reader Char Json := fun text => do
  let (sign, rest) := match text with
    | '-' :: rest => (['-'], rest)
    | rest => ([], rest)
  let (whole, rest) ← wholePart rest
  let (places, rest) ← fraction rest
  let (power, rest) ← exponent rest
  return (number (sign ++ whole ++ places ++ power), rest)

mutual

/-- Reads a value. The first number bounds the length of arrays and objects, the second how deep they may
be nested from here on. -/
def value : Nat → Nat → Reader Char Json
  | 0, _, _ => none
  | bound + 1, depth, text =>
    match skipBlanks text with
    | 'n' :: 'u' :: 'l' :: 'l' :: rest => some (null, rest)
    | 't' :: 'r' :: 'u' :: 'e' :: rest => some (boolean true, rest)
    | 'f' :: 'a' :: 'l' :: 's' :: 'e' :: rest => some (boolean false, rest)
    | '"' :: rest => (stringBody rest).map fun (s, rest) => (string s, rest)
    | '[' :: rest =>
      if depth = 0 then none
      else
        match skipBlanks rest with
        | ']' :: rest => some (array [], rest)
        | rest => (items bound (depth - 1) rest).map fun (vs, rest) => (array vs, rest)
    | '{' :: rest =>
      if depth = 0 then none
      else
        match skipBlanks rest with
        | '}' :: rest => some (object [], rest)
        | rest => (members bound (depth - 1) rest).map fun (es, rest) => (object es, rest)
    | text => number? text

/-- Reads the items of an array, of which there is at least one. -/
def items : Nat → Nat → Reader Char (List Json)
  | 0, _, _ => none
  | bound + 1, depth, text => do
    let (first, rest) ← value bound depth text
    match skipBlanks rest with
    | ']' :: rest => return ([first], rest)
    | ',' :: rest =>
      let (more, rest) ← items bound depth rest
      return (first :: more, rest)
    | _ => none

/-- Reads the entries of an object, of which there is at least one. -/
def members : Nat → Nat → Reader Char (List (List Char × Json))
  | 0, _, _ => none
  | bound + 1, depth, text => do
    let rest ← Reader.expect? '"' (skipBlanks text)
    let (key, rest) ← stringBody rest
    let rest ← Reader.expect? ':' (skipBlanks rest)
    let (v, rest) ← value bound depth rest
    match skipBlanks rest with
    | '}' :: rest => return ([(key, v)], rest)
    | ',' :: rest =>
      let (more, rest) ← members bound depth rest
      return ((key, v) :: more, rest)
    | _ => none

end

/-- Reads a text. -/
def read? (text : String) : Option Json := do
  let chars := text.toList
  let (v, rest) ← value (chars.length + 1) depthLimit chars
  if (skipBlanks rest).isEmpty then return v else none

end Json

end PromptLoop
