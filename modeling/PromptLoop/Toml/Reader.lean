import PromptLoop.Text.Hexadecimal
import PromptLoop.Toml.Value

/-!
# Reading TOML

Strings, numbers and keys are read by recursion on the text. Values may hold values: arrays and inline
tables are nested to a limited depth, and a key has a limited number of parts. The length of the text
bounds how many items and lines there are.

Lines end with a newline, which a carriage return may precede. Control characters other than the tab
stand nowhere, not even in comments.
-/

namespace PromptLoop

namespace Toml

/-- How deep arrays and inline tables may be nested, and how many parts a key may have. -/
def depthLimit : Nat := 79

/-! ### Blanks and lines -/

/-- Whether a character is blank within a line. -/
def isSpace (c : Char) : Bool := c = ' ' || c = '\t'

/-- Whether a character may stand in a comment or a string. -/
def isText (c : Char) : Bool := c = '\t' || (0x20 ≤ c.toNat && c.toNat != 0x7f)

/-- Drops blanks. -/
def skipSpace (text : List Char) : List Char := text.dropWhile isSpace

/-- Drops a newline. -/
def newline? : List Char → Option (List Char)
  | '\n' :: rest => some rest
  | '\r' :: '\n' :: rest => some rest
  | _ => none

/-- Drops a comment, if there is one. -/
def skipComment : List Char → List Char
  | '#' :: rest => rest.dropWhile isText
  | rest => rest

/-- Drops blanks, a comment, and the end of the line or of the text. -/
def endLine? (text : List Char) : Option (List Char) :=
  match skipComment (skipSpace text) with
  | [] => some []
  | rest => newline? rest

/-- Drops blanks, comments and newlines. The number bounds how many lines are dropped. -/
def skipLines : Nat → List Char → List Char
  | 0, text => text
  | lines + 1, text =>
    match skipComment (skipSpace text) with
    | [] => []
    | rest =>
      match newline? rest with
      | some rest => skipLines lines rest
      | none => skipSpace text

/-! ### Strings -/

/-- The character with a hexadecimal code. -/
def charOfHex? (digits : List Char) : Option Char := (Hexadecimal.nat? digits).bind Hexadecimal.char?

/-- The character that a letter after a backslash stands for. -/
def escaped? : Char → Option Char
  | 'b' => some '\x08'
  | 't' => some '\t'
  | 'n' => some '\n'
  | 'f' => some '\x0c'
  | 'r' => some '\r'
  | '"' => some '"'
  | '\\' => some '\\'
  | _ => none

/-- Puts a character in front of what a reader has read. -/
def consChar (c : Char) (result : Option (List Char × List Char)) : Option (List Char × List Char) :=
  result.map fun (text, rest) => (c :: text, rest)

/-- Reads the rest of a basic string after its opening quote. -/
def basicBody : Reader Char (List Char)
  | [] => none
  | '"' :: rest => some ([], rest)
  | '\\' :: 'u' :: a :: b :: c :: d :: rest =>
    (charOfHex? [a, b, c, d]).bind fun x => consChar x (basicBody rest)
  | '\\' :: 'U' :: a :: b :: c :: d :: e :: f :: g :: h :: rest =>
    (charOfHex? [a, b, c, d, e, f, g, h]).bind fun x => consChar x (basicBody rest)
  | '\\' :: c :: rest => (escaped? c).bind fun x => consChar x (basicBody rest)
  | c :: rest => if isText c && c != '\\' then consChar c (basicBody rest) else none

/-- Reads the rest of a literal string after its opening quote. -/
def literalBody : Reader Char (List Char)
  | [] => none
  | '\'' :: rest => some ([], rest)
  | c :: rest => if isText c then consChar c (literalBody rest) else none

/-- Whether blanks and a newline follow. -/
def endsLine (text : List Char) : Bool := (newline? (skipSpace text)).isSome

/-- Reads the rest of a basic string of several lines after its opening quotes. After a backslash at the
end of a line, blanks and newlines are skipped. Up to two quotes may stand right before the closing
ones. -/
def basicLines (skipping : Bool) : Reader Char (List Char)
  | [] => none
  | '"' :: '"' :: '"' :: '"' :: '"' :: rest => some (['"', '"'], rest)
  | '"' :: '"' :: '"' :: '"' :: rest => some (['"'], rest)
  | '"' :: '"' :: '"' :: rest => some ([], rest)
  | '\r' :: '\n' :: rest =>
    if skipping then basicLines true rest else consChar '\n' (basicLines false rest)
  | '\n' :: rest =>
    if skipping then basicLines true rest else consChar '\n' (basicLines false rest)
  | '\\' :: 'u' :: a :: b :: c :: d :: rest =>
    (charOfHex? [a, b, c, d]).bind fun x => consChar x (basicLines false rest)
  | '\\' :: 'U' :: a :: b :: c :: d :: e :: f :: g :: h :: rest =>
    (charOfHex? [a, b, c, d, e, f, g, h]).bind fun x => consChar x (basicLines false rest)
  | '\\' :: c :: rest =>
    if endsLine (c :: rest) then basicLines true (c :: rest)
    else (escaped? c).bind fun x => consChar x (basicLines false rest)
  | c :: rest =>
    if skipping && isSpace c then basicLines true rest
    else if isText c && c != '\\' then consChar c (basicLines false rest)
    else none

/-- Reads the rest of a literal string of several lines after its opening quotes. -/
def literalLines : Reader Char (List Char)
  | [] => none
  | '\'' :: '\'' :: '\'' :: '\'' :: '\'' :: rest => some (['\'', '\''], rest)
  | '\'' :: '\'' :: '\'' :: '\'' :: rest => some (['\''], rest)
  | '\'' :: '\'' :: '\'' :: rest => some ([], rest)
  | '\r' :: '\n' :: rest => consChar '\n' (literalLines rest)
  | '\n' :: rest => consChar '\n' (literalLines rest)
  | c :: rest => if isText c then consChar c (literalLines rest) else none

/-- Drops a newline right after the opening quotes of a string of several lines. -/
def skipFirstNewline (text : List Char) : List Char := (newline? text).getD text

/-- Reads a string of any kind. -/
def anyString : Reader Char (List Char)
  | '"' :: '"' :: '"' :: rest => basicLines false (skipFirstNewline rest)
  | '"' :: rest => basicBody rest
  | '\'' :: '\'' :: '\'' :: rest => literalLines (skipFirstNewline rest)
  | '\'' :: rest => literalBody rest
  | _ => none

/-! ### Keys -/

/-- Whether a character may stand in a bare key. -/
def isKeyChar (c : Char) : Bool := c.isAlphanum || c = '_' || c = '-'

/-- Reads a key without dots. -/
def simpleKey : Reader Char Key
  | '"' :: rest => basicBody rest
  | '\'' :: rest => literalBody rest
  | text =>
    match text.takeWhile isKeyChar with
    | [] => none
    | key => some (key, text.dropWhile isKeyChar)

/-- Reads a key, with blanks around it and its dots. The number bounds how many parts it has. -/
def key : Nat → Reader Char (List Key)
  | 0, _ => none
  | parts + 1, text => do
    let (first, rest) ← simpleKey (skipSpace text)
    match skipSpace rest with
    | '.' :: rest =>
      let (more, rest) ← key parts rest
      return (first :: more, rest)
    | rest => return ([first], rest)

/-! ### Numbers -/

/-- Reads digits of a base, which single underscores may separate, after a first digit. -/
def moreDigits (isDigit : Char → Bool) : Reader Char (List Char)
  | '_' :: c :: rest => if isDigit c then consChar c (moreDigits isDigit rest) else none
  | ['_'] => none
  | c :: rest => if isDigit c then consChar c (moreDigits isDigit rest) else some ([], c :: rest)
  | [] => some ([], [])

/-- Reads digits of a base, at least one. -/
def digits (isDigit : Char → Bool) : Reader Char (List Char)
  | c :: rest => if isDigit c then consChar c (moreDigits isDigit rest) else none
  | [] => none

/-- Reads the whole part of a decimal number: a zero by itself, or digits that do not start with one. -/
def wholePart : Reader Char (List Char)
  | '0' :: rest => some (['0'], rest)
  | text => digits Char.isDigit text

/-- The largest whole number. -/
def largestInteger : Int := 0x7fffffffffffffff

/-- A whole number, if it is in range. -/
def integer? (n : Int) : Option Toml :=
  if -largestInteger - 1 ≤ n ∧ n ≤ largestInteger then some (.integer n) else none

/-- Whether a character is a hexadecimal digit. -/
def isHexDigit (c : Char) : Bool := (Hexadecimal.value? c).isSome

/-- Whether a character is an octal digit. -/
def isOctalDigit (c : Char) : Bool := '0' ≤ c && c ≤ '7'

/-- Whether a character is a binary digit. -/
def isBinaryDigit (c : Char) : Bool := c = '0' || c = '1'

/-- The value of a digit in any base. -/
def anyDigitValue (c : Char) : Nat :=
  if c.isDigit then c.toNat - 48 else if c.isLower then c.toNat - 87 else c.toNat - 55

/-- Reads a whole number in a base after the mark of the base. -/
def inBase (base : Nat) (isDigit : Char → Bool) : Reader Char Toml := fun text => do
  let (ds, rest) ← digits isDigit text
  let value ← integer? (ds.foldl (fun n c => base * n + anyDigitValue c) 0 : Nat)
  return (value, rest)

/-- The bits of a double precision number. -/
def floatBits (negative : Bool) (code : Nat) : Toml :=
  .float (UInt64.ofNat (code + if negative then 1 <<< 63 else 0))

/-- The code of the quiet NaN in double precision. -/
def nanCode : Nat := Format.double.infinity + (1 <<< 51)

/-- Reads the exponent of a number after its mark. -/
def exponent : Reader Char Int := fun text =>
  let (negative, rest) := match text with
    | '-' :: rest => (true, rest)
    | '+' :: rest => (false, rest)
    | rest => (false, rest)
  (digits Char.isDigit rest).map fun (ds, rest) =>
    (if negative then -(natOfDigits ds : Int) else natOfDigits ds, rest)

/-- Reads the exponent of a number, if it has one. -/
def exponent? : Reader Char Int
  | 'e' :: rest => exponent rest
  | 'E' :: rest => exponent rest
  | rest => some (0, rest)

/-- A number with a fraction or an exponent. A positive one that is too large is refused. -/
def float? (negative : Bool) (d : Decimal) : Option Toml :=
  let code := d.code Format.double
  if !negative && code = Format.double.infinity then none else some (floatBits negative code)

/-- Reads a decimal number without its sign. -/
def decimalNumber (negative : Bool) : Reader Char Toml := fun text => do
  let (whole, rest) ← wholePart text
  match rest with
  | '.' :: rest =>
    let (fraction, rest) ← digits Char.isDigit rest
    let (e, rest) ← exponent? rest
    let value ← float? negative ⟨natOfDigits (whole ++ fraction), e - fraction.length⟩
    return (value, rest)
  | 'e' :: rest | 'E' :: rest =>
    let (e, rest) ← exponent rest
    let value ← float? negative ⟨natOfDigits whole, e⟩
    return (value, rest)
  | rest =>
    let n : Int := natOfDigits whole
    let value ← integer? (if negative then -n else n)
    return (value, rest)

/-- Reads a number after its sign. -/
def unsignedNumber (negative : Bool) : Reader Char Toml
  | 'i' :: 'n' :: 'f' :: rest => some (floatBits negative Format.double.infinity, rest)
  | 'n' :: 'a' :: 'n' :: rest => some (floatBits negative nanCode, rest)
  | text => decimalNumber negative text

/-- Reads a number. -/
def number : Reader Char Toml
  | '0' :: 'x' :: rest => inBase 16 isHexDigit rest
  | '0' :: 'o' :: rest => inBase 8 isOctalDigit rest
  | '0' :: 'b' :: rest => inBase 2 isBinaryDigit rest
  | '-' :: rest => unsignedNumber true rest
  | '+' :: rest => unsignedNumber false rest
  | text => unsignedNumber false text

/-! ### Values -/

mutual

/-- Reads a value. The first number bounds the length of arrays and inline tables, the second how deep
they may be nested from here on. -/
def value : Nat → Nat → Reader Char Toml
  | 0, _, _ => none
  | bound + 1, depth, text =>
    match text with
    | '"' :: _ => (anyString text).map fun (s, rest) => (.string s, rest)
    | '\'' :: _ => (anyString text).map fun (s, rest) => (.string s, rest)
    | 't' :: 'r' :: 'u' :: 'e' :: rest => some (.boolean true, rest)
    | 'f' :: 'a' :: 'l' :: 's' :: 'e' :: rest => some (.boolean false, rest)
    | '[' :: rest =>
      if depth = 0 then none
      else (items bound (depth - 1) rest).map fun (vs, rest) => (.array vs, rest)
    | '{' :: rest => if depth = 0 then none else inlineTable bound (depth - 1) rest
    | _ =>
      match Moment.read? text with
      | some (m, rest) => some (.moment m, rest)
      | none => number text

/-- Reads the items of an array after its opening bracket or a comma. -/
def items : Nat → Nat → Reader Char (List Toml)
  | 0, _, _ => none
  | bound + 1, depth, text =>
    match skipLines (bound + 1) text with
    | ']' :: rest => some ([], rest)
    | text => do
      let (first, rest) ← value bound depth text
      match skipLines (bound + 1) rest with
      | ']' :: rest => return ([first], rest)
      | ',' :: rest =>
        let (more, rest) ← items bound depth rest
        return (first :: more, rest)
      | _ => none

/-- Reads the assignments of an inline table, of which there is at least one. -/
def assignments : Nat → Nat → Reader Char (List (List Key × Toml))
  | 0, _, _ => none
  | bound + 1, depth, text => do
    let (path, v, rest) ← assignment bound depth text
    match skipSpace rest with
    | ',' :: rest =>
      let (more, rest) ← assignments bound depth rest
      return ((path, v) :: more, rest)
    | '}' :: rest => return ([(path, v)], rest)
    | _ => none

/-- Reads an inline table after its opening brace. -/
def inlineTable : Nat → Nat → Reader Char Toml
  | 0, _, _ => none
  | bound + 1, depth, text =>
    match skipSpace text with
    | '}' :: rest => some (.table .inline [], rest)
    | text => do
      let (given, rest) ← assignments bound depth text
      let entries ← inlineEntries given
      return (.table .inline entries, rest)

/-- Reads a key, an equals sign and a value. -/
def assignment : Nat → Nat → List Char → Option (List Key × Toml × List Char)
  | 0, _, _ => none
  | bound + 1, depth, text => do
    let (path, rest) ← key depthLimit text
    match rest with
    | '=' :: rest =>
      let (v, rest) ← value bound depth (skipSpace rest)
      return (path, v, rest)
    | _ => none

end

/-! ### Documents -/

/-- Reads a header after its opening bracket. -/
def header : Reader Char (List Key) := fun text => do
  let (path, rest) ← key depthLimit text
  match rest with
  | ']' :: rest => return (path, rest)
  | _ => none

/-- Reads the statements of a document. The number bounds how many lines it has. -/
def statements : Nat → List Char → Option (List TomlStatement)
  | 0, _ => none
  | bound + 1, text =>
    match skipLines (bound + 1) text with
    | [] => some []
    | '[' :: rest => do
      let (path, rest) ← header rest
      let rest ← endLine? rest
      let more ← statements bound rest
      return .header path :: more
    | text => do
      let (path, v, rest) ← assignment (text.length + 1) depthLimit text
      let rest ← endLine? rest
      let more ← statements bound rest
      return .assignment path v :: more

/-- The text without a byte order mark at its beginning. -/
def withoutMark : List Char → List Char
  | '\uFEFF' :: rest => rest
  | text => text

/-- Reads a document. -/
def read? (text : String) : Option Entries :=
  let text := withoutMark text.toList
  (statements (text.length + 1) text).bind ofStatements

end Toml

end PromptLoop
