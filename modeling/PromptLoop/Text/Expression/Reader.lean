import PromptLoop.Reader
import PromptLoop.Text.Expression
import PromptLoop.Text.Hexadecimal

/-!
# Reading regular expressions

The notation has characters that stand for themselves, sets in square brackets, groups in round ones,
choices, repetitions, conditions on what comes before or after, and escapes with a backslash. A dot stands
for any character but a newline. Lines have starts and ends, so `^` and `$` are edges of lines.

Groups are numbered from left to right; if any of them has a name, the others are not numbered. Which
brackets open a numbered group is found out first, so that the text of a group can be asked for wherever its
number or its name is known.

Expressions that refer to themselves and conditions on groups are not covered.
-/

namespace PromptLoop

namespace Expression

/-! ### Named sets -/

/-- The decimal digits. -/
def decimalDigits : CharSet := .category ⟨.number, 'd'⟩

/-- The hexadecimal digits. -/
def hexDigits : CharSet := .anyOf [.range '0' '9', .range 'a' 'f', .range 'A' 'F']

/-- The control characters. -/
def controls : CharSet := .category ⟨.other, 'c'⟩

/-- The characters that leave a trace when they are printed. -/
def visible : CharSet :=
  .not (.anyOf [.blank, controls, .category ⟨.other, 'n'⟩, .category ⟨.other, 's'⟩])

/-- The characters that are part of words, without those that join or part letters. -/
def wordCharacters : CharSet := .both .wordPart (.not (.range (Char.ofNat 0x200c) (Char.ofNat 0x200d)))

/-- The letters, the numbers that are written with letters and the marks. -/
def alphabetic : CharSet :=
  .both wordCharacters (.not (.either decimalDigits (.category ⟨.punctuation, 'c'⟩)))

/-- The characters with codes in some ranges. -/
def withCodes (ranges : List (Nat × Nat)) : CharSet :=
  .anyOf (ranges.map fun (first, last) => .range (Char.ofNat first) (Char.ofNat last))

/-- The capitals, letters in circles and squares and numbers included. -/
def capitals : CharSet :=
  .either (.category ⟨.letter, 'u'⟩)
    (withCodes [(0x2160, 0x216f), (0x24b6, 0x24cf), (0x1f130, 0x1f149), (0x1f150, 0x1f169), (0x1f170, 0x1f189)])

/-- The small letters, those that modify others and numbers included. -/
def smallLetters : CharSet :=
  .either (.category ⟨.letter, 'l'⟩)
    (withCodes [(0xaa, 0xaa), (0xba, 0xba), (0x2b0, 0x2b8), (0x2c0, 0x2c1), (0x2e0, 0x2e4), (0x345, 0x345),
      (0x37a, 0x37a), (0x10fc, 0x10fc), (0x1d2c, 0x1d6a), (0x1d78, 0x1d78), (0x1d9b, 0x1dbf), (0x2071, 0x2071),
      (0x207f, 0x207f), (0x2090, 0x209c), (0x2170, 0x217f), (0x24d0, 0x24e9), (0x2c7c, 0x2c7d), (0xa69c, 0xa69d),
      (0xa770, 0xa770), (0xa7f2, 0xa7f4), (0xa7f8, 0xa7f9), (0xab5c, 0xab5f), (0xab69, 0xab69),
      (0x10780, 0x10780), (0x10783, 0x10785), (0x10787, 0x107b0), (0x107b2, 0x107ba), (0x1e030, 0x1e06d)])

/-- The punctuation marks and the symbols of ASCII. -/
def marks : CharSet :=
  .anyOf [.group .punctuation, .one '$', .one '+', .range '<' '>', .one '^', .one (Char.ofNat 0x60), .one '|',
    .one '~']

/-- The letters that come in cases. -/
def cased : CharSet :=
  .anyOf [.category ⟨.letter, 'u'⟩, .category ⟨.letter, 'l'⟩, .category ⟨.letter, 't'⟩]

/-- The sets with a name of their own. -/
def namedSets : List (String × CharSet) :=
  [("alpha", alphabetic), ("alphabetic", alphabetic), ("alnum", .either alphabetic decimalDigits),
    ("digit", decimalDigits), ("upper", capitals), ("uppercase", capitals), ("lower", smallLetters),
    ("lowercase", smallLetters), ("space", .blank), ("whitespace", .blank), ("punct", marks),
    ("cntrl", controls), ("xdigit", hexDigits), ("word", wordCharacters), ("graph", visible),
    ("print", .either visible (.category ⟨.separator, 's'⟩)),
    ("blank", .either (.one '\t') (.category ⟨.separator, 's'⟩)), ("ascii", .range '\x00' '\x7f'),
    ("any", .range '\x00' (Char.ofNat 0x10ffff)), ("letter", .group .letter), ("mark", .group .mark),
    ("number", .group .number), ("punctuation", .group .punctuation), ("symbol", .group .symbol),
    ("separator", .group .separator), ("other", .group .other), ("lc", cased), ("casedletter", cased)]

/-- The categories with their long names. -/
def categoryNames : List (String × String) :=
  [("Lu", "uppercaseletter"), ("Ll", "lowercaseletter"), ("Lt", "titlecaseletter"), ("Lm", "modifierletter"),
    ("Lo", "otherletter"), ("Mn", "nonspacingmark"), ("Mc", "spacingmark"), ("Me", "enclosingmark"),
    ("Nd", "decimalnumber"), ("Nl", "letternumber"), ("No", "othernumber"), ("Pc", "connectorpunctuation"),
    ("Pd", "dashpunctuation"), ("Ps", "openpunctuation"), ("Pe", "closepunctuation"),
    ("Pi", "initialpunctuation"), ("Pf", "finalpunctuation"), ("Po", "otherpunctuation"), ("Sm", "mathsymbol"),
    ("Sc", "currencysymbol"), ("Sk", "modifiersymbol"), ("So", "othersymbol"), ("Zs", "spaceseparator"),
    ("Zl", "lineseparator"), ("Zp", "paragraphseparator"), ("Cc", "control"), ("Cf", "format"),
    ("Cs", "surrogate"), ("Co", "privateuse"), ("Cn", "unassigned")]

/-- A name as names are compared: letter case, blanks and strokes do not count. -/
def plainName (name : List Char) : List Char :=
  (name.filter fun c => !(c = ' ' || c = '_' || c = '-')).map Char.toLower

/-- The set of a script with a name. -/
def scriptNamed? (name : List Char) : Option CharSet :=
  (Script.names.find? fun script => plainName script.toList = name).map .script

/-- The set of a category or of a group of categories with a name. -/
def categoryNamed? (name : List Char) : Option CharSet :=
  match name with
  | [g] => (Category.group? g.toUpper).map .group
  | _ =>
    (categoryNames.find? fun (short, long) => plainName short.toList = name || long.toList = name).bind
      fun (short, _) => (Category.ofName? short.toList).map .category

/-- The set with a name. -/
def setNamed? (name : List Char) : Option CharSet :=
  let plain := plainName name
  match namedSets.lookup (String.ofList plain), categoryNamed? plain with
  | some set, _ => some set
  | none, some set => some set
  | none, none => scriptNamed? plain

/-- Reads a name up to a closing mark. A roof in front of the name stands for all other characters. -/
def property (close : List Char) : Reader Char CharSet := fun text =>
  let name := text.takeWhile fun c => !close.contains c
  let rest := (text.drop name.length).drop close.length
  if !close.isPrefixOf (text.drop name.length) then none
  else match name with
    | '^' :: name => (setNamed? name).map fun s => (.not s, rest)
    | name => (setNamed? name).map fun s => (s, rest)

/-! ### Escapes -/

/-- What an escape stands for. -/
inductive Escape where
  /-- A character. -/
  | char (c : Char)
  /-- A set. -/
  | set (s : CharSet)
  /-- An edge. -/
  | edge (e : Edge)
  /-- An expression of another kind. -/
  | expression (e : Expression)

/-- The end of a line: one character, or two together. -/
def newline : Expression :=
  settled (choice (text ['\r', '\n'])
    (oneOf (.anyOf [.range '\n' '\r', .one (Char.ofNat 0x85), .range (Char.ofNat 0x2028) (Char.ofNat 0x2029)])))

/-- The character with a code of hexadecimal digits. -/
def coded? (digits : List Char) : Option Char := (Hexadecimal.nat? digits).bind Hexadecimal.char?

/-- Reads a code of hexadecimal digits: in braces, or of two digits at most, which stand for a character of
ASCII. -/
def hexCode : Reader Char Char := fun text =>
  match text with
  | '\x7b' :: rest =>
    let digits := rest.takeWhile (· != '\x7d')
    (coded? digits).map fun c => (c, rest.drop (digits.length + 1))
  | _ =>
    let digits := (text.take 2).takeWhile fun c => (Hexadecimal.value? c).isSome
    (coded? digits).bind fun c => if c.toNat < 128 then some (c, text.drop digits.length) else none

/-- Reads a code of two octal digits at most. -/
def octalCode : Reader Char Char := fun text =>
  let digits := (text.take 2).takeWhile fun c => '0' ≤ c && c ≤ '7'
  some (Char.ofNat (digits.foldl (fun n c => 8 * n + (c.toNat - 48)) 0), text.drop digits.length)

/-- The control character of a key. -/
def control (key : Char) : Char := if key = '?' then '\x7f' else Char.ofNat (key.toNat % 32)

/-- The letters of escapes that are not covered here. -/
def uncovered : List Char := ['g', 'G', 'k', 'K', 'M', 'o', 'y', 'Y']

/-- Reads an escape after its backslash. A character without a meaning of its own stands for itself. -/
def escape : Reader Char Escape
  | 'd' :: rest => some (.set decimalDigits, rest)
  | 'D' :: rest => some (.set (.not decimalDigits), rest)
  | 'w' :: rest => some (.set wordCharacters, rest)
  | 'W' :: rest => some (.set (.not wordCharacters), rest)
  | 's' :: rest => some (.set .blank, rest)
  | 'S' :: rest => some (.set (.not .blank), rest)
  | 'h' :: rest => some (.set hexDigits, rest)
  | 'H' :: rest => some (.set (.not hexDigits), rest)
  | 'N' :: rest => some (.set (.not (.one '\n')), rest)
  | 'O' :: rest => some (.set (.not .none), rest)
  | 'p' :: '\x7b' :: rest => (property ['\x7d'] rest).map fun (s, rest) => (.set s, rest)
  | 'P' :: '\x7b' :: rest => (property ['\x7d'] rest).map fun (s, rest) => (.set (.not s), rest)
  | 't' :: rest => some (.char '\t', rest)
  | 'n' :: rest => some (.char '\n', rest)
  | 'r' :: rest => some (.char '\r', rest)
  | 'f' :: rest => some (.char '\x0c', rest)
  | 'v' :: rest => some (.char '\x0b', rest)
  | 'a' :: rest => some (.char '\x07', rest)
  | 'e' :: rest => some (.char '\x1b', rest)
  | 'c' :: key :: rest => some (.char (control key), rest)
  | 'C' :: '-' :: key :: rest => some (.char (control key), rest)
  | 'x' :: rest => (hexCode rest).map fun (c, rest) => (.char c, rest)
  | 'u' :: a :: b :: c :: d :: rest => (coded? [a, b, c, d]).map fun c => (.char c, rest)
  | '0' :: rest => (octalCode rest).map fun (c, rest) => (.char c, rest)
  | 'A' :: rest => some (.edge .textStart, rest)
  | 'z' :: rest => some (.edge .textEnd, rest)
  | 'Z' :: rest => some (.edge .lastLineEnd, rest)
  | 'b' :: rest => some (.edge .wordEdge, rest)
  | 'B' :: rest => some (.edge .noWordEdge, rest)
  | 'R' :: rest => some (.expression newline, rest)
  | 'X' :: rest => some (.expression cluster, rest)
  | c :: rest => if c.isDigit || uncovered.contains c then none else some (.char c, rest)
  | [] => none

/-! ### Sets in brackets -/

/-- Reads a character that may end a range. -/
def rangeEnd : Reader Char Char
  | '\\' :: rest =>
    match escape rest with
    | some (.char c, rest) => some (c, rest)
    | _ => none
  | c :: rest => if c = ']' || c = '[' then none else some (c, rest)
  | [] => none

/-- Reads what follows the first character of a range: its last one, if it is a range at all. A range has at
least one character. -/
def rangeFrom (first : Char) : Reader Char CharSet := fun text =>
  match text with
  | '-' :: rest =>
    match rangeEnd rest with
    | some (last, rest) => if first ≤ last then some (.range first last, rest) else none
    | none => some (.one first, text)
  | _ => some (.one first, text)

mutual

/-- Reads a set after its opening bracket: whether its characters are those that do not follow, and those
that follow. -/
def bracket : Nat → Reader Char (Bool × CharSet)
  | 0, _ => none
  | bound + 1, '^' :: ']' :: rest => (bracketRest bound [.one ']'] rest).map fun (s, rest) => ((true, s), rest)
  | bound + 1, '^' :: rest => (bracketRest bound [] rest).map fun (s, rest) => ((true, s), rest)
  | bound + 1, ']' :: rest => (bracketRest bound [.one ']'] rest).map fun (s, rest) => ((false, s), rest)
  | bound + 1, text => (bracketRest bound [] text).map fun (s, rest) => ((false, s), rest)

/-- Reads the rest of a set after some parts of it. -/
def bracketRest : Nat → List CharSet → Reader Char CharSet
  | 0, _, _ => none
  | bound + 1, parts, text =>
    match text with
    | [] => none
    | ']' :: rest => some (.anyOf parts, rest)
    | '&' :: '&' :: rest => (bracketRest bound [] rest).map fun (s, rest) => (.both (.anyOf parts) s, rest)
    | '[' :: ':' :: rest =>
      (property [':', ']'] rest).bind fun (s, rest) => bracketRest bound (parts ++ [s]) rest
    | '[' :: rest =>
      (bracket bound rest).bind fun ((others, s), rest) =>
        bracketRest bound (parts ++ [if others then .not s else s]) rest
    | '\\' :: 'b' :: rest => bracketRest bound (parts ++ [.one '\x08']) rest
    | '\\' :: rest =>
      match escape rest with
      | some (.set s, rest) => bracketRest bound (parts ++ [s]) rest
      | some (.char c, rest) => (rangeFrom c rest).bind fun (s, rest) => bracketRest bound (parts ++ [s]) rest
      | _ => none
    | c :: rest => (rangeFrom c rest).bind fun (s, rest) => bracketRest bound (parts ++ [s]) rest

end

/-! ### Modes -/

/-- A group with a number. -/
structure Group where
  /-- How much of the notation comes after its opening bracket and its marks. -/
  place : Nat
  /-- Its name, if it has one. -/
  name : Option (List Char)
  deriving DecidableEq, Repr

/-- How an expression is read. -/
structure Mode where
  /-- Whether letter case does not count. -/
  anyCase : Bool
  /-- Whether a dot stands for a newline, too. -/
  anyLine : Bool
  /-- Whether blanks and notes may stand between the parts of an expression. -/
  spaced : Bool
  /-- The groups with numbers, in order. -/
  groups : List Group

/-- Where something stands in an expression. -/
inductive Where where
  /-- Not in a set and not in a note. -/
  | plain
  /-- In a set, which is in a number of others. -/
  | set (others : Nat)
  /-- In a note. -/
  | note

/-- The groups that what is left of a notation opens. -/
def groupsFrom : Where → List Char → List Group
  | _, [] => []
  | .note, c :: rest => groupsFrom (if c = ')' then .plain else .note) rest
  | w, '\\' :: _ :: rest => groupsFrom w rest
  | .set n, '[' :: rest => groupsFrom (.set (n + 1)) rest
  | .set (n + 1), ']' :: rest => groupsFrom (.set n) rest
  | .set 0, ']' :: rest => groupsFrom .plain rest
  | .set n, _ :: rest => groupsFrom (.set n) rest
  | .plain, '[' :: '^' :: ']' :: rest => groupsFrom (.set 0) rest
  | .plain, '[' :: ']' :: rest => groupsFrom (.set 0) rest
  | .plain, '[' :: rest => groupsFrom (.set 0) rest
  | .plain, '(' :: '?' :: '#' :: rest => groupsFrom .note rest
  | .plain, '(' :: '?' :: '<' :: c :: rest =>
    if c = '=' || c = '!' then groupsFrom .plain rest
    else ⟨rest.length + 1, some (c :: rest.takeWhile (· != '>'))⟩ :: groupsFrom .plain rest
  | .plain, '(' :: '?' :: '\x27' :: rest =>
    ⟨rest.length, some (rest.takeWhile (· != '\x27'))⟩ :: groupsFrom .plain rest
  | .plain, '(' :: '?' :: rest => groupsFrom .plain rest
  | .plain, '(' :: rest => ⟨rest.length, none⟩ :: groupsFrom .plain rest
  | .plain, _ :: rest => groupsFrom .plain rest

namespace Mode

/-- The mode in which the reading of a notation begins. -/
def first (text : List Char) : Mode :=
  let groups := groupsFrom .plain text
  let named := groups.filter fun g => g.name.isSome
  ⟨false, false, false, if named.isEmpty then groups else named⟩

/-- Whether groups have names. -/
def hasNames (m : Mode) : Bool := m.groups.any fun g => g.name.isSome

/-- The mode with a letter switched on or off. -/
def switch? (on : Bool) (m : Mode) : Char → Option Mode
  | 'i' => some { m with anyCase := on }
  | 'm' => some { m with anyLine := on }
  | 'x' => some { m with spaced := on }
  | _ => none

/-- Reads letters that switch the mode up to a closing mark, which is read as well. -/
def read? : Bool → Mode → Reader Char (Mode × Char)
  | _, _, [] => none
  | on, m, c :: rest =>
    if c = ')' || c = ':' then some ((m, c), rest)
    else if c = '-' then read? false m rest
    else (m.switch? on c).bind fun m => read? on m rest

/-- What is left of a notation after blanks and notes, if these may be there. Whether a note is under way is
given. -/
def next (m : Mode) : Bool → List Char → List Char
  | _, [] => []
  | inNote, c :: rest =>
    if !m.spaced then c :: rest
    else if inNote then m.next (c != '\n') rest
    else if c = '#' then m.next true rest
    else if c = ' ' || ('\t' ≤ c && c ≤ '\r') then m.next false rest
    else c :: rest

/-- One character of a set. -/
def member (m : Mode) (set : CharSet) : Expression := oneOf (if m.anyCase then .anyCase set else set)

/-- One character that is not of a set. Where letter case does not count, it is of the set in no letter case. -/
def nonMember (m : Mode) (set : CharSet) : Expression :=
  oneOf (.not (if m.anyCase then .anyCase set else set))

/-- The group that is opened at a place: it keeps its text if it has a number. -/
def group (m : Mode) (place : Nat) (body : Expression) : Expression :=
  match m.groups.findIdx? fun g => g.place = place with
  | some i => .group (i + 1) body
  | none => body

/-- The text of the group with a number. -/
def numbered? (m : Mode) (number : Nat) : Option Expression :=
  if m.hasNames || number = 0 || m.groups.length < number then none else some (again number m.anyCase)

/-- The text of the last group with a name. -/
def named? (m : Mode) (name : List Char) : Option Expression :=
  (m.groups.reverse.findIdx? fun g => g.name = some name).map fun i => again (m.groups.length - i) m.anyCase

/-- The text of the group with a name or a number. -/
def called? (m : Mode) (name : List Char) : Option Expression :=
  if !name.isEmpty && name.all Char.isDigit then m.numbered? (natOfDigits name) else m.named? name

/-- Reads a name up to a closing mark after a part that asks for the text of a group. -/
def call (m : Mode) (close : Char) : Reader Char Expression := fun text =>
  let name := text.takeWhile (· != close)
  (m.called? name).map fun e => (e, text.drop (name.length + 1))

end Mode

/-! ### Repetitions -/

/-- The bounds of a repetition. -/
structure Bounds where
  /-- The least number of rounds. -/
  least : Nat
  /-- The greatest number of rounds, if there is one. -/
  most : Option Nat
  /-- Whether the two are one number that is written once. -/
  fixed : Bool

/-- Reads the bounds of a repetition in braces after the opening one. -/
def bounds : Reader Char Bounds := fun text =>
  let low := text.takeWhile Char.isDigit
  match text.drop low.length with
  | '\x7d' :: rest =>
    if low.isEmpty then none else some (⟨natOfDigits low, some (natOfDigits low), true⟩, rest)
  | ',' :: rest =>
    let high := rest.takeWhile Char.isDigit
    match rest.drop high.length with
    | '\x7d' :: rest =>
      if low.isEmpty && high.isEmpty then none
      else some (⟨natOfDigits low, if high.isEmpty then none else some (natOfDigits high), false⟩, rest)
    | _ => none
  | _ => none

/-- Reads what follows the bounds of a repetition in braces: a mark that makes it reluctant. Bounds in the
wrong order are exchanged, and the repetition is then settled. -/
def bounded (e : Expression) (b : Bounds) (text : List Char) : Expression × List Char :=
  let swapped := b.most.any (· < b.least)
  let least := if swapped then b.most.getD 0 else b.least
  let most := if swapped then some b.least else b.most
  match b.fixed, text with
  | false, '?' :: rest => (rounds e least most true, rest)
  | _, _ => (if swapped then settled (rounds e least most false) else rounds e least most false, text)

/-- Reads what follows the sign of a repetition: a mark that makes it reluctant or settles it. -/
def repeated (e : Expression) (least : Nat) (most : Option Nat) : List Char → Expression × List Char
  | '?' :: rest => (rounds e least most true, rest)
  | '+' :: rest => (settled (rounds e least most false), rest)
  | rest => (rounds e least most false, rest)

/-- Reads a repetition of an expression, if there is one. -/
def repetition? (e : Expression) : List Char → Option (Expression × List Char)
  | '*' :: rest => some (repeated e 0 none rest)
  | '+' :: rest => some (repeated e 1 none rest)
  | '?' :: rest => some (repeated e 0 (some 1) rest)
  | '\x7b' :: rest => (bounds rest).map fun (b, rest) => bounded e b rest
  | _ => none

/-- Reads the repetitions after an expression. The number bounds how many there are. -/
def repetitions (m : Mode) : Nat → Expression → List Char → Expression × List Char
  | 0, e, text => (e, text)
  | bound + 1, e, text =>
    match repetition? e (m.next false text) with
    | some (e, rest) => repetitions m bound e rest
    | none => (e, text)

/-! ### Expressions -/

/-- Reads the closing bracket of a group. -/
def closed (wrap : Expression → Expression) : Option (Expression × List Char) → Option (Expression × List Char)
  | some (e, ')' :: rest) => some (wrap e, rest)
  | _ => none

/-- Reads an escape outside of sets after its backslash. -/
def escaped (m : Mode) : Reader Char Expression := fun text =>
  match text with
  | 'k' :: '<' :: rest => m.call '>' rest
  | 'k' :: '\x27' :: rest => m.call '\x27' rest
  | _ =>
    let digits := text.takeWhile Char.isDigit
    if digits.isEmpty || digits.head? = some '0' then
      (escape text).map fun (e, rest) =>
        match e with
        | .char c => (m.member (.one c), rest)
        | .set s => (m.member s, rest)
        | .edge edge => (.at edge, rest)
        | .expression e => (e, rest)
    else (m.numbered? (natOfDigits digits)).map fun e => (e, text.drop digits.length)

/-- Reads letters that switch the mode for what is left of a group. -/
def switched (m : Mode) : Reader Char (Mode × Char)
  | '(' :: '?' :: rest => Mode.read? true m rest
  | _ => none

mutual

/-- Reads choices. -/
def choices : Nat → Mode → Reader Char Expression
  | 0, _, _ => none
  | bound + 1, m, text =>
    (terms bound m [] text).bind fun (first, rest) =>
      match rest with
      | '|' :: rest => (choices bound m rest).map fun (others, rest) => (choice first others, rest)
      | _ => some (first, rest)

/-- Reads the terms of a choice after some of them. -/
def terms : Nat → Mode → List Expression → Reader Char Expression
  | 0, _, _, _ => none
  | bound + 1, m, done, text =>
    match m.next false text with
    | [] => some (sequence done, [])
    | '|' :: rest => some (sequence done, '|' :: rest)
    | ')' :: rest => some (sequence done, ')' :: rest)
    | text =>
      match switched m text with
      | some ((other, ')'), rest) =>
        (choices bound other rest).map fun (e, rest) => (sequence (done ++ [e]), rest)
      | _ =>
        (atom bound m text).bind fun (e, rest) =>
          let (e, rest) := repetitions m rest.length e rest
          terms bound m (done ++ [e]) rest

/-- Reads an expression that a repetition may follow. -/
def atom : Nat → Mode → Reader Char Expression
  | 0, _, _ => none
  | bound + 1, m, text =>
    match text with
    | '(' :: '?' :: ':' :: rest => closed id (choices bound m rest)
    | '(' :: '?' :: '=' :: rest => closed (ahead true) (choices bound m rest)
    | '(' :: '?' :: '!' :: rest => closed (ahead false) (choices bound m rest)
    | '(' :: '?' :: '<' :: '=' :: rest => closed (behind true) (choices bound m rest)
    | '(' :: '?' :: '<' :: '!' :: rest => closed (behind false) (choices bound m rest)
    | '(' :: '?' :: '>' :: rest => closed settled (choices bound m rest)
    | '(' :: '?' :: '#' :: rest => some (nothing, (rest.dropWhile (· != ')')).drop 1)
    | '(' :: '?' :: '<' :: rest =>
      closed (m.group rest.length) (choices bound m ((rest.dropWhile (· != '>')).drop 1))
    | '(' :: '?' :: '\x27' :: rest =>
      closed (m.group rest.length) (choices bound m ((rest.dropWhile (· != '\x27')).drop 1))
    | '(' :: '?' :: rest =>
      match Mode.read? true m rest with
      | some ((other, ':'), rest) => closed id (choices bound other rest)
      | _ => none
    | '(' :: rest => closed (m.group rest.length) (choices bound m rest)
    | '[' :: rest =>
      (bracket bound rest).map fun ((others, s), rest) => (if others then m.nonMember s else m.member s, rest)
    | '\\' :: rest => escaped m rest
    | '.' :: rest => some (oneOf (if m.anyLine then .not .none else .not (.one '\n')), rest)
    | '^' :: rest => some (.at .lineStart, rest)
    | '$' :: rest => some (.at .lineEnd, rest)
    | c :: rest => if c = '*' || c = '+' || c = '?' then none else some (m.member (.one c), rest)
    | [] => none

end

/-- Reads an expression. -/
def read? (text : String) : Option Expression :=
  let cs := text.toList
  match choices (3 * cs.length + 3) (Mode.first cs) cs with
  | some (e, []) => some e
  | _ => none

end Expression

end PromptLoop
