import PromptLoop.Text.Category.Table
import PromptLoop.Text.RunTable

/-!
# Kinds of characters

Every character has one of thirty general categories, which come in seven groups. By them it is said, with a few
exceptions, what counts as part of a word, what can be printed and what belongs to the character before it.
-/

namespace PromptLoop

/-- The groups of general categories. -/
inductive CategoryGroup where
  /-- Letters. -/
  | letter
  /-- Marks that belong to the character before them. -/
  | mark
  /-- Numbers. -/
  | number
  /-- Punctuation marks. -/
  | punctuation
  /-- Symbols. -/
  | symbol
  /-- Blanks between words, lines and paragraphs. -/
  | separator
  /-- Everything else, code points without a character included. -/
  | other
  deriving DecidableEq, Repr

/-- A general category: its group and the letter that tells it apart within the group. -/
structure Category where
  /-- The group. -/
  group : CategoryGroup
  /-- The letter. -/
  letter : Char
  deriving DecidableEq, Repr

namespace Category

/-- The group with a letter. -/
def group? : Char → Option CategoryGroup
  | 'L' => some .letter
  | 'M' => some .mark
  | 'N' => some .number
  | 'P' => some .punctuation
  | 'S' => some .symbol
  | 'Z' => some .separator
  | 'C' => some .other
  | _ => none

/-- The category of code points that have no character. -/
def unassigned : Category := ⟨.other, 'n'⟩

/-- The category of a name of two letters. -/
def ofName? : List Char → Option Category
  | [g, letter] => (group? g).map fun group => ⟨group, letter⟩
  | _ => none

/-- The categories of all characters. -/
def runs : RunTable Category := .ofText ofName? table

/-- The category of a character. -/
def of (c : Char) : Category := (runs.value? c).getD unassigned

end Category

/-! ### Properties -/

/-- Whether a character is of a group of categories. -/
def isOfGroup (group : CategoryGroup) (c : Char) : Bool := (Category.of c).group = group

/-- Whether a character is a mark that takes no room of its own. -/
def isNonspacing (c : Char) : Bool := Category.of c = ⟨.mark, 'n'⟩

/-- The symbols that count as letters: letters in circles and squares. -/
def symbolLetters : List (Nat × Nat) :=
  [(0x24b6, 0x24e9), (0x1f130, 0x1f149), (0x1f150, 0x1f169), (0x1f170, 0x1f189)]

/-- Whether the code of a character lies in one of some ranges. -/
def isWithin (ranges : List (Nat × Nat)) (c : Char) : Bool :=
  ranges.any fun (first, last) => first ≤ c.toNat && c.toNat ≤ last

/-- Whether a character is part of a word: a letter, a mark, a decimal digit, a number that is written with
letters, a connecting punctuation mark, or one of the two characters that join or part letters. -/
def isWordPart (c : Char) : Bool :=
  let category := Category.of c
  category.group = .letter || category.group = .mark || category = ⟨.number, 'd'⟩ ||
    category = ⟨.number, 'l'⟩ || category = ⟨.punctuation, 'c'⟩ || isWithin symbolLetters c ||
    isWithin [(0x200c, 0x200d)] c

/-- Whether a character can be printed: it is none of the separators but the space, and nothing that has no
shape of its own. -/
def isPrintable (c : Char) : Bool :=
  c = ' ' || (!isOfGroup .separator c && !isOfGroup .other c)

/-- The characters that belong to the character before them although they take room or are no marks. -/
def extendingExceptions : List (Nat × Nat) :=
  [(0x9be, 0x9be), (0x9d7, 0x9d7), (0xb3e, 0xb3e), (0xb57, 0xb57), (0xbbe, 0xbbe), (0xbd7, 0xbd7),
    (0xcc0, 0xcc0), (0xcc2, 0xcc2), (0xcc7, 0xcc8), (0xcca, 0xccb), (0xcd5, 0xcd6), (0xd3e, 0xd3e),
    (0xd57, 0xd57), (0xdcf, 0xdcf), (0xddf, 0xddf), (0x1715, 0x1715), (0x1734, 0x1734), (0x1b35, 0x1b35),
    (0x1b3b, 0x1b3b), (0x1b3d, 0x1b3d), (0x1b43, 0x1b44), (0x1baa, 0x1baa), (0x1bf2, 0x1bf3),
    (0x200c, 0x200c), (0x302e, 0x302f), (0xa953, 0xa953), (0xa9c0, 0xa9c0), (0xff9e, 0xff9f),
    (0x111c0, 0x111c0), (0x11235, 0x11235), (0x1133e, 0x1133e), (0x1134d, 0x1134d), (0x11357, 0x11357),
    (0x113b8, 0x113b8), (0x113c2, 0x113c2), (0x113c5, 0x113c5), (0x113c7, 0x113c9), (0x113cf, 0x113cf),
    (0x114b0, 0x114b0), (0x114bd, 0x114bd), (0x115af, 0x115af), (0x116b6, 0x116b6), (0x11930, 0x11930),
    (0x1193d, 0x1193d), (0x11f41, 0x11f41), (0x16ff0, 0x16ff1), (0x1d165, 0x1d166), (0x1d16d, 0x1d172),
    (0xe0020, 0xe007f)]

/-- Whether a character belongs to the character before it. -/
def isExtending (c : Char) : Bool :=
  Category.of c = ⟨.mark, 'n'⟩ || Category.of c = ⟨.mark, 'e'⟩ || isWithin extendingExceptions c

end PromptLoop
