import PromptLoop.Tokenizer.PieceTable

/-!
# Words as pieces, or cut from the left

With `WholeWords` a word is a piece as a whole. With `WordParts` it is cut from the left, each part as long
as possible; the parts after the first carry a mark. A word that has no such parts, or is too long, is
unknown. In either case a piece stands for unknown words.
-/

namespace PromptLoop

/-! ### Whole words -/

/-- Pieces that are whole words. -/
structure WholeWords where
  /-- The pieces. -/
  table : PieceTable
  /-- The piece for unknown words. -/
  unknown : String
  deriving DecidableEq, Repr

namespace WholeWords

/-- The token of a word. -/
def encode (w : WholeWords) (word : List Char) : Except EncodeFault (List Token) :=
  match w.table.token? (String.ofList word), w.table.token? w.unknown with
  | some token, _ => .ok [token]
  | none, some token => .ok [token]
  | none, none => .error .unknownWord

end WholeWords

/-! ### Parts of words -/

/-- Pieces that words are cut into. -/
structure WordParts where
  /-- The pieces. -/
  table : PieceTable
  /-- The piece for unknown words. -/
  unknown : String
  /-- The mark before a part that is not the first of a word. -/
  mark : List Char
  /-- The number of characters that a word may have. -/
  longest : Nat
  deriving DecidableEq, Repr

namespace WordParts

/-- The token of the longest part that a text starts with, and how many characters it has after the
first. -/
def longestPart? (w : WordParts) (isFirst : Bool) (text : List Char) : Option (Token × Nat) :=
  (List.range text.length).reverse.findSome? fun more =>
    (w.table.token? (String.ofList ((if isFirst then [] else w.mark) ++ text.take (more + 1)))).map fun token =>
      (token, more)

/-- The tokens of the parts of what is left of a word, given whether it is the whole word and how many
characters belong to a part that has been found. -/
def parts? (w : WordParts) : Bool → Nat → List Char → Option (List Token)
  | _, _, [] => some []
  | isFirst, skip + 1, _ :: rest => w.parts? isFirst skip rest
  | isFirst, 0, c :: rest =>
    (w.longestPart? isFirst (c :: rest)).bind fun (token, more) => (w.parts? false more rest).map (token :: ·)

/-- The tokens of a word. -/
def encode (w : WordParts) (word : List Char) : Except EncodeFault (List Token) :=
  match if w.longest < word.length then none else w.parts? true 0 word, w.table.token? w.unknown with
  | some tokens, _ => .ok tokens
  | none, some token => .ok [token]
  | none, none => .error .unknownParts

end WordParts

end PromptLoop
