import PromptLoop.Tokenizer.PieceTable

/-!
# Pieces by merging

A word is first cut into its characters, each of which has a token; then pairs of neighbouring tokens are
merged as long as any can be, the most urgent pair first and of several the leftmost. A character that is
no piece falls back on the pieces for the bytes of its UTF-8 form; if these are not all there, a piece for
unknown characters stands for it, or it is left out.

Characters may be told apart by where in a word they stand: those after the first carry a mark before them,
and the last one carries a mark behind it.
-/

namespace PromptLoop

/-- A pair of tokens that become one. -/
structure Merge where
  /-- The left token. -/
  left : Token
  /-- The right token. -/
  right : Token
  /-- The token of both pieces together. -/
  result : Token
  deriving DecidableEq, Repr

/-- Whether two merges are for one pair. -/
def Merge.isRival (a b : Merge) : Bool := a.left = b.left && a.right = b.right

/-- What stands for characters that cannot be encoded. -/
structure UnknownPiece where
  /-- The piece. -/
  piece : String
  /-- Whether one piece stands for several such characters in a row. -/
  fused : Bool
  deriving DecidableEq, Repr

/-- A table of pieces with merges. -/
structure Merging where
  /-- The pieces. -/
  table : PieceTable
  /-- The merges, the most urgent first. Of two for one pair the last counts. -/
  merges : List Merge
  /-- What stands for characters that cannot be encoded. -/
  unknown : Option UnknownPiece
  /-- Whether characters fall back on the pieces for their bytes. -/
  byteFallback : Bool
  /-- Whether a word that is a piece is that piece, whatever could be merged. -/
  keepsPieces : Bool
  /-- The mark before a character that is not the first of a word. -/
  markBefore : List Char
  /-- The mark behind the last character of a word. -/
  markBehind : List Char
  deriving DecidableEq, Repr

namespace Merging

/-- Pieces with byte fallback, without merges and marks. -/
def plain (table : PieceTable) : Merging := ⟨table, [], none, true, false, [], []⟩

/-! ### Characters -/

/-- The characters of a word with their marks, given whether the first is the first of the word. -/
def marked (m : Merging) : Bool → List Char → List (List Char)
  | _, [] => []
  | isFirst, [c] => [(if isFirst then [] else m.markBefore) ++ c :: m.markBehind]
  | isFirst, c :: d :: rest => ((if isFirst then [] else m.markBefore) ++ [c]) :: m.marked false (d :: rest)

/-- The tokens of the bytes of a character. -/
def byteTokens? (m : Merging) (unit : List Char) : Option (List Token) :=
  if m.byteFallback then m.table.byteTokens? unit else none

/-- The token for unknown characters. -/
def unknownToken (m : Merging) (u : UnknownPiece) : Except EncodeFault Token :=
  match m.table.token? u.piece with
  | some token => .ok token
  | none => .error (.noUnknownPiece u.piece)

/-- The tokens of characters, one by one. A token for unknown characters may be pending; it is put down
before the next character that is a piece. -/
def encodeUnits (m : Merging) : Option Token → List (List Char) → Except EncodeFault (List Token)
  | pending, [] => .ok pending.toList
  | pending, unit :: rest =>
    match m.table.token? (String.ofList unit) with
    | some token => (m.encodeUnits none rest).map fun tokens => pending.toList ++ token :: tokens
    | none =>
      match m.byteTokens? unit, m.unknown with
      | some bytes, _ => (m.encodeUnits pending rest).map fun tokens => bytes ++ tokens
      | none, none => m.encodeUnits pending rest
      | none, some u =>
        if u.fused && pending.isSome then m.encodeUnits pending rest
        else do
          let token ← m.unknownToken u
          return pending.toList ++ (← m.encodeUnits (some token) rest)

/-! ### Merges -/

/-- Carries out a merge where it is first possible. -/
def applyMerge (m : Merge) : List Token → Option (List Token)
  | a :: b :: rest =>
    if a = m.left ∧ b = m.right then some (m.result :: rest)
    else (applyMerge m (b :: rest)).map (a :: ·)
  | _ => none

/-- Carries out a number of merges, each time the most urgent that is possible. -/
def mergeTokens (merges : List Merge) : Nat → List Token → List Token
  | 0, tokens => tokens
  | count + 1, tokens =>
    match merges.findSome? fun m => applyMerge m tokens with
    | some merged => mergeTokens merges count merged
    | none => tokens

/-- Without merges all tokens stay. -/
@[simp] theorem mergeTokens_nil (count : Nat) (tokens : List Token) :
    mergeTokens [] count tokens = tokens := by
  cases count <;> rfl

/-- The merges that count: of those for one pair the last. -/
def effective : List Merge → List Merge
  | [] => []
  | m :: rest => if rest.any m.isRival then effective rest else m :: effective rest

/-! ### Words -/

/-- The tokens of a word. There are not more merges than tokens. -/
def encode (m : Merging) (word : List Char) : Except EncodeFault (List Token) :=
  match if m.keepsPieces then m.table.token? (String.ofList word) else none with
  | some token => .ok [token]
  | none =>
    (m.encodeUnits none (m.marked true word)).map fun tokens =>
      mergeTokens (effective m.merges) tokens.length tokens

end Merging

end PromptLoop
