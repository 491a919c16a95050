import PromptLoop.Tokenizer.Merging
import PromptLoop.Tokenizer.ScoredPieces
import PromptLoop.Tokenizer.WholeWords

/-!
# Piece models

A piece model knows pieces with their tokens and cuts words into them, in one of four ways.
-/

namespace PromptLoop

/-- Pieces with a way of cutting words into them. -/
inductive PieceModel where
  /-- By merging. -/
  | merging (m : Merging)
  /-- Not at all. -/
  | wholeWords (w : WholeWords)
  /-- From the left, each part as long as possible. -/
  | wordParts (w : WordParts)
  /-- By scores. -/
  | scored (s : ScoredPieces)

namespace PieceModel

/-- The pieces. -/
def table : PieceModel → PieceTable
  | merging m => m.table
  | wholeWords w => w.table
  | wordParts w => w.table
  | scored s => s.table

/-- The token of a piece. -/
def token? (m : PieceModel) (piece : String) : Option Token := m.table.token? piece

/-- The piece of a token. -/
def piece? (m : PieceModel) (token : Token) : Option String :=
  match m with
  | scored s => s.piece? token
  | m => m.table.piece? token

/-- The number of pieces; with scores, every entry counts. -/
def size : PieceModel → Nat
  | scored s => s.entries.length
  | m => m.table.size

/-- The tokens of a word. -/
def encode (m : PieceModel) (word : List Char) : Except EncodeFault (List Token) :=
  match m with
  | merging m => m.encode word
  | wholeWords w => w.encode word
  | wordParts w => w.encode word
  | scored s => s.encode word

end PieceModel

end PromptLoop
