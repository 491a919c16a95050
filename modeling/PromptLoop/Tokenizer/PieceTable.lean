import PromptLoop.Console.Line
import PromptLoop.Text.Hexadecimal
import PromptLoop.Token

/-!
# Tables of pieces

A table of pieces gives pieces of text their tokens. Among the pieces there may be one for each byte, which
stands in for characters that have no piece of their own.

`EncodeFault` says why a text has no tokens: something in it is unknown and nothing stands for what is
unknown, or it cannot be cut to the length that is asked for.
-/

namespace PromptLoop

/-! ### What can go wrong -/

/-- Why a text has no tokens. -/
inductive EncodeFault where
  /-- The piece for unknown characters is not in the table. -/
  | noUnknownPiece (piece : String)
  /-- A word is unknown, and there is no piece for unknown words. -/
  | unknownWord
  /-- A word has no parts that are known, and there is no piece for unknown words. -/
  | unknownParts
  /-- Something is unknown, and no token is given for it. -/
  | noUnknownToken
  /-- The text would have to be cut after a second text, which is not there. -/
  | noSecondText
  deriving DecidableEq, Repr

/-- The text of a fault. -/
def EncodeFault.message : EncodeFault → String
  | noUnknownPiece piece => "Unk token \x60" ++ piece ++ "\x60 not found in the vocabulary"
  | unknownWord => "WordLevel error: Missing [UNK] token from the vocabulary"
  | unknownParts => "WordPiece error: Missing [UNK] token from the vocabulary"
  | noUnknownToken => "Encountered an unknown token but \x60unk_id\x60 is missing"
  | noSecondText => "Truncation error: Second sequence not provided"

/-! ### Tables -/

/-- Pieces with their tokens. Of two entries for one piece the first counts. -/
abbrev PieceTable := List (String × Token)

namespace PieceTable

/-- The table of pieces in the order of their tokens. Of two places of one piece the later counts. -/
def ofPieces (pieces : List String) : PieceTable := pieces.zipIdx.reverse

/-- The token of a piece. -/
def token? (t : PieceTable) (piece : String) : Option Token := t.lookup piece

/-- The piece of a token. -/
def piece? (t : PieceTable) (token : Token) : Option String :=
  (t.find? fun (piece, n) => n == token && t.token? piece == some token).map (·.1)

/-- The number of pieces. -/
def size (t : PieceTable) : Nat := (t.map (·.1)).eraseDups.length

/-! ### Pieces for bytes -/

/-- The piece for a byte. -/
def bytePiece (b : UInt8) : String :=
  String.ofList
    ['<', '0', 'x', Hexadecimal.capital (b.toNat / 16), Hexadecimal.capital (b.toNat % 16), '>']

/-- The tokens of the bytes of a text, if there is one for each. -/
def byteTokens? (t : PieceTable) (cs : List Char) : Option (List Token) :=
  (Line.bytes (String.ofList cs)).mapM fun b => t.token? (bytePiece b)

end PieceTable

end PromptLoop
