import PromptLoop.Tokenizer.AddedPieces
import PromptLoop.Tokenizer.Boundary
import PromptLoop.Tokenizer.Extent
import PromptLoop.Tokenizer.Rendering
import PromptLoop.Tokenizer.Stream

/-!
# Trained tokenizers

A trained tokenizer encodes a text in this order: added pieces are recognised, what they leave is respelled
and searched for late pieces, the rest is cut at boundaries into words, and the words are encoded by the
piece model. The tokens are then cut to a number, repeated and filled up.

It decodes tokens by looking up their pieces, dropping unknown and special ones, and rendering the rest.

A `Vocabulary` is the least that a tokenizer can be made of: a list of pieces. Its tokenizer knows
characters and their bytes, and renders in the usual way.
-/

namespace PromptLoop

/-- A trained tokenizer. -/
structure TrainedTokenizer where
  /-- The pieces of the model. -/
  model : PieceModel
  /-- The added pieces. -/
  added : AddedPieces
  /-- How texts are respelled. -/
  respelling : Respelling
  /-- Where words begin and end. -/
  boundaries : Boundaries
  /-- What tokens are cut to, if they are. -/
  cutting : Option Cutting
  /-- How many times the tokens are there in the end. -/
  copies : Nat
  /-- What tokens are filled up to, if they are. -/
  filling : Option Filling
  /-- How pieces are shown. -/
  rendering : Rendering

namespace TrainedTokenizer

/-! ### Pieces and tokens -/

/-- The token of a piece. -/
def token? (t : TrainedTokenizer) (piece : String) : Option Token := t.added.token? t.model piece

/-- The piece of a token. -/
def piece? (t : TrainedTokenizer) (token : Token) : Option String :=
  match t.added.piece? token with
  | some p => some p.text
  | none => t.model.piece? token

/-- The piece of a token, unless it is unknown or special. -/
def visible? (t : TrainedTokenizer) (token : Token) : Option String :=
  match t.piece? token with
  | some piece => if t.added.isSpecial piece then none else some piece
  | none => none

/-! ### Encoding -/

/-- Respells a passage and cuts it at the late pieces. -/
def refine (t : TrainedTokenizer) : AddedPieces.Segment → List AddedPieces.Segment
  | .piece token => [.piece token]
  | .plain p =>
    t.added.cut (t.added.patterns t.model true t.respelling.text)
      (t.respelling.apply ((p.head?.map (·.origin)).getD 0) p)

/-- The segments of a text. -/
def segments (t : TrainedTokenizer) (text : List Char) : List AddedPieces.Segment :=
  (t.added.cut (t.added.patterns t.model false id) (Passage.ofText text)).flatMap t.refine

/-- The tokens of a segment. -/
def encodeSegment (t : TrainedTokenizer) : AddedPieces.Segment → Except EncodeFault (List Token)
  | .piece token => .ok [token]
  | .plain p => do
    let tokens ← (t.boundaries.cut p).mapM fun word => t.model.encode word.chars
    return tokens.flatten

/-- The tokens of a text before they are cut and filled up. -/
def allTokens (t : TrainedTokenizer) (text : String) : Except EncodeFault (List Token) := do
  let tokens ← (t.segments text.toList).mapM t.encodeSegment
  return tokens.flatten

/-- The tokens of a text. -/
def encode (t : TrainedTokenizer) (text : String) : Except EncodeFault (List Token) := do
  let tokens ← t.allTokens text
  let tokens ← match t.cutting with
    | some cutting => cutting.apply tokens
    | none => .ok tokens
  let tokens := (List.replicate t.copies tokens).flatten
  return match t.filling with
    | some filling => filling.apply tokens
    | none => tokens

/-! ### Decoding -/

/-- The text of a list of tokens. -/
def decode (t : TrainedTokenizer) (tokens : List Token) : List Char :=
  t.rendering.text (tokens.filterMap t.visible?)

/-- The tokenizer, decoding one token at a time. -/
def tokenizer (t : TrainedTokenizer) : Tokenizer StreamDecoder := .streaming t.encode t.decode

end TrainedTokenizer

/-! ### Vocabularies -/

/-- A list of pieces. -/
structure Vocabulary where
  /-- The pieces in the order of their tokens. -/
  pieces : List String
  /-- The pieces that are recognised before anything else and never shown. -/
  special : List String
  deriving DecidableEq, Repr

namespace Vocabulary

/-- The tokenizer of a vocabulary. -/
def trained (v : Vocabulary) : TrainedTokenizer :=
  let model : PieceModel := .merging (.plain (.ofPieces v.pieces))
  { model := model
    added := .ofList model (v.special.map .ofSpecial)
    respelling := []
    boundaries := []
    cutting := none
    copies := 1
    filling := none
    rendering := .byteFallback }

/-- The tokenizer of a vocabulary, decoding one token at a time. -/
def tokenizer (v : Vocabulary) : Tokenizer StreamDecoder := v.trained.tokenizer

end Vocabulary

end PromptLoop
