import PromptLoop.Tokenizer.File.Model
import PromptLoop.Tokenizer.File.Steps
import PromptLoop.Tokenizer.Trained

/-!
# Tokenizer files

A tokenizer file is a JSON object. Its entries give the piece model, the added pieces, the steps of
respelling, of finding boundaries and of rendering, and what happens to the number of tokens. An entry of
any other name is refused, and so is a number that no double comes near to. Of several entries of one name
the last counts, but all of them have to make sense.

The entry for what happens to tokens in the end is mostly about pieces around a text, which are never put
there; only how many times it speaks of the text matters.
-/

namespace PromptLoop

/-! ### The number of tokens -/

/-- The end of a text that a name stands for. -/
def Side.ofJson? (json : Json) : Option Side := do
  [("Left", .left), ("Right", .right)].lookup (← json.choice?)

namespace Cutting

/-- The keys of what tokens are cut to. -/
def keys : List String := ["direction", "max_length", "strategy", "stride"]

/-- Whether tokens are to be cut off a second text. -/
def ofSecondText? (json : Json) : Option Bool := do
  [("LongestFirst", false), ("OnlyFirst", false), ("OnlySecond", true)].lookup (← json.choice?)

/-- What tokens are cut to. -/
def ofJson? (json : Json) : Option Cutting := do
  let fields ← json.record? keys
  let side ← fields.orDefault? "direction" Side.ofJson? .right
  let limit ← fields.required? "max_length" Json.count?
  let ofSecondText ← fields.required? "strategy" ofSecondText?
  let _ ← fields.required? "stride" Json.count?
  return ⟨limit, side, ofSecondText⟩

end Cutting

namespace Filling

/-- The keys of what tokens are filled up to. -/
def keys : List String :=
  ["strategy", "direction", "pad_to_multiple_of", "pad_id", "pad_type_id", "pad_token"]

/-- The least number of tokens, unless it is that of the tokens themselves. -/
def least? (json : Json) : Option (Option Nat) :=
  match json.choice?, json.choiceWith? with
  | some "BatchLongest", _ => some none
  | _, some ("Fixed", v) => v.count?.map some
  | _, _ => none

/-- What tokens are filled up to. -/
def ofJson? (json : Json) : Option Filling := do
  let fields ← json.record? keys
  let least ← fields.required? "strategy" least?
  let side ← fields.required? "direction" Side.ofJson?
  let multiple ← fields.optional? "pad_to_multiple_of" Json.count?
  let token ← fields.required? "pad_id" Json.word?
  let _ ← fields.required? "pad_type_id" Json.word?
  let _ ← fields.required? "pad_token" Json.string?
  return ⟨least, multiple, side, token⟩

end Filling

namespace TokenizerFile

/-! ### What happens in the end -/

/-- A piece with its token. -/
def pieceWithToken? (json : Json) : Option (String × Token) := do
  let (piece, token) ← json.pair?
  return (← piece.string?, ← token.word?)

/-- Pieces that are put around a text, in the first of two forms. -/
def enclosed? (json : Json) : Option Nat := do
  let fields ← json.record? ["sep", "cls", "trim_offsets", "add_prefix_space"]
  let _ ← fields.required? "sep" pieceWithToken?
  let _ ← fields.required? "cls" pieceWithToken?
  let _ ← fields.required? "trim_offsets" Json.boolean?
  let _ ← fields.required? "add_prefix_space" Json.boolean?
  return 1

/-- Pieces that are put around a text, in the second of two forms. -/
def bracketed? (json : Json) : Option Nat := do
  let fields ← json.record? ["sep", "cls"]
  let _ ← fields.required? "sep" pieceWithToken?
  let _ ← fields.required? "cls" pieceWithToken?
  return 1

/-- Whether a part of a template speaks of the first text. -/
def speaksOfText? (json : Json) : Option Bool := do
  let (kind, v) ← json.choiceWith?
  let fields ← v.record? ["id", "type_id"]
  let _ ← fields.required? "type_id" Json.word?
  match kind with
  | "Sequence" => [("A", true), ("B", false)].lookup (← fields.required? "id" Json.choice?)
  | "SpecialToken" => (fields.required? "id" Json.string?).map fun _ => false
  | _ => none

/-- A special piece that a template may speak of. -/
def templatePiece? (json : Json) : Option Unit := do
  let fields ← json.record? ["id", "ids", "tokens"]
  let _ ← fields.required? "id" Json.string?
  let _ ← fields.required? "ids" (Json.each? Json.word?)
  let _ ← fields.required? "tokens" (Json.each? Json.string?)
  return ()

/-- How many times a template speaks of the text. -/
def template? (json : Json) : Option Nat := do
  let fields ← json.record? ["single", "pair", "special_tokens"]
  let parts ← fields.required? "single" (Json.each? speaksOfText?)
  let _ ← fields.required? "pair" (Json.each? speaksOfText?)
  let special ← fields.required? "special_tokens" Json.entries?
  let _ ← special.mapM fun (_, v) => templatePiece? v
  return parts.count true

/-- How many times the tokens are there in the end. The number bounds how deep lists of steps are nested. -/
def copies? : Nat → Json → Option Nat
  | 0, _ => none
  | depth + 1, json =>
    let bytes (json : Json) : Option Nat :=
      if json.kind? = some "ByteLevel" then (byteSteps? json).map fun _ => 1 else none
    let steps (json : Json) : Option Nat :=
      if json.kind? = some "Sequence" then
        (json.required? "processors" (Json.each? (copies? depth))).map fun counts => counts.foldl (· * ·) 1
      else none
    [enclosed?, bracketed?, bytes, template?, steps].findSome? fun read => read json

/-! ### Added pieces -/

/-- The keys of an added piece. -/
def addedKeys : List String := ["id", "content", "single_word", "lstrip", "rstrip", "normalized", "special"]

/-- An added piece. -/
def addedPiece? (json : Json) : Option AddedPiece := do
  let _ ← json.entries?
  let flag (key : String) : Option Bool := json.required? key Json.boolean?
  let _ ← json.required? "id" Json.word?
  if json.hasOnce addedKeys then
    return {
      text := ← json.required? "content" Json.string?
      special := ← flag "special"
      late := ← flag "normalized"
      asWord := ← flag "single_word"
      takesBefore := ← flag "lstrip"
      takesAfter := ← flag "rstrip" }
  else none

/-! ### Files -/

/-- What has been read of a file. -/
structure Draft where
  /-- The piece model. -/
  model : Option PieceModel
  /-- The added pieces. -/
  added : List AddedPiece
  /-- How texts are respelled. -/
  respelling : Option Respelling
  /-- Where words begin and end. -/
  boundaries : Option Boundaries
  /-- What tokens are cut to. -/
  cutting : Option Cutting
  /-- How many times the tokens are there in the end. -/
  copies : Option Nat
  /-- What tokens are filled up to. -/
  filling : Option Filling
  /-- How pieces are shown. -/
  rendering : Option Rendering

namespace Draft

/-- The draft of a file of which nothing has been read. -/
def empty : Draft := ⟨none, [], none, none, none, none, none, none⟩

/-- The version of the files that can be read. -/
def version : String := "1.0"

/-- The keys of an entry whose numbers have to be in range, if not all of them have to be. -/
def keysInRange? : String → Option (List String)
  | "truncation" => some Cutting.keys
  | "padding" => some Filling.keys
  | _ => none

/-- Whether the numbers of an entry are in range. -/
def isInRange (key : String) (v : Json) : Bool :=
  match keysInRange? key, v.entries? with
  | some keys, some entries => entries.all fun (k, v) => !keys.contains k || v.isInRange
  | _, _ => v.isInRange

/-- Reads an entry of a file. -/
def entry? (d : Draft) (key : String) (v : Json) : Option Draft :=
  match key with
  | "version" => if v.string? = some version then some d else none
  | "truncation" => (v.ifPresent? Cutting.ofJson?).map fun cutting => { d with cutting := cutting }
  | "padding" => (v.ifPresent? Filling.ofJson?).map fun filling => { d with filling := filling }
  | "added_tokens" => (v.each? addedPiece?).map fun added => { d with added := added }
  | "normalizer" => (v.ifPresent? Respelling.ofJson?).map fun r => { d with respelling := r }
  | "pre_tokenizer" => (v.ifPresent? Boundaries.ofJson?).map fun b => { d with boundaries := b }
  | "post_processor" => (v.ifPresent? (copies? Json.depthLimit)).map fun n => { d with copies := n }
  | "decoder" => (v.ifPresent? Rendering.ofJson?).map fun r => { d with rendering := r }
  | "model" => (PieceModel.ofJson? v).map fun m => { d with model := some m }
  | _ => none

/-- The tokenizer that a draft describes. -/
def tokenizer? (d : Draft) : Option TrainedTokenizer :=
  d.model.map fun model =>
    { model := model
      added := .ofList model d.added
      respelling := d.respelling.getD []
      boundaries := d.boundaries.getD []
      cutting := d.cutting
      copies := d.copies.getD 1
      filling := d.filling
      rendering := d.rendering.getD none }

end Draft

/-- The tokenizer of a value. -/
def ofJson? (json : Json) : Option TrainedTokenizer := do
  let entries ← json.entries?
  let draft ← entries.foldlM (fun (d : Draft) (key, v) => if Draft.isInRange key v then d.entry? key v else none)
    .empty
  draft.tokenizer?

/-- The tokenizer of the bytes of a file, which have to be UTF-8. -/
def read? (bytes : List UInt8) : Option TrainedTokenizer := do
  ofJson? (← Json.read? (← Line.text? bytes))

end TokenizerFile

end PromptLoop
