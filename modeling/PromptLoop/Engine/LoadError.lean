import PromptLoop.Engine.Model
import PromptLoop.Files
import PromptLoop.Gguf.Value

/-!
# What can go wrong with loading

A model cannot be loaded if its weights cannot be opened or read, if they do not make up a model, or if the
tokenizer is missing, unreadable or without the pieces that the model depends on. `WeightsFault` says why
weights that can be read do not make up a model: their metadata do not describe it, or the tensors are not
all there.
-/

namespace PromptLoop

/-- Why weights do not make up a model. -/
inductive WeightsFault where
  /-- The description lacks a key. -/
  | noMetadata (key : String)
  /-- A value of the description is no count. -/
  | notCount (value : GgufValue)
  /-- A value of the description is no single precision number. -/
  | notSingle (value : GgufValue)
  /-- There is no tensor of some name. -/
  | noTensor (name : String)
  /-- A tensor has a number of elements that its blocks do not divide. -/
  | unevenBlocks (elements block : Nat)
  /-- The elements of a tensor are at a place that no file has. -/
  | noPlace
  /-- The file ends in the middle of a tensor. -/
  | cutOff
  /-- A tensor is stored in a way that nothing is read from. -/
  | unreadableKind (name : String)
  /-- A tensor has no dimensions. -/
  | noDimensions
  /-- The rows of a tensor have a length that its blocks do not divide. -/
  | unevenRows (shape : List Nat) (block : Nat)

namespace WeightsFault

/-- The text of a fault. -/
def plainMessage : WeightsFault → String
  | noMetadata key => "cannot find " ++ key ++ " in metadata"
  | notCount value => "not a u32 " ++ value.describe
  | notSingle value => "not a f32 " ++ value.describe
  | noTensor name => "cannot find tensor info for " ++ name
  | unevenBlocks elements block =>
    s!"the number of elements {elements} is not divisible by the block size {block}"
  | noPlace => "Invalid argument (os error 22)"
  | cutOff => "failed to fill whole buffer"
  | unreadableKind name => "quantized type " ++ name ++ " is not supported yet"
  | noDimensions => "scalar tensor cannot be quantized []"
  | unevenRows shape block =>
    "quantized tensor must have their last dim divisible by block size " ++ shapeText shape ++ s!" {block}"

/-- The words of a text that call for advice. -/
def alarming : List String := ["cannot find", "gemma3"]

/-- The text of a fault, with advice if it tells that something of the usual architecture cannot be found. -/
def message (fault : WeightsFault) : String :=
  let plain := fault.plainMessage
  if alarming.all (plain.contains ·) then
    "Gemma load failed: " ++ plain ++ ". The GGUF metadata is not a Gemma 3 export; convert the " ++
      "checkpoint with gemma3 architecture metadata."
  else plain

end WeightsFault

/-- Why a model cannot be loaded. -/
inductive LoadError where
  /-- The weights file cannot be opened. -/
  | cannotOpen (path : String) (error : FileError)
  /-- The weights file does not have the expected format. -/
  | unreadableWeights
  /-- The weights do not make up a model. -/
  | faultyWeights (fault : WeightsFault)
  /-- There is no tokenizer file. -/
  | noTokenizer (path : String)
  /-- The tokenizer file does not have the expected format. -/
  | unreadableTokenizer
  /-- The tokenizer lacks a piece that every model needs. -/
  | noPiece (piece : String)
  /-- The tokenizer lacks a turn marker and the model is trained with them. -/
  | noTurnMarkers

/-- The text of a load error. Why a file cannot be read is not told. -/
def LoadError.message : LoadError → String
  | cannotOpen path error => s!"Failed to open model file {path}: " ++ error.message
  | unreadableWeights => "Not a readable GGUF file: "
  | faultyWeights fault => fault.message
  | noTokenizer path => s!"Tokenizer not found at {path} (fail-fast policy)."
  | unreadableTokenizer => "<unreadable tokenizer>"
  | noPiece piece => s!"Tokenizer/model incompatibility: Gemma requires {piece}."
  | noTurnMarkers =>
    "Tokenizer/model incompatibility: instruction-tuned Gemma requires <start_of_turn> and " ++
      "<end_of_turn>."

end PromptLoop
