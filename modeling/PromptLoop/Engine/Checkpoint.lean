import PromptLoop.Engine.Bare
import PromptLoop.Engine.LoadError
import PromptLoop.Gguf.Reader

/-!
# Models in weights files

The metadata of a weights file describe a model by eight numbers, whose keys start with the name of the
architecture. All have to be there, in a fixed order of checking, before any tensor is looked for. The
tensors are looked for in the order in which the model uses them. A file without a tensor of output rows
uses the embeddings for them.

What is covered of a model is that it can be loaded, and what it answers if it has no layers. A model with
layers reads no token.
-/

namespace PromptLoop

namespace Checkpoint

/-! ### Descriptions -/

/-- The keys of the description of a model, in the order of checking. -/
def keys : List String :=
  ["attention.head_count", "attention.head_count_kv", "block_count", "embedding_length",
    "attention.key_length", "attention.value_length", "attention.layer_norm_rms_epsilon",
    "attention.sliding_window"]

/-- The key of the only number of the description that is no count. -/
def epsilonKey : String := "attention.layer_norm_rms_epsilon"

/-- The architecture of the models that the program is meant for. -/
def usualArchitecture : String := "gemma3"

/-- The architectures that a description may be of, the usual one first. -/
def architectures : List String := [usualArchitecture, "gemma2", "gemma", "gemma-embedding"]

/-- The full name of a key. -/
def fullKey (architecture key : String) : String := architecture ++ "." ++ key

/-- The architecture that the first key of the description belongs to. -/
def architecture (g : GgufFile) : String :=
  (architectures.find? fun a => (g.value? (fullKey a "attention.head_count")).isSome).getD
    usualArchitecture

/-- The value of a key of the description. -/
def value (g : GgufFile) (key : String) : Except WeightsFault GgufValue :=
  match g.value? (fullKey (architecture g) key) with
  | some v => .ok v
  | none => .error (.noMetadata (fullKey (architecture g) key))

/-- A count of the description. -/
def count (g : GgufFile) (key : String) : Except WeightsFault Nat := do
  match ← value g key with
  | .unsigned .four n => return n
  | v => throw (.notCount v)

/-- The number of the description that is no count. -/
def epsilon (g : GgufFile) : Except WeightsFault Single := do
  match ← value g epsilonKey with
  | .single x => return x
  | v => throw (.notSingle v)

/-- What the model depends on of its description. -/
structure Description where
  /-- The number of layers. -/
  layers : Nat
  /-- The length of an embedding. -/
  width : Nat
  /-- What keeps the mean square from zero. -/
  epsilon : Single
  deriving DecidableEq, Repr

/-- The description of the model. -/
def describe (g : GgufFile) : Except WeightsFault Description := do
  let _ ← count g "attention.head_count"
  let _ ← count g "attention.head_count_kv"
  let layers ← count g "block_count"
  let width ← count g "embedding_length"
  let _ ← count g "attention.key_length"
  let _ ← count g "attention.value_length"
  let epsilon ← epsilon g
  let _ ← count g "attention.sliding_window"
  return ⟨layers, width, epsilon⟩

/-! ### Tensors -/

/-- The number of places in a file that can be told apart. -/
def placeLimit : Nat := UInt64.size

/-- The tensor of a name. -/
def tensor (g : GgufFile) (name : String) : Except WeightsFault Tensor :=
  match g.tensor? name with
  | none => .error (.noTensor name)
  | some info =>
    let block := info.kind.blockLength
    let elements := elementCount info.shape
    let place := (g.start + info.place) % placeLimit
    if elements % block ≠ 0 then .error (.unevenBlocks elements block)
    else if placeLimit / 2 ≤ place then .error .noPlace
    else
      match Reader.take (elements / block * info.kind.blockBytes) (g.bytes.drop place),
        info.kind.unreadableName? with
      | none, _ => .error .cutOff
      | some _, some kind => .error (.unreadableKind kind)
      | some (bytes, _), none =>
        match info.shape.getLast? with
        | none => .error .noDimensions
        | some last =>
          if last % block = 0 then .ok ⟨info.shape, info.kind, bytes⟩
          else .error (.unevenRows info.shape block)

/-- The tensors of a layer. -/
def layerTensors : List String :=
  ["attn_q", "attn_k", "attn_v", "attn_output", "attn_q_norm", "attn_k_norm", "attn_norm",
    "post_attention_norm", "ffn_norm", "post_ffw_norm", "ffn_gate", "ffn_up", "ffn_down"]

/-- Checks that the tensors of a layer are there. -/
def checkLayer (g : GgufFile) (layer : Nat) : Except WeightsFault Unit :=
  layerTensors.forM fun name => do
    let _ ← tensor g ("blk." ++ toString layer ++ "." ++ name ++ ".weight")

/-- Checks that the tensors of a number of layers are there, from a first one on. -/
def checkLayers (g : GgufFile) : Nat → Nat → Except WeightsFault Unit
  | _, 0 => .ok ()
  | layer, count + 1 => do
    checkLayer g layer
    checkLayers g (layer + 1) count

/-! ### Models -/

/-- The model in a file. -/
def model (g : GgufFile) : Except WeightsFault Model := do
  let d ← describe g
  let embeddings ← tensor g "token_embd.weight"
  let norm ← tensor g "output_norm.weight"
  let outputs := match tensor g "output.weight" with
    | .ok t => t
    | .error _ => embeddings
  checkLayers g 0 d.layers
  if d.layers = 0 then return BareModel.toModel ⟨d.width, d.epsilon, embeddings, norm, outputs⟩
  else return .unreadable

/-! ### Files that are given by what they hold -/

/-- The model of a weights file that is given by what it holds. -/
def modelOf (file : WeightsFile) : Except WeightsFault Model :=
  match keys.find? (some · == file.lacking), file.table with
  | some key, _ => .error (.noMetadata (fullKey usualArchitecture key))
  | none, none => .error (.noTensor "token_embd.weight")
  | none, some table => .ok table.toModel

end Checkpoint

end PromptLoop
