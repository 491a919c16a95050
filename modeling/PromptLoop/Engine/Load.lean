import PromptLoop.Config.Settings
import PromptLoop.Engine.Checkpoint
import PromptLoop.Engine.Generate
import PromptLoop.Tokenizer.File

/-!
# Loading a model and its tokenizer

Loading opens the weights, looks for a tokenizer file and checks that the tokenizer has the pieces that
the model depends on. The tokenizer file is the configured one if it exists, else the one of the usual
name beside the weights, else the one of the usual name in the working directory.

Fetching a tokenizer file from a repository is not covered: without a local file, loading fails.
-/

namespace PromptLoop

/-- The pieces that a model depends on. -/
structure SpecialTokens where
  /-- The token for the beginning of a text. -/
  bos : Token
  /-- The end-of-sequence token. -/
  eos : Token
  /-- The token that starts a part of a turn. -/
  startOfTurn : Option Token
  /-- The token that ends a part of a turn. -/
  endOfTurn : Option Token
  deriving DecidableEq, Repr

namespace SpecialTokens

/-- The piece for the beginning of a text. -/
def bosPiece : String := "<bos>"

/-- The piece for the end of a sequence. -/
def eosPiece : String := "<eos>"

/-- The piece that starts a part of a turn. -/
def startOfTurnPiece : String := "<start_of_turn>"

/-- The piece that ends a part of a turn. -/
def endOfTurnPiece : String := "<end_of_turn>"

/-- Looks up the pieces in a tokenizer. -/
def ofTokenizer (t : TrainedTokenizer) : Except LoadError SpecialTokens :=
  match t.token? bosPiece, t.token? eosPiece with
  | some bos, some eos => .ok ⟨bos, eos, t.token? startOfTurnPiece, t.token? endOfTurnPiece⟩
  | none, _ => .error (.noPiece bosPiece)
  | some _, none => .error (.noPiece eosPiece)

/-- Checks the turn markers against the training of a model. -/
def checkTurnMarkers (s : SpecialTokens) (training : Training) : Except LoadError Unit :=
  match training, s.startOfTurn, s.endOfTurn with
  | .pretrained, _, _ => .ok ()
  | .instructionTuned, some _, some _ => .ok ()
  | .instructionTuned, _, _ => .error .noTurnMarkers

end SpecialTokens

/-- A model that is ready to answer, with its tokenizer. -/
structure LoadedEngine where
  /-- The model. -/
  model : Model
  /-- The tokenizer. -/
  trained : TrainedTokenizer
  /-- The pieces that the model depends on. -/
  special : SpecialTokens

namespace LoadedEngine

/-- The engine, with a way to select the likeliest tokens. -/
def engine (l : LoadedEngine) (selection : Selection) : Engine := ⟨l.model, l.special.eos, selection⟩

/-- The tokenizer, decoding one token at a time. -/
def tokenizer (l : LoadedEngine) : Tokenizer StreamDecoder := l.trained.tokenizer

/-- The usual name of a tokenizer file. -/
def tokenizerName : String := "tokenizer.json"

/-- Opens a weights file. -/
def openWeights (files : FileSystem) (path : String) : Except LoadError Model :=
  match files.find path with
  | .error e => .error (.cannotOpen path e)
  | .ok (.file (.weights file)) => (Checkpoint.modelOf file).mapError .faultyWeights
  | .ok (.file (.bytes data)) =>
    match GgufFile.read? data with
    | some g => (Checkpoint.model g).mapError .faultyWeights
    | none => .error .unreadableWeights
  | .ok _ => .error .unreadableWeights

/-- Where a tokenizer file may be, given the configured one and the weights file, best first. -/
def tokenizerPaths (configured weights : String) : List String :=
  [configured, siblingPath weights tokenizerName, tokenizerName]

/-- The tokenizer file to use. -/
def tokenizerPath? (files : FileSystem) (configured weights : String) : Option String :=
  (tokenizerPaths configured weights).find? files.leadsAnywhere

/-- The tokenizer that a path leads to. -/
def readTokenizer? (files : FileSystem) (path : String) : Option TrainedTokenizer :=
  match files.find path with
  | .ok (.file (.tokenizer vocabulary)) => some vocabulary.trained
  | .ok (.file (.bytes data)) => TokenizerFile.read? data
  | _ => none

/-- Opens a tokenizer file. -/
def openTokenizer (files : FileSystem) (configured weights : String) : Except LoadError TrainedTokenizer :=
  match tokenizerPath? files configured weights with
  | none => .error (.noTokenizer configured)
  | some path =>
    match readTokenizer? files path with
    | some trained => .ok trained
    | none => .error .unreadableTokenizer

/-- Loads a model and its tokenizer. -/
def load (files : FileSystem) (settings : LoaderSettings) : Except LoadError LoadedEngine := do
  let model ← openWeights files settings.weights
  let trained ← openTokenizer files settings.tokenizer settings.weights
  let special ← SpecialTokens.ofTokenizer trained
  special.checkTurnMarkers settings.model.training
  return ⟨model, trained, special⟩

end LoadedEngine

end PromptLoop
