import PromptLoop.Config.Fields
import PromptLoop.Error
import PromptLoop.Model.Variant
import PromptLoop.Number.Shortest

/-!
# Settings

Settings are a configuration that a session can start with: every field has a value, and the values fit
each other and the model. `Settings.ofFields` takes the values that are set, fills in the defaults and
checks; the first check that fails is the error. The default number of threads depends on the machine
and is given from outside.
-/

namespace PromptLoop

/-- Where the model and its tokenizer are. -/
structure LoaderSettings where
  /-- The tokenizer file. -/
  tokenizer : String
  /-- The weights file. -/
  weights : String
  /-- The model variant. -/
  model : ModelVariant
  /-- The repository to fetch a missing tokenizer file from. -/
  hfRepo : Option String
  deriving DecidableEq, Repr

/-- How text is generated. -/
structure InferenceSettings where
  /-- The most tokens that a session may hold. -/
  maxTokens : Nat
  /-- The most tokens generated in one turn. -/
  maxGeneratedTokens : Nat
  /-- The sampling temperature. -/
  temperature : Single
  /-- The number of most likely tokens that sampling considers. -/
  topK : Nat
  /-- Whether random numbers come from the fixed seed. -/
  deterministic : Bool
  /-- Whether the context is kept from turn to turn. -/
  multiturn : Bool
  deriving DecidableEq, Repr

/-- How the program behaves. -/
structure AppSettings where
  /-- The number of worker threads. -/
  numThreads : Nat
  /-- How much is printed. -/
  verbosity : Nat
  deriving DecidableEq, Repr

/-- A configuration that a session can start with. -/
structure Settings where
  /-- The settings about loading. -/
  loader : LoaderSettings
  /-- The settings about generation. -/
  inference : InferenceSettings
  /-- The settings about the program. -/
  app : AppSettings
  deriving DecidableEq, Repr

namespace InferenceSettings

/-- The values of fields that are not set. -/
def default : InferenceSettings where
  maxTokens := 3072
  maxGeneratedTokens := 2048
  temperature := Single.one
  topK := 1
  deterministic := false
  multiturn := false

/-- The values of fields, set or default. -/
def ofFields (f : InferenceFields) : InferenceSettings where
  maxTokens := f.maxTokens.getD default.maxTokens
  maxGeneratedTokens := f.maxGeneratedTokens.getD default.maxGeneratedTokens
  temperature := f.temperature.getD default.temperature
  topK := f.topK.getD default.topK
  deterministic := f.deterministic.getD default.deterministic
  multiturn := f.multiturn.getD default.multiturn

/-- What is wrong with values for a model of a size, if anything is. -/
def fault? (s : InferenceSettings) (size : ModelSize) : Option ConfigError :=
  if size.contextLength < s.maxTokens then some (.maxTokensTooLarge s.maxTokens size.contextLength)
  else if s.maxTokens < s.maxGeneratedTokens then
    some (.generatedExceedsBudget s.maxGeneratedTokens s.maxTokens)
  else if s.maxGeneratedTokens = 0 then some (.outOfRange "max_generated_tokens must be > 0")
  else if ¬ Single.zero < s.temperature then
    some (.outOfRange ("temperature must be > 0, got " ++ s.temperature.toText))
  else if s.topK = 0 then some (.outOfRange "top_k must be >= 1")
  else none

end InferenceSettings

namespace AppSettings

/-- How much is printed unless configured. -/
def defaultVerbosity : Nat := 1

/-- The values of fields, set or default, given the machine's number of threads. -/
def ofFields (defaultThreads : Nat) (f : AppFields) : AppSettings where
  numThreads := f.numThreads.getD defaultThreads
  verbosity := f.verbosity.getD defaultVerbosity

/-- What is wrong with values, if anything is. -/
def fault? (s : AppSettings) : Option ConfigError :=
  if s.numThreads = 0 then some (.outOfRange "num_threads must be >= 1")
  else if 2 < s.verbosity then
    some (.outOfRange s!"verbosity must be 0, 1 or 2, got {s.verbosity}")
  else none

end AppSettings

namespace LoaderSettings

/-- The value of a field that has no default. -/
def require (flag : String) : Option String → Except ConfigError String
  | some value => .ok value
  | none => .error (.missing flag)

/-- The values of fields. Three of them have no default, and the model label has to name a variant. -/
def ofFields (f : LoaderFields) : Except ConfigError LoaderSettings := do
  let label ← require "model" f.model
  let tokenizer ← require "tokenizer" f.tokenizer
  let weights ← require "compressed_weights" f.weights
  let model ← ModelVariant.parse label
  return ⟨tokenizer, weights, model, f.hfRepo⟩

end LoaderSettings

namespace Settings

/-- The settings of a configuration, or the first thing wrong with it. -/
def ofFields (defaultThreads : Nat) (f : Fields) : Except ConfigError Settings := do
  let loader ← LoaderSettings.ofFields f.loader
  let inference := InferenceSettings.ofFields f.inference
  let app := AppSettings.ofFields defaultThreads f.app
  match (inference.fault? loader.model.size).or app.fault? with
  | some fault => throw fault
  | none => return ⟨loader, inference, app⟩

/-- The settings of a command line over a configuration file, if there is one. -/
def resolve (defaultThreads : Nat) (file : Option Fields) (flags : Fields) :
    Except ConfigError Settings :=
  ofFields defaultThreads (flags.overlay (file.getD Fields.unset))

end Settings

end PromptLoop
