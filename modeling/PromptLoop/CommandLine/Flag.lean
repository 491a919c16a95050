/-!
# Flags

Each flag of the command line sets one field of the configuration, except the one that names a
configuration file. A flag is written as two dashes and its name, which tells it from all others
(`ofName?_name`), and every flag takes a value. A switch may be given without one.
-/

namespace PromptLoop

/-- A flag of the command line. -/
inductive Flag where
  /-- The configuration file. -/
  | config
  /-- The tokenizer file. -/
  | tokenizer
  /-- The weights file. -/
  | weights
  /-- The label of the model variant. -/
  | model
  /-- The repository to fetch a missing tokenizer file from. -/
  | hfRepo
  /-- The most tokens that a session may hold. -/
  | maxTokens
  /-- The most tokens generated in one turn. -/
  | maxGeneratedTokens
  /-- The sampling temperature. -/
  | temperature
  /-- The number of most likely tokens that sampling considers. -/
  | topK
  /-- Whether random numbers come from the fixed seed. -/
  | deterministic
  /-- Whether the context is kept from turn to turn. -/
  | multiturn
  /-- The number of worker threads. -/
  | numThreads
  /-- How much is printed. -/
  | verbosity
  deriving DecidableEq, Repr

namespace Flag

/-- All flags. -/
def all : List Flag :=
  [config, tokenizer, weights, model, hfRepo, maxTokens, maxGeneratedTokens, temperature, topK,
    deterministic, multiturn, numThreads, verbosity]

/-- The name of a flag, without its dashes. -/
def name : Flag → String
  | config => "config"
  | tokenizer => "tokenizer"
  | weights => "compressed_weights"
  | model => "model"
  | hfRepo => "hf_repo"
  | maxTokens => "max_tokens"
  | maxGeneratedTokens => "max_generated_tokens"
  | temperature => "temperature"
  | topK => "top_k"
  | deterministic => "deterministic"
  | multiturn => "multiturn"
  | numThreads => "num_threads"
  | verbosity => "verbosity"

/-- Another name that is understood, but not shown. -/
def alias? : Flag → Option String
  | weights => some "weights"
  | _ => none

/-- The flag of a name. -/
def ofName? (name : String) : Option Flag :=
  all.find? fun flag => flag.name == name || flag.alias? == some name

/-- The value of a flag that is given without one. -/
def impliedValue? : Flag → Option String
  | deterministic | multiturn => some "true"
  | _ => none

/-- Whether the value of a flag is a number. -/
def isNumeric : Flag → Bool
  | maxTokens | maxGeneratedTokens | temperature | topK | numThreads | verbosity => true
  | config | tokenizer | weights | model | hfRepo | deterministic | multiturn => false

theorem mem_all (flag : Flag) : flag ∈ all := by
  cases flag <;> simp [all]

/-- The name of a flag leads back to the flag. -/
theorem ofName?_name (flag : Flag) : ofName? flag.name = some flag := by
  cases flag <;> decide

end Flag

end PromptLoop
