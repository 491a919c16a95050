import PromptLoop.Number.Single

/-!
# Configuration fields

A source of configuration, a file or a command line, sets some of twelve fields and leaves the others
unset. Laying one source over another takes each field from the upper source if it is set there and
from the lower one otherwise. Overlaying is associative and idempotent, and the source that sets
nothing is neutral on both sides.
-/

namespace PromptLoop

/-- The largest count that a field can hold. -/
def largestCount : Nat := UInt64.size - 1

/-- The largest level that a field can hold. -/
def largestLevel : Nat := 255

/-- Where the model and its tokenizer are. -/
structure LoaderFields where
  /-- The tokenizer file. -/
  tokenizer : Option String := none
  /-- The weights file. -/
  weights : Option String := none
  /-- The label of the model variant. -/
  model : Option String := none
  /-- The repository to fetch a missing tokenizer file from. -/
  hfRepo : Option String := none
  deriving DecidableEq, Repr

/-- How text is generated. -/
structure InferenceFields where
  /-- The most tokens that a session may hold. -/
  maxTokens : Option Nat := none
  /-- The most tokens generated in one turn. -/
  maxGeneratedTokens : Option Nat := none
  /-- The sampling temperature. -/
  temperature : Option Single := none
  /-- The number of most likely tokens that sampling considers. -/
  topK : Option Nat := none
  /-- Whether random numbers come from the fixed seed. -/
  deterministic : Option Bool := none
  /-- Whether the context is kept from turn to turn. -/
  multiturn : Option Bool := none
  deriving DecidableEq, Repr

/-- How the program behaves. -/
structure AppFields where
  /-- The number of worker threads. -/
  numThreads : Option Nat := none
  /-- How much is printed. -/
  verbosity : Option Nat := none
  deriving DecidableEq, Repr

/-- The fields that one source of configuration sets. -/
structure Fields where
  /-- The fields about loading. -/
  loader : LoaderFields := {}
  /-- The fields about generation. -/
  inference : InferenceFields := {}
  /-- The fields about the program. -/
  app : AppFields := {}
  deriving DecidableEq, Repr

namespace Fields

/-- The source that sets nothing. -/
def unset : Fields := {}

/-- One source laid over another. -/
def overlay (upper lower : Fields) : Fields where
  loader :=
    { tokenizer := upper.loader.tokenizer.or lower.loader.tokenizer
      weights := upper.loader.weights.or lower.loader.weights
      model := upper.loader.model.or lower.loader.model
      hfRepo := upper.loader.hfRepo.or lower.loader.hfRepo }
  inference :=
    { maxTokens := upper.inference.maxTokens.or lower.inference.maxTokens
      maxGeneratedTokens := upper.inference.maxGeneratedTokens.or lower.inference.maxGeneratedTokens
      temperature := upper.inference.temperature.or lower.inference.temperature
      topK := upper.inference.topK.or lower.inference.topK
      deterministic := upper.inference.deterministic.or lower.inference.deterministic
      multiturn := upper.inference.multiturn.or lower.inference.multiturn }
  app :=
    { numThreads := upper.app.numThreads.or lower.app.numThreads
      verbosity := upper.app.verbosity.or lower.app.verbosity }

@[simp] theorem overlay_unset (f : Fields) : f.overlay unset = f := by
  simp [overlay, unset]

@[simp] theorem unset_overlay (f : Fields) : unset.overlay f = f := by
  simp [overlay, unset]

@[simp] theorem overlay_self (f : Fields) : f.overlay f = f := by
  simp [overlay]

theorem overlay_assoc (f g h : Fields) : (f.overlay g).overlay h = f.overlay (g.overlay h) := by
  simp [overlay, Option.or_assoc]

end Fields

end PromptLoop
