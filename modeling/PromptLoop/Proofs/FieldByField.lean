import PromptLoop.CommandLine.Arguments
import Mathlib.Logic.Function.Basic

/-!
# Sources of configuration, field by field

A source of configuration is a function that gives each of the twelve fields a value or none. The function is
`Fields.get?`, and a source is determined by it (`Fields.ext_get?`), so what is said here of a field is said once for
all twelve.

Laying one source over another asks the upper one first (`Layered`, `layered_iff`). So the lower source only counts on
fields that the upper one leaves unset, and sources that agree there may stand for each other (`Agree.overlay`).
-/

namespace PromptLoop

/-- The fields of a configuration. -/
inductive FieldName where
  /-- The tokenizer file. -/
  | tokenizer
  /-- The weights file. -/
  | weights
  /-- The label of the model variant. -/
  | model
  /-- The repository to fetch a missing tokenizer file from. -/
  | hfRepo
  /-- The most tokens that a session may hold. -/
  | maxTokens
  /-- The most tokens generated in one turn. -/
  | maxGeneratedTokens
  /-- The sampling temperature. -/
  | temperature
  /-- The number of most likely tokens that sampling considers. -/
  | topK
  /-- Whether random numbers come from the fixed seed. -/
  | deterministic
  /-- Whether the context is kept from turn to turn. -/
  | multiturn
  /-- The number of worker threads. -/
  | numThreads
  /-- How much is printed. -/
  | verbosity
  deriving DecidableEq, Repr

/-- What the values of a field are. -/
def FieldName.Value : FieldName → Type
  | tokenizer | weights | model | hfRepo => String
  | maxTokens | maxGeneratedTokens | topK | numThreads | verbosity => Nat
  | temperature => Single
  | deterministic | multiturn => Bool

namespace Fields

variable {f g lower lower' upper : Fields} {x y : FieldName}

/-- The value of a field, if the source sets it. -/
def get? (f : Fields) : (x : FieldName) → Option x.Value
  | .tokenizer => f.loader.tokenizer
  | .weights => f.loader.weights
  | .model => f.loader.model
  | .hfRepo => f.loader.hfRepo
  | .maxTokens => f.inference.maxTokens
  | .maxGeneratedTokens => f.inference.maxGeneratedTokens
  | .temperature => f.inference.temperature
  | .topK => f.inference.topK
  | .deterministic => f.inference.deterministic
  | .multiturn => f.inference.multiturn
  | .numThreads => f.app.numThreads
  | .verbosity => f.app.verbosity

/-- The source that gives fields these values. -/
def ofGet? (value : (x : FieldName) → Option x.Value) : Fields where
  loader := ⟨value .tokenizer, value .weights, value .model, value .hfRepo⟩
  inference :=
    ⟨value .maxTokens, value .maxGeneratedTokens, value .temperature, value .topK, value .deterministic,
      value .multiturn⟩
  app := ⟨value .numThreads, value .verbosity⟩

@[simp] theorem get?_ofGet? (value : (x : FieldName) → Option x.Value) (x : FieldName) :
    (ofGet? value).get? x = value x := by
  cases x <;> rfl

@[simp] theorem get?_unset (x : FieldName) : unset.get? x = none := by
  cases x <;> rfl

/-- A source is determined by the values of its fields. -/
theorem ext_get? (same : ∀ x, f.get? x = g.get? x) : f = g := by
  change ofGet? f.get? = ofGet? g.get?
  rw [funext same]

@[simp] theorem get?_overlay (upper lower : Fields) (x : FieldName) :
    (upper.overlay lower).get? x = (upper.get? x).or (lower.get? x) := by
  cases x <;> rfl

/-! ### Layers -/

/-- Each field has the value of the upper source if that sets it, else the value of the lower source if that sets it,
else none. -/
def Layered (upper lower merged : Fields) : Prop :=
  ∀ x, merged.get? x = (upper.get? x).or (lower.get? x)

/-- Layers make exactly one source, the overlay. -/
theorem layered_iff {merged : Fields} : Layered upper lower merged ↔ merged = upper.overlay lower := by
  constructor
  · intro layered
    exact ext_get? fun x => (layered x).trans (get?_overlay ..).symm
  · rintro rfl x
    exact get?_overlay ..

/-- Two sources agree on the fields that a third one leaves unset. -/
def Agree (upper lower lower' : Fields) : Prop :=
  ∀ x, upper.get? x = none → lower.get? x = lower'.get? x

/-- Below a source only the fields count that it leaves unset. -/
theorem Agree.overlay (agree : Agree upper lower lower') : upper.overlay lower = upper.overlay lower' := by
  apply ext_get?
  intro x
  rw [get?_overlay, get?_overlay]
  cases set : upper.get? x with
  | none => rw [agree x set]
  | some _ => rfl

/-- A source without the fields that another one sets. -/
def without (lower upper : Fields) : Fields :=
  ofGet? fun x => if (upper.get? x).isSome then none else lower.get? x

theorem agree_without (upper lower : Fields) : Agree upper lower (lower.without upper) := by
  intro x unset
  simp [without, unset]

/-! ### Setting one field -/

/-- Gives a field a value. -/
def put (f : Fields) (x : FieldName) (value : x.Value) : Fields :=
  ofGet? (Function.update f.get? x (some value))

@[simp] theorem get?_put_self (f : Fields) (x : FieldName) (value : x.Value) :
    (f.put x value).get? x = some value := by
  simp [put]

theorem get?_put_of_ne (f : Fields) (value : x.Value) (other : y ≠ x) : (f.put x value).get? y = f.get? y := by
  simp [put, other]

end Fields

/-! ### Flags of fields -/

namespace FieldName

/-- The flag that sets a field. -/
def flag : FieldName → Flag
  | tokenizer => .tokenizer
  | weights => .weights
  | model => .model
  | hfRepo => .hfRepo
  | maxTokens => .maxTokens
  | maxGeneratedTokens => .maxGeneratedTokens
  | temperature => .temperature
  | topK => .topK
  | deterministic => .deterministic
  | multiturn => .multiturn
  | numThreads => .numThreads
  | verbosity => .verbosity

/-- Reads a value of a field from the text that its flag has. -/
def read? : (x : FieldName) → String → Option x.Value
  | tokenizer | weights | model | hfRepo => fun text => some text
  | maxTokens | maxGeneratedTokens | topK | numThreads => countOfText?
  | temperature => Single.ofText?
  | deterministic | multiturn => truthOfText?
  | verbosity => levelOfText?

theorem flag_injective {x y : FieldName} (same : x.flag = y.flag) : x = y := by
  cases x <;> cases y <;> first | rfl | cases same

/-- Every flag sets a field, but for the one that names the configuration file. -/
theorem exists_flag {flag : Flag} (other : flag ≠ .config) : ∃ x : FieldName, x.flag = flag := by
  cases flag with
  | config => exact absurd rfl other
  | tokenizer => exact ⟨.tokenizer, rfl⟩
  | weights => exact ⟨.weights, rfl⟩
  | model => exact ⟨.model, rfl⟩
  | hfRepo => exact ⟨.hfRepo, rfl⟩
  | maxTokens => exact ⟨.maxTokens, rfl⟩
  | maxGeneratedTokens => exact ⟨.maxGeneratedTokens, rfl⟩
  | temperature => exact ⟨.temperature, rfl⟩
  | topK => exact ⟨.topK, rfl⟩
  | deterministic => exact ⟨.deterministic, rfl⟩
  | multiturn => exact ⟨.multiturn, rfl⟩
  | numThreads => exact ⟨.numThreads, rfl⟩
  | verbosity => exact ⟨.verbosity, rfl⟩

theorem flag_ne_config (x : FieldName) : x.flag ≠ .config := by
  cases x <;> decide

end FieldName

namespace CommandLine

theorem isGiven_flag (line : CommandLine) (x : FieldName) :
    line.isGiven x.flag = (line.fields.get? x).isSome := by
  cases x <;> rfl

/-- A value that has been read is entered as one that is set. -/
theorem map_set {α β : Type} (value : Option α) (enter : Option α → β) :
    (do return some (← value)).map enter = value.map fun v => enter (some v) := by
  cases value <;> rfl

/-- A flag sets its own field and no other. -/
theorem enter?_flag (line : CommandLine) (text : String) (x : FieldName) :
    line.enter? text x.flag =
      (x.read? text).map fun value => { line with fields := line.fields.put x value } := by
  cases x <;> first | rfl | exact map_set _ _

end CommandLine

end PromptLoop
