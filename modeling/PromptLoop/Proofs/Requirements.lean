import PromptLoop.Config.Settings
import PromptLoop.Proofs.Labels
import PromptLoop.Proofs.Singles
import PromptLoop.Threads

/-!
# What a configuration has to satisfy

A configuration is accepted exactly if it satisfies eleven requirements; else the first one that it violates is
reported (`ofFields_exact`). Requirements are stated one by one, about the fields and the values that stand in for
those that are not set, and none builds on another (`Violates`). They come in the order in which they are checked:
what has to be set, what the label of the model has to name, how the numbers of tokens fit the model and each other,
and then each value by itself.

The walk through the checks carries one invariant, that the requirements before some place are met (`Meets`). A check
that fails reports the requirement at that place, a check that passes moves on to the next one (`Meets.check`).
-/

namespace PromptLoop

namespace Single

/-- A number is above zero. Infinity is, and a NaN is not. -/
def IsPositive (x : Single) : Prop := x.isNaN = false ∧ x.isNegative = false ∧ 0 < x.code

theorem zero_lt_iff {x : Single} : zero < x ↔ x.IsPositive := by
  constructor
  · intro above
    have number := (number_of_le (le_of_lt above)).2
    rw [lt_iff (by decide) number, show zero.order = 0 by decide] at above
    have sign : x.isNegative = false := by
      by_contra negative
      rw [order, Format.order, if_pos (Bool.eq_true_of_not_eq_false negative)] at above
      omega
    rw [order_eq_code sign] at above
    exact ⟨number, sign, by omega⟩
  · rintro ⟨number, sign, positive⟩
    rw [lt_iff (by decide) number, show zero.order = 0 by decide, order_eq_code sign]
    omega

end Single

/-! ### Requirements -/

/-- A label is set that names a variant. -/
def LoaderFields.NamesVariant (f : LoaderFields) (v : ModelVariant) : Prop :=
  ∃ label, f.model = some label ∧ ModelVariant.parse label = .ok v

theorem LoaderFields.NamesVariant.unique {f : LoaderFields} {v w : ModelVariant} (h : f.NamesVariant v)
    (h' : f.NamesVariant w) : v = w := by
  obtain ⟨label, set, parsed⟩ := h
  obtain ⟨label', set', parsed'⟩ := h'
  cases set.symm.trans set'
  exact Except.ok.inj (parsed.symm.trans parsed')

/-- What a configuration has to satisfy. -/
inductive Requirement where
  /-- A model is set. -/
  | modelSet
  /-- A tokenizer is set. -/
  | tokenizerSet
  /-- Weights are set. -/
  | weightsSet
  /-- The label of the model names a variant. -/
  | modelKnown
  /-- A session fits into the context of the model. -/
  | withinContext
  /-- What a turn generates fits into a session. -/
  | withinBudget
  /-- A turn may generate something. -/
  | generates
  /-- The temperature is positive. -/
  | temperature
  /-- Sampling considers some token. -/
  | topK
  /-- There is a worker. -/
  | numThreads
  /-- The level of talk is one of three. -/
  | verbosity
  deriving DecidableEq

namespace Requirement

/-- The requirements, in the order in which they are checked. -/
def all : List Requirement :=
  [modelSet, tokenizerSet, weightsSet, modelKnown, withinContext, withinBudget, generates, temperature, topK,
    numThreads, verbosity]

/-- How many requirements are checked before one. -/
def place (r : Requirement) : Nat := all.idxOf r

theorem mem_all (r : Requirement) : r ∈ all := by
  cases r <;> decide

theorem place_injective {q r : Requirement} (same : q.place = r.place) : q = r :=
  (List.idxOf_inj (mem_all q)).mp same

end Requirement

/-- Fields violate a requirement, given the values of those that have a default, and an error reports it. -/
def Violates (f : LoaderFields) (i : InferenceSettings) (a : AppSettings) : Requirement → ConfigError → Prop
  | .modelSet, e => f.model = none ∧ e = .missing "model"
  | .tokenizerSet, e => f.tokenizer = none ∧ e = .missing "tokenizer"
  | .weightsSet, e => f.weights = none ∧ e = .missing "compressed_weights"
  | .modelKnown, e =>
    ∃ label, f.model = some label ∧ (∀ v, ¬ ModelVariant.parse label = .ok v) ∧ e = .unknownModel label
  | .withinContext, e =>
    ∃ v, f.NamesVariant v ∧ v.size.contextLength < i.maxTokens ∧
      e = .maxTokensTooLarge i.maxTokens v.size.contextLength
  | .withinBudget, e =>
    i.maxTokens < i.maxGeneratedTokens ∧ e = .generatedExceedsBudget i.maxGeneratedTokens i.maxTokens
  | .generates, e => i.maxGeneratedTokens = 0 ∧ e = .outOfRange "max_generated_tokens must be > 0"
  | .temperature, e =>
    ¬ i.temperature.IsPositive ∧ e = .outOfRange ("temperature must be > 0, got " ++ i.temperature.toText)
  | .topK, e => i.topK = 0 ∧ e = .outOfRange "top_k must be >= 1"
  | .numThreads, e => a.numThreads = 0 ∧ e = .outOfRange "num_threads must be >= 1"
  | .verbosity, e => 2 < a.verbosity ∧ e = .outOfRange s!"verbosity must be 0, 1 or 2, got {a.verbosity}"

section

variable {f : LoaderFields} {i : InferenceSettings} {a : AppSettings} {e e' : ConfigError} {r : Requirement}

theorem violates_modelKnown {label : String} (set : f.model = some label) (e : ConfigError) :
    Violates f i a .modelKnown e ↔ (∀ v, ¬ ModelVariant.parse label = .ok v) ∧ e = .unknownModel label := by
  simp [Violates, set]

theorem violates_withinContext {v : ModelVariant} (named : f.NamesVariant v) (e : ConfigError) :
    Violates f i a .withinContext e ↔
      v.size.contextLength < i.maxTokens ∧ e = .maxTokensTooLarge i.maxTokens v.size.contextLength := by
  constructor
  · rintro ⟨w, named', above⟩
    rwa [named.unique named']
  · intro above
    exact ⟨v, named, above⟩

theorem violates_temperature (e : ConfigError) :
    Violates f i a .temperature e ↔
      ¬ Single.zero < i.temperature ∧
        e = .outOfRange ("temperature must be > 0, got " ++ i.temperature.toText) := by
  rw [Single.zero_lt_iff]
  exact .rfl

/-- A requirement is reported in one way. -/
theorem Violates.unique (h : Violates f i a r e) (h' : Violates f i a r e') : e = e' := by
  cases r with
  | modelKnown =>
    obtain ⟨label, set, -, rfl⟩ := h
    obtain ⟨label', set', -, rfl⟩ := h'
    cases set.symm.trans set'
    rfl
  | withinContext =>
    obtain ⟨v, named, -, rfl⟩ := h
    obtain ⟨w, named', -, rfl⟩ := h'
    cases named.unique named'
    rfl
  | _ => exact h.2.trans h'.2.symm

/-! ### The walk through the checks -/

/-- The requirements before a place are met. -/
def Meets (f : LoaderFields) (i : InferenceSettings) (a : AppSettings) (place : Nat) : Prop :=
  ∀ r : Requirement, r.place < place → ∀ e, ¬ Violates f i a r e

/-- An error reports the first requirement that is violated. -/
def Reports (f : LoaderFields) (i : InferenceSettings) (a : AppSettings) (e : ConfigError) : Prop :=
  ∃ r : Requirement, Violates f i a r e ∧ Meets f i a r.place

/-- There is one first violation. -/
theorem Reports.unique (h : Reports f i a e) (h' : Reports f i a e') : e = e' := by
  obtain ⟨r, violated, meets⟩ := h
  obtain ⟨q, violated', meets'⟩ := h'
  rcases Nat.lt_trichotomy r.place q.place with before | same | after
  · exact absurd violated (meets' r before e)
  · cases Requirement.place_injective same
    exact violated.unique violated'
  · exact absurd violated' (meets q after e')

theorem Meets.start : Meets f i a 0 := by
  intro r before
  cases before

/-- A requirement that has been checked is either the first that is violated or met. -/
theorem Meets.check {bad : Prop} (meets : Meets f i a r.place)
    (checked : ∀ e', Violates f i a r e' ↔ bad ∧ e' = e) :
    bad ∧ Reports f i a e ∨ ¬ bad ∧ Meets f i a (r.place + 1) := by
  by_cases h : bad
  · exact .inl ⟨h, r, (checked e).mpr ⟨h, rfl⟩, meets⟩
  · refine .inr ⟨h, fun q before e' violated => ?_⟩
    by_cases same : q = r
    · subst same
      exact h ((checked e').mp violated).1
    · have apart : q.place ≠ r.place := fun places => same (Requirement.place_injective places)
      exact meets q (by omega) e' violated

/-- A row of checks, from the requirement at one place to that at another. -/
def Walks (f : LoaderFields) (i : InferenceSettings) (a : AppSettings) (start stop : Nat)
    (fault : Option ConfigError) : Prop :=
  Meets f i a start → fault = none ∧ Meets f i a stop ∨ ∃ e, fault = some e ∧ Reports f i a e

namespace Walks

variable {start middle stop : Nat} {fault fault' : Option ConfigError}

theorem done : Walks f i a start start none := fun meets => .inl ⟨rfl, meets⟩

/-- A check before a row of checks. -/
theorem check {bad : Prop} [Decidable bad] (r : Requirement) (checked : ∀ e', Violates f i a r e' ↔ bad ∧ e' = e)
    (walks : Walks f i a (r.place + 1) stop fault) : Walks f i a r.place stop (if bad then some e else fault) := by
  intro meets
  rcases meets.check checked with ⟨h, reports⟩ | ⟨h, meets⟩
  · exact .inr ⟨e, if_pos h, reports⟩
  · rw [if_neg h]
    exact walks meets

/-- One row of checks after another. -/
theorem or (walks : Walks f i a start middle fault) (walks' : Walks f i a middle stop fault') :
    Walks f i a start stop (fault.or fault') := by
  intro meets
  rcases walks meets with ⟨rfl, meets⟩ | ⟨e, rfl, reports⟩
  · exact walks' meets
  · exact .inr ⟨e, rfl, reports⟩

end Walks

theorem InferenceSettings.fault?_walks {v : ModelVariant} (named : f.NamesVariant v) :
    Walks f i a Requirement.withinContext.place Requirement.numThreads.place (i.fault? v.size) := by
  unfold fault?
  refine .check .withinContext (violates_withinContext named) ?_
  refine .check .withinBudget (fun _ => .rfl) ?_
  refine .check .generates (fun _ => .rfl) ?_
  refine .check .temperature violates_temperature ?_
  refine .check .topK (fun _ => .rfl) ?_
  exact .done

theorem AppSettings.fault?_walks : Walks f i a Requirement.numThreads.place Requirement.all.length a.fault? := by
  unfold fault?
  refine .check .numThreads (fun _ => .rfl) ?_
  refine .check .verbosity (fun _ => .rfl) ?_
  exact .done

/-- A computation that makes checks on its way to a value of which something holds. -/
def Leads {α : Type} (f : LoaderFields) (i : InferenceSettings) (a : AppSettings) (start stop : Nat)
    (made : Except ConfigError α) (holds : α → Prop) : Prop :=
  Meets f i a start →
    (∃ x, made = .ok x ∧ holds x ∧ Meets f i a stop) ∨ ∃ e, made = .error e ∧ Reports f i a e

namespace Leads

variable {α β : Type} {start middle stop : Nat} {made : Except ConfigError α} {holds : α → Prop} {holds' : β → Prop}

theorem pure {x : α} (h : holds x) : Leads f i a start start (.ok x) holds := fun meets => .inl ⟨x, rfl, h, meets⟩

theorem bind {next : α → Except ConfigError β} (leads : Leads f i a start middle made holds)
    (leads' : ∀ x, holds x → Leads f i a middle stop (next x) holds') :
    Leads f i a start stop (made >>= next) holds' := by
  intro meets
  rcases leads meets with ⟨x, rfl, h, meets⟩ | ⟨e, rfl, reports⟩
  · exact leads' x h meets
  · exact .inr ⟨e, rfl, reports⟩

theorem require {flag : String} {field : Option String} (r : Requirement)
    (checked : ∀ e', Violates f i a r e' ↔ field = none ∧ e' = .missing flag) :
    Leads f i a r.place (r.place + 1) (LoaderSettings.require flag field) (field = some ·) := by
  intro meets
  rcases meets.check checked with ⟨rfl, reports⟩ | ⟨set, meets⟩
  · exact .inr ⟨_, rfl, reports⟩
  · obtain ⟨value, rfl⟩ := Option.ne_none_iff_exists'.mp set
    exact .inl ⟨value, rfl, rfl, meets⟩

theorem parse {label : String} (set : f.model = some label) :
    Leads f i a Requirement.modelKnown.place Requirement.withinContext.place (ModelVariant.parse label)
      f.NamesVariant := by
  intro meets
  rcases meets.check (violates_modelKnown set) with ⟨unknown, reports⟩ | ⟨known, meets⟩
  · exact .inr ⟨_, ModelVariant.parse_eq_error.mpr ⟨rfl, unknown⟩, reports⟩
  · obtain ⟨v, parsed⟩ := not_forall_not.mp known
    exact .inl ⟨v, parsed, ⟨label, set, parsed⟩, meets⟩

end Leads

/-- Loader settings are what loader fields say. -/
structure LoaderFields.Gives (f : LoaderFields) (s : LoaderSettings) : Prop where
  /-- The tokenizer is set. -/
  tokenizer : f.tokenizer = some s.tokenizer
  /-- The weights are set. -/
  weights : f.weights = some s.weights
  /-- The model is set by its label. -/
  model : f.NamesVariant s.model
  /-- The repository is set or not. -/
  hfRepo : s.hfRepo = f.hfRepo

theorem LoaderFields.Gives.unique {s t : LoaderSettings} (h : f.Gives s) (h' : f.Gives t) : s = t := by
  obtain ⟨tokenizer, weights, model, hfRepo⟩ := s
  obtain ⟨tokenizer', weights', model', hfRepo'⟩ := t
  cases h.tokenizer.symm.trans h'.tokenizer
  cases h.weights.symm.trans h'.weights
  cases h.model.unique h'.model
  cases h.hfRepo.trans h'.hfRepo.symm
  rfl

theorem LoaderSettings.ofFields_leads :
    Leads f i a Requirement.modelSet.place Requirement.withinContext.place (ofFields f) f.Gives := by
  unfold ofFields
  refine .bind (.require .modelSet fun _ => .rfl) fun label model => ?_
  refine .bind (.require .tokenizerSet fun _ => .rfl) fun tokenizer hasTokenizer => ?_
  refine .bind (.require .weightsSet fun _ => .rfl) fun weights hasWeights => ?_
  refine .bind (.parse model) fun v named => ?_
  exact .pure ⟨hasTokenizer, hasWeights, named, rfl⟩

end

/-! ### Settings -/

/-- Values of the fields that have a default, set or default. -/
structure Fills (defaultThreads : Nat) (f : Fields) (i : InferenceSettings) (a : AppSettings) : Prop where
  maxTokens : i.maxTokens = f.inference.maxTokens.getD 3072
  maxGeneratedTokens : i.maxGeneratedTokens = f.inference.maxGeneratedTokens.getD 2048
  temperature : i.temperature = f.inference.temperature.getD Single.one
  topK : i.topK = f.inference.topK.getD 1
  deterministic : i.deterministic = f.inference.deterministic.getD false
  multiturn : i.multiturn = f.inference.multiturn.getD false
  numThreads : a.numThreads = f.app.numThreads.getD defaultThreads
  verbosity : a.verbosity = f.app.verbosity.getD 1

theorem fills_ofFields (defaultThreads : Nat) (f : Fields) :
    Fills defaultThreads f (.ofFields f.inference) (.ofFields defaultThreads f.app) :=
  ⟨rfl, rfl, rfl, rfl, rfl, rfl, rfl, rfl⟩

namespace Settings

/-- The values of settings are such that a session can run with them. -/
structure Fits (s : Settings) : Prop where
  /-- A session fits into the context of the model. -/
  withinContext : s.inference.maxTokens ≤ s.loader.model.size.contextLength
  /-- What a turn generates fits into a session. -/
  withinBudget : s.inference.maxGeneratedTokens ≤ s.inference.maxTokens
  /-- A turn may generate something. -/
  generates : 1 ≤ s.inference.maxGeneratedTokens
  /-- The temperature is positive. -/
  temperature : s.inference.temperature.IsPositive
  /-- Sampling considers some token. -/
  topK : 1 ≤ s.inference.topK
  /-- There is a worker. -/
  numThreads : 1 ≤ s.app.numThreads
  /-- The level of talk is one of three. -/
  verbosity : s.app.verbosity ≤ 2

variable {f : LoaderFields} {s : Settings}

/-- Settings whose values fit violate no requirement. -/
theorem Fits.not_violates (fits : s.Fits) (gives : f.Gives s.loader) (r : Requirement) (e : ConfigError) :
    ¬ Violates f s.inference s.app r e := by
  intro violated
  cases r with
  | modelSet =>
    obtain ⟨label, set, -⟩ := gives.model
    simp [violated.1] at set
  | tokenizerSet => cases violated.1.symm.trans gives.tokenizer
  | weightsSet => cases violated.1.symm.trans gives.weights
  | modelKnown =>
    obtain ⟨label, set, unknown, -⟩ := violated
    obtain ⟨label', set', parsed⟩ := gives.model
    cases set.symm.trans set'
    exact unknown _ parsed
  | withinContext =>
    have above := ((violates_withinContext gives.model e).mp violated).1
    exact absurd above (not_lt.mpr fits.withinContext)
  | withinBudget => exact absurd violated.1 (not_lt.mpr fits.withinBudget)
  | generates => exact absurd violated.1 (Nat.one_le_iff_ne_zero.mp fits.generates)
  | temperature => exact violated.1 fits.temperature
  | topK => exact absurd violated.1 (Nat.one_le_iff_ne_zero.mp fits.topK)
  | numThreads => exact absurd violated.1 (Nat.one_le_iff_ne_zero.mp fits.numThreads)
  | verbosity => exact absurd violated.1 (not_lt.mpr fits.verbosity)

/-- Settings that violate no requirement fit. -/
theorem fits_of_meets (gives : f.Gives s.loader) (meets : Meets f s.inference s.app Requirement.all.length) :
    s.Fits := by
  have met (r : Requirement) (e : ConfigError) : ¬ Violates f s.inference s.app r e :=
    meets r (List.idxOf_lt_length_of_mem (Requirement.mem_all r)) e
  constructor
  · exact not_lt.mp fun above => met .withinContext _ ⟨_, gives.model, above, rfl⟩
  · exact not_lt.mp fun above => met .withinBudget _ ⟨above, rfl⟩
  · exact Nat.one_le_iff_ne_zero.mpr fun nothing => met .generates _ ⟨nothing, rfl⟩
  · exact not_not.mp fun low => met .temperature _ ⟨low, rfl⟩
  · exact Nat.one_le_iff_ne_zero.mpr fun nothing => met .topK _ ⟨nothing, rfl⟩
  · exact Nat.one_le_iff_ne_zero.mpr fun nothing => met .numThreads _ ⟨nothing, rfl⟩
  · exact not_lt.mp fun above => met .verbosity _ ⟨above, rfl⟩

theorem ofFields_leads (defaultThreads : Nat) (f : Fields) :
    Leads f.loader (.ofFields f.inference) (.ofFields defaultThreads f.app) 0 Requirement.all.length
      (ofFields defaultThreads f) fun s =>
        f.loader.Gives s.loader ∧ s.inference = .ofFields f.inference ∧ s.app = .ofFields defaultThreads f.app := by
  unfold ofFields
  refine .bind LoaderSettings.ofFields_leads fun loader gives meets => ?_
  dsimp only
  rcases (InferenceSettings.fault?_walks gives.model).or AppSettings.fault?_walks meets with
    ⟨none, meets⟩ | ⟨e, some, reports⟩
  · rw [none]
    exact .inl ⟨_, rfl, ⟨gives, rfl, rfl⟩, meets⟩
  · rw [some]
    exact .inr ⟨e, rfl, reports⟩

theorem ofFields_eq_ok_iff {defaultThreads : Nat} {f : Fields} :
    ofFields defaultThreads f = .ok s ↔
      f.loader.Gives s.loader ∧ s.inference = .ofFields f.inference ∧ s.app = .ofFields defaultThreads f.app ∧
        s.Fits := by
  rcases ofFields_leads defaultThreads f .start with
    ⟨t, made, ⟨gives, inference, app⟩, meets⟩ | ⟨e, failed, r, violated, -⟩
  · rw [← inference, ← app] at meets ⊢
    rw [made]
    constructor
    · rintro ⟨⟩
      exact ⟨gives, rfl, rfl, fits_of_meets gives meets⟩
    · rintro ⟨gives', inference', app', -⟩
      obtain ⟨loader', inference', app'⟩ := s
      cases gives.unique gives'
      cases inference'
      cases app'
      rfl
  · rw [failed]
    constructor
    · rintro ⟨⟩
    · rintro ⟨gives, inference, app, fits⟩
      rw [← inference, ← app] at violated
      exact absurd violated (fits.not_violates gives r e)

theorem ofFields_eq_error_iff {defaultThreads : Nat} {f : Fields} {e : ConfigError} :
    ofFields defaultThreads f = .error e ↔
      Reports f.loader (.ofFields f.inference) (.ofFields defaultThreads f.app) e := by
  rcases ofFields_leads defaultThreads f .start with ⟨s, made, -⟩ | ⟨e', failed, reports⟩
  · obtain ⟨gives, inference, app, fits⟩ := ofFields_eq_ok_iff.mp made
    rw [made, ← inference, ← app]
    constructor
    · rintro ⟨⟩
    · rintro ⟨r, violated, -⟩
      exact absurd violated (fits.not_violates gives r e)
  · rw [failed]
    constructor
    · rintro ⟨⟩
      exact reports
    · intro reports'
      rw [reports.unique reports']

/-- The values of fields that are not set fit every model, on every machine. -/
theorem fits_unset (cores : Nat) (loader : LoaderSettings) :
    Fits ⟨loader, .ofFields {}, .ofFields (Threads.defaultWorkers cores) {}⟩ where
  withinContext := by
    show 3072 ≤ loader.model.size.contextLength
    cases loader.model.size <;> decide
  withinBudget := show 2048 ≤ 3072 by decide
  generates := show 1 ≤ 2048 by decide
  temperature := show Single.one.IsPositive from ⟨by decide, by decide, by decide⟩
  topK := show 1 ≤ 1 by decide
  numThreads := by
    show 1 ≤ min (max (cores - 2) 1) 18
    omega
  verbosity := show 1 ≤ 2 by decide

/-- A model, a tokenizer and weights are all that has to be set. -/
theorem ofFields_loader {cores : Nat} {s : LoaderSettings} (gives : f.Gives s) :
    ofFields (Threads.defaultWorkers cores) { loader := f } =
      .ok ⟨s, .ofFields {}, .ofFields (Threads.defaultWorkers cores) {}⟩ :=
  ofFields_eq_ok_iff.mpr ⟨gives, rfl, rfl, fits_unset cores s⟩

/-- **What a configuration has to satisfy.** With the values that are set or default, a configuration is accepted
exactly if it violates no requirement; the settings are then what its fields say, with those values, and they fit.
Otherwise the error reports the first requirement that it violates. -/
theorem ofFields_exact (defaultThreads : Nat) (f : Fields) :
    ∃ i a, Fills defaultThreads f i a ∧
      ((∃ s, ofFields defaultThreads f = .ok s) ↔ ∀ r e, ¬ Violates f.loader i a r e) ∧
      (∀ s, ofFields defaultThreads f = .ok s ↔
        f.loader.Gives s.loader ∧ s.inference = i ∧ s.app = a ∧ s.Fits) ∧
      ∀ e, ofFields defaultThreads f = .error e ↔
        ∃ r : Requirement, Violates f.loader i a r e ∧
          ∀ q : Requirement, q.place < r.place → ∀ e', ¬ Violates f.loader i a q e' := by
  refine ⟨_, _, fills_ofFields defaultThreads f, ?_, fun s => ofFields_eq_ok_iff, fun e => ofFields_eq_error_iff⟩
  constructor
  · rintro ⟨s, made⟩
    obtain ⟨gives, inference, app, fits⟩ := ofFields_eq_ok_iff.mp made
    rw [← inference, ← app]
    exact fits.not_violates gives
  · intro clean
    cases made : ofFields defaultThreads f with
    | ok s => exact ⟨s, rfl⟩
    | error e =>
      obtain ⟨r, violated, -⟩ := ofFields_eq_error_iff.mp made
      exact absurd violated (clean r e)

example : ofFields 1 { loader := ⟨"t", "w", "1b-it", none⟩, inference := { maxTokens := some 100 } } =
    .error (.generatedExceedsBudget 2048 100) := by decide +kernel

end Settings

end PromptLoop
