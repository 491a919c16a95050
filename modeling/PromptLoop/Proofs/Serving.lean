import PromptLoop.Proofs.Counting
import PromptLoop.Proofs.Rounds

/-!
# How a text is served

A text that is served either calls the generator or does not. If it does not, nothing of the state
changes but the stage and the counters of the turn (`Uncalled`); if it does, the prompt has tokens and
fits into what is left of the budget, and the state after the turn is the one that the course of the
generator ends in (`Called`). There is nothing else that serving a text can do (`turn_cases`).
-/

namespace PromptLoop

/-- What every event keeps, a course keeps, whatever the generator is. -/
theorem Course.run_keeps {γ σ : Type} {sink : Sink σ} {P : σ → Prop}
    (step : ∀ event rng s, P s → P (sink.receive event rng s).2.2) (course : Course γ) (rng : Rng)
    {s : σ} (holds : P s) : P (course.run sink rng s).sink := by
  induction course generalizing rng s with
  | finish => exact holds
  | draw _ ih => exact ih _ _ holds
  | emit event _ ih => exact ih _ _ (step event rng s holds)

theorem Turn.run_has {γ δ π : Type} {setup : TurnSetup δ π} {settings : InferenceSettings}
    (course : Course γ) (rng : Rng) {t : Turn δ π} (h : t.session.Has settings) :
    (course.run (Turn.sink setup) rng t).sink.session.Has settings := by
  refine Course.run_keeps (P := fun t : Turn δ π => t.session.Has settings) (fun event rng t has => ?_)
    course rng h
  have received : Turn.Received setup.eos event rng t _ _ (t.receive setup event rng).2.2 :=
    Turn.receive_received rfl
  show Session.Has settings (t.receive setup event rng).2.2.session
  rw [received.session]
  exact has.after

namespace Conversation

variable {γ δ π : Type}

/-- The end of the course of a call with a prompt. -/
def courseEnd (c : Conversation γ δ π) (prompt : List Token) (s : ConversationState γ π)
    (console : Console) : CourseEnd γ (Turn δ π) :=
  (c.generator.generate (c.request prompt s.session.contextPos) s.generator).run
    (Turn.sink c.turnSetup) s.rng
    (Turn.start c.turnSetup (s.session.beginTurn prompt.length) .prefilling console s.policy)

/-- How a text was served, from the end of the course of its call. -/
def servedBy (prompt : List Token) (startPos : Nat) (ended : CourseEnd γ (Turn δ π)) : Served γ π where
  result := ended.result
  state := ⟨ended.sink.session, ended.rng,
    match ended.result with
    | .ok () => .turnComplete
    | .error _ => ended.sink.phase,
    ended.generator, ended.sink.policy⟩
  console := ended.sink.console
  call := some ⟨prompt, startPos, ended.sink.receipts.reverse⟩

/-- A text is served without a call of the generator. -/
structure Uncalled (c : Conversation γ δ π) (s : ConversationState γ π) (served : Served γ π) : Prop where
  call : served.call = none
  failure : ∀ error : SessionError, served.result = .error error →
    error = Writer.full ∨ ∃ text, c.tokenizer.encode text = .error error
  contextPos : served.state.session.contextPos = s.session.contextPos
  multiturn : served.state.session.multiturn = s.session.multiturn
  deterministic : served.state.session.deterministic = s.session.deterministic
  rng : served.state.rng = s.rng
  generator : served.state.generator = s.generator
  policy : served.state.policy = s.policy

/-- A text is served by a call of the generator with a prompt. -/
structure Called (c : Conversation γ δ π) (text : String) (s : ConversationState γ π)
    (prompt : Prompt) (ended : CourseEnd γ (Turn δ π)) (served : Served γ π) : Prop where
  built : c.style.build c.tokenizer.encode text s.session.contextPos = .ok prompt
  nonempty : prompt.tokens ≠ []
  fits : prompt.tokens.length ≤ c.settings.maxTokens - s.session.contextPos
  call : served.call = some ⟨prompt.tokens, s.session.contextPos, ended.sink.receipts.reverse⟩
  session : served.state.session = ended.sink.session
  rng : served.state.rng = ended.rng
  generator : served.state.generator = ended.generator
  policy : served.state.policy = ended.sink.policy
  success : served.result = .ok () → ended.result = .ok ()
  failure : ∀ error : SessionError, served.result = .error error →
    error = Writer.full ∨ ended.result = .error error

theorem answer_error {console console' : Console} {text : String} {error : SessionError}
    (h : console.answer text = (.error error, console')) : error = Writer.full := by
  have result : (if console.out.fits (Line.bytes text) then (.ok () : Except SessionError Unit)
      else .error Writer.full) = .error error := congrArg Prod.fst h
  split_ifs at result
  exact (Except.error.inj result).symm

theorem note_error {console console' : Console} {text : String} {error : SessionError}
    (h : console.note text = (.error error, console')) : error = Writer.full := by
  have result : (if console.err.fits (Line.bytes text) then (.ok () : Except SessionError Unit)
      else .error Writer.full) = .error error := congrArg Prod.fst h
  split_ifs at result
  exact (Except.error.inj result).symm

theorem stopOverBudget_error {c : Conversation γ δ π} {s : ConversationState γ π} {console : Console}
    {error : SessionError} (h : (c.stopOverBudget s console).result = .error error) : error = Writer.full := by
  unfold stopOverBudget at h
  rcases answered : console.answer (budgetNotice c.settings.maxTokens) with ⟨error' | ⟨⟩, console'⟩ <;>
    rw [answered] at h
  · cases h
    exact answer_error answered
  · cases h

theorem build_error (c : Conversation γ δ π) {text : String} {position : Nat} {error : SessionError}
    (h : c.style.build c.tokenizer.encode text position = .error error) :
    ∃ text, c.tokenizer.encode text = .error error :=
  ⟨_, PromptStyle.build_eq_error_iff.mp h⟩

theorem summarize_state (c : Conversation γ δ π) (speed : String) (served : Served γ π) :
    (c.summarize speed served).state = served.state ∧ (c.summarize speed served).call = served.call ∧
      ((c.summarize speed served).result = .ok () → served.result = .ok ()) ∧
      ∀ error : SessionError, (c.summarize speed served).result = .error error →
        error = Writer.full ∨ served.result = .error error := by
  unfold summarize
  split
  · next h _ =>
    refine ⟨rfl, rfl, fun _ => h, fun error failed => .inl ?_⟩
    rcases answered : served.console.answer (turnSummary c.verbosity served.state.session speed) with
      ⟨error' | ⟨⟩, console⟩ <;> rw [answered] at failed <;> cases failed
    exact answer_error answered
  · exact ⟨rfl, rfl, id, fun _ => .inr⟩

/-- Everything that serving a text up to the end of its generation can do. -/
inductive Serves (c : Conversation γ δ π) (text : String) (s : ConversationState γ π) (console : Console) :
    Served γ π → Prop
  /-- The text has no encoding. -/
  | unencodable {error : SessionError}
      (failed : c.style.build c.tokenizer.encode text s.session.contextPos = .error error) :
      Serves c text s console ⟨.error error, s.atPhase .prefilling, console, none⟩
  /-- The prompt has no tokens. -/
  | empty {prompt : Prompt}
      (built : c.style.build c.tokenizer.encode text s.session.contextPos = .ok prompt)
      (empty : prompt.tokens = []) :
      Serves c text s console ⟨.ok (), s.atPhase .turnComplete, console, none⟩
  /-- The prompt does not fit, and a note says so if it can be printed. -/
  | refused {prompt : Prompt} {note : String} {result : Except SessionError Unit} {console' : Console}
      {phase : Phase} (built : c.style.build c.tokenizer.encode text s.session.contextPos = .ok prompt)
      (long : c.settings.maxTokens - s.session.contextPos < prompt.tokens.length)
      (noted : console.note note = (result, console')) :
      Serves c text s console ⟨result.mapError .error, s.atPhase phase, console', none⟩
  /-- The note that a prompt is being read cannot be printed. -/
  | unnoted {prompt : Prompt} {error : SessionError} {console' : Console}
      (built : c.style.build c.tokenizer.encode text s.session.contextPos = .ok prompt)
      (nonempty : prompt.tokens ≠ [])
      (fits : prompt.tokens.length ≤ c.settings.maxTokens - s.session.contextPos)
      (noted : console.note readingNote = (.error error, console')) :
      Serves c text s console
        ⟨.error error, { s.atPhase .prefilling with session := s.session.beginTurn prompt.tokens.length },
          console', none⟩
  /-- The generator is called. -/
  | called {prompt : Prompt} {console' : Console}
      (built : c.style.build c.tokenizer.encode text s.session.contextPos = .ok prompt)
      (nonempty : prompt.tokens ≠ [])
      (fits : prompt.tokens.length ≤ c.settings.maxTokens - s.session.contextPos)
      (noted : console.note readingNote = (.ok (), console')) :
      Serves c text s console
        (c.callGenerator prompt.tokens
          { s.atPhase .prefilling with session := s.session.beginTurn prompt.tokens.length } console')

theorem serves (c : Conversation γ δ π) (text : String) (s : ConversationState γ π) (console : Console) :
    c.Serves text s console (c.serve text s console) := by
  rw [serve]
  rcases hb : c.style.build c.tokenizer.encode text s.session.contextPos with error | prompt <;>
    rw [show c.style.build _ _ (s.atPhase .prefilling).session.contextPos = _ from hb]
  · exact .unencodable hb
  dsimp only
  by_cases empty : prompt.tokens.isEmpty = true
  · rw [if_pos empty]
    exact .empty hb (by simpa using empty)
  rw [if_neg empty]
  by_cases long : c.settings.maxTokens - (s.atPhase .prefilling).session.contextPos < prompt.tokens.length
  · rw [if_pos long]
    rcases noted : console.note (tooLongNote _ _ _) with ⟨error | ⟨⟩, console'⟩
    · exact .refused hb long noted
    · exact .refused hb long noted
  rw [if_neg long]
  rcases noted : console.note readingNote with ⟨error | ⟨⟩, console'⟩
  · exact .unnoted hb (by simpa using empty) (Nat.not_lt.mp long) noted
  · exact .called hb (by simpa using empty) (Nat.not_lt.mp long) noted

/-- Serving a text up to the end of its generation, by cases. -/
theorem serve_cases (c : Conversation γ δ π) (text : String) (s : ConversationState γ π)
    (console : Console) :
    c.Uncalled s (c.serve text s console) ∨
      ∃ prompt console', console.note readingNote = (.ok (), console') ∧
        Called c text s prompt (c.courseEnd prompt.tokens s console') (c.serve text s console) := by
  have serves := c.serves text s console
  generalize c.serve text s console = served at serves
  cases serves with
  | unencodable failed =>
    refine .inl ⟨rfl, fun error' failed' => .inr ?_, rfl, rfl, rfl, rfl, rfl, rfl⟩
    cases failed'
    exact c.build_error failed
  | empty => exact .inl ⟨rfl, nofun, rfl, rfl, rfl, rfl, rfl, rfl⟩
  | @refused _ _ result _ _ _ _ noted =>
    refine .inl ⟨rfl, fun error failed => .inl ?_, rfl, rfl, rfl, rfl, rfl, rfl⟩
    cases result <;> cases failed
    exact note_error noted
  | unnoted _ _ _ noted =>
    refine .inl ⟨rfl, fun error failed => .inl ?_, rfl, rfl, rfl, rfl, rfl, rfl⟩
    cases failed
    exact note_error noted
  | called built nonempty fits noted =>
    exact .inr ⟨_, _, noted, built, nonempty, fits, rfl, rfl, rfl, rfl, rfl, id, fun _ => .inr⟩

/-- **Serving a text**, by cases. -/
theorem turn_cases (c : Conversation γ δ π) (text : String) (s : ConversationState γ π)
    (console : Console) :
    c.Uncalled s (c.turn text s console) ∨
      ∃ prompt console', console.note readingNote = (.ok (), console') ∧
        Called c text s prompt (c.courseEnd prompt.tokens s console') (c.turn text s console) := by
  obtain ⟨state, call, result, failure⟩ :=
    c.summarize_state (c.speed (c.serve text s console).state.session.turnPos) (c.serve text s console)
  rcases c.serve_cases text s console with h | ⟨prompt, console', hn, h⟩
  · exact .inl ⟨call.trans h.call, fun error failed => (failure error failed).elim .inl (h.failure error),
      (congrArg (·.session.contextPos) state).trans h.contextPos,
      (congrArg (·.session.multiturn) state).trans h.multiturn,
      (congrArg (·.session.deterministic) state).trans h.deterministic,
      (congrArg (·.rng) state).trans h.rng, (congrArg (·.generator) state).trans h.generator,
      (congrArg (·.policy) state).trans h.policy⟩
  · exact .inr ⟨prompt, console', hn, h.built, h.nonempty, h.fits, call.trans h.call,
      (congrArg (·.session) state).trans h.session, (congrArg (·.rng) state).trans h.rng,
      (congrArg (·.generator) state).trans h.generator, (congrArg (·.policy) state).trans h.policy,
      fun ok => h.success (result ok), fun error failed => (failure error failed).elim .inl (h.failure error)⟩

/-- A run fails because an output is full, or because a text that it serves fails. -/
theorem run_error (c : Conversation γ δ π) (input : List UInt8) (s : ConversationState γ π)
    (console : Console) {error : SessionError} (h : (c.run input s console).result = .error error) :
    error = Writer.full ∨ ∃ text s' console', (c.turn text s' console').result = .error error ∧
      ∀ call ∈ (c.turn text s' console').call, call ∈ (c.run input s console).calls := by
  obtain ⟨calls, top, last, ends, same⟩ := c.run_ends input s console
  rw [same] at h ⊢
  have h : last.result = .error error := h
  cases ends with
  | overBudget => exact .inl (stopOverBudget_error h)
  | unmarked marked =>
    cases h
    exact .inl (answer_error marked)
  | quits => cases h
  | failed _ _ result =>
    obtain rfl := Except.error.inj h
    refine .inr ⟨_, _, _, result, fun call mem => ?_⟩
    exact List.mem_append_right _ (List.mem_append_left _ (Option.mem_toList.mpr mem))

/-! ### The settings of a session -/

theorem turn_has (c : Conversation γ δ π) (text : String) {s : ConversationState γ π}
    {settings : InferenceSettings} (h : s.session.Has settings) (console : Console) :
    (c.turn text s console).state.session.Has settings := by
  rcases c.turn_cases text s console with served | ⟨prompt, console', -, served⟩
  · exact ⟨served.multiturn.trans h.1, served.deterministic.trans h.2⟩
  · rw [served.session]
    exact Turn.run_has _ _ h

theorem GoesOn.has {c : Conversation γ δ π} {top top' : LoopTop γ π} {call : Option Call}
    {settings : InferenceSettings} (goes : c.GoesOn top call top')
    (h : top.state.session.Has settings) : top'.state.session.Has settings := by
  cases goes with
  | cleared => exact h.resetContext
  | served => exact c.turn_has _ h _

theorem Reaches.has {c : Conversation γ δ π} {top top' : LoopTop γ π} {calls : List Call}
    {settings : InferenceSettings} (reaches : c.Reaches top calls top')
    (h : top.state.session.Has settings) : top'.state.session.Has settings := by
  induction reaches with
  | refl => exact h
  | head round _ ih => exact ih ((goesOn_of_round round).has h)

/-- A session has its settings after a run, also after an error. -/
theorem run_has (c : Conversation γ δ π) (input : List UInt8) {s : ConversationState γ π}
    {settings : InferenceSettings} (h : s.session.Has settings) (console : Console) :
    (c.run input s console).state.session.Has settings := by
  obtain ⟨calls, top, last, has, ends, same⟩ := runFrom_ends (c := c)
    (P := fun _ top => top.state.session.Has settings) (fun _ _ _ _ goes has => goes.has has)
    ⟨Line.lines input, s, console⟩ h
  rw [show c.run input s console = _ from same]
  cases ends with
  | overBudget => exact has
  | unmarked => exact has
  | quits => exact has
  | failed => exact c.turn_has _ has _

end Conversation

end PromptLoop
