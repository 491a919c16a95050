import Mathlib.Tactic.SplitIfs
import PromptLoop.Engine.Generate

/-!
# The steps of a generation

The course that an engine takes is laid out here as steps. Sampling stands somewhere: so many tokens
left, at a position, with logits, a cache, a random stream and a receiver of events. From there either a
token is sampled, shown and read, and sampling stands elsewhere (`Standing.Reads`), or the course ends
(`Standing.Ends`); these are all ways there are. `Standing.run_ends` puts the steps together: every run
is some tokens that are read one after the other, and then an end. What a step keeps, a run keeps.

`Engine.Answered` lists in the same way how the answer to a whole request comes about.
-/

namespace PromptLoop

/-! ### Events for a sink -/

namespace Sink

variable {σ : Type}

/-- Hands events to a sink, whatever is said about going on, up to the first failure. -/
def feed (sink : Sink σ) : List Event → Rng → σ → Except SessionError Unit × Rng × σ
  | [], rng, state => (.ok (), rng, state)
  | event :: events, rng, state =>
    match sink.receive event rng state with
    | (.error e, rng, state) => (.error e, rng, state)
    | (.ok _, rng, state) => sink.feed events rng state

theorem run_emit {γ : Type} (sink : Sink σ) (event : Event) (next : Answer → Course γ) (rng : Rng)
    (state : σ) :
    (Course.emit event next).run sink rng state =
      let (answer, rng', state') := sink.receive event rng state
      (next answer).run sink rng' state' := rfl

theorem run_emitAll {γ : Type} (sink : Sink σ) (after : γ) (continuation : Course γ)
    (events : List Event) (rng : Rng) (state : σ) :
    (Course.emitAll after continuation events).run sink rng state =
      match sink.feed events rng state with
      | (.error e, rng, state) => ⟨.error e, after, rng, state⟩
      | (.ok (), rng, state) => continuation.run sink rng state := by
  induction events generalizing rng state with
  | nil => rfl
  | cons event events ih =>
    rw [Course.emitAll, run_emit, feed]
    rcases sink.receive event rng state with ⟨_ | _, rng', state'⟩
    · rfl
    · exact ih rng' state'

end Sink

/-! ### Forward passes -/

theorem Model.forward_of_readable (m : Model) {tokens : List Token} {cache : Cache} {position : Nat}
    (h : m.fault? cache tokens position = none) :
    m.forward cache tokens position =
      (.ok (m.logits (cache.read tokens position)), cache.read tokens position) := by
  rw [Model.forward, h]

theorem Model.cache_of_forward {m : Model} {tokens : List Token} {cache cache' : Cache} {position : Nat}
    {logits : List Single} (h : m.forward cache tokens position = (.ok logits, cache')) :
    cache' = cache.read tokens position := by
  rw [Model.forward] at h
  split at h
  · cases h
  · exact (congrArg Prod.snd h).symm

/-- What is read decides the logits. -/
theorem Model.logits_of_forward {m : Model} {tokens : List Token} {cache cache' : Cache} {position : Nat}
    {logits : List Single} (h : m.forward cache tokens position = (.ok logits, cache')) :
    logits = m.logits cache' := by
  rw [Model.forward] at h
  split at h
  · cases h
  · obtain ⟨same, rfl⟩ := Prod.mk.inj h
    exact (Except.ok.inj same).symm

/-- The forward passes over single tokens from a position on, in order. -/
def singlePasses (position : Nat) : List Token → List ForwardPass
  | [] => []
  | token :: tokens => ⟨[token], position⟩ :: singlePasses (position + 1) tokens

theorem singlePasses_append (position : Nat) (tokens : List Token) (token : Token) :
    singlePasses position (tokens ++ [token]) =
      singlePasses position tokens ++ [⟨[token], position + tokens.length⟩] := by
  induction tokens generalizing position with
  | nil => rfl
  | cons first rest ih =>
    rw [List.cons_append, singlePasses, ih, singlePasses, List.cons_append, List.length_cons,
      show position + 1 + rest.length = position + (rest.length + 1) by omega]

namespace Engine

variable {σ : Type}

/-! ### Sampling -/

/-- Where sampling stands. -/
structure Standing (σ : Type) where
  /-- How many tokens may still be sampled. -/
  left : Nat
  /-- The position of the next token. -/
  position : Nat
  /-- The logits for it. -/
  logits : List Single
  /-- What the model has read. -/
  cache : Cache
  /-- The random stream. -/
  rng : Rng
  /-- The state of the receiver of events. -/
  sink : σ

namespace Standing

variable (e : Engine) (request : Request) (sink : Sink σ)

/-- The rest of the course. -/
def run (p : Standing σ) : CourseEnd Cache σ :=
  (e.sampleFrom request p.left p.position p.logits p.cache).run sink p.rng p.sink

/-- The choice of the next token. -/
def choice (p : Standing σ) : Choice :=
  Sampling.choose e.selection p.logits request.settings.topK request.settings.temperature request.accept

/-- The event that is sampled next, with the random stream after it. -/
def sampled (p : Standing σ) : Except Panic Event × Rng :=
  (((p.choice e request).settle p.rng).1.map e.sampledEvent, ((p.choice e request).settle p.rng).2)

/-- What the sink makes of an event that is sampled next. -/
def received (p : Standing σ) (event : Event) : Answer × Rng × σ :=
  sink.receive event (p.sampled e request).2 p.sink

/-- Whether there is room for another token. -/
def HasRoom (p : Standing σ) : Prop := 0 < p.left ∧ p.position < request.settings.maxTokens

/-- An event is sampled, its token is shown and read, and sampling goes on. -/
structure Reads (p : Standing σ) (event : Event) (p' : Standing σ) : Prop where
  room : p.HasRoom request
  left : p'.left = p.left - 1
  position : p'.position = p.position + 1
  sampled : (p.sampled e request).1 = .ok event
  received : p.received e request sink event = (.ok true, p'.rng, p'.sink)
  going : event.token ≠ e.eos
  read : e.model.forward p.cache [event.token] p.position = (.ok p'.logits, p'.cache)

/-- The course ends with an event. -/
inductive EndsAt (p : Standing σ) (event : Event) : CourseEnd Cache σ → Prop
  /-- The token is the last: the sink wants no more, or it is the end of the sequence. -/
  | stopped {goOn : Bool} {rng : Rng} {state : σ}
      (received : p.received e request sink event = (.ok goOn, rng, state))
      (last : goOn = false ∨ event.token = e.eos) : EndsAt p event ⟨.ok (), p.cache, rng, state⟩
  /-- The sink fails. -/
  | failed {error : SessionError} {rng : Rng} {state : σ}
      (received : p.received e request sink event = (.error error, rng, state)) :
      EndsAt p event ⟨.error error, p.cache, rng, state⟩
  /-- The model cannot read the token. -/
  | unreadable {fault : ReadFault} {rng : Rng} {state : σ}
      (received : p.received e request sink event = (.ok true, rng, state)) (going : event.token ≠ e.eos)
      (fault? : e.model.fault? p.cache [event.token] p.position = some fault) :
      EndsAt p event ⟨.error (SessionError.generation fault.message), p.cache, rng, state⟩

/-- The course ends. -/
inductive Ends (p : Standing σ) : CourseEnd Cache σ → Prop
  /-- One of the caps is reached. -/
  | capped (full : ¬ p.HasRoom request) : Ends p ⟨.ok (), p.cache, p.rng, p.sink⟩
  /-- There is room for a token, but sampling panics. -/
  | panicked {panic : Panic} (room : p.HasRoom request) (panics : (p.sampled e request).1 = .error panic) :
      Ends p ⟨.error panic, p.cache, p.rng, p.sink⟩
  /-- A token is sampled, and the course ends with it. -/
  | ended {event : Event} {ended : CourseEnd Cache σ} (room : p.HasRoom request)
      (sampled : (p.sampled e request).1 = .ok event) (ends : p.EndsAt e request sink event ended) : Ends p ended

/-- Tokens are read one after the other. -/
inductive ReadsOn : Standing σ → Standing σ → Prop
  | refl {p : Standing σ} : ReadsOn p p
  | head {p p' p'' : Standing σ} {event : Event} :
      p.Reads e request sink event p' → ReadsOn p' p'' → ReadsOn p p''

variable {e request sink}

/-- After a token has been read there is a logit for each token of the vocabulary. -/
theorem Reads.length_logits {p p' : Standing σ} {event : Event} (reads : p.Reads e request sink event p') :
    p'.logits.length = e.model.vocabSize := by
  rw [Model.logits_of_forward reads.read]
  exact e.model.length_logits _

/-- Settling the choice of the next token is sampling it. -/
theorem run_settle {γ : Type} (p : Standing σ) (after : γ) (next : Event → Course γ) :
    (e.settle (p.choice e request) after next).run sink p.rng p.sink =
      match (p.sampled e request).1 with
      | .ok event => (next event).run sink (p.sampled e request).2 p.sink
      | .error panic => ⟨.error panic, after, p.rng, p.sink⟩ := by
  unfold sampled
  cases p.choice e request <;> rfl

/-- One step of sampling, as long as there is room. -/
theorem sampleFrom_of_hasRoom {p : Standing σ} (h : p.HasRoom request) :
    e.sampleFrom request p.left p.position p.logits p.cache =
      e.settle (p.choice e request) p.cache fun event =>
        .emit event fun answer =>
          match answer with
          | .error error => .finish (.error error) p.cache
          | .ok goOn =>
            if !goOn || event.token == e.eos then .finish (.ok ()) p.cache
            else
              match e.model.forward p.cache [event.token] p.position with
              | (.error error, cache) => .finish (.error error) cache
              | (.ok logits, cache) => e.sampleFrom request (p.left - 1) (p.position + 1) logits cache := by
  obtain ⟨some_left, below⟩ := h
  obtain ⟨left, hl⟩ := Nat.exists_eq_succ_of_ne_zero (Nat.ne_of_gt some_left)
  rw [hl, sampleFrom, if_neg (Nat.not_le.mpr below)]
  rfl

/-- Without room nothing is sampled. -/
theorem sampleFrom_of_not_hasRoom {p : Standing σ} (h : ¬ p.HasRoom request) :
    e.sampleFrom request p.left p.position p.logits p.cache = .finish (.ok ()) p.cache := by
  cases hl : p.left with
  | zero => rfl
  | succ left =>
    have : request.settings.maxTokens ≤ p.position := by
      rw [HasRoom, hl] at h
      omega
    rw [sampleFrom, if_pos this]

theorem run_of_panic {p : Standing σ} (h : p.HasRoom request) {panic : Panic}
    (panics : (p.sampled e request).1 = .error panic) :
    p.run e request sink = ⟨.error panic, p.cache, p.rng, p.sink⟩ := by
  rw [run, sampleFrom_of_hasRoom h, run_settle, panics]

theorem run_of_sampled {p : Standing σ} (h : p.HasRoom request) {event : Event}
    (sampled : (p.sampled e request).1 = .ok event) :
    p.run e request sink =
      match p.received e request sink event with
      | (.error error, rng, state) => ⟨.error error, p.cache, rng, state⟩
      | (.ok goOn, rng, state) =>
        if !goOn || event.token == e.eos then ⟨.ok (), p.cache, rng, state⟩
        else
          match e.model.forward p.cache [event.token] p.position with
          | (.error error, cache) => ⟨.error error, cache, rng, state⟩
          | (.ok logits, cache) =>
            Standing.run e request sink ⟨p.left - 1, p.position + 1, logits, cache, rng, state⟩ := by
  rw [run, sampleFrom_of_hasRoom h, run_settle, sampled]
  dsimp only
  rw [Sink.run_emit, received]
  rcases sink.receive event _ p.sink with ⟨_ | goOn, rng', state'⟩
  · rfl
  · dsimp only
    split_ifs
    · rfl
    · rcases e.model.forward p.cache _ _ with ⟨_ | _, cache'⟩ <;> rfl

theorem run_of_not_hasRoom {p : Standing σ} (h : ¬ p.HasRoom request) :
    p.run e request sink = ⟨.ok (), p.cache, p.rng, p.sink⟩ := by
  rw [run, sampleFrom_of_not_hasRoom h]
  rfl

variable (e request sink)

/-- Sampling ends or goes on. -/
theorem run_cases (p : Standing σ) :
    p.Ends e request sink (p.run e request sink) ∨
      ∃ event p', p.Reads e request sink event p' ∧ p.run e request sink = p'.run e request sink := by
  by_cases room : p.HasRoom request
  · rcases hs : (p.sampled e request).1 with panic | event
    · rw [run_of_panic room hs]
      exact .inl (.panicked room hs)
    rw [run_of_sampled room hs]
    rcases hr : p.received e request sink event with ⟨error | goOn, rng, state⟩
    · exact .inl (.ended room hs (.failed hr))
    dsimp only
    split_ifs with last
    · refine .inl (.ended room hs (.stopped hr ?_))
      simpa using last
    · simp only [Bool.or_eq_true, Bool.not_eq_true', beq_iff_eq, not_or, Bool.not_eq_false] at last
      obtain ⟨rfl, going⟩ := last
      rcases hf : e.model.fault? p.cache [event.token] p.position with _ | fault
      · have read := e.model.forward_of_readable hf
        rw [read]
        exact .inr ⟨event, _, ⟨room, rfl, rfl, hs, hr, going, read⟩, rfl⟩
      · rw [Model.forward, hf]
        exact .inl (.ended room hs (.unreadable hr going hf))
  · rw [run_of_not_hasRoom room]
    exact .inl (.capped room)

/-- **All there is to a generation**: tokens are read one after the other, and then the course ends. -/
theorem run_ends (p : Standing σ) :
    ∃ p', p.ReadsOn e request sink p' ∧ p'.Ends e request sink (p.run e request sink) := by
  induction hl : p.left generalizing p with
  | zero =>
    have full : ¬ p.HasRoom request := fun room => absurd hl (Nat.ne_of_gt room.1)
    rw [run_of_not_hasRoom full]
    exact ⟨p, .refl, .capped full⟩
  | succ left ih =>
    rcases p.run_cases e request sink with ends | ⟨event, p₁, reads, same⟩
    · exact ⟨p, .refl, ends⟩
    · obtain ⟨p', on, ends⟩ := ih p₁ (by rw [reads.left, hl, Nat.add_sub_cancel])
      exact ⟨p', .head reads on, same ▸ ends⟩

variable {e request sink}

/-- What every step keeps, any number of steps keep. -/
theorem ReadsOn.keeps {P : Standing σ → Prop} {p p' : Standing σ} (h : p.ReadsOn e request sink p')
    (step : ∀ p event p', p.Reads e request sink event p' → P p → P p') (holds : P p) : P p' := by
  induction h with
  | refl => exact holds
  | head reads _ ih => exact ih (step _ _ _ reads holds)

end Standing

/-! ### Requests -/

/-- The error of a request that is turned down before anything is read, if it is. -/
def refusal? (request : Request) : Option SessionError :=
  if request.prompt.isEmpty then some emptyPrompt
  else if request.settings.maxTokens < request.startPos + request.prompt.length then
    some (overrun request.prompt.length request.startPos request.settings.maxTokens)
  else none

/-- Where sampling begins, given the random stream and the sink after the echo of the prompt. -/
def opening (e : Engine) (request : Request) (cache : Cache) (rng : Rng) (state : σ) : Standing σ :=
  let cache := cache.read request.prompt request.startPos
  ⟨request.settings.maxGeneratedTokens, request.startPos + request.prompt.length,
    e.model.logits cache, cache, rng, state⟩

/-- The events of the prompt. -/
def echo (request : Request) : List Event := request.prompt.map .echo

/-- How the answer to a request comes about. -/
inductive Answered (e : Engine) (request : Request) (sink : Sink σ) (cache : Cache) (rng : Rng)
    (state : σ) : CourseEnd Cache σ → Prop
  /-- The request is turned down. -/
  | refused {error : SessionError} (refusal : refusal? request = some error) :
      Answered e request sink cache rng state ⟨.error error, cache, rng, state⟩
  /-- The model cannot read the prompt. -/
  | unreadable {fault : ReadFault} (fits : refusal? request = none)
      (fault? : e.model.fault? cache request.prompt request.startPos = some fault) :
      Answered e request sink cache rng state ⟨.error (SessionError.generation fault.message), cache, rng, state⟩
  /-- The sink fails at a token of the prompt. -/
  | unheard {error : SessionError} {rng' : Rng} {state' : σ} (fits : refusal? request = none)
      (readable : e.model.fault? cache request.prompt request.startPos = none)
      (heard : sink.feed (echo request) rng state = (.error error, rng', state')) :
      Answered e request sink cache rng state
        ⟨.error error, cache.read request.prompt request.startPos, rng', state'⟩
  /-- The prompt is echoed, tokens are read one after the other, and then the course ends. -/
  | sampled {rng' : Rng} {state' : σ} {p : Standing σ} {ended : CourseEnd Cache σ}
      (fits : refusal? request = none) (readable : e.model.fault? cache request.prompt request.startPos = none)
      (heard : sink.feed (echo request) rng state = (.ok (), rng', state'))
      (on : (e.opening request cache rng' state').ReadsOn e request sink p)
      (ends : p.Ends e request sink ended) :
      Answered e request sink cache rng state ended

theorem answer_of_fits (e : Engine) {request : Request} (cache : Cache)
    (fits : refusal? request = none) :
    e.answer request cache =
      match e.model.forward cache request.prompt request.startPos with
      | (.error error, cache) => .finish (.error error) cache
      | (.ok logits, cache) =>
        .emitAll cache (e.sampleFrom request request.settings.maxGeneratedTokens
          (request.startPos + request.prompt.length) logits cache) (echo request) := by
  unfold refusal? at fits
  rw [answer]
  split_ifs at fits ⊢
  rfl

theorem answer_of_refusal (e : Engine) {request : Request} (cache : Cache) {error : SessionError}
    (refusal : refusal? request = some error) :
    e.answer request cache = .finish (.error error) cache := by
  unfold refusal? at refusal
  rw [answer]
  split_ifs at refusal ⊢ <;> rw [Option.some.inj refusal]

/-- **All there is to an answer.** -/
theorem run_answered (e : Engine) (request : Request) (sink : Sink σ) (cache : Cache) (rng : Rng)
    (state : σ) :
    Answered e request sink cache rng state ((e.answer request cache).run sink rng state) := by
  rcases hr : refusal? request with _ | error
  · rw [answer_of_fits e cache hr]
    rcases hf : e.model.fault? cache request.prompt request.startPos with _ | fault
    · rw [e.model.forward_of_readable hf]
      dsimp only
      rw [Sink.run_emitAll]
      rcases heard : sink.feed (echo request) rng state with ⟨_ | ⟨⟩, rng', state'⟩
      · exact .unheard hr hf heard
      · obtain ⟨p, on, ends⟩ := (e.opening request cache rng' state').run_ends e request sink
        exact .sampled hr hf heard on ends
    · rw [Model.forward, hf]
      exact .unreadable hr hf
  · rw [answer_of_refusal e cache hr]
    exact .refused hr

end Engine

end PromptLoop
