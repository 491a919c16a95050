import PromptLoop.Proofs.FailStop
import PromptLoop.Proofs.Shapes

/-!
# How a generation fails

A generation fails if its request is unfit: there is no prompt, there is no room for it, or a token of it
is not in the vocabulary. Then nothing happens at all. Otherwise it fails only if the receiver of an event
does, and then it ends there and then, with that very error (`Engine.generate_fails_iff`). A panic is no failure:
it is at a token that cannot be drawn.

What is assumed of the model is that it reads the tokens of its vocabulary and no others. That the tokens
which are sampled can be read is no assumption: there is a logit for each token of the vocabulary and for
nothing else, and the end of the sequence, which may be any token, is never read
(`Standing.readable_of_sampled`).
-/

namespace PromptLoop

variable {γ σ : Type}

/-- A model reads the tokens of its vocabulary, and no others. -/
def Model.ReadsVocabulary (m : Model) : Prop :=
  ∀ cache tokens position, m.fault? cache tokens position = none ↔ ∀ token ∈ tokens, token < m.vocabSize

/-- The error that an event is answered with, if it is answered with one. -/
def Happening.failure? : Happening σ → Option SessionError
  | emitted _ (.error error) _ _ => some error
  | emitted _ (.ok _) _ _ => none
  | drawn _ _ => none

/-- The random stream after something that happens in a course. -/
def Happening.rng : Happening σ → Rng
  | drawn _ rng => rng
  | emitted _ _ rng _ => rng

/-- The receiver after an event, if something is one. -/
def Happening.receiver? : Happening σ → Option σ
  | drawn _ _ => none
  | emitted _ _ _ state => some state

theorem Happening.emitted_of_failure? {h : Happening σ} {error : SessionError} (failed : h.failure? = some error) :
    ∃ event rng state, h = .emitted event (.error error) rng state := by
  rcases h with _ | ⟨event, error' | goOn, rng, state⟩
  · cases failed
  · cases failed
    exact ⟨event, rng, state, rfl⟩
  · cases failed

/-- **Nothing happens after a failure** in a course that is fail-stop, and the course ends with its error. -/
theorem Course.FailStop.ends_at_failure {course : Course γ} (stops : course.FailStop) {sink : Sink σ} {rng rng' : Rng}
    {state state' : σ} {before after : List (Happening σ)} {event : Event} {error : SessionError}
    (happened : course.happenings sink rng state = before ++ .emitted event (.error error) rng' state' :: after) :
    after = [] ∧ (course.run sink rng state).result = .error error ∧ (course.run sink rng state).rng = rng' ∧
      (course.run sink rng state).sink = state' := by
  induction stops generalizing rng state before with
  | finish => simp [happenings] at happened
  | draw _ ih =>
    rw [happenings] at happened
    rcases before with _ | ⟨first, before⟩
    · cases happened
    · exact ih _ (List.cons.inj happened).2
  | @emit emitted next fails _ ih =>
    rw [happenings] at happened
    rw [run]
    rcases received : sink.receive emitted rng state with ⟨error' | goOn, rng₁, state₁⟩ <;>
      rw [received] at happened
    · -- The course has come to its end, so this is the failure.
      obtain ⟨rest, finish⟩ := fails error'
      dsimp only at happened ⊢
      rw [finish, happenings] at happened
      rw [finish]
      rcases before with _ | ⟨first, before⟩
      · cases happened
        exact ⟨rfl, rfl, rfl, rfl⟩
      · simp at happened
    · rcases before with _ | ⟨first, before⟩
      · cases happened
      · exact ih goOn (List.cons.inj happened).2

/-- A sink that fails at some events is heard to fail. -/
theorem Sink.failure_of_feed {sink : Sink σ} {events : List Event} {rng rng' : Rng} {state state' : σ}
    {error : SessionError} (h : sink.feed events rng state = (.error error, rng', state')) :
    ∃ x ∈ sink.hearing events rng state, x.failure? = some error := by
  induction events generalizing rng state with
  | nil => cases h
  | cons event events ih =>
    rw [feed] at h
    rw [hearing]
    rcases received : sink.receive event rng state with ⟨error' | goOn, rng₁, state₁⟩ <;> rw [received] at h
    · cases h
      exact ⟨_, List.mem_singleton_self _, rfl⟩
    · obtain ⟨x, heard, failed⟩ := ih h
      exact ⟨x, List.mem_cons_of_mem _ heard, failed⟩

namespace Engine

variable {e : Engine} {request : Request} {sink : Sink σ}

/-! ### Sampled tokens -/

namespace Standing

theorem ReadsOn.length_logits {p p' : Standing σ} (on : p.ReadsOn e request sink p')
    (sized : p.logits.length = e.model.vocabSize) : p'.logits.length = e.model.vocabSize :=
  on.keeps (P := fun p => p.logits.length = e.model.vocabSize) (fun _ _ _ reads _ => reads.length_logits) sized

/-- A token that is sampled is in the vocabulary, unless it is the end of the sequence. -/
theorem token_lt {p : Standing σ} {event : Event} (sized : p.logits.length = e.model.vocabSize)
    (sampled : (p.sampled e request).1 = .ok event) (going : event.token ≠ e.eos) :
    event.token < e.model.vocabSize := by
  rcases samples sampled with ⟨-, listed⟩ | ⟨-, is_end⟩
  · rw [← sized, ← Sampling.length_softmax]
    exact (List.getElem?_eq_some_iff.mp listed).1
  · exact absurd (congrArg Event.token is_end) going

/-- **A token that is sampled can be read**, unless it is the end of the sequence. -/
theorem readable_of_sampled (reads : e.model.ReadsVocabulary) {p : Standing σ} {event : Event}
    (sized : p.logits.length = e.model.vocabSize) (sampled : (p.sampled e request).1 = .ok event)
    (going : event.token ≠ e.eos) : e.model.fault? p.cache [event.token] p.position = none :=
  (reads _ _ _).mpr (List.forall_mem_singleton.mpr (token_lt sized sampled going))

/-- Sampling fails only if the sink does. -/
theorem failure_of_run (reads : e.model.ReadsVocabulary) {p : Standing σ} {error : SessionError}
    (sized : p.logits.length = e.model.vocabSize) (failed : (p.run e request sink).result = .error error) :
    ∃ x ∈ p.happenings e request sink, x.failure? = some error := by
  induction hl : p.left generalizing p with
  | zero =>
    have full : ¬ p.HasRoom request := fun room => absurd hl (Nat.ne_of_gt room.1)
    rw [run_of_not_hasRoom full] at failed
    cases failed
  | succ left ih =>
    rcases p.run_cases e request sink with ends | ⟨event, p', further, same⟩
    · generalize p.run e request sink = ended at ends failed
      cases ends with
      | capped => cases failed
      | panicked => cases failed
      | ended room sampled ends =>
        rw [ends.happenings room sampled, sampling]
        cases ends with
        | stopped => cases failed
        | failed received =>
          cases failed
          exact ⟨_, List.mem_append_right _ (List.mem_singleton_self _), by rw [received]; rfl⟩
        | unreadable _ going fault? =>
          rw [readable_of_sampled reads sized sampled going] at fault?
          cases fault?
    · rw [same] at failed
      rw [further.happenings]
      obtain ⟨x, happened, same⟩ := ih further.length_logits failed (by rw [further.left, hl, Nat.add_sub_cancel])
      exact ⟨x, List.mem_append_right _ happened, same⟩

end Standing

/-! ### Requests -/

/-- A request that an engine cannot answer: there is no prompt, there is no room for it, or a token of it is
not in the vocabulary. -/
def Unfit (e : Engine) (request : Request) : Prop :=
  request.prompt = [] ∨ request.settings.maxTokens < request.startPos + request.prompt.length ∨
    ∃ token ∈ request.prompt, e.model.vocabSize ≤ token

/-- A request that is not turned down and can be read is fit, and the other way round. -/
theorem not_unfit_iff (reads : e.model.ReadsVocabulary) (cache : Cache) :
    ¬ Unfit e request ↔ refusal? request = none ∧ e.model.fault? cache request.prompt request.startPos = none := by
  rw [reads, Unfit, refusal?]
  split_ifs with empty overruns
  · simp [List.isEmpty_iff.mp empty]
  · simp [overruns]
  · have some_prompt : request.prompt ≠ [] := fun none => empty (List.isEmpty_iff.mpr none)
    simp [some_prompt, overruns]

/-- Nothing happens in answer to a request that is unfit. -/
theorem answer_of_unfit (reads : e.model.ReadsVocabulary) (unfit : Unfit e request) (cache : Cache) :
    ∃ error : SessionError, e.answer request cache = .finish (.error error) cache := by
  rcases refusal : refusal? request with _ | error
  · rcases fault : e.model.fault? cache request.prompt request.startPos with _ | fault
    · exact absurd unfit ((not_unfit_iff reads cache).mpr ⟨refusal, fault⟩)
    · exact ⟨_, by rw [answer_of_fits e cache refusal, Model.forward, fault]⟩
  · exact ⟨error, answer_of_refusal e cache refusal⟩

/-- The answer to a request that is fit fails only if the sink does. -/
theorem failure_of_answer (reads : e.model.ReadsVocabulary) (fit : ¬ Unfit e request) {cache : Cache} {rng : Rng}
    {state : σ} {error : SessionError} (failed : ((e.answer request cache).run sink rng state).result = .error error) :
    ∃ x ∈ (e.answer request cache).happenings sink rng state, x.failure? = some error := by
  obtain ⟨fits, readable⟩ := (not_unfit_iff reads cache).mp fit
  rw [happenings_answer e fits readable]
  rw [answer_of_fits e cache fits, e.model.forward_of_readable readable] at failed
  dsimp only at failed
  rw [Sink.run_emitAll] at failed
  rcases heard : sink.feed (echo request) rng state with ⟨error' | ⟨⟩, rng', state'⟩ <;> rw [heard] at failed
  · cases failed
    obtain ⟨x, happened, same⟩ := Sink.failure_of_feed heard
    exact ⟨x, List.mem_append_left _ happened, same⟩
  · obtain ⟨x, happened, same⟩ := Standing.failure_of_run (p := e.opening request cache rng' state') reads
      (e.model.length_logits _) failed
    exact ⟨x, List.mem_append_right _ happened, same⟩

/-- Nothing happens after the receiver has failed, and the answer ends with the same error. -/
theorem ends_at_failure {cache : Cache} {rng : Rng} {state : σ} {before after : List (Happening σ)} {x : Happening σ}
    {error : SessionError} (happened : (e.answer request cache).happenings sink rng state = before ++ x :: after)
    (failed : x.failure? = some error) :
    after = [] ∧ ((e.answer request cache).run sink rng state).result = .error error ∧
      ((e.answer request cache).run sink rng state).rng = x.rng ∧
      some ((e.answer request cache).run sink rng state).sink = x.receiver? := by
  obtain ⟨event, rng', state', rfl⟩ := Happening.emitted_of_failure? failed
  obtain ⟨last, result, drawn, received⟩ := (e.failStop request cache).ends_at_failure happened
  exact ⟨last, result, drawn, congrArg some received⟩

/-- An answer panics only at a token that cannot be drawn. -/
theorem Answered.panics {cache : Cache} {rng : Rng} {state : σ} {ended : CourseEnd Cache σ}
    (answered : Answered e request sink cache rng state ended) {panic : Panic}
    (panicked : ended.result = .error panic) :
    ∃ rng' state' p, (e.opening request cache rng' state').ReadsOn e request sink p ∧ p.HasRoom request ∧
      (p.sampled e request).1 = .error panic := by
  cases answered with
  | refused => cases panicked
  | unreadable => cases panicked
  | unheard => cases panicked
  | sampled _ _ _ on ends =>
    cases ends with
    | capped => cases panicked
    | panicked room panics =>
      cases panicked
      exact ⟨_, _, _, on, room, panics⟩
    | ended _ _ ends => cases ends <;> cases panicked

/-- How answers fail, and how they do not. -/
structure FailsDuly (e : Engine) (request : Request) (cache : Cache) (sink : Sink σ) (rng : Rng) (state : σ) :
    Prop where
  /-- An answer fails if the request is unfit or the receiver of an event fails, and only then. -/
  fails_iff : (∃ error : SessionError,
    ((e.generator.generate request cache).run sink rng state).result = .error error) ↔
      Unfit e request ∨ ∃ x ∈ (e.generator.generate request cache).happenings sink rng state,
        ∃ error, x.failure? = some error
  /-- If the request is unfit, nothing is emitted, no word is drawn, and the receiver stays as it was. -/
  unfit : Unfit e request → (e.generator.generate request cache).happenings sink rng state = [] ∧
    ((e.generator.generate request cache).run sink rng state).rng = rng ∧
    ((e.generator.generate request cache).run sink rng state).sink = state
  /-- If the receiver fails, nothing happens after that, and the answer ends with the same error. -/
  failed : ∀ before x after (error : SessionError),
    (e.generator.generate request cache).happenings sink rng state = before ++ x :: after →
      x.failure? = some error → after = [] ∧
        ((e.generator.generate request cache).run sink rng state).result = .error error ∧
        ((e.generator.generate request cache).run sink rng state).rng = x.rng ∧
        some ((e.generator.generate request cache).run sink rng state).sink = x.receiver?
  /-- Wherever sampling comes to, the token that is sampled can be read, unless it is the end of the
  sequence. -/
  reads : ∀ rng' state' p event, (e.opening request cache rng' state').ReadsOn e request sink p →
    (p.sampled e request).1 = .ok event → event.token ≠ e.eos →
      ∃ logits cache', e.model.forward p.cache [event.token] p.position = (.ok logits, cache')
  /-- If the answer panics, sampling has come to a token that cannot be drawn. -/
  panics : ∀ panic : Panic, ((e.generator.generate request cache).run sink rng state).result = .error panic →
    ∃ rng' state' p, (e.opening request cache rng' state').ReadsOn e request sink p ∧ p.HasRoom request ∧
      (p.sampled e request).1 = .error panic

/-- **How a generation fails**, if the model reads the tokens of its vocabulary and no others. -/
theorem generate_fails_iff (e : Engine) (reads : e.model.ReadsVocabulary) (request : Request) (cache : Cache)
    (sink : Sink σ) (rng : Rng) (state : σ) : FailsDuly e request cache sink rng state := by
  constructor
  · constructor
    · rintro ⟨error, failed⟩
      by_cases unfit : Unfit e request
      · exact .inl unfit
      · obtain ⟨x, happened, same⟩ := failure_of_answer reads unfit failed
        exact .inr ⟨x, happened, error, same⟩
    · rintro (unfit | ⟨x, happened, error, failed⟩)
      · obtain ⟨error, refused⟩ := answer_of_unfit reads unfit cache
        exact ⟨error, congrArg (fun course => (course.run sink rng state).result) refused⟩
      · obtain ⟨before, after, split⟩ := List.append_of_mem happened
        exact ⟨error, (ends_at_failure split failed).2.1⟩
  · intro unfit
    obtain ⟨error, refused⟩ := answer_of_unfit reads unfit cache
    rw [show e.generator.generate request cache = _ from refused]
    exact ⟨rfl, rfl, rfl⟩
  · exact fun before x after error => ends_at_failure
  · intro rng' state' p event on sampled going
    have sized := on.length_logits (e.model.length_logits _)
    exact ⟨_, _, e.model.forward_of_readable (Standing.readable_of_sampled reads sized sampled going)⟩
  · intro panic panicked
    exact (e.run_answered request sink cache rng state).panics panicked

/-- An engine with three tokens that are as likely as each other. It reads no others, and what ends its answers
is not one of them. -/
def narrow : Engine where
  model :=
    { vocabSize := 3
      fault? := fun _ tokens _ => (tokens.find? (3 ≤ ·)).map (.noEmbedding · 3)
      logits := fun _ => List.replicate 3 Single.zero
      length_logits := fun _ => rfl }
  eos := 7
  selection := .earliest

theorem narrow_readsVocabulary : narrow.model.ReadsVocabulary := by
  intro cache tokens position
  simp [narrow, List.find?_eq_none]

/-- A receiver that counts events and cannot show the fourth. -/
def upToThird : Sink Nat :=
  ⟨fun event rng count => (if count = 3 then .error (.decode event.token "unknown id") else .ok true, rng, count + 1)⟩

/-- The second token after the prompt cannot be shown, and no third is sampled. -/
theorem narrow_fails :
    let request : Request := ⟨[0, 1], 0, ⟨100, 5, Single.one, 2, true, false⟩, (· == 1)⟩
    let ended := (narrow.generator.generate request Cache.empty).run upToThird Rng.fixed 0
    narrow.model.ReadsVocabulary ∧ ¬ Unfit narrow request ∧
      ended.result = .error (SessionError.decode 1 "unknown id") ∧ ended.sink = 4 ∧
      FailsDuly narrow request Cache.empty upToThird Rng.fixed 0 := by
  intro request ended
  have fit : ¬ Unfit narrow request := (not_unfit_iff narrow_readsVocabulary Cache.empty).mpr (by decide)
  have failed : ended.result = .error (SessionError.decode 1 "unknown id") ∧ ended.sink = 4 := by decide +kernel
  exact ⟨narrow_readsVocabulary, fit, failed.1, failed.2,
    generate_fails_iff narrow narrow_readsVocabulary request Cache.empty upToThird Rng.fixed 0⟩

end Engine

end PromptLoop
