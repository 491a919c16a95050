import PromptLoop.Proofs.Candidates
import PromptLoop.Proofs.Happenings

/-!
# The shape of a generation

A generation that ends well has emitted the prompt and then some tokens. Each of these is sampled from the
logits after everything before it; no more follow than there is room for; and all but the last have been
answered with the wish to go on. If there was room for more, the last is the end of the sequence or was
answered with the wish to stop (`Engine.generate_shape`).

What the receiver of the events answers to the tokens of the prompt plays no part, and nothing is assumed
about the receiver, the model, the filter or the random stream.
-/

namespace PromptLoop

variable {σ : Type}

namespace Engine

/-! ### What is sampled -/

/-- An event that can be sampled from logits: an accepted token with its probability, or the end of the
sequence if no token of the vocabulary is accepted. -/
def Samples (e : Engine) (request : Request) (logits : List Single) (event : Event) : Prop :=
  request.accept event.token = true ∧ (Sampling.softmax logits)[event.token]? = some event.score ∨
    (∀ token < logits.length, request.accept token = false) ∧ event = ⟨e.eos, Single.zero⟩

theorem Standing.samples {e : Engine} {request : Request} {p : Standing σ} {event : Event}
    (sampled : (p.sampled e request).1 = .ok event) : e.Samples request p.logits event := by
  change Except.map e.sampledEvent (Sampling.sample e.selection p.logits request.settings.topK
    request.settings.temperature request.accept p.rng).1 = .ok event at sampled
  rcases drawn : (Sampling.sample e.selection p.logits request.settings.topK request.settings.temperature
    request.accept p.rng).1 with _ | _ | c <;> rw [drawn] at sampled <;> cases sampled
  · exact .inr ⟨Sampling.sample_eq_none_iff.mp drawn, rfl⟩
  · exact .inl (Sampling.sample_eq_some drawn)

/-- How many tokens there is room for after the prompt. -/
def room (request : Request) : Nat :=
  min request.settings.maxGeneratedTokens
    (request.settings.maxTokens - request.startPos - request.prompt.length)

/-- What the model has read after the prompt and some tokens. -/
def cacheAfter (request : Request) (cache : Cache) (tokens : List Token) : Cache :=
  ⟨(singlePasses (request.startPos + request.prompt.length) tokens).reverse ++
    (cache.read request.prompt request.startPos).passes⟩

namespace Standing

variable {e : Engine} {request : Request} {sink : Sink σ} {cache : Cache}

/-- Sampling stands after the prompt and some tokens. -/
structure StandsAfter (e : Engine) (request : Request) (cache : Cache) (tokens : List Token)
    (p : Standing σ) : Prop where
  read : p.cache = cacheAfter request cache tokens
  logits : p.logits = e.model.logits (cacheAfter request cache tokens)
  position : p.position = request.startPos + request.prompt.length + tokens.length
  left : p.left + tokens.length = request.settings.maxGeneratedTokens

theorem opening_standsAfter (e : Engine) (request : Request) (cache : Cache) (rng : Rng) (state : σ) :
    (e.opening request cache rng state).StandsAfter e request cache [] :=
  ⟨rfl, rfl, rfl, rfl⟩

/-- A token that is read comes after the tokens before it. -/
theorem StandsAfter.reads {p p' : Standing σ} {event : Event} {tokens : List Token}
    (stands : p.StandsAfter e request cache tokens) (reads : p.Reads e request sink event p') :
    p'.StandsAfter e request cache (tokens ++ [event.token]) := by
  have read : p'.cache = cacheAfter request cache (tokens ++ [event.token]) := by
    rw [Model.cache_of_forward reads.read, Cache.read, stands.read, stands.position, cacheAfter, cacheAfter,
      singlePasses_append, List.reverse_append]
    rfl
  constructor
  · exact read
  · rw [Model.logits_of_forward reads.read, read]
  · rw [reads.position, stands.position, List.length_append, List.length_singleton]
    omega
  · have := stands.left
    have := reads.room.1
    rw [reads.left, List.length_append, List.length_singleton]
    omega

/-- Every stop of a walk is after the tokens before it, and its event is the one that is sampled there. -/
theorem Walk.standsAfter {p : Standing σ} {q : Stop σ} {before after : List (Stop σ)} {tokens : List Token}
    {ended : CourseEnd Cache σ} (stands : p.StandsAfter e request cache tokens)
    (walk : p.Walk e request sink (before ++ q :: after) ended) :
    q.standing.StandsAfter e request cache (tokens ++ before.map (·.event.token)) ∧
      (q.standing.sampled e request).1 = .ok q.event := by
  induction before generalizing p tokens with
  | nil =>
    rw [List.map_nil, List.append_nil]
    cases walk with
    | last _ sampled => exact ⟨stands, sampled⟩
    | reads reads => exact ⟨stands, reads.sampled⟩
  | cons first rest ih =>
    rw [List.cons_append] at walk
    generalize listed : rest ++ q :: after = qs at walk
    cases walk with
    | last => simp at listed
    | reads reads walk =>
      subst listed
      have further := ih (stands.reads reads) walk
      rw [List.append_assoc] at further
      exact further

/-- A walk has no more stops than there is room for. -/
theorem Walk.length_le {p : Standing σ} {qs : List (Stop σ)} {tokens : List Token}
    {ended : CourseEnd Cache σ} (walk : p.Walk e request sink qs ended)
    (stands : p.StandsAfter e request cache tokens)
    (fits : request.startPos + request.prompt.length ≤ request.settings.maxTokens)
    (sofar : tokens.length ≤ room request) : tokens.length + qs.length ≤ room request := by
  have one_more : ∀ {p : Standing σ} {tokens : List Token}, p.StandsAfter e request cache tokens →
      p.HasRoom request → tokens.length + 1 ≤ room request := by
    intro p tokens stands hasRoom
    have := hasRoom.1
    have := hasRoom.2
    have := stands.left
    have := stands.position
    unfold room
    omega
  induction walk generalizing tokens with
  | capped => exact sofar
  | panicked => exact sofar
  | last hasRoom => exact one_more stands hasRoom
  | reads reads _ ih =>
    have further := ih (stands.reads reads) (by simpa using one_more stands reads.room)
    simp only [List.length_append, List.length_cons, List.length_nil] at further ⊢
    omega

/-- A walk that ends well before there is no more room ends with a token that is the last. -/
theorem Walk.last_of_lt {p : Standing σ} {qs : List (Stop σ)} {tokens : List Token}
    {ended : CourseEnd Cache σ} (walk : p.Walk e request sink qs ended)
    (stands : p.StandsAfter e request cache tokens) (ok : ended.result = .ok ())
    (short : tokens.length + qs.length < room request) :
    ∃ q, qs.getLast? = some q ∧ (q.event.token = e.eos ∨ (q.said e request sink).answer = .ok false) := by
  induction walk generalizing tokens with
  | @capped p full =>
    exfalso
    apply full
    have := stands.left
    have := stands.position
    simp only [List.length_nil, room] at short
    constructor <;> omega
  | panicked => cases ok
  | @last p event ended _ _ ends =>
    refine ⟨⟨p, event⟩, rfl, ?_⟩
    cases ends with
    | stopped received last =>
      rcases last with rfl | is_end
      · right
        exact congrArg Prod.fst received
      · left
        exact is_end
    | failed => cases ok
    | unreadable => cases ok
  | @reads p p' event qs ended reads walk ih =>
    have further : (tokens ++ [event.token]).length + qs.length < room request := by
      simp only [List.length_append, List.length_cons, List.length_nil] at short ⊢
      omega
    obtain ⟨q, last, stops⟩ := ih (stands.reads reads) ok further
    refine ⟨q, ?_, stops⟩
    rw [List.getLast?_cons, last]
    rfl

/-- Sampling goes on after every stop of a walk but the last. -/
theorem Walk.goesOn {p : Standing σ} {q q' : Stop σ} {after : List (Stop σ)} {ended : CourseEnd Cache σ}
    (walk : p.Walk e request sink (q :: q' :: after) ended) :
    q.event.token ≠ e.eos ∧ (q.said e request sink).answer = .ok true := by
  cases walk with
  | reads reads _ => exact ⟨reads.going, congrArg Prod.fst reads.received⟩

/-- No token of a walk that ends well is answered with an error. -/
theorem Walk.answered {p : Standing σ} {qs : List (Stop σ)} {ended : CourseEnd Cache σ}
    (walk : p.Walk e request sink qs ended) (ok : ended.result = .ok ()) :
    ∀ q ∈ qs, ∃ goOn, (q.said e request sink).answer = .ok goOn := by
  induction walk with
  | capped => exact List.forall_mem_nil _
  | panicked => exact List.forall_mem_nil _
  | last _ _ ends =>
    rw [List.forall_mem_singleton]
    cases ends with
    | stopped received => exact ⟨_, congrArg Prod.fst received⟩
    | failed => cases ok
    | unreadable => cases ok
  | reads reads _ ih =>
    rw [List.forall_mem_cons]
    exact ⟨⟨true, congrArg Prod.fst reads.received⟩, ih ok⟩

end Standing

/-! ### Generations -/

/-- What follows the prompt in a generation that ends well. -/
structure Generates (e : Engine) (request : Request) (cache : Cache) (generated : List Emission) : Prop where
  /-- There are no more tokens than there is room for. -/
  length_le : generated.length ≤ room request
  /-- Every token is sampled from the logits after the prompt and the tokens before it. -/
  samples : ∀ before x after, generated = before ++ x :: after →
    e.Samples request (e.model.logits (cacheAfter request cache (before.map (·.event.token)))) x.event
  /-- All tokens but the last are answered with the wish to go on, and none of them is the end of the
  sequence. -/
  goesOn : ∀ before x y after, generated = before ++ x :: y :: after →
    x.event.token ≠ e.eos ∧ x.answer = .ok true
  /-- If there is room for more, the last token is the end of the sequence or answered with the wish to
  stop. -/
  last : generated.length < room request → ∃ x, generated.getLast? = some x ∧
    (x.event.token = e.eos ∨ x.answer = .ok false)

/-- The tokens of a walk that ends well. -/
theorem Standing.Walk.generates {e : Engine} {request : Request} {sink : Sink σ} {cache : Cache}
    {p : Standing σ} {qs : List (Stop σ)} {ended : CourseEnd Cache σ}
    (walk : p.Walk e request sink qs ended) (stands : p.StandsAfter e request cache [])
    (fits : request.startPos + request.prompt.length ≤ request.settings.maxTokens)
    (ok : ended.result = .ok ()) : Generates e request cache (qs.map (Stop.said e request sink)) := by
  constructor
  · have length := walk.length_le stands fits (Nat.zero_le _)
    rwa [List.length_nil, Nat.zero_add, ← List.length_map] at length
  · intro before x after listed
    obtain ⟨earlier, rest, rfl, rfl, cut⟩ := List.map_eq_append_iff.mp listed
    obtain ⟨q, later, rfl, rfl, rfl⟩ := List.map_eq_cons_iff.mp cut
    obtain ⟨stands, sampled⟩ := walk.standsAfter stands
    have samples := samples sampled
    rw [stands.logits, List.nil_append] at samples
    rw [List.map_map]
    exact samples
  · intro before x y after listed
    obtain ⟨earlier, rest, rfl, rfl, cut⟩ := List.map_eq_append_iff.mp listed
    obtain ⟨q, rest, rfl, rfl, more⟩ := List.map_eq_cons_iff.mp cut
    obtain ⟨q', later, rfl, rfl, rfl⟩ := List.map_eq_cons_iff.mp more
    exact walk.split.goesOn
  · intro short
    rw [List.length_map] at short
    obtain ⟨q, last, stops⟩ := walk.last_of_lt stands ok (by simpa using short)
    exact ⟨_, by rw [List.getLast?_map, last]; rfl, stops⟩

theorem fits_of_refusal? {request : Request} (fits : refusal? request = none) :
    request.startPos + request.prompt.length ≤ request.settings.maxTokens := by
  unfold refusal? at fits
  split_ifs at fits with empty overruns
  exact Nat.not_lt.mp overruns

/-- **The shape of a generation.** If an answer ends well, the tokens of the prompt were emitted, in order
and with a score of zero, and then tokens were generated. Whatever was said about going on at the tokens
of the prompt, nothing was answered with an error. -/
theorem generate_shape (e : Engine) (request : Request) (cache : Cache) (sink : Sink σ) (rng : Rng) (state : σ)
    (ok : ((e.generator.generate request cache).run sink rng state).result = .ok ()) :
    ∃ echoed generated : List Emission,
      (e.generator.generate request cache).emissions sink rng state = echoed ++ generated ∧
        echoed.map (·.event) = request.prompt.map (fun token => ⟨token, Single.zero⟩) ∧
        (∀ x ∈ echoed ++ generated, ∃ goOn, x.answer = .ok goOn) ∧
        Generates e request cache generated := by
  have happened : (e.generator.generate request cache).emissions sink rng state =
    ((e.answer request cache).happenings sink rng state).filterMap Happening.emission? := rfl
  rw [happened]
  change ((e.answer request cache).run sink rng state).result = .ok () at ok
  rcases hr : refusal? request with _ | error
  swap
  · rw [answer_of_refusal e cache hr] at ok
    cases ok
  rw [answer_of_fits e cache hr] at ok
  rcases hf : e.model.fault? cache request.prompt request.startPos with _ | fault
  swap
  · rw [Model.forward, hf] at ok
    cases ok
  rw [e.model.forward_of_readable hf] at ok
  dsimp only at ok
  rw [Sink.run_emitAll] at ok
  rw [happenings_answer e hr hf]
  rcases heard : sink.feed (echo request) rng state with ⟨error | ⟨⟩, rng', state'⟩ <;> rw [heard] at ok
  · cases ok
  obtain ⟨qs, walk, said⟩ := (e.opening request cache rng' state').run_walk e request sink
  obtain ⟨echoed, same, events, answered⟩ := Sink.emissions_hearing heard
  refine ⟨echoed, qs.map (Standing.Stop.said e request sink), ?_, events, ?_, ?_⟩
  · dsimp only
    rw [List.filterMap_append, same, said, List.filterMap_flatMap]
    simp only [Standing.Stop.happenings, Standing.sampling_emissions]
    rw [List.map_eq_flatMap]
    rfl
  · intro x mem
    rcases List.mem_append.mp mem with mem | mem
    · exact answered x mem
    · obtain ⟨q, listed, rfl⟩ := List.mem_map.mp mem
      exact walk.answered ok q listed
  · exact walk.generates (Standing.opening_standsAfter e request cache rng' state') (fits_of_refusal? hr) ok

/-- An engine with three tokens that are as likely as each other, the last of them the end. -/
def steady : Engine := ⟨TableModel.toModel ⟨3, Single.one, none, []⟩, 2, .earliest⟩

/-- A request with two tokens to which only one token can be added, up to five times. -/
def steadyRequest : Request := ⟨[0, 1], 0, ⟨100, 5, Single.one, 2, true, false⟩, (· == 1)⟩

/-- A receiver that counts events and wishes to go on after the third only. -/
def thirdOnly : Sink Nat := ⟨fun _ rng count => (.ok (count == 2), rng, count + 1)⟩

/-- The tokens of the prompt are all emitted, then one that goes on and one that does not. -/
theorem steady_generate_shape :
    ((steady.generator.generate steadyRequest Cache.empty).run thirdOnly Rng.fixed 0).result = .ok () ∧
      ∃ echoed generated : List Emission,
        (steady.generator.generate steadyRequest Cache.empty).emissions thirdOnly Rng.fixed 0 =
            echoed ++ generated ∧
          echoed.map (·.event) = [⟨0, Single.zero⟩, ⟨1, Single.zero⟩] ∧
          (∀ x ∈ echoed ++ generated, ∃ goOn, x.answer = .ok goOn) ∧
          Generates steady steadyRequest Cache.empty generated := by
  have ok : ((steady.generator.generate steadyRequest Cache.empty).run thirdOnly Rng.fixed 0).result =
      .ok () := by decide +kernel
  exact ⟨ok, generate_shape steady steadyRequest Cache.empty thirdOnly Rng.fixed 0 ok⟩

end Engine

end PromptLoop
