import Mathlib.Data.List.Basic
import PromptLoop.Proofs.Generating

/-!
# What happens in a course

The end of a course says nothing of the way there. `Course.happenings` tells the way: the words that are
drawn and the events that are emitted, in order, each with the random stream after it.

For an engine the way is a walk. `Standing.Walk` lists where sampling stands whenever an event is sampled.
At each of these stops a word may be drawn and then the event is emitted (`Standing.sampling`), and that is
all that happens after the prompt (`Standing.run_walk`).
-/

namespace PromptLoop

variable {γ σ : Type}

/-- Something that happens in a course. -/
inductive Happening (σ : Type) where
  /-- A word is drawn; the random stream after it. -/
  | drawn (word : UInt32) (rng : Rng)
  /-- An event is emitted and answered; the random stream and the receiver after it. -/
  | emitted (event : Event) (answer : Answer) (rng : Rng) (state : σ)

/-- An event with the answer to it. -/
structure Emission where
  /-- The event. -/
  event : Event
  /-- The answer. -/
  answer : Answer

/-- The event that is emitted, if one is. -/
def Happening.emission? : Happening σ → Option Emission
  | drawn _ _ => none
  | emitted event answer _ _ => some ⟨event, answer⟩

namespace Course

/-- What happens in a course. -/
def happenings (sink : Sink σ) : Course γ → Rng → σ → List (Happening σ)
  | finish _ _, _, _ => []
  | draw next, rng, state => .drawn rng.word rng.advance :: (next rng.word).happenings sink rng.advance state
  | emit event next, rng, state =>
    let (answer, rng, state) := sink.receive event rng state
    .emitted event answer rng state :: (next answer).happenings sink rng state

/-- The events that a course emits, with the answers to them. A sink that records what it hears ends up with
the same (`Sink.run_recorded`). -/
def emissions (sink : Sink σ) (course : Course γ) (rng : Rng) (state : σ) : List Emission :=
  (course.happenings sink rng state).filterMap Happening.emission?

end Course

/-! ### Events for a sink -/

namespace Sink

/-- The sink that also keeps a record of the events and its answers, in order. -/
def recorded (sink : Sink σ) : Sink (σ × List Emission) where
  receive event rng state :=
    let (answer, rng, after) := sink.receive event rng state.1
    (answer, rng, after, state.2 ++ [⟨event, answer⟩])

/-- The emissions of a course are what a record of its events holds. -/
theorem run_recorded (sink : Sink σ) (course : Course γ) (rng : Rng) (state : σ) (record : List Emission) :
    course.run sink.recorded rng (state, record) =
      let ended := course.run sink rng state
      ⟨ended.result, ended.generator, ended.rng, ended.sink,
        record ++ course.emissions sink rng state⟩ := by
  induction course generalizing rng state record with
  | finish result after =>
    simp [Course.run, Course.emissions, Course.happenings]
  | draw next ih => exact ih _ _ _ _
  | emit event next ih =>
    rw [Course.run, Course.run, Course.emissions, Course.happenings]
    rcases hr : sink.receive event rng state with ⟨answer, rng', state'⟩
    have recorded : sink.recorded.receive event rng (state, record) =
        (answer, rng', state', record ++ [⟨event, answer⟩]) := by
      simp only [Sink.recorded, hr]
    rw [recorded]
    refine (ih answer rng' state' (record ++ [⟨event, answer⟩])).trans ?_
    rw [List.append_assoc]
    rfl

/-- What happens when a sink is handed events up to the first failure. -/
def hearing (sink : Sink σ) : List Event → Rng → σ → List (Happening σ)
  | [], _, _ => []
  | event :: events, rng, state =>
    match sink.receive event rng state with
    | (.error e, rng, state) => [.emitted event (.error e) rng state]
    | (.ok goOn, rng, state) => .emitted event (.ok goOn) rng state :: sink.hearing events rng state

theorem happenings_emit (sink : Sink σ) (event : Event) (next : Answer → Course γ) (rng : Rng) (state : σ) :
    (Course.emit event next).happenings sink rng state =
      let (answer, rng', state') := sink.receive event rng state
      .emitted event answer rng' state' :: (next answer).happenings sink rng' state' := rfl

theorem happenings_emitAll (sink : Sink σ) (after : γ) (continuation : Course γ) (events : List Event)
    (rng : Rng) (state : σ) :
    (Course.emitAll after continuation events).happenings sink rng state =
      sink.hearing events rng state ++
        match sink.feed events rng state with
        | (.error _, _, _) => []
        | (.ok (), rng, state) => continuation.happenings sink rng state := by
  induction events generalizing rng state with
  | nil => rfl
  | cons event events ih =>
    rw [Course.emitAll, happenings_emit, hearing, feed]
    rcases sink.receive event rng state with ⟨_ | _, rng', state'⟩
    · rfl
    · exact congrArg (List.cons _) (ih rng' state')

/-- A sink that does not fail hears all events. -/
theorem emissions_hearing {sink : Sink σ} {events : List Event} {rng rng' : Rng} {state state' : σ}
    (h : sink.feed events rng state = (.ok (), rng', state')) :
    ∃ heard : List Emission, (sink.hearing events rng state).filterMap Happening.emission? = heard ∧
      heard.map (·.event) = events ∧ ∀ x ∈ heard, ∃ goOn, x.answer = .ok goOn := by
  induction events generalizing rng state with
  | nil => exact ⟨[], rfl, rfl, List.forall_mem_nil _⟩
  | cons event events ih =>
    rw [feed] at h
    rw [hearing]
    rcases hr : sink.receive event rng state with ⟨error | goOn, rng₁, state₁⟩ <;> rw [hr] at h
    · cases h
    · obtain ⟨heard, same, rfl, answered⟩ := ih h
      refine ⟨⟨event, .ok goOn⟩ :: heard, ?_, rfl, ?_⟩
      · exact congrArg (List.cons _) same
      · exact List.forall_mem_cons.mpr ⟨⟨goOn, rfl⟩, answered⟩

end Sink

/-! ### Sampling -/

/-- The word that a choice draws, if it draws one. -/
def Choice.draws (choice : Choice) (rng : Rng) : List (Happening σ) :=
  match choice with
  | .drawn _ _ _ => [.drawn rng.word rng.advance]
  | _ => []

namespace Engine

namespace Standing

variable (e : Engine) (request : Request) (sink : Sink σ)

/-- What happens in the rest of the course. -/
def happenings (p : Standing σ) : List (Happening σ) :=
  (e.sampleFrom request p.left p.position p.logits p.cache).happenings sink p.rng p.sink

/-- What happens when an event is sampled next. -/
def sampling (p : Standing σ) (event : Event) : List (Happening σ) :=
  (p.choice e request).draws p.rng ++
    [.emitted event (p.received e request sink event).1 (p.received e request sink event).2.1
      (p.received e request sink event).2.2]

/-- Where sampling stands, and the event that is sampled there. -/
structure Stop (σ : Type) where
  /-- Where sampling stands. -/
  standing : Standing σ
  /-- The event. -/
  event : Event

/-- What happens at a stop. -/
def Stop.happenings (q : Stop σ) : List (Happening σ) := q.standing.sampling e request sink q.event

/-- The event of a stop, with the answer to it. -/
def Stop.said (q : Stop σ) : Emission := ⟨q.event, (q.standing.received e request sink q.event).1⟩

/-- Where sampling stands whenever an event is sampled, up to the end of the course. -/
inductive Walk : Standing σ → List (Stop σ) → CourseEnd Cache σ → Prop
  /-- One of the caps is reached, and no event is sampled. -/
  | capped {p : Standing σ} (full : ¬ p.HasRoom request) : Walk p [] ⟨.ok (), p.cache, p.rng, p.sink⟩
  /-- Sampling panics. -/
  | panicked {p : Standing σ} {panic : Panic} (room : p.HasRoom request)
      (panics : (p.sampled e request).1 = .error panic) : Walk p [] ⟨.error panic, p.cache, p.rng, p.sink⟩
  /-- The last event is sampled. -/
  | last {p : Standing σ} {event : Event} {ended : CourseEnd Cache σ} (room : p.HasRoom request)
      (sampled : (p.sampled e request).1 = .ok event) (ends : p.EndsAt e request sink event ended) :
      Walk p [⟨p, event⟩] ended
  /-- An event is sampled, its token is read, and sampling goes on. -/
  | reads {p p' : Standing σ} {event : Event} {qs : List (Stop σ)} {ended : CourseEnd Cache σ}
      (reads : p.Reads e request sink event p') (walk : Walk p' qs ended) : Walk p (⟨p, event⟩ :: qs) ended

variable {e request sink}

theorem happenings_settle (p : Standing σ) (after : γ) (next : Event → Course γ) :
    (e.settle (p.choice e request) after next).happenings sink p.rng p.sink =
      match (p.sampled e request).1 with
      | .ok event =>
        (p.choice e request).draws p.rng ++ (next event).happenings sink (p.sampled e request).2 p.sink
      | .error _ => [] := by
  unfold sampled
  cases p.choice e request <;> rfl

theorem happenings_of_panic {p : Standing σ} (h : p.HasRoom request) {panic : Panic}
    (panics : (p.sampled e request).1 = .error panic) : p.happenings e request sink = [] := by
  rw [happenings, sampleFrom_of_hasRoom h, happenings_settle, panics]

theorem happenings_of_sampled {p : Standing σ} (h : p.HasRoom request) {event : Event}
    (sampled : (p.sampled e request).1 = .ok event) :
    p.happenings e request sink = p.sampling e request sink event ++
      match p.received e request sink event with
      | (.error _, _, _) => []
      | (.ok goOn, rng, state) =>
        if !goOn || event.token == e.eos then []
        else
          match e.model.forward p.cache [event.token] p.position with
          | (.error _, _) => []
          | (.ok logits, cache) =>
            Standing.happenings e request sink ⟨p.left - 1, p.position + 1, logits, cache, rng, state⟩ := by
  rw [happenings, sampleFrom_of_hasRoom h, happenings_settle, sampled]
  dsimp only
  rw [Sink.happenings_emit, sampling, List.append_assoc, received]
  rcases sink.receive event _ p.sink with ⟨_ | goOn, rng', state'⟩
  · rfl
  · dsimp only
    split_ifs
    · rfl
    · rcases e.model.forward p.cache _ _ with ⟨_ | _, cache'⟩ <;> rfl

theorem happenings_of_not_hasRoom {p : Standing σ} (h : ¬ p.HasRoom request) :
    p.happenings e request sink = [] := by
  rw [happenings, sampleFrom_of_not_hasRoom h]
  rfl

/-- What happens when an event is sampled and its token is read. -/
theorem Reads.happenings {p p' : Standing σ} {event : Event} (reads : p.Reads e request sink event p') :
    p.happenings e request sink = p.sampling e request sink event ++ p'.happenings e request sink := by
  have next : p' = ⟨p.left - 1, p.position + 1, p'.logits, p'.cache, p'.rng, p'.sink⟩ := by
    rw [← reads.left, ← reads.position]
  have going : (!true || event.token == e.eos) = false := by
    simpa using reads.going
  rw [happenings_of_sampled reads.room reads.sampled, reads.received]
  simp only [going, Bool.false_eq_true, if_false, reads.read]
  rw [← next]

/-- What happens when the last event is sampled. -/
theorem EndsAt.happenings {p : Standing σ} {event : Event} {ended : CourseEnd Cache σ} (room : p.HasRoom request)
    (sampled : (p.sampled e request).1 = .ok event) (ends : p.EndsAt e request sink event ended) :
    p.happenings e request sink = p.sampling e request sink event := by
  rw [happenings_of_sampled room sampled]
  cases ends with
  | @stopped goOn rng state received last =>
    have stop : (!goOn || event.token == e.eos) = true := by
      simpa using last
    simp only [received, stop, if_true, List.append_nil]
  | failed received => simp only [received, List.append_nil]
  | unreadable received _ fault? =>
    simp only [received, Model.forward, fault?, ite_self, List.append_nil]

variable (e request sink)

/-- **Every course is a walk**, and what happens in it is what happens on the walk. -/
theorem run_walk (p : Standing σ) :
    ∃ qs, p.Walk e request sink qs (p.run e request sink) ∧
      p.happenings e request sink = qs.flatMap (Stop.happenings e request sink) := by
  induction hl : p.left generalizing p with
  | zero =>
    have full : ¬ p.HasRoom request := fun room => absurd hl (Nat.ne_of_gt room.1)
    rw [run_of_not_hasRoom full]
    exact ⟨[], .capped full, happenings_of_not_hasRoom full⟩
  | succ left ih =>
    rcases p.run_cases e request sink with ends | ⟨event, p', reads, same⟩
    · generalize p.run e request sink = ended at ends
      cases ends with
      | capped full => exact ⟨[], .capped full, happenings_of_not_hasRoom full⟩
      | panicked room panics => exact ⟨[], .panicked room panics, happenings_of_panic room panics⟩
      | @ended event _ room sampled ends =>
        refine ⟨[⟨p, event⟩], .last room sampled ends, ?_⟩
        rw [ends.happenings room sampled, List.flatMap_singleton]
        rfl
    · obtain ⟨qs, walk, happened⟩ := ih p' (by rw [reads.left, hl, Nat.add_sub_cancel])
      refine ⟨⟨p, event⟩ :: qs, same ▸ .reads reads walk, ?_⟩
      rw [reads.happenings, happened, List.flatMap_cons]
      rfl

variable {e request sink}

/-- A walk goes on from every stop. -/
theorem Walk.split {p : Standing σ} {q : Stop σ} {before after : List (Stop σ)} {ended : CourseEnd Cache σ}
    (h : p.Walk e request sink (before ++ q :: after) ended) :
    q.standing.Walk e request sink (q :: after) ended := by
  induction before generalizing p with
  | nil =>
    cases h with
    | last room sampled ends => exact .last room sampled ends
    | reads reads walk => exact .reads reads walk
  | cons first rest ih =>
    rw [List.cons_append] at h
    generalize listed : rest ++ q :: after = qs at h
    cases h with
    | last => simp at listed
    | reads _ walk =>
      subst listed
      exact ih walk

theorem sampling_emissions (p : Standing σ) (event : Event) :
    (p.sampling e request sink event).filterMap Happening.emission? =
      [⟨event, (p.received e request sink event).1⟩] := by
  rw [sampling, List.filterMap_append]
  cases p.choice e request <;> rfl

end Standing

/-! ### Requests -/

/-- What happens in answer to a request that is turned down, or whose prompt cannot be read: nothing. -/
theorem happenings_answer_of_refusal (e : Engine) {request : Request} {error : SessionError}
    (refusal : refusal? request = some error) (sink : Sink σ) (cache : Cache) (rng : Rng) (state : σ) :
    (e.answer request cache).happenings sink rng state = [] := by
  rw [answer_of_refusal e cache refusal]
  rfl

theorem happenings_answer_of_fault (e : Engine) {request : Request} {fault : ReadFault}
    {cache : Cache} (fits : refusal? request = none)
    (fault? : e.model.fault? cache request.prompt request.startPos = some fault) (sink : Sink σ) (rng : Rng)
    (state : σ) : (e.answer request cache).happenings sink rng state = [] := by
  rw [answer_of_fits e cache fits, Model.forward, fault?]
  rfl

/-- What happens in answer to another request: its prompt is heard, and then tokens are sampled. -/
theorem happenings_answer (e : Engine) {request : Request} {cache : Cache} (fits : refusal? request = none)
    (readable : e.model.fault? cache request.prompt request.startPos = none) (sink : Sink σ) (rng : Rng)
    (state : σ) :
    (e.answer request cache).happenings sink rng state =
      sink.hearing (echo request) rng state ++
        match sink.feed (echo request) rng state with
        | (.error _, _, _) => []
        | (.ok (), rng, state) => (e.opening request cache rng state).happenings e request sink := by
  rw [answer_of_fits e cache fits, e.model.forward_of_readable readable]
  dsimp only
  rw [Sink.happenings_emitAll]
  rfl

end Engine

end PromptLoop
