import PromptLoop.Proofs.Receiving

/-!
# What a turn hears

A turn hears events up to the first that fails (`Turn.Hears`). Its receipts follow one another: each has
the counters after those of the one before (`Filed`). `Engine.Answered.hears` says what a turn hears of an
engine: the tokens of the prompt, in order, and then tokens of which only the last may be the end of the
sequence.
-/

namespace PromptLoop

variable {γ δ π : Type}

/-! ### Receipts -/

/-- Receipts are filed one after the other, from some counters on and up to some counters. -/
def Filed (eos : Token) : Session → List Receipt → Session → Prop
  | s, [], s' => s' = s
  | s, r :: rs, s' => r.session = s.after eos r.event.token ∧ Filed eos r.session rs s'

namespace Filed

variable {eos : Token} {s s' : Session} {rs rs' : List Receipt}

theorem append_iff : Filed eos s (rs ++ rs') s' ↔ ∃ s₁, Filed eos s rs s₁ ∧ Filed eos s₁ rs' s' := by
  induction rs generalizing s with
  | nil => exact ⟨fun h => ⟨s, rfl, h⟩, fun ⟨s₁, same, h⟩ => same ▸ h⟩
  | cons r rs ih =>
    constructor
    · rintro ⟨first, rest⟩
      obtain ⟨s₁, before, after⟩ := ih.mp rest
      exact ⟨s₁, ⟨first, before⟩, after⟩
    · rintro ⟨s₁, ⟨first, before⟩, after⟩
      exact ⟨first, ih.mpr ⟨s₁, before, after⟩⟩

/-- The counters after all receipts are those after their tokens. -/
theorem session (h : Filed eos s rs s') : s' = s.afterAll eos (rs.map (·.event.token)) := by
  induction rs generalizing s with
  | nil => exact h
  | cons r rs ih =>
    obtain ⟨first, rest⟩ := h
    rw [ih rest, first]
    rfl

theorem getLast {r : Receipt} (h : Filed eos s (rs ++ [r]) s') : r.session = s' := by
  obtain ⟨s₁, -, -, last⟩ := append_iff.mp h
  exact last.symm

end Filed

namespace Turn

variable {setup : TurnSetup δ π} {t t' t'' : Turn δ π} {events : List Event}

/-- A turn with more receipts. -/
def Files (eos : Token) (t : Turn δ π) (events : List Event) (t' : Turn δ π) : Prop :=
  ∃ rs, t'.receipts = rs.reverse ++ t.receipts ∧ rs.map (·.event) = events ∧
    Filed eos t.session rs t'.session

theorem Files.trans {eos : Token} {more : List Event} (h : Files eos t events t')
    (h' : Files eos t' more t'') : Files eos t (events ++ more) t'' := by
  obtain ⟨rs, receipts, rfl, filed⟩ := h
  obtain ⟨rs', receipts', rfl, filed'⟩ := h'
  refine ⟨rs ++ rs', ?_, List.map_append, Filed.append_iff.mpr ⟨_, filed, filed'⟩⟩
  rw [receipts', receipts, List.reverse_append, List.append_assoc]

/-- Every event that is received is filed, also one that fails. -/
theorem files_of_receive {event : Event} {rng rng' : Rng} {answer : Answer}
    (h : t.receive setup event rng = (answer, rng', t')) : Files setup.eos t [event] t' := by
  have received := receive_received h
  exact ⟨[⟨event, answer, t'.session, t'.phase, rng'⟩], received.receipts, rfl, received.session, rfl⟩

/-! ### Events up to the first failure -/

theorem Receives.files (h : Receives setup t events t') : Files setup.eos t events t' := by
  induction h with
  | nil => exact ⟨[], rfl, rfl, rfl⟩
  | cons first _ ih => exact (files_of_receive first).trans ih

/-- What a turn hears: events without an error, or some without and then one that fails. -/
inductive Hears (setup : TurnSetup δ π) (t : Turn δ π) :
    List Event → Option SessionError → Turn δ π → Prop
  /-- Nothing fails. -/
  | well {events : List Event} {t' : Turn δ π} (receives : Receives setup t events t') :
      Hears setup t events none t'
  /-- The last event fails. -/
  | badly {events : List Event} {event : Event} {error : SessionError} {t₁ t₂ : Turn δ π}
      {rng rng' : Rng} (receives : Receives setup t events t₁)
      (failed : t₁.receive setup event rng = (.error error, rng', t₂)) :
      Hears setup t (events ++ [event]) (some error) t₂

/-- A turn that fails has no room in an output, or comes to a token that the decoder fails at. -/
theorem Hears.steps_of_some {events : List Event} {error : SessionError}
    (h : Hears setup t events (some error) t') :
    error = Writer.full ∧ ¬ t.console.Works ∨
      ∃ (chunks : List (Option String)) (token : Token) (d : δ),
        setup.tokenizer.steps t.decoder (decoded setup.eos t.toPassOver (events.map (·.token))) =
            chunks.map .ok ++ [.error error] ∧
          (setup.tokenizer.step d token).1 = .error error := by
  cases h with
  | @badly events event _ t₁ _ rng _ receives failed =>
    obtain ⟨passOver, works, decoder, chunks, steps⟩ := receives.steps
    have reception := (t₁.receive_reception setup event rng).1
    rw [failed] at reception
    rcases reception.of_error with ⟨full, broken⟩ | ⟨decodes, stepped⟩
    · exact .inl ⟨full, fun works₀ => broken (works works₀)⟩
    · right
      rw [List.map_append, decoded_append, List.length_map, ← passOver, List.map_singleton,
        decoded_of_decodes decodes, Tokenizer.steps_append, steps, ← decoder, Tokenizer.steps_cons, stepped]
      exact ⟨chunks, event.token, t₁.decoder, rfl, stepped⟩

theorem Hears.files {failure : Option SessionError} (h : Hears setup t events failure t') :
    Files setup.eos t events t' := by
  cases h with
  | well receives => exact receives.files
  | badly receives failed => exact receives.files.trans (files_of_receive failed)

theorem Receives.hears {more : List Event} {failure : Option SessionError} (h : Receives setup t events t')
    (h' : Hears setup t' more failure t'') : Hears setup t (events ++ more) failure t'' := by
  cases h' with
  | well receives => exact .well (h.append receives)
  | badly receives failed =>
    rw [← List.append_assoc]
    exact .badly (h.append receives) failed

theorem hears_of_feed {error : SessionError} {rng rng' : Rng}
    (h : (Turn.sink setup).feed events rng t = (.error error, rng', t')) :
    ∃ heard, heard <+: events ∧ Hears setup t heard (some error) t' := by
  induction events generalizing t rng with
  | nil => cases h
  | cons event events ih =>
    rw [Sink.feed] at h
    rcases hr : (Turn.sink setup).receive event rng t with ⟨error' | goOn, rng₁, t₁⟩ <;> rw [hr] at h
    · cases h
      exact ⟨[event], List.cons_prefix_cons.mpr ⟨rfl, List.nil_prefix⟩, .badly .nil hr⟩
    · obtain ⟨heard, within, hears⟩ := ih h
      exact ⟨event :: heard, List.cons_prefix_cons.mpr ⟨rfl, within⟩,
        (Receives.cons hr .nil).hears hears⟩

end Turn

/-! ### What an engine says -/

namespace Engine

variable {e : Engine} {request : Request} {setup : TurnSetup δ π}

/-- The events of an answer: some of the tokens of the prompt, or all of them and then tokens of which
only the last may be the end of the sequence. -/
def InOrder (e : Engine) (request : Request) (events : List Event) : Prop :=
  events <+: echo request ∨ ∃ (went : List Event) (last : Option Event),
    events = echo request ++ (went ++ last.toList) ∧ ∀ event ∈ went, event.token ≠ e.eos

theorem Standing.ReadsOn.receives {p p' : Standing (Turn δ π)}
    (h : p.ReadsOn e request (Turn.sink setup) p') :
    ∃ went, Turn.Receives setup p.sink went p'.sink ∧ ∀ event ∈ went, event.token ≠ e.eos := by
  induction h with
  | refl => exact ⟨[], .nil, List.forall_mem_nil _⟩
  | head reads _ ih =>
    obtain ⟨went, receives, going⟩ := ih
    exact ⟨_, .cons reads.received receives, List.forall_mem_cons.mpr ⟨reads.going, going⟩⟩

/-- What an answer ends with: the error of the event that failed, and if none did, no error but one of the
engine's own. -/
def Reports : Option SessionError → Except Halt Unit → Prop
  | some error, result => result = .error error
  | none, result => ∀ error : SessionError, result = .error error → ∃ detail, error = .generation detail

/-- **What a turn hears of an engine**, and what the answer ends with. -/
theorem Answered.hears {cache : Cache} {rng : Rng} {t : Turn δ π} {ended : CourseEnd Cache (Turn δ π)}
    (h : Answered e request (Turn.sink setup) cache rng t ended) :
    ∃ events failure, Turn.Hears setup t events failure ended.sink ∧ InOrder e request events ∧
      Reports failure ended.result := by
  cases h with
  | refused refusal =>
    refine ⟨[], none, .well .nil, .inl List.nil_prefix, fun error failed => ?_⟩
    cases failed
    unfold refusal? at refusal
    split_ifs at refusal
    · exact ⟨_, (Option.some.inj refusal).symm⟩
    · exact ⟨_, (Option.some.inj refusal).symm⟩
  | unreadable =>
    exact ⟨[], none, .well .nil, .inl List.nil_prefix,
      fun error failed => ⟨_, (Halt.error.inj (Except.error.inj failed)).symm⟩⟩
  | unheard _ _ heard =>
    obtain ⟨events, within, hears⟩ := Turn.hears_of_feed heard
    exact ⟨events, _, hears, .inl within, rfl⟩
  | sampled _ _ heard on ends =>
    have echoed := Turn.receives_of_feed heard
    obtain ⟨went, receives, going⟩ := on.receives
    have sofar : Turn.Receives setup t (echo request ++ went) _ := echoed.append receives
    have with_last : ∀ event, Engine.InOrder e request (echo request ++ went ++ [event]) := fun event =>
      .inr ⟨went, some event, List.append_assoc _ _ _, going⟩
    cases ends with
    | capped =>
      exact ⟨_, none, .well sofar, .inr ⟨went, none, by simp, going⟩, nofun⟩
    | panicked =>
      exact ⟨_, none, .well sofar, .inr ⟨went, none, by simp, going⟩, nofun⟩
    | ended _ _ ends =>
      cases ends with
      | stopped received =>
        exact ⟨_, none, .well (sofar.append (.cons received .nil)), with_last _, nofun⟩
      | failed received => exact ⟨_, _, .badly sofar received, with_last _, rfl⟩
      | unreadable received =>
        exact ⟨_, none, .well (sofar.append (.cons received .nil)), with_last _,
          fun error failed => ⟨_, (Halt.error.inj (Except.error.inj failed)).symm⟩⟩

end Engine

/-- **What a call hears**: it has a receipt for every event, and they are filed one after the other. -/
theorem Conversation.courseEnd_hears (c : Conversation γ δ π) (e : Engine) (prompt : List Token)
    (s : ConversationState Cache π) (console : Console) :
    let c := c.answeredBy e
    let ended := c.courseEnd prompt s console
    let receipts := ended.sink.receipts.reverse
    Filed e.eos (s.session.beginTurn prompt.length) receipts ended.sink.session ∧
      Engine.InOrder e (c.request prompt s.session.contextPos) (receipts.map (·.event)) ∧
      ∃ failure, Engine.Reports failure ended.result ∧
        Turn.Hears c.turnSetup
          (Turn.start c.turnSetup (s.session.beginTurn prompt.length) .prefilling console s.policy)
          (receipts.map (·.event)) failure ended.sink := by
  intro c' ended receipts
  obtain ⟨events, failure, hears, inOrder, result⟩ := (c.answered e prompt s console).hears
  obtain ⟨rs, filed_in, rfl, filed⟩ := hears.files
  have same : receipts = rs :=
    (congrArg List.reverse (filed_in.trans (List.append_nil _))).trans (List.reverse_reverse _)
  rw [same]
  exact ⟨filed, inOrder, failure, result, hears⟩

end PromptLoop
