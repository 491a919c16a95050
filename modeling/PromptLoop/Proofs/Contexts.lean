import PromptLoop.Proofs.Hearing
import PromptLoop.Proofs.Positions

/-!
# Where a context ends

Only the end of a sequence can end a context, and the tokens of a prompt but the last cannot. The last one
can: without multi-turn, a prompt that ends with the end of a sequence starts the counters over while the
turn is still on, and in a deterministic session the random stream too (`Turn.feed_prompt`).

So whenever an engine samples a token, the counters agree with its position in the context, unless the
prompt ended like that; then they are behind by all that was forgotten (`Conversation.run_counts`).
-/

namespace PromptLoop

variable {γ δ π : Type}

/-! ### Tokens that end nothing -/

namespace Session

variable {eos : Token} {s : Session}

/-- Tokens that are not the end of a sequence are counted. -/
theorem contextPos_afterAll_of_ne {tokens : List Token} (h : ∀ token ∈ tokens, token ≠ eos) :
    (s.afterAll eos tokens).contextPos = s.contextPos + tokens.length := by
  induction tokens generalizing s with
  | nil => rfl
  | cons token tokens ih =>
    rw [List.forall_mem_cons] at h
    have going : s.advance.notesEnd eos token = false := by
      rw [notesEnd, beq_eq_false_iff_ne.mpr h.1, Bool.and_false]
    have first : s.after eos token = s.advance := after_eq_advance going
    show ((s.after eos token).afterAll eos tokens).contextPos = _
    rw [first, ih h.2, contextPos_advance, List.length_cons]
    omega

theorem afterAll_append (tokens more : List Token) :
    s.afterAll eos (tokens ++ more) = (s.afterAll eos tokens).afterAll eos more := List.foldl_append

end Session

namespace Turn

variable {setup : TurnSetup δ π} {t t' : Turn δ π} {rng rng' : Rng}

/-- **What can end a context**: an event after which the counters have not gone one up, or the random
stream has changed, is the end of a sequence, is the last token of the prompt or later, and the session
does not keep its context. -/
theorem receive_ends {event : Event} {answer : Answer}
    (h : t.receive setup event rng = (answer, rng', t'))
    (ends : t'.session.contextPos ≠ t.session.contextPos + 1 ∨ rng' ≠ rng) :
    event.token = setup.eos ∧ t.session.promptSize ≤ t.session.turnPos + 1 ∧
      t.session.multiturn = false := by
  have received := receive_received h
  rw [received.session, Session.contextPos_after, received.rng, Rng.after, rngAtEnd,
    Session.multiturn_advance, Session.deterministic_advance] at ends
  have noted : t.session.advance.notesEnd setup.eos event.token = true := by
    rcases hn : t.session.advance.notesEnd setup.eos event.token with _ | _
    · simp [hn] at ends
    · rfl
  have single : t.session.multiturn = false := by
    rcases hm : t.session.multiturn with _ | _
    · rfl
    · simp [hm] at ends
  rw [Session.notesEnd, Bool.and_eq_true, Bool.not_eq_true', beq_iff_eq] at noted
  exact ⟨noted.2, Nat.not_lt.mp (of_decide_eq_false noted.1), single⟩

/-- What a prompt does to the random stream. -/
theorem rng_of_feed {events : List Event} (h : (Turn.sink setup).feed events rng t = (.ok (), rng', t'))
    (size : t.session.turnPos + events.length = t.session.promptSize) (nonempty : events ≠ []) :
    rng' = if t.session.promptEnds setup.eos (events.map (·.token)) && t.session.deterministic
      then Rng.fixed else rng := by
  induction events generalizing rng t with
  | nil => exact absurd rfl nonempty
  | cons event events ih =>
    rw [List.length_cons] at size
    rw [Sink.feed] at h
    rcases hr : (Turn.sink setup).receive event rng t with ⟨error | goOn, rng₁, t₁⟩ <;> rw [hr] at h
    · cases h
    have received := receive_received hr
    rcases events with _ | ⟨event', events⟩
    · cases h
      rw [List.length_nil] at size
      rw [received.rng, Rng.after, Session.notesEnd_advance (by omega), rngAtEnd, Session.promptEnds,
        Session.multiturn_advance, Session.deterministic_advance]
      cases t.session.multiturn <;> cases t.session.deterministic <;> simp
    · rw [List.length_cons] at size
      have reading : t.session.advance.notesEnd setup.eos event.token = false :=
        Session.notesEnd_advance_of_lt (by omega)
      have session : t₁.session = t.session.advance :=
        received.session.trans (Session.after_eq_advance reading)
      have same : rng₁ = rng := by
        rw [received.rng, Rng.after, reading]
        rfl
      have size' : t₁.session.turnPos + (event' :: events).length = t₁.session.promptSize := by
        rw [session, Session.turnPos_advance, Session.promptSize_advance, List.length_cons]
        omega
      rw [ih h size' (List.cons_ne_nil _ _), session, same]
      simp only [Session.promptEnds, List.map_cons, List.getLast?_cons_cons, Session.multiturn_advance,
        Session.deterministic_advance]

/-- **What a prompt does to a session**: its tokens are counted, and the random stream stays as it is,
unless the prompt ends with the end of a sequence and the session does not keep its context. -/
theorem feed_prompt {events : List Event} (nonempty : events ≠ []) {s : Session} {phase : Phase}
    {console : Console} {state : π}
    (h : (Turn.sink setup).feed events rng
      (start setup (s.beginTurn events.length) phase console state) = (.ok (), rng', t')) :
    t'.session.contextPos =
        (if s.promptEnds setup.eos (events.map (·.token)) then 0 else s.contextPos + events.length) ∧
      rng' = if s.promptEnds setup.eos (events.map (·.token)) && s.deterministic then Rng.fixed else rng := by
  constructor
  · have size : (s.beginTurn events.length).turnPos + (events.map (·.token)).length =
        (s.beginTurn events.length).promptSize := by
      rw [List.length_map]
      exact Nat.zero_add _
    have some_tokens : events.map (·.token) ≠ [] := by simpa using nonempty
    rw [(Engine.heard_of_feed h).session, start, Session.contextPos_afterAll size some_tokens, List.length_map]
    rfl
  · exact rng_of_feed h (Nat.zero_add _) nonempty

end Turn

/-! ### Positions in a call -/

/-- Wherever a token is sampled in a call, the tokens that are counted and those that the prompt made the
session forget are those before the position of the engine. -/
def Call.Counts (eos : Token) (multiturn : Bool) (call : Call) : Prop :=
  ∀ before r after, call.receipts = before ++ r :: after → call.prompt.length ≤ before.length →
    ∃ last, before.getLast? = some last ∧
      last.session.contextPos + call.forgotten eos multiturn = call.startPos + before.length

theorem Call.forgotten_eq (eos : Token) (s : Session) (prompt : List Token) (receipts : List Receipt) :
    Call.forgotten eos s.multiturn ⟨prompt, s.contextPos, receipts⟩ =
      if s.promptEnds eos prompt then s.contextPos + prompt.length else 0 := rfl

/-- Tokens that come before a sampled one are those of the prompt and then some that are not the end of the
sequence. -/
theorem Engine.InOrder.before {e : Engine} {request : Request} {before after : List Event} {event : Event}
    (h : Engine.InOrder e request (before ++ event :: after))
    (past : request.prompt.length ≤ before.length) :
    ∃ went, before = Engine.echo request ++ went ∧ ∀ event ∈ went, event.token ≠ e.eos := by
  have length : (Engine.echo request).length = request.prompt.length := List.length_map _
  rcases h with within | ⟨went, last, same, going⟩
  · have := within.length_le
    rw [List.length_append, List.length_cons] at this
    omega
  · have short : before <+: Engine.echo request ++ (went ++ last.toList) := ⟨event :: after, same⟩
    obtain ⟨more, rfl⟩ := List.prefix_of_prefix_length_le (List.prefix_append _ _) short (by omega)
    rw [List.append_assoc, List.append_cancel_left_eq] at same
    have shorter : more.length < (went ++ last.toList).length := by
      rw [← same, List.length_append, List.length_cons]
      omega
    -- An event comes after these, so the last event is not among them.
    have among : more <+: went := by
      have short : more <+: went ++ last.toList := ⟨event :: after, same⟩
      cases last with
      | none => simpa using short
      | some last =>
        rcases List.prefix_concat_iff.mp short with rfl | among
        · exact absurd shorter (Nat.lt_irrefl _)
        · exact among
    exact ⟨more, rfl, fun event mem => going event (among.subset mem)⟩

/-- The counters after receipts of a prompt and of tokens that are not the end of the sequence. -/
theorem Filed.contextPos {eos : Token} {s s' : Session} {rs : List Receipt} {prompt went : List Token}
    (h : Filed eos (s.beginTurn prompt.length) rs s') (nonempty : prompt ≠ [])
    (tokens : rs.map (·.event.token) = prompt ++ went) (going : ∀ token ∈ went, token ≠ eos) :
    s'.contextPos = (if s.promptEnds eos prompt then 0 else s.contextPos + prompt.length) + went.length := by
  have turned : (s.beginTurn prompt.length).turnPos + prompt.length =
    (s.beginTurn prompt.length).promptSize := Nat.zero_add _
  rw [h.session, tokens, Session.afterAll_append, Session.contextPos_afterAll_of_ne going,
    Session.contextPos_afterAll turned nonempty]
  rfl

/-- A call counts right if its receipts are filed one after the other and its tokens are in order. -/
theorem Engine.InOrder.counts {e : Engine} {request : Request} {s s' : Session} {receipts : List Receipt}
    (h : Engine.InOrder e request (receipts.map (·.event)))
    (filed : Filed e.eos (s.beginTurn request.prompt.length) receipts s') (nonempty : request.prompt ≠ []) :
    Call.Counts e.eos s.multiturn ⟨request.prompt, s.contextPos, receipts⟩ := by
  rintro before r after rfl past
  rw [List.map_append, List.map_cons] at h
  obtain ⟨went, before_eq, going⟩ := h.before (by rw [List.length_map]; exact past)
  have tokens : before.map (·.event.token) = request.prompt ++ went.map (·.token) := by
    have mapped := congrArg (List.map (·.token)) before_eq
    rwa [List.map_map, List.map_append, Engine.map_token_echo] at mapped
  have length := congrArg List.length tokens
  rw [List.length_map, List.length_append] at length
  obtain ⟨s₁, filed₁, -⟩ := Filed.append_iff.mp filed
  have counted : s₁.contextPos = (if s.promptEnds e.eos request.prompt then 0
      else s.contextPos + request.prompt.length) + (went.map (·.token)).length :=
    filed₁.contextPos nonempty tokens (List.forall_mem_map.mpr going)
  rcases List.eq_nil_or_concat before with rfl | ⟨first, last, rfl⟩
  · exact absurd (List.length_pos_iff.mpr nonempty) (Nat.not_lt.mpr past)
  rw [List.concat_eq_append] at filed₁ length ⊢
  refine ⟨last, List.getLast?_concat, ?_⟩
  rw [filed₁.getLast, counted, length, Call.forgotten_eq]
  dsimp only
  split_ifs <;> omega

namespace Conversation

variable {c : Conversation γ δ π}

/-- A text that is served counts right, also if it fails. -/
theorem turn_counts (c : Conversation γ δ π) (e : Engine) (text : String) (s : ConversationState Cache π)
    (console : Console) :
    ∀ call ∈ ((c.answeredBy e).turn text s console).call, call.Counts e.eos s.session.multiturn := by
  intro call mem
  rcases (c.answeredBy e).turn_cases text s console with served | ⟨prompt, console', -, served⟩ <;>
    rw [served.call] at mem <;> cases mem
  obtain ⟨filed, inOrder, -⟩ := c.courseEnd_hears e prompt.tokens s console'
  exact inOrder.counts filed served.nonempty

/-- All calls of a run count right, also if the run fails. -/
theorem run_counts (c : Conversation γ δ π) (e : Engine) (input : List UInt8) {s : ConversationState Cache π}
    {settings : InferenceSettings} (has : s.session.Has settings) (console : Console) :
    ∀ call ∈ ((c.answeredBy e).run input s console).calls, call.Counts e.eos settings.multiturn := by
  refine run_calls (P := fun s => s.session.Has settings) (fun _ _ has => has)
    (fun _ has => has.resetContext) (fun text s console has => ?_) input has console
  have counts := c.turn_counts e text s console
  rw [has.1] at counts
  exact ⟨counts, (c.answeredBy e).turn_has text has console⟩

/-- **Where a context ends.** The tokens of a prompt are counted and leave the random stream as it is,
unless the prompt ends with the end of a sequence in a session that does not keep its context; then the
context is forgotten, and the random stream of a deterministic session starts over. No event but the end of
a sequence, at the end of the prompt or later, does such a thing. So whenever an engine samples a token, the
counters are at its position, or behind it by all that the prompt made the session forget. -/
theorem counts_unless_prompt_ends (c : Conversation γ δ π) (e : Engine) :
    (∀ (setup : TurnSetup δ π) (events : List Event) (s : Session) (phase : Phase) (console : Console)
        (state : π) (rng rng' : Rng) (turn : Turn δ π), events ≠ [] →
      (Turn.sink setup).feed events rng
          (Turn.start setup (s.beginTurn events.length) phase console state) = (.ok (), rng', turn) →
      turn.session.contextPos =
          (if s.promptEnds setup.eos (events.map (·.token)) then 0 else s.contextPos + events.length) ∧
        rng' = if s.promptEnds setup.eos (events.map (·.token)) && s.deterministic then Rng.fixed else rng) ∧
      (∀ (setup : TurnSetup δ π) (event : Event) (rng rng' : Rng) (t t' : Turn δ π) (answer : Answer),
        t.receive setup event rng = (answer, rng', t') →
        t'.session.contextPos ≠ t.session.contextPos + 1 ∨ rng' ≠ rng →
        event.token = setup.eos ∧ t.session.promptSize ≤ t.session.turnPos + 1 ∧
          t.session.multiturn = false) ∧
      ∀ (input : List UInt8) (s : ConversationState Cache π) (console : Console),
        ∀ call ∈ ((c.answeredBy e).run input s console).calls, call.Counts e.eos s.session.multiturn := by
  refine ⟨?_, ?_, fun input s console => ?_⟩
  · intro setup events s phase console state rng rng' turn nonempty h
    exact Turn.feed_prompt nonempty h
  · intro setup event rng rng' t t' answer h ends
    exact Turn.receive_ends h ends
  · have has : s.session.Has { c.settings with
        multiturn := s.session.multiturn, deterministic := s.session.deterministic } := ⟨rfl, rfl⟩
    exact c.run_counts e input has console

/-- A deterministic session in which every text is the end of a sequence. -/
def silentEnd : Conversation Cache Unit Unit := silent 1 1 ⟨100, 10, Single.one, 1, true, false⟩

/-- What a turn of it makes of a prompt, with a random stream that is under way. -/
def silentEndFed : Except SessionError Unit × Rng × Turn Unit Unit :=
  (Turn.sink silentEnd.turnSetup).feed ([0, 1].map .echo) Rng.fixed.advance
    (Turn.start silentEnd.turnSetup ((Session.start false true).beginTurn 2) .awaitingInput
      (Console.fresh none none) ())

/-- A run of it on one line. -/
def silentEndRun : Run Cache Unit :=
  (silentEnd.answeredBy (.silent 1)).run (Line.bytes "a\n")
    (.start silentEnd.settings Rng.fixed Cache.empty ()) (Console.fresh none none)

theorem silentEnd_counts :
    silentEndFed.1 = .ok () ∧ silentEndFed.2.2.session.contextPos = 0 ∧ silentEndFed.2.1 = Rng.fixed ∧
      ∀ call ∈ silentEndRun.calls, call.Counts 1 false := by
  obtain ⟨prompts, -, runs⟩ := silentEnd.counts_unless_prompt_ends (.silent 1)
  have ok : silentEndFed.1 = .ok () := by decide +kernel
  obtain ⟨contextPos, rng⟩ := prompts silentEnd.turnSetup ([0, 1].map .echo) (Session.start false true)
    .awaitingInput (Console.fresh none none) () Rng.fixed.advance silentEndFed.2.1 silentEndFed.2.2
    (by decide) (Prod.ext ok rfl)
  exact ⟨ok, contextPos, rng, runs _ _ _⟩

/-- The last token of the prompt sets the counters to zero and makes the random stream start over. The
engine samples its first token at position two all the same. -/
theorem silentEnd_forgets :
    (silentEndFed.1 = .ok () ∧ silentEndFed.2.2.session.contextPos ≠ 0 + 2 ∧
        silentEndFed.2.1 ≠ Rng.fixed.advance) ∧
      ∃ call ∈ silentEndRun.calls, ∃ before r after last, call.receipts = before ++ r :: after ∧
        call.prompt.length ≤ before.length ∧ before.getLast? = some last ∧
        last.session.contextPos ≠ call.startPos + before.length := by
  refine ⟨⟨by decide +kernel, by decide +kernel, by decide +kernel⟩, ?_⟩
  have calls : silentEndRun.calls.map (fun call => (call.prompt, call.startPos,
      call.receipts.map (·.session.contextPos))) = [([0, 1], 0, [1, 0, 0])] := by decide +kernel
  obtain ⟨call, mem, same⟩ := List.mem_map.mp (calls ▸ List.mem_singleton_self _)
  obtain ⟨prompt, startPos, counted⟩ : call.prompt = [0, 1] ∧ call.startPos = 0 ∧
      call.receipts.map (·.session.contextPos) = [1, 0, 0] := by simpa using same
  obtain ⟨first, rest, receipts, -, rest_eq⟩ := List.map_eq_cons_iff.mp counted
  obtain ⟨last, rest', rfl, zero, rest_eq'⟩ := List.map_eq_cons_iff.mp rest_eq
  obtain ⟨r, after, rfl, -, -⟩ := List.map_eq_cons_iff.mp rest_eq'
  refine ⟨call, mem, [first, last], r, after, last, receipts, ?_, rfl, ?_⟩
  · rw [prompt]
    exact Nat.le_refl 2
  · rw [zero, startPos]
    exact nofun

end Conversation

end PromptLoop
