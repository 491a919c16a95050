import PromptLoop.Program
import PromptLoop.Proofs.Counting
import PromptLoop.Proofs.Generating
import PromptLoop.Proofs.Serving

/-!
# Turns with an engine

A conversation that an engine answers ends its sequences with the token that the engine ends them with.
Here the steps of a generation and the books of a turn come together: what the prompt and the tokens
that are read after it do to the counters, the receipts and the journal of the model.
-/

namespace PromptLoop

/-- A conversation with its answers from an engine. -/
def Conversation.answeredBy {γ δ π : Type} (c : Conversation γ δ π) (e : Engine) :
    Conversation Cache δ π :=
  { c with generator := e.generator, eos := e.eos }

/-- The program's conversations are answered by the engine that is loaded. -/
theorem Program.ready_answeredBy (machine : Machine) (files : FileSystem) (settings : Settings)
    {loaded : LoadedEngine} (h : LoadedEngine.load files settings.loader = .ok loaded) :
    (ready machine settings loaded).conversation =
      (ready machine settings loaded).conversation.answeredBy (loaded.engine machine.selection) := by
  have same : loaded.special.eos = (loaded.engine machine.selection).eos := by
    unfold LoadedEngine.load at h
    simp only [bind, Except.bind, pure, Except.pure] at h
    split at h
    · cases h
    split at h
    · cases h
    split at h
    · cases h
    split at h
    · cases h
    cases h
    rfl
  rw [Conversation.answeredBy, ready, same]

/-! ### Receipts and forward passes -/

/-- Whether a generation goes on after an event: it is not refused and not the end of the sequence. -/
def Receipt.goesOn (eos : Token) (r : Receipt) : Bool :=
  match r.answer with
  | .ok goOn => goOn && r.event.token != eos
  | .error _ => false

namespace Call

variable (call : Call)

/-- The receipts of the tokens after the prompt. -/
def generated : List Receipt := call.receipts.drop call.prompt.length

theorem generated_of_receipts {echoed after : List Receipt} (receipts : call.receipts = echoed ++ after)
    (length : echoed.length = call.prompt.length) : call.generated = after := by
  rw [generated, receipts]
  exact List.drop_left' length

/-- Whether the last token of a call is the end of a sequence, and not a token of the prompt. -/
def EndsSequence (eos : Token) : Prop := ∃ r, call.generated.getLast? = some r ∧ r.event.token = eos

end Call

namespace Engine

variable {δ π : Type} {e : Engine} {request : Request} {setup : TurnSetup δ π}

/-- What some tokens that are sampled, shown and read one after the other come to: each has a receipt,
each is counted, and each is a forward pass at the position after the one before. -/
structure Standing.Went (eos : Token) (p : Standing (Turn δ π)) (went : List Receipt)
    (p' : Standing (Turn δ π)) : Prop where
  receipts : p'.sink.receipts = went.reverse ++ p.sink.receipts
  goesOn : ∀ r ∈ went, r.goesOn eos = true
  position : p'.position = p.position + went.length
  left : p'.left = p.left - went.length
  passes : p'.cache.passes =
    (singlePasses p.position (went.map (·.event.token))).reverse ++ p.cache.passes
  contextPos : p'.sink.session.contextPos = p.sink.session.contextPos + went.length
  multiturn : p'.sink.session.multiturn = p.sink.session.multiturn
  deterministic : p'.sink.session.deterministic = p.sink.session.deterministic
  turnPos : p'.sink.session.turnPos = p.sink.session.turnPos + went.length
  promptSize : p'.sink.session.promptSize = p.sink.session.promptSize

theorem Standing.Went.none (eos : Token) (p : Standing (Turn δ π)) : p.Went eos [] p :=
  ⟨rfl, List.forall_mem_nil _, rfl, rfl, rfl, rfl, rfl, rfl, rfl, rfl⟩

/-- One more token. -/
theorem Standing.Went.next {p p' p'' : Standing (Turn δ π)} {event : Event} {went : List Receipt}
    (heos : setup.eos = e.eos) (h : p.Went e.eos went p')
    (reads : p'.Reads e request (Turn.sink setup) event p'') :
    ∃ r, p.Went e.eos (went ++ [r]) p'' := by
  have received := Turn.receive_received reads.received
  have going : p'.sink.session.advance.notesEnd setup.eos event.token = false := by
    rw [heos, Session.notesEnd, beq_eq_false_iff_ne.mpr reads.going, Bool.and_false]
  have session := received.session.trans (Session.after_eq_advance going)
  refine ⟨⟨event, .ok true, p''.sink.session, p''.sink.phase, p''.rng⟩, ?_⟩
  refine ⟨?_, ?_, ?_, ?_, ?_, ?_, ?_, ?_, ?_, ?_⟩
  · rw [received.receipts, h.receipts, List.reverse_append, List.reverse_singleton]
    rfl
  · intro r hr
    rcases List.mem_append.mp hr with hr | hr
    · exact h.goesOn r hr
    · rw [List.mem_singleton.mp hr]
      simp [Receipt.goesOn, reads.going]
  · rw [reads.position, h.position, List.length_append, List.length_singleton, Nat.add_assoc]
  · rw [reads.left, h.left, List.length_append, List.length_singleton, Nat.sub_sub]
  · rw [Model.cache_of_forward reads.read, Cache.read, h.passes, List.map_append, List.map_singleton,
      singlePasses_append, List.reverse_append, List.length_map, h.position]
    rfl
  · rw [session, Session.contextPos_advance, h.contextPos, List.length_append, List.length_singleton,
      Nat.add_assoc]
  · rw [session, Session.multiturn_advance, h.multiturn]
  · rw [session, Session.deterministic_advance, h.deterministic]
  · rw [session, Session.turnPos_advance, h.turnPos, List.length_append, List.length_singleton,
      Nat.add_assoc]
  · rw [session, Session.promptSize_advance, h.promptSize]

theorem Standing.ReadsOn.went (heos : setup.eos = e.eos) {p p' : Standing (Turn δ π)}
    (h : p.ReadsOn e request (Turn.sink setup) p') : ∃ went, p.Went e.eos went p' := by
  refine h.keeps (P := fun p' => ∃ went, p.Went e.eos went p') ?_ ⟨[], .none _ _⟩
  rintro p₁ event p₂ reads ⟨went, h₁⟩
  obtain ⟨r, h₂⟩ := h₁.next heos reads
  exact ⟨went ++ [r], h₂⟩

/-- The sink of a turn hears out events without failing. -/
structure Heard (eos : Token) (t : Turn δ π) (events : List Event) (t' : Turn δ π) : Prop where
  session : t'.session = t.session.afterAll eos (events.map (·.token))
  receipts : ∃ heard : List Receipt,
    t'.receipts = heard.reverse ++ t.receipts ∧ heard.map (·.event) = events

theorem heard_of_feed {events : List Event} {rng rng' : Rng} {t t' : Turn δ π}
    (h : (Turn.sink setup).feed events rng t = (.ok (), rng', t')) : Heard setup.eos t events t' := by
  induction events generalizing rng t with
  | nil =>
    cases h
    exact ⟨rfl, [], rfl, rfl⟩
  | cons event events ih =>
    rw [Sink.feed] at h
    rcases hr : (Turn.sink setup).receive event rng t with ⟨error | goOn, rng₁, t₁⟩ <;> rw [hr] at h
    · cases h
    · have received := Turn.receive_received hr
      obtain ⟨session, heard, receipts, same⟩ := ih h
      refine ⟨?_, ⟨event, .ok goOn, t₁.session, t₁.phase, rng₁⟩ :: heard, ?_, congrArg _ same⟩
      · rw [session, received.session]
        rfl
      · rw [receipts, received.receipts, List.reverse_cons, List.append_assoc]
        rfl

theorem map_token_echo (request : Request) : (echo request).map (·.token) = request.prompt := by
  rw [echo, List.map_map]
  exact List.map_id _

/-- The books of a turn without errors: receipts of the prompt, of the tokens that were read, and of a
token that was shown but not read, if there was one. -/
structure Account (eos : Token) (request : Request) (cache : Cache) (s : Session)
    (ended : CourseEnd Cache (Turn δ π)) (went unread : List Receipt) : Prop where
  receipts : ∃ echoed : List Receipt, echoed.length = request.prompt.length ∧
    ended.sink.receipts.reverse = echoed ++ (went ++ unread)
  goesOn : ∀ r ∈ went, r.goesOn eos = true
  stops : ∀ r ∈ unread, r.goesOn eos = false
  passes : ended.generator.passes =
    (⟨request.prompt, request.startPos⟩ ::
      singlePasses (request.startPos + request.prompt.length) (went.map (·.event.token))).reverse ++
      cache.passes
  multiturn : ended.sink.session.multiturn = s.multiturn
  contextPos : ended.sink.session.contextPos = 0 ∨
    ended.sink.session.contextPos =
      (if s.promptEnds eos request.prompt then 0 else s.contextPos + request.prompt.length) +
        went.length + unread.length
  forgets : ∀ r ∈ unread, r.event.token = eos → s.multiturn = false →
    ended.sink.session.contextPos = 0 ∧ (s.deterministic = true → ended.rng = Rng.fixed)

/-- What a turn comes to while tokens are sampled: receipts of the prompt and of the tokens that were read. -/
structure Progress (eos : Token) (request : Request) (cache : Cache) (s : Session)
    (p : Standing (Turn δ π)) (went : List Receipt) : Prop where
  receipts : ∃ echoed : List Receipt, echoed.length = request.prompt.length ∧
    p.sink.receipts.reverse = echoed ++ went
  goesOn : ∀ r ∈ went, r.goesOn eos = true
  passes : p.cache.passes =
    (⟨request.prompt, request.startPos⟩ ::
      singlePasses (request.startPos + request.prompt.length) (went.map (·.event.token))).reverse ++
      cache.passes
  multiturn : p.sink.session.multiturn = s.multiturn
  deterministic : p.sink.session.deterministic = s.deterministic
  pastPrompt : p.sink.session.promptSize ≤ p.sink.session.turnPos
  contextPos : p.sink.session.contextPos =
    (if s.promptEnds eos request.prompt then 0 else s.contextPos + request.prompt.length) + went.length

theorem progress_of_went (heos : setup.eos = e.eos) {cache : Cache} {rng rng' : Rng} {s : Session}
    {phase : Phase} {console : Console} {policy : π} {t : Turn δ π} {p : Standing (Turn δ π)}
    {went : List Receipt} (nonempty : request.prompt ≠ [])
    (heard : (Turn.sink setup).feed (echo request) rng
      (Turn.start setup (s.beginTurn request.prompt.length) phase console policy) = (.ok (), rng', t))
    (w : (e.opening request cache rng' t).Went e.eos went p) : Progress e.eos request cache s p went := by
  obtain ⟨session, echoed, receipts, same⟩ := heard_of_feed heard
  rw [map_token_echo, heos] at session
  refine ⟨⟨echoed, ?_, ?_⟩, w.goesOn, ?_, ?_, ?_, ?_, ?_⟩
  · rw [← List.length_map, same, echo, List.length_map]
  · have opened : (e.opening request cache rng' t).sink.receipts = echoed.reverse :=
      receipts.trans (List.append_nil _)
    rw [w.receipts, opened, List.reverse_append, List.reverse_reverse, List.reverse_reverse]
  · rw [w.passes, List.reverse_cons, List.append_assoc]
    rfl
  · rw [w.multiturn]
    exact (congrArg (·.multiturn) session).trans (Session.multiturn_afterAll _)
  · rw [w.deterministic]
    exact (congrArg (·.deterministic) session).trans (Session.deterministic_afterAll _)
  · have promptSize : t.session.promptSize = request.prompt.length :=
      (congrArg (·.promptSize) session).trans (Session.promptSize_afterAll _)
    have turnPos : t.session.turnPos = request.prompt.length :=
      (congrArg (·.turnPos) session).trans ((Session.turnPos_afterAll _).trans (Nat.zero_add _))
    rw [w.promptSize, w.turnPos]
    show t.session.promptSize ≤ t.session.turnPos + went.length
    omega
  · rw [w.contextPos]
    refine congrArg (· + went.length) ((congrArg (·.contextPos) session).trans ?_)
    exact Session.contextPos_afterAll (Nat.zero_add _) nonempty

theorem Progress.capped {cache : Cache} {s : Session} {p : Standing (Turn δ π)} {went : List Receipt}
    (h : Progress e.eos request cache s p went) :
    Account e.eos request cache s ⟨.ok (), p.cache, p.rng, p.sink⟩ went [] := by
  obtain ⟨echoed, length, receipts⟩ := h.receipts
  refine ⟨⟨echoed, length, ?_⟩, h.goesOn, List.forall_mem_nil _, h.passes, h.multiturn,
    .inr h.contextPos, List.forall_mem_nil _⟩
  rw [receipts, List.append_nil]

/-- A token that is the last has been shown but is not read. -/
theorem Progress.stopped (heos : setup.eos = e.eos) {cache : Cache} {s : Session}
    {p : Standing (Turn δ π)} {went : List Receipt} (h : Progress e.eos request cache s p went)
    {event : Event} {goOn : Bool} {rng rng' : Rng} {t : Turn δ π}
    (received : (Turn.sink setup).receive event rng p.sink = (.ok goOn, rng', t))
    (last : goOn = false ∨ event.token = e.eos) :
    Account e.eos request cache s ⟨.ok (), p.cache, rng', t⟩ went
      [⟨event, .ok goOn, t.session, t.phase, rng'⟩] := by
  obtain ⟨echoed, length, receipts⟩ := h.receipts
  have got := Turn.receive_received received
  refine ⟨⟨echoed, length, ?_⟩, h.goesOn, ?_, h.passes, ?_, ?_, ?_⟩
  · rw [got.receipts, List.reverse_cons, receipts, List.append_assoc]
  · intro r hr
    rw [List.mem_singleton.mp hr]
    rcases last with rfl | is_end
    · rfl
    · simp [Receipt.goesOn, is_end]
  · exact (congrArg (·.multiturn) got.session).trans (Session.multiturn_after.trans h.multiturn)
  · rw [got.session, Session.contextPos_after, List.length_singleton, h.contextPos]
    by_cases forgotten : p.sink.session.advance.notesEnd setup.eos event.token ∧
        p.sink.session.multiturn = false
    · rw [if_pos forgotten]
      exact .inl rfl
    · rw [if_neg forgotten]
      exact .inr rfl
  · intro r hr is_end single
    rw [List.mem_singleton.mp hr, ← heos] at is_end
    have past := h.pastPrompt
    have notes : p.sink.session.advance.notesEnd setup.eos event.token = true := by
      rw [Session.notesEnd_advance (by omega)]
      exact beq_iff_eq.mpr is_end
    have single : p.sink.session.multiturn = false := h.multiturn.trans single
    constructor
    · rw [got.session, Session.contextPos_after, if_pos ⟨notes, single⟩]
    · intro det
      have det : p.sink.session.deterministic = true := h.deterministic.trans det
      rw [show rng' = _ from got.rng, Rng.after, if_pos notes, Turn.rngAtEnd,
        Session.multiturn_advance, Session.deterministic_advance, single, det]
      rfl

/-- **The account of a turn without errors.** -/
theorem account_of_ok (heos : setup.eos = e.eos) {cache : Cache} {rng : Rng} {s : Session}
    {phase : Phase} {console : Console} {policy : π} {ended : CourseEnd Cache (Turn δ π)}
    (h : Answered e request (Turn.sink setup) cache rng
      (Turn.start setup (s.beginTurn request.prompt.length) phase console policy) ended)
    (ok : ended.result = .ok ()) :
    ∃ went unread, Account e.eos request cache s ended went unread := by
  cases h with
  | refused => cases ok
  | unreadable => cases ok
  | unheard => cases ok
  | sampled fits _ heard on ends =>
    obtain ⟨went, w⟩ := on.went heos
    have nonempty : request.prompt ≠ [] := fun none => by simp [refusal?, none] at fits
    have progress := progress_of_went heos nonempty heard w
    cases ends with
    | capped => exact ⟨went, [], progress.capped⟩
    | panicked => cases ok
    | ended _ _ ends =>
      cases ends with
      | stopped received last => exact ⟨went, _, progress.stopped heos received last⟩
      | failed => cases ok
      | unreadable => cases ok

end Engine

/-! ### Calls of an engine -/

namespace Conversation

variable {γ δ π : Type} {c : Conversation γ δ π} {e : Engine} {text : String}
  {s : ConversationState Cache π} {prompt : Prompt} {ended : CourseEnd Cache (Turn δ π)}
  {served : Served Cache π}

/-- A prompt that the engine is called with is not empty and fits into the rest of the budget. -/
theorem Called.within (h : Called (c.answeredBy e) text s prompt ended served) :
    prompt.tokens ≠ [] ∧ s.session.contextPos + prompt.tokens.length ≤ c.settings.maxTokens := by
  have size := List.length_pos_iff.mpr h.nonempty
  have fits : prompt.tokens.length ≤ c.settings.maxTokens - s.session.contextPos := h.fits
  exact ⟨h.nonempty, by omega⟩

theorem Called.refusal? (h : Called (c.answeredBy e) text s prompt ended served) :
    Engine.refusal? ((c.answeredBy e).request prompt.tokens s.session.contextPos) = none := by
  obtain ⟨nonempty, within⟩ := h.within
  rw [Engine.refusal?, if_neg (by simpa [request] using nonempty), if_neg]
  exact Nat.not_lt.mpr within

theorem answered (c : Conversation γ δ π) (e : Engine) (prompt : List Token)
    (s : ConversationState Cache π) (console : Console) :
    Engine.Answered e ((c.answeredBy e).request prompt s.session.contextPos)
      (Turn.sink (c.answeredBy e).turnSetup) s.generator s.rng
      (Turn.start (c.answeredBy e).turnSetup (s.session.beginTurn prompt.length) .prefilling console
        s.policy)
      ((c.answeredBy e).courseEnd prompt s console) :=
  e.run_answered _ _ _ _ _

end Conversation

/-! ### A silent engine -/

/-- An engine whose model reads everything and offers no token, so that every answer is the end of the
sequence at once. -/
def Engine.silent (eos : Token) : Engine :=
  ⟨{ Model.unreadable with fault? := fun _ _ _ => none }, eos, .earliest⟩

/-- A conversation in which every text has the same token and nothing is ever shown. -/
def Conversation.silent (eos text : Token) (settings : InferenceSettings) :
    Conversation Cache Unit Unit where
  generator := (Engine.silent eos).generator
  tokenizer := ⟨fun _ => .ok [text], (), fun _ _ => (.ok none, ())⟩
  style := ⟨.pretrained, 0⟩
  eos := eos
  verbosity := 0
  settings := settings
  accept := fun _ => true
  policy := .always
  speed := fun _ => ""

end PromptLoop
