import Mathlib.Control.Monad.Basic
import PromptLoop.Proofs.Alike
import PromptLoop.Proofs.EngineTurns

/-!
# What an earlier conversation leaves behind

A session that has forgotten its context still carries leftovers: the counters of the last turn, the
stage, what the model has read, the state of the policy, the outputs. None of them can be told from what
happens next. Two states are alike if they agree on the context position, the settings and the random
stream, and at a position other than zero also on what the model remembers; from states that are alike a
conversation goes on in the same way (`Conversation.runFrom_alike`).

At position zero nothing is asked of what the model remembers. So what a command to forget the context,
or the end of a sequence, leads to is a new session (`Conversation.run_forgets_history`).
-/

namespace PromptLoop

/-! ### Contexts -/

theorem Cache.recent_read (cache : Cache) (tokens : List Token) (position : Nat) :
    (cache.read tokens position).recent =
      if position = 0 then [⟨tokens, position⟩] else ⟨tokens, position⟩ :: cache.recent := rfl

/-- Reading the same tokens leads to the same context from the same one, and from any at position zero. -/
theorem Cache.recent_read_eq {cache cache' : Cache} (tokens : List Token) (position : Nat)
    (h : position = 0 ∨ cache'.recent = cache.recent) :
    (cache'.read tokens position).recent = (cache.read tokens position).recent := by
  rw [recent_read, recent_read]
  rcases h with zero | same
  · rw [if_pos zero, if_pos zero]
  · rw [same]

/-! ### Courses of an engine -/

/-- Two courses of an engine do the same. If they end well, the model remembers the same. -/
inductive Course.Alike : Course Cache → Course Cache → Prop
  | finish {result : Except Halt Unit} {after after' : Cache}
      (remembers : result = .ok () → after'.recent = after.recent) :
      Alike (.finish result after) (.finish result after')
  | draw {next next' : UInt32 → Course Cache} (alike : ∀ word, Alike (next word) (next' word)) :
      Alike (.draw next) (.draw next')
  | emit {event : Event} {next next' : Answer → Course Cache}
      (alike : ∀ answer, Alike (next answer) (next' answer)) :
      Alike (.emit event next) (.emit event next')

theorem Course.Alike.failed (error : Halt) (after after' : Cache) :
    Course.Alike (.finish (.error error) after) (.finish (.error error) after') :=
  .finish fun ok => by cases ok

/-- The ends of two courses agree, with sinks that are related. -/
structure CourseEnd.Alike {σ : Type} (R : σ → σ → Prop) (ended ended' : CourseEnd Cache σ) : Prop where
  result : ended'.result = ended.result
  remembers : ended.result = .ok () → ended'.generator.recent = ended.generator.recent
  rng : ended'.rng = ended.rng
  sink : R ended.sink ended'.sink

/-- A sink receives events in the same way in related states. -/
def Sink.Respects {σ : Type} (sink : Sink σ) (R : σ → σ → Prop) : Prop :=
  ∀ event rng s s', R s s' →
    (sink.receive event rng s').1 = (sink.receive event rng s).1 ∧
      (sink.receive event rng s').2.1 = (sink.receive event rng s).2.1 ∧
      R (sink.receive event rng s).2.2 (sink.receive event rng s').2.2

theorem Course.Alike.run {σ : Type} {sink : Sink σ} {R : σ → σ → Prop} (respects : sink.Respects R)
    {course course' : Course Cache} (h : course.Alike course') (rng : Rng) {s s' : σ} (related : R s s') :
    CourseEnd.Alike R (course.run sink rng s) (course'.run sink rng s') := by
  induction h generalizing rng s s' with
  | finish remembers => exact ⟨rfl, remembers, rfl, related⟩
  | draw _ ih => exact ih rng.word rng.advance related
  | @emit event next next' _ ih =>
    obtain ⟨answer, drawn, received⟩ := respects event rng s s' related
    rw [Sink.run_emit, Sink.run_emit]
    dsimp only
    rw [answer, drawn]
    exact ih _ _ received

namespace Engine

variable (e : Engine) (request : Request)

theorem settle_alike (choice : Choice) (after after' : Cache) {next next' : Event → Course Cache}
    (h : ∀ event, (next event).Alike (next' event)) :
    (e.settle choice after next).Alike (e.settle choice after' next') := by
  cases choice with
  | impossible => exact h _
  | certain => exact h _
  | drawn => exact .draw fun _ => h _
  | overflowing => exact .failed ..

variable {e}

theorem sampleFrom_alike (forgetful : e.model.Forgetful) (left position : Nat) (logits : List Single)
    {cache cache' : Cache} (h : cache'.recent = cache.recent) :
    (e.sampleFrom request left position logits cache).Alike
      (e.sampleFrom request left position logits cache') := by
  induction left generalizing position logits cache cache' with
  | zero => exact .finish fun _ => h
  | succ left ih =>
    rw [sampleFrom, sampleFrom]
    split_ifs
    · exact .finish fun _ => h
    · refine e.settle_alike _ cache cache' fun event => .emit fun answer => ?_
      rcases answer with error | goOn
      · exact .failed ..
      · dsimp only
        split_ifs
        · exact .finish fun _ => h
        · have read := Cache.recent_read_eq [event.token] position (.inr h)
          rw [Model.forward, Model.forward, forgetful.fault read, forgetful.logits read]
          rcases e.model.fault? cache [event.token] position with _ | fault
          · exact ih _ _ read
          · exact .failed ..

theorem emitAll_alike (events : List Event) {after after' : Cache} {course course' : Course Cache}
    (h : course.Alike course') :
    (Course.emitAll after course events).Alike (Course.emitAll after' course' events) := by
  induction events with
  | nil => exact h
  | cons event events ih =>
    refine .emit fun answer => ?_
    rcases answer with error | goOn
    · exact .failed ..
    · exact ih

/-- At position zero an answer does not depend on what the model has read. -/
theorem answer_alike (forgetful : e.model.Forgetful) {cache cache' : Cache}
    (h : request.startPos = 0 ∨ cache'.recent = cache.recent) :
    (e.answer request cache).Alike (e.answer request cache') := by
  have read := Cache.recent_read_eq request.prompt request.startPos h
  rw [answer, answer]
  split_ifs
  · exact .failed ..
  · exact .failed ..
  · rw [Model.forward, Model.forward, forgetful.fault read, forgetful.logits read]
    rcases e.model.fault? cache request.prompt request.startPos with _ | fault
    · exact emitAll_alike _ (sampleFrom_alike request forgetful _ _ _ read)
    · exact .failed ..

end Engine

/-! ### States -/

namespace ConversationState

variable {π : Type}

/-- Two states agree on what is counted and drawn from now on. -/
structure Alike (s s' : ConversationState Cache π) : Prop where
  contextPos : s'.session.contextPos = s.session.contextPos
  multiturn : s'.session.multiturn = s.session.multiturn
  deterministic : s'.session.deterministic = s.session.deterministic
  rng : s'.rng = s.rng

/-- The models of two states have the same context, unless the next prompt makes them forget it. -/
def SameContext (s s' : ConversationState Cache π) : Prop :=
  s.session.contextPos = 0 ∨ s'.generator.recent = s.generator.recent

theorem Alike.beginTurn {s s' : ConversationState Cache π} (h : Alike s s') (promptSize : Nat) :
    s'.session.beginTurn promptSize = s.session.beginTurn promptSize := by
  unfold Session.beginTurn
  rw [h.contextPos, h.multiturn, h.deterministic]

/-- States that have forgotten their context are alike. -/
theorem alike_of_forgotten {s s' : ConversationState Cache π} {settings : InferenceSettings}
    (has : s.session.Has settings) (has' : s'.session.Has settings) (forgotten : s.session.contextPos = 0)
    (forgotten' : s'.session.contextPos = 0) (rng : s'.rng = s.rng) : Alike s s' ∧ SameContext s s' :=
  ⟨⟨forgotten'.trans forgotten.symm, has'.1.trans has.1.symm, has'.2.trans has.2.symm, rng⟩,
    .inl forgotten⟩

end ConversationState

/-- Two texts are served in the same way. -/
structure Served.Alike {π : Type} (k₀ k₀' : Console) (served served' : Served Cache π) : Prop where
  result : served'.result = served.result
  call : served'.call = served.call
  state : served.state.Alike served'.state
  remembers : served.result = .ok () → served.state.SameContext served'.state
  session : served.call ≠ none → served'.state.session = served.state.session
  console : Console.Alike k₀ k₀' served.console served'.console

/-- Two tops of a loop from which the same happens. -/
structure LoopTop.Alike {π : Type} (k₀ k₀' : Console) (top top' : LoopTop Cache π) : Prop where
  lines : top'.lines = top.lines
  state : top.state.Alike top'.state
  remembers : top.state.SameContext top'.state
  console : Console.Alike k₀ k₀' top.console top'.console

/-- Two runs do the same. -/
structure Run.Alike {π : Type} (k₀ k₀' : Console) (r r' : Run Cache π) : Prop where
  result : r'.result = r.result
  calls : r'.calls = r.calls
  contextPos : r'.state.session.contextPos = r.state.session.contextPos
  rng : r'.state.rng = r.state.rng
  console : Console.Alike k₀ k₀' r.console r'.console

/-- Whether a round goes on, with a call and a top of the loop as wished for. -/
def Round.goesOnWith {γ π : Type} (wished : Option Call → LoopTop γ π → Bool) : Round γ π → Bool
  | ends _ => false
  | goesOn call top => wished call top

namespace Conversation

variable {γ δ π : Type} {c : Conversation γ δ π} {e : Engine} {k₀ k₀' : Console}

/-! ### Rounds from states that are alike -/

theorem sink_respects (e : Engine) (stateless : c.policy.Stateless) :
    (Turn.sink (c.answeredBy e).turnSetup).Respects (Turn.Alike k₀ k₀') :=
  fun event rng _ _ alike => alike.receive stateless event rng

theorem callGenerator_alike (forgetful : e.model.Forgetful) (stateless : c.policy.Stateless) (prompt : List Token)
    {s s' : ConversationState Cache π} {k k' : Console} (session : s'.session = s.session)
    (phase : s'.phase = s.phase) (rng : s'.rng = s.rng) (remembers : s.SameContext s')
    (console : Console.Alike k₀ k₀' k k') :
    Served.Alike k₀ k₀' ((c.answeredBy e).callGenerator prompt s k)
      ((c.answeredBy e).callGenerator prompt s' k') := by
  obtain ⟨_, _, _, cache, policy⟩ := s
  obtain ⟨session', rng', phase', cache', policy'⟩ := s'
  obtain rfl : session' = _ := session
  obtain rfl : phase' = _ := phase
  obtain rfl : rng' = _ := rng
  have turns : Turn.Alike k₀ k₀' (Turn.start (c.answeredBy e).turnSetup session' phase' k policy)
      (Turn.start (c.answeredBy e).turnSetup session' phase' k' policy') :=
    ⟨rfl, rfl, rfl, rfl, rfl, console⟩
  have courses := Engine.answer_alike ((c.answeredBy e).request prompt session'.contextPos) forgetful remembers
  have ended := courses.run (sink_respects e stateless) rng' turns
  refine ⟨ended.result, ?_, ?_, fun ok => .inr (ended.remembers ok), fun _ => ended.sink.session,
    ended.sink.console⟩
  · exact congrArg (fun receipts => some (Call.mk prompt session'.contextPos receipts.reverse))
      ended.sink.receipts
  · exact ⟨congrArg _ ended.sink.session, congrArg _ ended.sink.session, congrArg _ ended.sink.session,
      ended.rng⟩

theorem serve_alike (forgetful : e.model.Forgetful) (stateless : c.policy.Stateless) (text : String)
    {s s' : ConversationState Cache π} {k k' : Console} (h : s.Alike s') (remembers : s.SameContext s')
    (console : Console.Alike k₀ k₀' k k') :
    Served.Alike k₀ k₀' ((c.answeredBy e).serve text s k) ((c.answeredBy e).serve text s' k') := by
  have kept : ∀ phase phase', (s.atPhase phase).Alike (s'.atPhase phase') := fun _ _ =>
    ⟨h.contextPos, h.multiturn, h.deterministic, h.rng⟩
  unfold serve
  dsimp only
  rw [show (s'.atPhase .prefilling).session.contextPos = (s.atPhase .prefilling).session.contextPos from
    h.contextPos]
  rcases (c.answeredBy e).style.build _ _ _ with error | prompt
  · exact ⟨rfl, rfl, kept _ _, nofun, nofun, console⟩
  dsimp only
  split_ifs
  · exact ⟨rfl, rfl, kept _ _, fun _ => remembers, nofun, console⟩
  · obtain ⟨result, noted⟩ := console.note (tooLongNote prompt.tokens.length
      ((c.answeredBy e).settings.maxTokens - (s.atPhase .prefilling).session.contextPos)
      (c.answeredBy e).settings.maxTokens)
    rcases hk : k.note _ with ⟨error | ⟨⟩, k₁⟩ <;> rcases hk' : k'.note _ with ⟨error' | ⟨⟩, k₁'⟩ <;>
      rw [hk, hk'] at result noted <;> cases result
    · exact ⟨rfl, rfl, kept _ _, nofun, nofun, noted⟩
    · exact ⟨rfl, rfl, kept _ _, fun _ => remembers, nofun, noted⟩
  · obtain ⟨result, noted⟩ := console.note readingNote
    rcases hk : k.note readingNote with ⟨error | ⟨⟩, k₁⟩ <;>
      rcases hk' : k'.note readingNote with ⟨error' | ⟨⟩, k₁'⟩ <;>
      rw [hk, hk'] at result noted <;> cases result
    · exact ⟨rfl, rfl, ⟨h.contextPos, h.multiturn, h.deterministic, h.rng⟩, nofun, nofun, noted⟩
    · exact callGenerator_alike forgetful stateless prompt.tokens (h.beginTurn _) rfl h.rng remembers noted

theorem turn_alike (forgetful : e.model.Forgetful) (stateless : c.policy.Stateless) (text : String)
    {s s' : ConversationState Cache π} {k k' : Console} (h : s.Alike s') (remembers : s.SameContext s')
    (console : Console.Alike k₀ k₀' k k') :
    Served.Alike k₀ k₀' ((c.answeredBy e).turn text s k) ((c.answeredBy e).turn text s' k') := by
  have served := serve_alike forgetful stateless text h remembers console
  unfold turn
  dsimp only
  generalize (c.answeredBy e).serve text s k = before at served ⊢
  generalize (c.answeredBy e).serve text s' k' = before' at served ⊢
  unfold summarize
  rw [served.result, served.call]
  rcases hr : before.result with error | ⟨⟩ <;> rcases hc : before.call with _ | call <;> dsimp only
  · exact served
  · exact served
  · exact served
  · have session := served.session (by rw [hc]; exact nofun)
    rw [session]
    obtain ⟨result, answered⟩ := served.console.answer (turnSummary (c.answeredBy e).verbosity
      before.state.session ((c.answeredBy e).speed before.state.session.turnPos))
    exact ⟨congrArg (Except.mapError Halt.error) result, rfl, served.state, fun _ => served.remembers hr,
      fun _ => session, answered⟩

/-- Rounds from tops that are alike. -/
inductive RoundAlike (k₀ k₀' : Console) : Round Cache π → Round Cache π → Prop
  | ends {r r' : Run Cache π} (alike : r.Alike k₀ k₀' r') : RoundAlike k₀ k₀' (.ends r) (.ends r')
  | goesOn {call : Option Call} {top top' : LoopTop Cache π} (alike : top.Alike k₀ k₀' top') :
      RoundAlike k₀ k₀' (.goesOn call top) (.goesOn call top')

theorem round_alike (forgetful : e.model.Forgetful) (stateless : c.policy.Stateless) {top top' : LoopTop Cache π}
    (h : top.Alike k₀ k₀' top') :
    RoundAlike k₀ k₀' ((c.answeredBy e).round top) ((c.answeredBy e).round top') := by
  have budget : top'.state.session.budgetExhausted c.settings.maxTokens =
      top.state.session.budgetExhausted c.settings.maxTokens := by
    unfold Session.budgetExhausted
    rw [h.state.contextPos]
  have command : top'.command = top.command := by
    unfold LoopTop.command
    rw [h.lines]
  unfold round
  rw [show (c.answeredBy e).settings = c.settings from rfl, budget]
  split_ifs
  · obtain ⟨result, answered⟩ := h.console.answer (budgetNotice c.settings.maxTokens)
    exact .ends ⟨congrArg
        (fun result => (Except.map (fun _ => Termination.budgetExhausted) result).mapError Halt.error) result,
      rfl, h.state.contextPos, h.state.rng, answered⟩
  · obtain ⟨result, answered⟩ := h.console.answer (inputMark c.verbosity)
    rw [show (c.answeredBy e).verbosity = c.verbosity from rfl]
    rcases hk : top.console.answer _ with ⟨error | ⟨⟩, k⟩ <;>
      rcases hk' : top'.console.answer _ with ⟨error' | ⟨⟩, k'⟩ <;>
      rw [hk, hk'] at result answered <;> cases result
    · exact .ends ⟨rfl, rfl, h.state.contextPos, h.state.rng, answered⟩
    · dsimp only
      rw [command, h.lines]
      unfold act
      rcases top.command with reason | _ | _ | text
      · exact .ends ⟨rfl, rfl, h.state.contextPos, h.state.rng, answered⟩
      · exact .ends ⟨rfl, rfl, h.state.contextPos, h.state.rng, answered⟩
      · exact .goesOn ⟨rfl, ⟨rfl, h.state.multiturn, h.state.deterministic, h.state.rng⟩, .inl rfl,
          answered⟩
      · have alike : (top.state.atPhase .awaitingInput).Alike (top'.state.atPhase .awaitingInput) :=
          ⟨h.state.contextPos, h.state.multiturn, h.state.deterministic, h.state.rng⟩
        have served := turn_alike forgetful stateless text alike h.remembers answered
        dsimp only
        rw [served.result, served.call]
        rcases hr : ((c.answeredBy e).turn text _ k).result with error | ⟨⟩
        · exact .ends ⟨rfl, rfl, served.state.contextPos, served.state.rng, served.console⟩
        · exact .goesOn ⟨rfl, served.state, served.remembers hr, served.console⟩

theorem afterCall_alike (call : Option Call) {r r' : Run Cache π} (h : r.Alike k₀ k₀' r') :
    (afterCall call r).Alike k₀ k₀' (afterCall call r') :=
  ⟨h.result, congrArg (call.toList ++ ·) h.calls, h.contextPos, h.rng, h.console⟩

/-- **From states that are alike** a conversation goes on in the same way. -/
theorem runFrom_alike (forgetful : e.model.Forgetful) (stateless : c.policy.Stateless) {top top' : LoopTop Cache π}
    (h : top.Alike k₀ k₀' top') :
    ((c.answeredBy e).runFrom top).Alike k₀ k₀' ((c.answeredBy e).runFrom top') := by
  induction top using (c.answeredBy e).round_induction generalizing top' with
  | step top ih =>
    rw [runLines_round, runLines_round]
    have rounds := round_alike forgetful stateless h
    rcases hr : (c.answeredBy e).round top with r | ⟨call, next⟩ <;> rw [hr] at rounds <;>
      generalize (c.answeredBy e).round top' = other at rounds ⊢
    · cases rounds with
      | ends alike => exact alike
    · cases rounds with
      | goesOn alike => exact afterCall_alike call (ih call next hr alike)

/-! ### Starting over -/

/-- A new session on the rest of an input, with a random stream and outputs of its own. -/
def anew (settings : InferenceSettings) (lines : List (List UInt8)) (rng : Rng) (policy : π)
    (console : Console) : LoopTop Cache π :=
  ⟨lines, .start settings rng Cache.empty policy, console⟩

theorem runFrom_alike_of_forgotten (forgetful : e.model.Forgetful) (stateless : c.policy.Stateless)
    {top top' : LoopTop Cache π}
    (has : top.state.session.Has c.settings) (has' : top'.state.session.Has c.settings)
    (forgotten : top.state.session.contextPos = 0) (forgotten' : top'.state.session.contextPos = 0)
    (rng : top'.state.rng = top.state.rng) (lines : top'.lines = top.lines)
    (room : top.console.SameRoom top'.console) :
    ((c.answeredBy e).runFrom top).Alike top.console top'.console ((c.answeredBy e).runFrom top') := by
  obtain ⟨state, remembers⟩ := ConversationState.alike_of_forgotten has has' forgotten forgotten' rng
  exact runFrom_alike forgetful stateless ⟨lines, state, remembers, room.alike⟩

/-- After the end of a sequence a single-turn session has forgotten its context, and a deterministic one
starts its random stream over. -/
theorem forgotten_of_endsSequence {top next : LoopTop Cache π} {call : Call}
    (goes : (c.answeredBy e).GoesOn top (some call) next) (ends : call.EndsSequence e.eos)
    (single : top.state.session.multiturn = false) :
    next.state.session.contextPos = 0 ∧
      (top.state.session.deterministic = true → next.state.rng = Rng.fixed) := by
  generalize hc : some call = called at goes
  cases goes with
  | cleared => cases hc
  | @served console text opens command result =>
    rcases (c.answeredBy e).turn_cases text (top.state.atPhase .awaitingInput) console with
      served | ⟨prompt, console', -, served⟩
    · rw [turnOf, served.call] at hc
      cases hc
    · obtain ⟨went, unread, account⟩ := Engine.account_of_ok rfl
        (c.answered e prompt.tokens (top.state.atPhase .awaitingInput) console') (served.success result)
      rw [turnOf, served.call] at hc
      obtain ⟨echoed, length, receipts⟩ := account.receipts
      obtain ⟨r, last, is_end⟩ := ends
      obtain rfl := Option.some.inj hc
      rw [Call.generated_of_receipts _ receipts length] at last
      rcases List.mem_append.mp (List.mem_of_getLast? last) with hr | hr
      · have goesOn := account.goesOn r hr
        simp only [Receipt.goesOn, is_end, bne_self_eq_false, Bool.and_false] at goesOn
        split at goesOn <;> cases goesOn
      · obtain ⟨zero, fixed⟩ := account.forgets r hr is_end single
        exact ⟨(congrArg (·.contextPos) served.session).trans zero, fun det => served.rng.trans (fixed det)⟩

/-- **Nothing is left of a conversation that is forgotten**, if the model does not look back beyond its context
and the policy answers whatever its state is.
From any two states without a context a conversation goes on in the same way. So what follows a command
to forget the context is a new session with the random stream as it is, and what follows the end of a
sequence, in a deterministic single-turn session, is a new session. -/
theorem run_forgets_history (c : Conversation γ δ π) (e : Engine) (forgetful : e.model.Forgetful)
    (stateless : c.policy.Stateless) :
    (∀ top top' : LoopTop Cache π, top.state.session.Has c.settings → top'.state.session.Has c.settings →
      top.state.session.contextPos = 0 → top'.state.session.contextPos = 0 →
      top'.state.rng = top.state.rng → top'.lines = top.lines → top.console.SameRoom top'.console →
      ((c.answeredBy e).runFrom top).Alike top.console top'.console ((c.answeredBy e).runFrom top')) ∧
    (∀ (start top next : LoopTop Cache π) (calls : List Call) (call : Option Call) (policy : π)
      (console : Console), start.state.session.Has c.settings → (c.answeredBy e).Reaches start calls top →
      (c.answeredBy e).round top = .goesOn call next → next.console.SameRoom console →
      (top.command = .ok .clear →
        (c.answeredBy e).runFrom start = afterCalls calls ((c.answeredBy e).runFrom next) ∧
        ((c.answeredBy e).runFrom next).Alike next.console console
          ((c.answeredBy e).runFrom (anew c.settings next.lines top.state.rng policy console))) ∧
      (∀ ended, call = some ended → ended.EndsSequence e.eos → c.settings.multiturn = false →
        c.settings.deterministic = true →
        (c.answeredBy e).runFrom start = afterCalls (calls ++ [ended]) ((c.answeredBy e).runFrom next) ∧
        ((c.answeredBy e).runFrom next).Alike next.console console
          ((c.answeredBy e).runFrom (anew c.settings next.lines Rng.fixed policy console)))) := by
  refine ⟨fun top top' has has' forgotten forgotten' rng lines room =>
    runFrom_alike_of_forgotten forgetful stateless has has' forgotten forgotten' rng lines room, ?_⟩
  intro start top next calls call policy console has reaches round room
  have goes := goesOn_of_round round
  have has := reaches.has has
  have has_next := goes.has has
  have rest : (c.answeredBy e).runFrom start =
      afterCalls (calls ++ call.toList) ((c.answeredBy e).runFrom next) := by
    rw [reaches.rest, runLines_round, round]
    simp only [afterCall, afterCalls, List.append_assoc]
  have fresh : ∀ rng, (anew c.settings next.lines rng policy console).state.session.Has c.settings :=
    fun _ => Session.start_has c.settings
  constructor
  · intro command
    cases goes with
    | cleared =>
      rw [Option.toList_none, List.append_nil] at rest
      exact ⟨rest, runFrom_alike_of_forgotten forgetful stateless has_next (fresh _) rfl rfl rfl rfl room⟩
    | served _ other => rw [command] at other; cases other
  · rintro ended rfl ends single det
    obtain ⟨zero, fixed⟩ := forgotten_of_endsSequence goes ends (has.1.trans single)
    exact ⟨rest, runFrom_alike_of_forgotten forgetful stateless has_next (fresh _) zero rfl
      (fixed (has.2.trans det)).symm rfl room⟩

theorem silent_forgetful (eos : Token) : (Engine.silent eos).model.Forgetful := ⟨fun _ => rfl, fun _ => rfl⟩

/-- The first of two texts, in a deterministic single-turn session that is silent, with a command to
forget the context between them. -/
def silentStart : LoopTop Cache Unit :=
  anew ⟨100, 10, Single.one, 1, true, false⟩ (Line.lines (Line.bytes "a\n%c\nb\n")) Rng.fixed ()
    (.fresh none none)

theorem silentStart_forgets_history :
    let c := silent 1 2 ⟨100, 10, Single.one, 1, true, false⟩
    let d := c.answeredBy (.silent 1)
    (∃ call next, d.round silentStart = .goesOn (some call) next ∧ call.EndsSequence 1 ∧
      d.runFrom silentStart = afterCalls [call] (d.runFrom next) ∧
      (d.runFrom next).Alike next.console (.fresh none none)
        (d.runFrom (anew c.settings next.lines Rng.fixed () (.fresh none none)))) ∧
    (∃ calls top next, d.Reaches silentStart calls top ∧ calls ≠ [] ∧ top.command = .ok .clear ∧
      d.round top = .goesOn none next ∧ d.runFrom silentStart = afterCalls calls (d.runFrom next) ∧
      (d.runFrom next).Alike next.console (.fresh none none)
        (d.runFrom (anew c.settings next.lines top.state.rng () (.fresh none none)))) := by
  intro c d
  obtain ⟨-, h⟩ := run_forgets_history c (.silent 1) (silent_forgetful 1) Policy.always_stateless
  -- What is needed of the two rounds, as one closed computation.
  have rounds : (d.round silentStart).goesOnWith (fun call next =>
      decide (call.map (fun call => call.generated.getLast?.map (·.event.token)) = some (some 1)) &&
        decide (next.console.SameRoom (.fresh none none)) &&
        decide (next.command.toOption = some .clear) &&
        (d.round next).goesOnWith fun call' next' =>
          call'.isNone && decide (next'.console.SameRoom (.fresh none none))) = true := by decide +kernel
  rcases first : d.round silentStart with r | ⟨_ | call, next⟩ <;> rw [first] at rounds
  · cases rounds
  · cases rounds
  simp only [Round.goesOnWith] at rounds
  rcases second : d.round next with r | ⟨_ | call', next'⟩ <;> rw [second] at rounds <;>
    simp only [Option.isNone_none, Option.isNone_some, Option.map_some, Option.some.injEq, Bool.and_eq_true,
      decide_eq_true_eq, Bool.false_eq_true, and_false, false_and, true_and] at rounds
  obtain ⟨⟨⟨last, room⟩, clear⟩, room'⟩ := rounds
  obtain ⟨r, hr, is_end⟩ := Option.map_eq_some_iff.mp last
  have reaches : d.Reaches silentStart [call] next := .head first .refl
  have command : next.command = .ok .clear := by
    rcases hc : next.command with reason | command <;> rw [hc] at clear
    · cases clear
    · rw [Option.some.inj clear]
  refine ⟨⟨call, next, rfl, ⟨r, hr, is_end⟩, ?_⟩,
    [call], next, next', reaches, List.cons_ne_nil _ _, command, second, ?_⟩
  · exact (h silentStart silentStart next [] (some call) () (.fresh none none)
      (Session.start_has _) .refl first room).2 call rfl ⟨r, hr, is_end⟩ rfl rfl
  · exact (h silentStart next next' [call] none () (.fresh none none) (Session.start_has _) reaches
      second room').1 command

end Conversation

end PromptLoop
