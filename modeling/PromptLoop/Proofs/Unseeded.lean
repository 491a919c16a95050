import PromptLoop.Proofs.Serving

/-!
# Conversations without their seeds

The seed of a conversation shows in its random stream, in the receipts, which note the stream, and in the
flag of the settings and of the counters that says whether the stream starts over at the end of a context.
`unseeded` leaves all this out: it puts the fixed stream and a cleared flag in the place of what was there,
and nothing else is changed.

A conversation leaves nothing to chance (`Conversation.Chanceless`) if its generator draws no words and does
not look at the flag. Such a conversation does the same without its seeds: leaving them out commutes with
receiving an event, with a course, with serving a text, with a round and with a run (`receive_unseeded` to
`runFrom_unseeded`). So two such conversations that differ in their seeds only cannot be told apart, and not
on the way either (`Reaches.alike`).
-/

namespace PromptLoop

variable {γ δ π : Type}

/-! ### Leaving out the seeds -/

/-- Counters that do not tell whether random numbers come from the fixed seed. -/
def Session.unseeded (s : Session) : Session := { s with deterministic := false }

/-- A receipt that does not tell the random stream. -/
def Receipt.unseeded (r : Receipt) : Receipt :=
  { r with session := r.session.unseeded, rng := Rng.fixed }

/-- A turn without its seeds. -/
def Turn.unseeded (t : Turn δ π) : Turn δ π :=
  { t with session := t.session.unseeded, receipts := t.receipts.map Receipt.unseeded }

/-- The end of the course of a turn without its seeds. -/
def CourseEnd.unseeded (ended : CourseEnd γ (Turn δ π)) : CourseEnd γ (Turn δ π) :=
  { ended with rng := Rng.fixed, sink := ended.sink.unseeded }

/-- A call without its seeds. -/
def Call.unseeded (call : Call) : Call := { call with receipts := call.receipts.map Receipt.unseeded }

/-- A state without its seeds. -/
def ConversationState.unseeded (s : ConversationState γ π) : ConversationState γ π :=
  { s with session := s.session.unseeded, rng := Rng.fixed }

/-- A text that was served, without the seeds. -/
def Served.unseeded (served : Served γ π) : Served γ π :=
  { served with state := served.state.unseeded, call := served.call.map Call.unseeded }

/-- A run without its seeds. -/
def Run.unseeded (r : Run γ π) : Run γ π :=
  { r with state := r.state.unseeded, calls := r.calls.map Call.unseeded }

/-- A top of the loop without its seeds. -/
def LoopTop.unseeded (top : LoopTop γ π) : LoopTop γ π := { top with state := top.state.unseeded }

/-- A round without its seeds. -/
def Round.unseeded : Round γ π → Round γ π
  | .ends r => .ends r.unseeded
  | .goesOn call top => .goesOn (call.map Call.unseeded) top.unseeded

namespace Conversation

/-- The same conversation, with the flag set that says whether random numbers come from the fixed seed. -/
def seeded (deterministic : Bool) (c : Conversation γ δ π) : Conversation γ δ π :=
  { c with settings := { c.settings with deterministic := deterministic } }

/-- A conversation without its seeds. -/
def unseeded (c : Conversation γ δ π) : Conversation γ δ π := c.seeded false

end Conversation

/-! ### Turns -/

namespace Turn

variable {setup : TurnSetup δ π}

theorem openAnswer_unseeded (t : Turn δ π) :
    t.unseeded.openAnswer setup = ((t.openAnswer setup).1, (t.openAnswer setup).2.unseeded) := by
  unfold openAnswer
  rw [show t.unseeded.session.isFirstOfAnswer = t.session.isFirstOfAnswer from rfl]
  split <;> rfl

theorem showText_unseeded (t : Turn δ π) (text : String) :
    t.unseeded.showText text = ((t.showText text).1, (t.showText text).2.unseeded) := by
  unfold showText
  rw [show t.unseeded.trimPending = t.trimPending from rfl]
  split <;> rfl

theorem showToken_unseeded (t : Turn δ π) (token : Token) :
    t.unseeded.showToken setup token =
      ((t.showToken setup token).1, (t.showToken setup token).2.unseeded) := by
  unfold showToken
  rw [openAnswer_unseeded]
  rcases t.openAnswer setup with ⟨error | ⟨⟩, opened⟩
  · rfl
  dsimp only
  rw [show opened.unseeded.decoder = opened.decoder from rfl]
  rcases setup.tokenizer.step opened.decoder token with ⟨error | _ | text, decoder⟩
  · rfl
  · rfl
  · exact showText_unseeded { opened with decoder := decoder } text

theorem endSequence_unseeded (t : Turn δ π) (rng : Rng) :
    t.unseeded.endSequence setup Rng.fixed =
      ((t.endSequence setup rng).1, Rng.fixed, (t.endSequence setup rng).2.2.unseeded) := by
  unfold endSequence sessionAtEnd rngAtEnd
  rw [show t.unseeded.session.multiturn = t.session.multiturn from rfl]
  cases t.session.multiturn <;> rfl

theorem display_unseeded (t : Turn δ π) (event : Event) (rng : Rng) :
    t.unseeded.display setup event Rng.fixed =
      ((t.display setup event rng).1, Rng.fixed, (t.display setup event rng).2.2.unseeded) := by
  unfold display
  rw [show t.unseeded.session.inPrefill = t.session.inPrefill from rfl]
  split
  · rfl
  · split
    · exact endSequence_unseeded t rng
    · rw [showToken_unseeded]

/-- **An event** is received in the same way without the seeds. -/
theorem receive_unseeded (setup : TurnSetup δ π) (t : Turn δ π) (event : Event) (rng : Rng) :
    t.unseeded.receive setup event Rng.fixed =
      ((t.receive setup event rng).1, Rng.fixed, (t.receive setup event rng).2.2.unseeded) := by
  unfold receive
  rw [show t.unseeded.count = t.count.unseeded from rfl, display_unseeded t.count event rng]
  rcases t.count.display setup event rng with ⟨error | ⟨⟩, rng', shown⟩ <;> rfl

end Turn

/-! ### Courses -/

namespace Course

/-- No words are drawn in a course, whatever is answered to its events. -/
def Drawless : Course γ → Prop
  | finish _ _ => True
  | draw _ => False
  | emit _ next => ∀ answer, (next answer).Drawless

theorem Drawless.emitAll {after : γ} {continuation : Course γ} (h : continuation.Drawless)
    (events : List Event) : (emitAll after continuation events).Drawless := by
  induction events with
  | nil => exact h
  | cons event events ih =>
    intro answer
    cases answer with
    | ok _ => exact ih
    | error _ => trivial

/-- **A course without draws** is carried out in the same way without the seeds. -/
theorem run_unseeded (setup : TurnSetup δ π) {course : Course γ} (drawless : course.Drawless) (rng : Rng)
    (t : Turn δ π) :
    course.run (Turn.sink setup) Rng.fixed t.unseeded = (course.run (Turn.sink setup) rng t).unseeded := by
  induction course generalizing rng t with
  | finish result after => rfl
  | draw next => exact drawless.elim
  | emit event next ih =>
    have received := Turn.receive_unseeded setup t event rng
    rw [run, run, show (Turn.sink setup).receive = Turn.receive setup from rfl, received]
    exact ih _ (drawless _) _ _

end Course

/-! ### Texts -/

namespace Conversation

/-- A conversation leaves nothing to chance: its generator draws no words, and does the same whether or not
random numbers come from the fixed seed. -/
structure Chanceless (c : Conversation γ δ π) : Prop where
  drawless : ∀ prompt startPos state, (c.generator.generate (c.request prompt startPos) state).Drawless
  seedless : ∀ prompt startPos state,
    c.generator.generate (c.unseeded.request prompt startPos) state =
      c.generator.generate (c.request prompt startPos) state

variable {c : Conversation γ δ π}

theorem servedBy_unseeded (prompt : List Token) (startPos : Nat) (ended : CourseEnd γ (Turn δ π)) :
    servedBy prompt startPos ended.unseeded = (servedBy prompt startPos ended).unseeded := by
  have receipts : ended.unseeded.sink.receipts.reverse = ended.sink.receipts.reverse.map Receipt.unseeded :=
    List.map_reverse.symm
  simp only [servedBy, receipts]
  rfl

theorem callGenerator_unseeded (h : c.Chanceless) (prompt : List Token) (s : ConversationState γ π)
    (console : Console) :
    c.unseeded.callGenerator prompt s.unseeded console = (c.callGenerator prompt s console).unseeded := by
  -- Without its seeds the generator is asked for the same course, which then runs in the same way.
  have ended := Course.run_unseeded c.turnSetup (h.drawless prompt s.session.contextPos s.generator) s.rng
    (Turn.start c.turnSetup s.session s.phase console s.policy)
  rw [← h.seedless] at ended
  refine Eq.trans (congrArg (servedBy prompt s.session.contextPos) ended) ?_
  rw [servedBy_unseeded, h.seedless]
  rfl

theorem serve_unseeded (h : c.Chanceless) (text : String) (s : ConversationState γ π) (console : Console) :
    c.unseeded.serve text s.unseeded console = (c.serve text s console).unseeded := by
  unfold serve
  dsimp only
  rw [show c.unseeded.style = c.style from rfl, show c.unseeded.tokenizer = c.tokenizer from rfl,
    show c.unseeded.settings.maxTokens = c.settings.maxTokens from rfl,
    show (s.unseeded.atPhase .prefilling).session.contextPos = (s.atPhase .prefilling).session.contextPos
      from rfl]
  rcases c.style.build c.tokenizer.encode text (s.atPhase .prefilling).session.contextPos with error | prompt
  · rfl
  dsimp only
  split
  · rfl
  split
  · rcases console.note _ with ⟨error | ⟨⟩, console'⟩ <;> rfl
  · rcases console.note readingNote with ⟨error | ⟨⟩, console'⟩
    · rfl
    · exact callGenerator_unseeded h prompt.tokens
        { s.atPhase .prefilling with session := s.session.beginTurn prompt.tokens.length } console'

theorem summarize_unseeded (speed : String) (served : Served γ π) :
    c.unseeded.summarize speed served.unseeded = (c.summarize speed served).unseeded := by
  obtain ⟨_ | ⟨⟩, state, console, _ | call⟩ := served <;> rfl

/-- **A text** is served in the same way without the seeds. -/
theorem turn_unseeded (h : c.Chanceless) (text : String) (s : ConversationState γ π) (console : Console) :
    c.unseeded.turn text s.unseeded console = (c.turn text s console).unseeded := by
  unfold turn
  rw [serve_unseeded h]
  exact summarize_unseeded _ _

/-! ### Rounds and runs -/

theorem stopOverBudget_unseeded (s : ConversationState γ π) (console : Console) :
    c.unseeded.stopOverBudget s.unseeded console = (c.stopOverBudget s console).unseeded := rfl

theorem act_unseeded (h : c.Chanceless) (command : Except Termination Command) (rest : List (List UInt8))
    (s : ConversationState γ π) (console : Console) :
    c.unseeded.act command rest s.unseeded console = (c.act command rest s console).unseeded := by
  unfold act
  rcases command with reason | _ | _ | text
  · rfl
  · rfl
  · rfl
  · dsimp only
    rw [turn_unseeded h]
    obtain ⟨error | ⟨⟩, state, console', _ | call⟩ := c.turn text s console <;> rfl

/-- **A round** goes in the same way without the seeds. -/
theorem round_unseeded (h : c.Chanceless) (top : LoopTop γ π) :
    c.unseeded.round top.unseeded = (c.round top).unseeded := by
  unfold round
  rw [show top.unseeded.state.session.budgetExhausted c.unseeded.settings.maxTokens =
      top.state.session.budgetExhausted c.settings.maxTokens from rfl,
    show top.unseeded.console.answer (inputMark c.unseeded.verbosity) =
      top.console.answer (inputMark c.verbosity) from rfl]
  split
  · exact congrArg Round.ends (stopOverBudget_unseeded top.state top.console)
  · rcases top.console.answer (inputMark c.verbosity) with ⟨error | ⟨⟩, console⟩
    · rfl
    · exact act_unseeded h top.command top.lines.tail (top.state.atPhase .awaitingInput) console

theorem afterCall_unseeded (call : Option Call) (r : Run γ π) :
    (afterCall call r).unseeded = afterCall (call.map Call.unseeded) r.unseeded := by
  cases call <;> rfl

/-- **A run** goes in the same way without the seeds. -/
theorem runFrom_unseeded (h : c.Chanceless) (top : LoopTop γ π) :
    c.unseeded.runFrom top.unseeded = (c.runFrom top).unseeded := by
  induction top using c.round_induction with
  | step top ih =>
    rw [runLines_round, runLines_round, round_unseeded h]
    rcases hr : c.round top with r | ⟨call, next⟩
    · rfl
    · dsimp only [Round.unseeded]
      rw [afterCall_unseeded, ← ih call next hr]

/-- Two tops of the loop that differ in their seeds only are followed by tops that differ in their seeds
only. -/
theorem Reaches.alike {c' : Conversation γ δ π} (h : c.Chanceless) (h' : c'.Chanceless)
    (same : c'.unseeded = c.unseeded) {top next top' : LoopTop γ π} {calls : List Call}
    (reaches : c.Reaches top calls next) (alike : top'.unseeded = top.unseeded) :
    ∃ calls' next', c'.Reaches top' calls' next' ∧
      calls'.map Call.unseeded = calls.map Call.unseeded ∧ next'.unseeded = next.unseeded := by
  induction reaches generalizing top' with
  | refl => exact ⟨[], top', .refl, rfl, alike⟩
  | @head top next _ call calls goes _ ih =>
    -- Both rounds are the same without their seeds, so the second goes on as the first does.
    have rounds : (c'.round top').unseeded = (c.round top).unseeded := by
      rw [← round_unseeded h, ← round_unseeded h', same, alike]
    rcases hr : c'.round top' with r | ⟨call', first⟩ <;> rw [hr, goes] at rounds
    · cases rounds
    · obtain ⟨calls_eq, first_eq⟩ := Round.goesOn.inj rounds
      obtain ⟨calls', next', reaches', rest_eq, alike'⟩ := ih first_eq
      refine ⟨call'.toList ++ calls', next', .head hr reaches', ?_, alike'⟩
      rw [List.map_append, List.map_append, rest_eq, ← Option.toList_map, ← Option.toList_map, calls_eq]

end Conversation

end PromptLoop
