import PromptLoop.Proofs.SideBySide

/-!
# Conversations side by side

What holds of the courses of two turns side by side holds of the texts that two conversations serve, of
their rounds and of their runs. The two conversations differ in how much they print at most, and start from
the same state with the same lines.

Either everything is the same but what the outputs hold, or the second conversation ends with the write
that failed. Then its calls are cut short (`CutShort`): they are the first of the calls of the first
conversation, and the last of them may have heard fewer events.
-/

namespace PromptLoop

variable {γ δ π : Type}

/-! ### Calls that are cut short -/

/-- A call with the first events of another. -/
structure Call.PartOf (call' call : Call) : Prop where
  prompt : call'.prompt = call.prompt
  startPos : call'.startPos = call.startPos
  events : call'.receipts.map (·.event) <+: call.receipts.map (·.event)

/-- The first of some calls, the last of them perhaps only in part. -/
inductive CutShort : List Call → List Call → Prop
  | nil {calls : List Call} : CutShort calls []
  | last {call call' : Call} {calls : List Call} (part : call'.PartOf call) :
      CutShort (call :: calls) [call']
  | cons {call : Call} {calls calls' : List Call} (rest : CutShort calls calls') :
      CutShort (call :: calls) (call :: calls')

namespace CutShort

theorem refl (calls : List Call) : CutShort calls calls := by
  induction calls with
  | nil => exact .nil
  | cons call calls ih => exact .cons ih

theorem append_left (before : List Call) {calls calls' : List Call} (h : CutShort calls calls') :
    CutShort (before ++ calls) (before ++ calls') := by
  induction before with
  | nil => exact h
  | cons call before ih => exact .cons ih

theorem append_right {calls calls' : List Call} (h : CutShort calls calls') (more : List Call) :
    CutShort (calls ++ more) calls' := by
  induction h with
  | nil => exact .nil
  | last part => exact .last part
  | cons _ ih => exact .cons ih

end CutShort

/-! ### Texts -/

/-- What two texts come to side by side. -/
inductive Served.Beside {v v' : Nat} (q : Comparison v v') : Served γ π → Served γ π → Prop
  | same {served : Served γ π} {k' : Console} (follows : q.Follows served.console k') :
      Beside q served { served with console := k' }
  | left {served served' : Served γ π} (result : served'.result = .error Writer.full)
      (left : q.Left served.console served'.console)
      (calls : CutShort served.call.toList served'.call.toList) : Beside q served served'

/-- What two rounds come to side by side. -/
inductive Round.Beside {v v' : Nat} (q : Comparison v v') : Round γ π → Round γ π → Prop
  | ends {r : Run γ π} {k' : Console} (follows : q.Follows r.console k') :
      Beside q (.ends r) (.ends { r with console := k' })
  | goesOn {call : Option Call} {top : LoopTop γ π} {k' : Console} (follows : q.Follows top.console k') :
      Beside q (.goesOn call top) (.goesOn call { top with console := k' })
  | left {round : Round γ π} {r' : Run γ π} (result : r'.result = .error Writer.full)
      (left : q.Left round.console r'.console) (calls : CutShort round.calls r'.calls) :
      Beside q round (.ends r')

/-- What two runs come to side by side. -/
inductive Run.Beside {v v' : Nat} (q : Comparison v v') : Run γ π → Run γ π → Prop
  | same {r : Run γ π} {k' : Console} (follows : q.Follows r.console k') :
      Beside q r { r with console := k' }
  | left {r r' : Run γ π} (result : r'.result = .error Writer.full) (left : q.Left r.console r'.console)
      (calls : CutShort r.calls r'.calls) : Beside q r r'

namespace Conversation

/-- The same conversation at another verbosity. -/
def atVerbosity (c : Conversation γ δ π) (verbosity : Nat) : Conversation γ δ π :=
  { c with verbosity := verbosity }

variable {c : Conversation γ δ π} {v' : Nat} {q : Comparison c.verbosity v'} {s : ConversationState γ π}
  {k k' : Console}

theorem callGenerator_beside (allows : q.Allows c.generator) (prompt : List Token) (follows : q.Follows k k') :
    Served.Beside q (c.callGenerator prompt s k) ((c.atVerbosity v').callGenerator prompt s k') := by
  have started : q.Follows (Turn.start c.turnSetup s.session s.phase k s.policy).console k' := follows
  have courses := Course.run_beside c.turnSetup
    (c.generator.generate (c.request prompt s.session.contextPos) s.generator)
    (allows.imp_left fun stops => stops _ _) s.rng started
  have served : ∀ {ended ended'}, CourseEnd.Beside q ended ended' →
      Served.Beside q (servedBy (γ := γ) (δ := δ) (π := π) prompt s.session.contextPos ended)
        (servedBy prompt s.session.contextPos ended') := by
    intro ended ended' courses
    cases courses with
    | same follows => exact .same follows
    | left result left events => exact .left result left (.last ⟨rfl, rfl, events⟩)
  exact served courses

theorem serve_beside (allows : q.Allows c.generator) (text : String) (follows : q.Follows k k') :
    Served.Beside q (c.serve text s k) ((c.atVerbosity v').serve text s k') := by
  have kept := fun k' => serve_keeps (c := c) (s := s) (k := k) (q.left k') text
  unfold serve at kept ⊢
  dsimp only at kept ⊢
  rw [show (c.atVerbosity v').style = c.style from rfl, show (c.atVerbosity v').tokenizer = c.tokenizer from rfl,
    show (c.atVerbosity v').settings = c.settings from rfl]
  rcases c.style.build c.tokenizer.encode text (s.atPhase .prefilling).session.contextPos with error | prompt
  · exact .same follows
  dsimp only
  by_cases empty : prompt.tokens.isEmpty = true
  · rw [if_pos empty, if_pos empty]
    exact .same follows
  rw [if_neg empty, if_neg empty]
  by_cases long : c.settings.maxTokens - (s.atPhase .prefilling).session.contextPos < prompt.tokens.length
  · rw [if_pos long, if_pos long]
    have written := q.note (tooLongNote prompt.tokens.length
      (c.settings.maxTokens - (s.atPhase .prefilling).session.contextPos) c.settings.maxTokens) follows
    rcases hk : k.note _ with ⟨result, k₁⟩
    rcases hk' : k'.note _ with ⟨result', k₁'⟩
    rw [hk, hk'] at written
    cases written with
    | both follows => exact .same follows
    | failed left => exact .left rfl left .nil
  · rw [if_neg long, if_neg long]
    have written := q.note readingNote follows
    rcases hk : k.note readingNote with ⟨result, k₁⟩
    rcases hk' : k'.note readingNote with ⟨result', k₁'⟩
    rw [hk, hk'] at written
    cases written with
    | both follows => exact callGenerator_beside allows prompt.tokens follows
    | failed left => exact .left rfl (callGenerator_keeps (q.left k₁') prompt.tokens left) .nil

/-- The summary of a turn that failed is not printed. -/
theorem summarize_of_error {error : SessionError} {served : Served γ π} (speed : String)
    (h : served.result = .error error) : c.summarize speed served = served := by
  unfold summarize
  rw [h]

/-- **A text, side by side.** -/
theorem turn_beside (allows : q.Allows c.generator) (text : String) (follows : q.Follows k k') :
    Served.Beside q (c.turn text s k) ((c.atVerbosity v').turn text s k') := by
  have served := serve_beside (s := s) allows text follows
  unfold turn
  dsimp only
  generalize c.serve text s k = before at served ⊢
  generalize (c.atVerbosity v').serve text s k' = before' at served ⊢
  cases served with
  | left result left calls =>
    rw [summarize_of_error _ result]
    refine .left result (summarize_keeps (q.left _) _ left) ?_
    rw [(c.summarize_state _ _).2.1]
    exact calls
  | same follows =>
    rename_i k₁'
    obtain ⟨result, state, k₁, call⟩ := before
    unfold summarize
    rcases result with error | ⟨⟩
    · exact .same follows
    rcases call with _ | call
    · exact .same follows
    dsimp only
    have written := q.answer follows (q.turnSummary state.session (c.speed state.session.turnPos))
    rw [show (c.atVerbosity v').speed = c.speed from rfl, show (c.atVerbosity v').verbosity = v' from rfl]
    rcases hk : k₁.answer _ with ⟨result, k₂⟩
    rcases hk' : k₁'.answer _ with ⟨result', k₂'⟩
    rw [hk, hk'] at written
    cases written with
    | both follows => exact .same follows
    | failed left => exact .left rfl left (.refl _)

/-! ### Rounds and runs -/

theorem act_beside (allows : q.Allows c.generator) (command : Except Termination Command)
    (rest : List (List UInt8)) (follows : q.Follows k k') :
    Round.Beside q (c.act command rest s k) ((c.atVerbosity v').act command rest s k') := by
  unfold act
  rcases command with reason | _ | _ | text
  · exact .ends follows
  · exact .ends follows
  · exact .goesOn follows
  · have served := turn_beside (s := s) allows text follows
    dsimp only
    generalize c.turn text s k = served₁ at served ⊢
    generalize (c.atVerbosity v').turn text s k' = served₂ at served ⊢
    cases served with
    | same follows =>
      dsimp only
      rcases served₁.result with error | ⟨⟩
      · exact .ends follows
      · exact .goesOn follows
    | left result left calls =>
      rw [result]
      have calls' : CutShort served₁.call.toList (afterCall served₂.call
          (stop (.error Writer.full) served₂.state served₂.console)).calls := by
        rw [afterCall, stop, List.append_nil]
        exact calls
      dsimp only
      rcases served₁.result with error | ⟨⟩
      · exact .left rfl left (calls'.append_right [])
      · exact .left rfl left calls'

theorem round_beside (allows : q.Allows c.generator) {top : LoopTop γ π} (follows : q.Follows top.console k') :
    Round.Beside q (c.round top) ((c.atVerbosity v').round { top with console := k' }) := by
  unfold round
  rw [show (c.atVerbosity v').settings = c.settings from rfl, show (c.atVerbosity v').verbosity = v' from rfl]
  dsimp only
  by_cases exhausted : top.state.session.budgetExhausted c.settings.maxTokens = true
  · rw [if_pos exhausted, if_pos exhausted]
    have written := q.answer follows (q.same (budgetNotice c.settings.maxTokens))
    unfold stopOverBudget
    rw [show (c.atVerbosity v').settings = c.settings from rfl]
    rcases hk : top.console.answer _ with ⟨result, k₁⟩
    rcases hk' : k'.answer _ with ⟨result', k₁'⟩
    rw [hk, hk'] at written
    cases written with
    | both follows => exact .ends follows
    | failed left => exact .left rfl left .nil
  · rw [if_neg exhausted, if_neg exhausted]
    have written := q.answer follows q.inputMark
    rcases hk : top.console.answer _ with ⟨result, k₁⟩
    rcases hk' : k'.answer _ with ⟨result', k₁'⟩
    rw [hk, hk'] at written
    cases written with
    | both follows => exact act_beside allows top.command top.lines.tail follows
    | failed left => exact .left rfl (act_keeps (q.left k₁') _ _ left) .nil

/-- The run that a round begins. -/
def runAfter (c : Conversation γ δ π) : Round γ π → Run γ π
  | .ends r => r
  | .goesOn call top => afterCall call (c.runFrom top)

theorem runFrom_eq_runAfter (c : Conversation γ δ π) (top : LoopTop γ π) :
    c.runFrom top = c.runAfter (c.round top) := by
  rw [runLines_round]
  rcases c.round top with r | ⟨call, next⟩ <;> rfl

theorem runAfter_keeps {P : Console → Prop} (stable : Console.Stable P) {round : Round γ π}
    (h : P round.console) : P (c.runAfter round).console := by
  cases round with
  | ends r => exact h
  | goesOn call top => exact runFrom_keeps stable h

theorem calls_runAfter (c : Conversation γ δ π) (round : Round γ π) :
    ∃ more, (c.runAfter round).calls = round.calls ++ more := by
  cases round with
  | ends r => exact ⟨[], (List.append_nil _).symm⟩
  | goesOn call top => exact ⟨_, rfl⟩

/-- What holds of all that comes after a round holds of the run. -/
theorem runAfter_beside {round round' : Round γ π} (rounds : Round.Beside q round round')
    (rest : ∀ call top k', round = .goesOn call top → q.Follows top.console k' →
      Run.Beside q (c.runFrom top) ((c.atVerbosity v').runFrom { top with console := k' })) :
    Run.Beside q (c.runAfter round) ((c.atVerbosity v').runAfter round') := by
  cases rounds with
  | ends follows => exact .same follows
  | left result left calls =>
    obtain ⟨more, all⟩ := c.calls_runAfter round
    refine .left result (runAfter_keeps (q.left _) left) ?_
    rw [all]
    exact calls.append_right more
  | @goesOn call top k' follows =>
    have rest := rest call top k' rfl follows
    unfold runAfter
    dsimp only
    generalize c.runFrom top = r at rest ⊢
    generalize (c.atVerbosity v').runFrom _ = r' at rest ⊢
    cases rest with
    | same follows => exact .same follows
    | left result left calls => exact .left result left (calls.append_left call.toList)

/-- **A run, side by side.** -/
theorem runFrom_beside (allows : q.Allows c.generator) (top : LoopTop γ π) (follows : q.Follows top.console k') :
    Run.Beside q (c.runFrom top) ((c.atVerbosity v').runFrom { top with console := k' }) := by
  induction top using c.round_induction generalizing k' with
  | step top ih =>
    rw [runFrom_eq_runAfter, runFrom_eq_runAfter]
    exact runAfter_beside (round_beside allows follows) fun call next _ goes follows => ih call next goes follows

end Conversation

end PromptLoop
