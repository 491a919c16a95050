import PromptLoop.Proofs.FailStop
import PromptLoop.Proofs.Outputs

/-!
# Two runs side by side

Two runs of one conversation from one state are compared that differ in their outputs, and perhaps in how
much is printed. The outputs of the first never fail. The outputs of the second follow them until a write
to them fails; from then on they are left behind. What following and being left behind mean is up to the
comparison (`Comparison`): it says what becomes of them when a text is written to both, and that what is
left behind stays so whatever the first goes on to write.

Then two runs side by side do the same, or the second ends with the failed write, and its calls are the
first of those of the first run, the last of them perhaps cut short (`Conversation.runFrom_beside`). That
a failed write ends the run is a property of the generator: it passes on the error of a receiver at once
(`Generator.FailStop`). If no write fails, any generator will do.
-/

namespace PromptLoop

variable {γ δ π : Type}

/-! ### Comparisons -/

/-- What writing to two consoles comes to: both writes work and the second follows, or the second fails and
is left behind. -/
inductive WrittenBeside (Follows Left : Console → Console → Prop) :
    Except SessionError Unit × Console → Except SessionError Unit × Console → Prop
  | both {k k' : Console} (follows : Follows k k') : WrittenBeside Follows Left (.ok (), k) (.ok (), k')
  | failed {k k' : Console} (left : Left k k') :
      WrittenBeside Follows Left (.ok (), k) (.error Writer.full, k')

/-- Two writes that work. -/
theorem WrittenBeside.ofDone {Follows Left : Console → Console → Prop}
    {w w' : Except SessionError Unit × Console} (done : w.1 = .ok ()) (done' : w'.1 = .ok ())
    (follows : Follows w.2 w'.2) : WrittenBeside Follows Left w w' := by
  obtain ⟨result, k⟩ := w
  obtain ⟨result', k'⟩ := w'
  obtain rfl := done
  obtain rfl := done'
  exact .both follows

/-- A comparison of outputs at two verbosities. The first outputs never fail. -/
structure Comparison (verbosity verbosity' : Nat) where
  /-- No write to the second has failed. -/
  Follows : Console → Console → Prop
  /-- A write to the second has failed. -/
  Left : Console → Console → Prop
  /-- Texts that may be printed in each other's place. -/
  Corresponds : String → String → Prop
  same : ∀ text, Corresponds text text
  inputMark : Corresponds (Conversation.inputMark verbosity) (Conversation.inputMark verbosity')
  answerLead : Corresponds (Turn.answerLead verbosity) (Turn.answerLead verbosity')
  endMark : Corresponds (Turn.endMark verbosity) (Turn.endMark verbosity')
  turnSummary : ∀ session speed, Corresponds (Conversation.turnSummary verbosity session speed)
    (Conversation.turnSummary verbosity' session speed)
  answer : ∀ {k k' text text'}, Follows k k' → Corresponds text text' →
    WrittenBeside Follows Left (k.answer text) (k'.answer text')
  note : ∀ {k k'} text, Follows k k' → WrittenBeside Follows Left (k.note text) (k'.note text)
  left : ∀ k', Console.Stable fun k => Left k k'

/-- A comparison at one verbosity, where both print the same texts. -/
def Comparison.ofSame (verbosity : Nat) (Follows Left : Console → Console → Prop)
    (answer : ∀ {k k'} text, Follows k k' → WrittenBeside Follows Left (k.answer text) (k'.answer text))
    (note : ∀ {k k'} text, Follows k k' → WrittenBeside Follows Left (k.note text) (k'.note text))
    (left : ∀ k', Console.Stable fun k => Left k k') : Comparison verbosity verbosity where
  Follows := Follows
  Left := Left
  Corresponds := Eq
  same _ := rfl
  inputMark := rfl
  answerLead := rfl
  endMark := rfl
  turnSummary _ _ := rfl
  answer follows same := same ▸ answer _ follows
  note := note
  left := left

/-- A generator that a comparison allows: it is fail-stop, or no write ever fails. -/
def Comparison.Allows {v v' : Nat} (q : Comparison v v') (g : Generator γ) : Prop :=
  g.FailStop ∨ ∀ k k', ¬ q.Left k k'

/-! ### Turns -/

/-- The same setup at another verbosity. -/
def TurnSetup.atVerbosity (setup : TurnSetup δ π) (verbosity : Nat) : TurnSetup δ π :=
  { setup with verbosity := verbosity }

namespace Turn

/-- The same turn on other outputs. -/
def onto (t : Turn δ π) (k : Console) : Turn δ π := { t with console := k }

variable {setup : TurnSetup δ π} {v' : Nat} {q : Comparison setup.verbosity v'} {t : Turn δ π} {k' : Console}

/-- What happens to two turns side by side: the same, or the second fails and is left behind. -/
inductive Beside {α : Type} {v v' : Nat} (q : Comparison v v') :
    Except SessionError α × Rng × Turn δ π → Except SessionError α × Rng × Turn δ π → Prop
  | same {result : Except SessionError α} {rng : Rng} {t : Turn δ π} {k' : Console}
      (follows : q.Follows t.console k') : Beside q (result, rng, t) (result, rng, t.onto k')
  | left {result : Except SessionError α} {rng rng' : Rng} {t t' : Turn δ π}
      (left : q.Left t.console t'.console) : Beside q (result, rng, t) (.error Writer.full, rng', t')

theorem print_beside (follows : q.Follows t.console k') {text text' : String}
    (corresponds : q.Corresponds text text') (rng : Rng) :
    Beside q ((t.print text).1, rng, (t.print text).2)
      (((t.onto k').print text').1, rng, ((t.onto k').print text').2) := by
  have written := q.answer follows corresponds
  unfold print
  rw [show (t.onto k').console = k' from rfl]
  rcases hk : t.console.answer text with ⟨result, k₁⟩
  rcases hk' : k'.answer text' with ⟨result', k₁'⟩
  rw [hk, hk'] at written
  cases written with
  | both follows => exact .same follows
  | failed left => exact .left left

theorem showDot_beside (follows : q.Follows t.console k') (rng : Rng) :
    Beside q (t.showDot.1, rng, t.showDot.2) ((t.onto k').showDot.1, rng, (t.onto k').showDot.2) := by
  have written := q.note "." follows
  unfold showDot
  rw [show (t.onto k').console = k' from rfl]
  rcases hk : t.console.note "." with ⟨result, k₁⟩
  rcases hk' : k'.note "." with ⟨result', k₁'⟩
  rw [hk, hk'] at written
  cases written with
  | both follows => exact .same follows
  | failed left => exact .left left

theorem openAnswer_beside (follows : q.Follows t.console k') (rng : Rng) :
    Beside q ((t.openAnswer setup).1, rng, (t.openAnswer setup).2)
      (((t.onto k').openAnswer (setup.atVerbosity v')).1, rng,
        ((t.onto k').openAnswer (setup.atVerbosity v')).2) := by
  unfold openAnswer
  rw [show (t.onto k').session = t.session from rfl]
  by_cases first : t.session.isFirstOfAnswer = true
  · rw [if_pos first, if_pos first]
    have opened : q.Follows ({ t with trimPending := true } : Turn δ π).console k' := follows
    exact print_beside opened q.answerLead rng
  · rw [if_neg first, if_neg first]
    exact .same follows

theorem showText_beside (follows : q.Follows t.console k') (text : String) (rng : Rng) :
    Beside q ((t.showText text).1, rng, (t.showText text).2)
      (((t.onto k').showText text).1, rng, ((t.onto k').showText text).2) := by
  unfold showText
  rw [show (t.onto k').trimPending = t.trimPending from rfl]
  by_cases trims : (t.trimPending && !text.isEmpty) = true
  · rw [if_pos trims, if_pos trims]
    have begun : q.Follows ({ t with trimPending := false } : Turn δ π).console k' := follows
    exact print_beside begun (q.same _) rng
  · rw [if_neg trims, if_neg trims]
    exact print_beside follows (q.same _) rng

theorem showToken_beside (follows : q.Follows t.console k') (token : Token) (rng : Rng) :
    Beside q ((t.showToken setup token).1, rng, (t.showToken setup token).2)
      (((t.onto k').showToken (setup.atVerbosity v') token).1, rng,
        ((t.onto k').showToken (setup.atVerbosity v') token).2) := by
  have opened := openAnswer_beside follows rng
  have kept : ∀ t' : Turn δ π, q.Left (t.openAnswer setup).2.console t'.console →
      q.Left (t.showToken setup token).2.console t'.console :=
    fun t' => showToken_keeps_opened (q.left t'.console) setup token
  unfold showToken at kept ⊢
  rcases ho : t.openAnswer setup with ⟨result, t₁⟩
  rcases ho' : (t.onto k').openAnswer (setup.atVerbosity v') with ⟨result', t₁'⟩
  rw [ho, ho'] at opened
  rw [ho] at kept
  cases opened with
  | left left => exact .left (kept _ left)
  | same follows =>
    rcases result with error | ⟨⟩
    · exact .same follows
    · dsimp only
      rw [show (setup.atVerbosity v').tokenizer = setup.tokenizer from rfl]
      rcases setup.tokenizer.step t₁.decoder token with ⟨error | _ | text, decoder⟩
      · exact .same follows
      · exact .same follows
      · have stepped : q.Follows ({ t₁ with decoder := decoder } : Turn δ π).console _ := follows
        exact showText_beside stepped text rng

theorem display_beside (follows : q.Follows t.console k') (event : Event) (rng : Rng) :
    Beside q (t.display setup event rng) ((t.onto k').display (setup.atVerbosity v') event rng) := by
  unfold display
  rw [show (t.onto k').session = t.session from rfl, show (setup.atVerbosity v').eos = setup.eos from rfl]
  by_cases reading : t.session.inPrefill = true
  · rw [if_pos reading, if_pos reading]
    exact showDot_beside follows rng
  rw [if_neg reading, if_neg reading]
  by_cases is_end : event.token = setup.eos
  · rw [if_pos is_end, if_pos is_end]
    have ended : q.Follows ({ t with session := sessionAtEnd t.session } : Turn δ π).console k' := follows
    exact print_beside ended q.endMark (rngAtEnd t.session rng)
  · rw [if_neg is_end, if_neg is_end]
    exact showToken_beside follows event.token rng

/-- **An event, side by side.** -/
theorem receive_beside (follows : q.Follows t.console k') (event : Event) (rng : Rng) :
    Beside q (t.receive setup event rng) ((t.onto k').receive (setup.atVerbosity v') event rng) := by
  have counted : q.Follows t.count.console k' := follows
  have displayed := display_beside counted event rng
  have same : (t.onto k').count = t.count.onto k' := rfl
  unfold receive
  rw [same]
  rcases hd : t.count.display setup event rng with ⟨result, rng₁, t₁⟩
  rcases hd' : (t.count.onto k').display (setup.atVerbosity v') event rng with ⟨result', rng₁', t₁'⟩
  rw [hd, hd'] at displayed
  cases displayed with
  | same follows =>
    rcases result with error | ⟨⟩
    · exact .same follows
    · exact .same follows
  | left left =>
    rcases result with error | ⟨⟩
    · exact .left left
    · exact .left left

/-! ### Courses -/

/-- The events of a turn so far, in order. -/
def events (t : Turn δ π) : List Event := t.receipts.reverse.map (·.event)

theorem events_receive {event : Event} {rng rng' : Rng} {answer : Answer} {t' : Turn δ π}
    (h : t.receive setup event rng = (answer, rng', t')) : t'.events = t.events ++ [event] := by
  rw [events, (receive_received h).receipts, List.reverse_cons, List.map_append]
  rfl

/-- A course adds to the events. -/
theorem events_run_prefix (setup : TurnSetup δ π) (course : Course γ) (rng : Rng) (t : Turn δ π) :
    t.events <+: (course.run (Turn.sink setup) rng t).sink.events := by
  refine Course.run_keeps (P := fun u : Turn δ π => t.events <+: u.events) ?_ course rng List.prefix_rfl
  intro event rng u sofar
  rcases hr : (Turn.sink setup).receive event rng u with ⟨answer, rng', u'⟩
  rw [events_receive hr]
  exact sofar.trans (List.prefix_append _ _)

end Turn

/-- What two courses come to side by side: the same, or the second fails and is left behind, with the first
of the events. -/
inductive CourseEnd.Beside {v v' : Nat} (q : Comparison v v') :
    CourseEnd γ (Turn δ π) → CourseEnd γ (Turn δ π) → Prop
  | same {ended : CourseEnd γ (Turn δ π)} {k' : Console} (follows : q.Follows ended.sink.console k') :
      Beside q ended { ended with sink := ended.sink.onto k' }
  | left {ended ended' : CourseEnd γ (Turn δ π)} (result : ended'.result = .error Writer.full)
      (left : q.Left ended.sink.console ended'.sink.console)
      (events : ended'.sink.events <+: ended.sink.events) : Beside q ended ended'

/-- **A course, side by side.** -/
theorem Course.run_beside (setup : TurnSetup δ π) {v' : Nat} {q : Comparison setup.verbosity v'}
    (course : Course γ) (allows : course.FailStop ∨ ∀ k k', ¬ q.Left k k') (rng : Rng) {t : Turn δ π}
    {k' : Console} (follows : q.Follows t.console k') :
    CourseEnd.Beside q (course.run (Turn.sink setup) rng t)
      (course.run (Turn.sink (setup.atVerbosity v')) rng (t.onto k')) := by
  induction course generalizing rng t k' with
  | finish result after => exact .same follows
  | draw next ih =>
    refine ih _ (allows.imp_left ?_) _ follows
    intro stops
    cases stops with
    | draw stops => exact stops _
  | emit event next ih =>
    have received := Turn.receive_beside follows event rng
    rw [run, run, Turn.sink, Turn.sink]
    dsimp only
    rcases hr : t.receive setup event rng with ⟨answer, rng₁, t₁⟩
    rcases hr' : (t.onto k').receive (setup.atVerbosity v') event rng with ⟨answer', rng₁', t₁'⟩
    rw [hr, hr'] at received
    dsimp only
    cases received with
    | same follows =>
      rcases allows with stops | safe
      · cases stops with
        | emit fails stops =>
          rcases answer with error | goOn
          · obtain ⟨after, finish⟩ := fails error
            rw [finish]
            exact .same follows
          · exact ih _ (.inl (stops goOn)) _ follows
      · exact ih _ (.inr safe) _ follows
    | left left =>
      rcases allows with stops | safe
      · cases stops with
        | emit fails _ =>
          obtain ⟨after, finish⟩ := fails Writer.full
          rw [finish]
          -- The first course goes on alone: what it writes and hears adds to what there is.
          have heard : t₁'.events <+: t₁.events := by
            rw [Turn.events_receive hr, Turn.events_receive hr']
            exact List.prefix_rfl
          exact .left rfl (Turn.run_keepsConsole (q.left t₁'.console) setup _ _ left)
            (heard.trans (Turn.events_run_prefix setup _ _ _))
      · exact absurd left (safe _ _)

end PromptLoop
