import PromptLoop.Proofs.Receiving

/-!
# Serving a text when the outputs work

If the outputs have no limit, nothing that is printed fails. Then a text that is served has no encoding, or
its prompt is passed over, or the generator is called and the result is the generator's
(`Conversation.turn_handled`); and the outputs have no limit in the rounds after it either.
-/

namespace PromptLoop

variable {γ δ π : Type}

theorem Turn.run_works {setup : TurnSetup δ π} (course : Course γ) (rng : Rng) {t : Turn δ π}
    (h : t.console.Works) : (course.run (Turn.sink setup) rng t).sink.console.Works :=
  Course.run_keeps (P := fun t : Turn δ π => t.console.Works)
    (fun event rng t => (t.receive_reception setup event rng).2) course rng h

namespace Conversation

variable {c : Conversation γ δ π} {text : String} {s : ConversationState γ π}

/-- A prompt is passed over: it has no tokens, or more than are left of the budget. -/
def PassesOver (c : Conversation γ δ π) (s : ConversationState γ π) (prompt : Prompt) : Prop :=
  prompt.tokens = [] ∨ c.settings.maxTokens - s.session.contextPos < prompt.tokens.length

/-- What serving a text comes to if nothing that is printed fails. -/
inductive Handled (c : Conversation γ δ π) (text : String) (s : ConversationState γ π)
    (served : Served γ π) : Prop
  /-- The text has no encoding. -/
  | unencodable {error : SessionError}
      (failed : c.style.build c.tokenizer.encode text s.session.contextPos = .error error)
      (call : served.call = none) (result : served.result = .error error)
      (contextPos : served.state.session.contextPos = s.session.contextPos)
  /-- The prompt is passed over. -/
  | passedOver {prompt : Prompt}
      (built : c.style.build c.tokenizer.encode text s.session.contextPos = .ok prompt)
      (passes : c.PassesOver s prompt) (call : served.call = none) (result : served.result = .ok ())
      (contextPos : served.state.session.contextPos = s.session.contextPos)
  /-- The generator is called. -/
  | called {prompt : Prompt} {console : Console} (works : console.Works)
      (called : Called c text s prompt (c.courseEnd prompt.tokens s console) served)
      (result : served.result = (c.courseEnd prompt.tokens s console).result)

theorem serve_handled (c : Conversation γ δ π) (text : String) (s : ConversationState γ π)
    {console : Console} (works : console.Works) :
    c.Handled text s (c.serve text s console) ∧ (c.serve text s console).console.Works := by
  have noted : ∀ {note result console'}, console.note note = (result, console') →
      result = .ok () ∧ console'.Works := by
    intro note result console' noted
    have := works.note note
    rwa [noted] at this
  have serves := c.serves text s console
  generalize c.serve text s console = served at serves
  cases serves with
  | unencodable failed => exact ⟨.unencodable failed rfl rfl rfl, works⟩
  | empty built empty => exact ⟨.passedOver built (.inl empty) rfl rfl rfl, works⟩
  | refused built long note =>
    obtain ⟨rfl, works'⟩ := noted note
    exact ⟨.passedOver built (.inr long) rfl rfl rfl, works'⟩
  | unnoted _ _ _ note => cases (noted note).1
  | called built nonempty fits note =>
    refine ⟨.called (noted note).2 ?_ rfl, Turn.run_works _ _ (noted note).2⟩
    exact ⟨built, nonempty, fits, rfl, rfl, rfl, rfl, rfl, id, fun _ => .inr⟩

/-- The summary of a turn changes nothing but what is printed. -/
theorem summarize_works (c : Conversation γ δ π) (speed : String) {served : Served γ π}
    (works : served.console.Works) :
    c.summarize speed served = { served with console := (c.summarize speed served).console } ∧
      (c.summarize speed served).console.Works := by
  unfold summarize
  split
  · next result _ =>
    obtain ⟨printed, works'⟩ := works.answer (turnSummary c.verbosity served.state.session speed)
    dsimp only
    rw [printed, result]
    exact ⟨rfl, works'⟩
  · exact ⟨rfl, works⟩

/-- **Serving a text when the outputs work.** -/
theorem turn_handled (c : Conversation γ δ π) (text : String) (s : ConversationState γ π)
    {console : Console} (works : console.Works) :
    c.Handled text s (c.turn text s console) ∧ (c.turn text s console).console.Works := by
  obtain ⟨handled, works'⟩ := c.serve_handled text s works
  obtain ⟨same, works''⟩ :=
    c.summarize_works (c.speed (c.serve text s console).state.session.turnPos) works'
  refine ⟨?_, works''⟩
  rw [turn, same]
  cases handled with
  | unencodable failed call result contextPos => exact .unencodable failed call result contextPos
  | passedOver built passes call result contextPos => exact .passedOver built passes call result contextPos
  | called works called result =>
    exact .called works ⟨called.built, called.nonempty, called.fits, called.call, called.session, called.rng,
      called.generator, called.policy, called.success, called.failure⟩ result

/-! ### Rounds -/

theorem Opens.works {top : LoopTop γ π} {console : Console} (opens : c.Opens top console)
    (works : top.console.Works) : console.Works := by
  have answered := (works.answer (inputMark c.verbosity)).2
  rwa [opens.2] at answered

theorem GoesOn.works {top top' : LoopTop γ π} {call : Option Call} (goes : c.GoesOn top call top')
    (works : top.console.Works) : top'.console.Works := by
  cases goes with
  | cleared opens => exact opens.works works
  | served opens => exact (c.turn_handled _ _ (opens.works works)).2

end Conversation

end PromptLoop
