import PromptLoop.Proofs.Serving

/-!
# What writing keeps

The outputs of a conversation change in one way only: a text is written to one of them. So what writing
keeps, whatever is written, every event, every turn and every run keeps.
-/

namespace PromptLoop

variable {γ δ π : Type}

/-- What is true of outputs stays true when anything is written to them. -/
def Console.Stable (P : Console → Prop) : Prop :=
  ∀ k text, P k → P (k.answer text).2 ∧ P (k.note text).2

variable {P : Console → Prop}

/-! ### Turns -/

namespace Turn

variable {t : Turn δ π}

theorem print_keeps (stable : Console.Stable P) (text : String) (h : P t.console) :
    P (t.print text).2.console :=
  (stable t.console text h).1

theorem openAnswer_keeps (stable : Console.Stable P) (setup : TurnSetup δ π) (h : P t.console) :
    P (t.openAnswer setup).2.console := by
  unfold openAnswer
  split_ifs
  · exact print_keeps stable _ h
  · exact h

theorem showText_keeps (stable : Console.Stable P) (text : String) (h : P t.console) :
    P (t.showText text).2.console := by
  unfold showText
  split_ifs
  · exact print_keeps stable _ h
  · exact print_keeps stable _ h

/-- What holds once the answer is opened still holds when the token is shown. -/
theorem showToken_keeps_opened (stable : Console.Stable P) (setup : TurnSetup δ π) (token : Token)
    (h : P (t.openAnswer setup).2.console) : P (t.showToken setup token).2.console := by
  unfold showToken
  rcases ho : t.openAnswer setup with ⟨error | ⟨⟩, t₁⟩ <;> rw [ho] at h
  · exact h
  · dsimp only
    rcases setup.tokenizer.step t₁.decoder token with ⟨error | _ | text, decoder⟩
    · exact h
    · exact h
    · exact showText_keeps stable text h

theorem display_keeps (stable : Console.Stable P) (setup : TurnSetup δ π) (event : Event) (rng : Rng)
    (h : P t.console) : P (t.display setup event rng).2.2.console := by
  unfold display
  split_ifs
  · exact (stable t.console "." h).2
  · exact print_keeps stable _ h
  · exact showToken_keeps_opened stable setup event.token (openAnswer_keeps stable setup h)

theorem receive_console (setup : TurnSetup δ π) (event : Event) (rng : Rng) (t : Turn δ π) :
    (t.receive setup event rng).2.2.console = (t.count.display setup event rng).2.2.console := by
  unfold receive
  rcases t.count.display setup event rng with ⟨error | ⟨⟩, rng', t'⟩ <;> rfl

theorem receive_keeps (stable : Console.Stable P) (setup : TurnSetup δ π) (event : Event) (rng : Rng)
    (h : P t.console) : P (t.receive setup event rng).2.2.console := by
  have counted : P t.count.console := h
  rw [receive_console]
  exact display_keeps stable setup event rng counted

theorem run_keepsConsole (stable : Console.Stable P) (setup : TurnSetup δ π) (course : Course γ) (rng : Rng)
    (h : P t.console) : P (course.run (Turn.sink setup) rng t).sink.console :=
  Course.run_keeps (P := fun t : Turn δ π => P t.console)
    (fun event rng _ => receive_keeps stable setup event rng) course rng h

end Turn

/-! ### Conversations -/

namespace Conversation

variable {c : Conversation γ δ π} {s : ConversationState γ π} {k : Console}

theorem callGenerator_keeps (stable : Console.Stable P) (prompt : List Token) (h : P k) :
    P (c.callGenerator prompt s k).console :=
  Turn.run_keepsConsole stable c.turnSetup _ _ h

theorem serve_keeps (stable : Console.Stable P) (text : String) (h : P k) : P (c.serve text s k).console := by
  have noted : ∀ {note result k'}, k.note note = (result, k') → P k' := by
    intro note result k' noted
    have written := (stable k note h).2
    rwa [noted] at written
  have serves := c.serves text s k
  generalize c.serve text s k = served at serves
  cases serves with
  | unencodable => exact h
  | empty => exact h
  | refused _ _ note => exact noted note
  | unnoted _ _ _ note => exact noted note
  | called _ _ _ note => exact callGenerator_keeps stable _ (noted note)

theorem summarize_keeps (stable : Console.Stable P) (speed : String) {served : Served γ π}
    (h : P served.console) : P (c.summarize speed served).console := by
  unfold summarize
  split
  · exact (stable _ _ h).1
  · exact h

theorem turn_keeps (stable : Console.Stable P) (text : String) (h : P k) : P (c.turn text s k).console :=
  summarize_keeps stable _ (serve_keeps stable text h)

theorem act_keeps (stable : Console.Stable P) (command : Except Termination Command)
    (rest : List (List UInt8)) (h : P k) : P (c.act command rest s k).console := by
  unfold act
  rcases command with reason | _ | _ | text
  · exact h
  · exact h
  · exact h
  · have served := turn_keeps (c := c) (s := s) stable text h
    dsimp only
    rcases (c.turn text s k).result with error | ⟨⟩
    · exact served
    · exact served

theorem round_keeps (stable : Console.Stable P) (top : LoopTop γ π) (h : P top.console) :
    P (c.round top).console := by
  unfold round
  split_ifs
  · exact (stable _ _ h).1
  · have marked := (stable top.console (inputMark c.verbosity) h).1
    rcases hk : top.console.answer (inputMark c.verbosity) with ⟨error | ⟨⟩, k⟩ <;> rw [hk] at marked
    · exact marked
    · exact act_keeps stable _ _ marked

/-- **What writing keeps, a run keeps.** -/
theorem runFrom_keeps (stable : Console.Stable P) {top : LoopTop γ π} (h : P top.console) :
    P (c.runFrom top).console := by
  induction top using c.round_induction with
  | step top ih =>
    have once := round_keeps (c := c) stable top h
    rw [runLines_round]
    rcases hr : c.round top with r | ⟨call, next⟩ <;> rw [hr] at once
    · exact once
    · exact ih call next hr once

end Conversation

end PromptLoop
