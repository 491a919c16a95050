import PromptLoop.Proofs.Receiving

/-!
# Where errors come from

Between the engine, the turn and the conversation an error is only ever handed on. So the error that a
run ends with was made in one of a few places: an output that is full, the tokenizer, or the model; or it
is the engine's own, about a prompt that is empty or too long. The last kind does not occur in a
conversation, because such prompts are never handed to the engine (`Conversation.run_failure`).
-/

namespace PromptLoop

variable {γ δ π : Type}

/-- The errors of a conversation that an engine answers. -/
inductive Failure (tokenizer : Tokenizer δ) (e : Engine) : SessionError → Prop
  /-- An output takes no more. -/
  | full : Failure tokenizer e Writer.full
  /-- The tokenizer has no tokens for a text. -/
  | encoding {text : String} {error : SessionError} (failed : tokenizer.encode text = .error error) :
      Failure tokenizer e error
  /-- The tokenizer cannot show a token. -/
  | decoding {state : δ} {token : Token} {error : SessionError}
      (failed : (tokenizer.step state token).1 = .error error) : Failure tokenizer e error
  /-- The model cannot read some tokens. -/
  | reading {cache : Cache} {tokens : List Token} {position : Nat} {fault : ReadFault}
      (failed : e.model.fault? cache tokens position = some fault) :
      Failure tokenizer e (.generation fault.message)

/-! ### Events -/

namespace Turn

variable {setup : TurnSetup δ π} {t : Turn δ π} {error : SessionError}

/-- An event fails because an output is full or the tokenizer cannot show its token. -/
theorem receive_error {event : Event} {rng : Rng} (h : (t.receive setup event rng).1 = .error error) :
    error = Writer.full ∨ ∃ state, (setup.tokenizer.step state event.token).1 = .error error := by
  have reception := (t.receive_reception setup event rng).1
  rw [h] at reception
  exact reception.of_error.imp And.left fun failed => ⟨t.decoder, failed.2⟩

end Turn

/-! ### Answers -/

namespace Engine

variable {e : Engine} {request : Request} {setup : TurnSetup δ π} {error : SessionError}

theorem failure_of_receive {event : Event} {rng rng' : Rng} {t t' : Turn δ π}
    (h : (Turn.sink setup).receive event rng t = (.error error, rng', t')) :
    Failure setup.tokenizer e error := by
  rcases Turn.receive_error (congrArg Prod.fst h) with rfl | ⟨state, failed⟩
  · exact .full
  · exact .decoding failed

theorem failure_of_feed {events : List Event} {rng rng' : Rng} {t t' : Turn δ π}
    (h : (Turn.sink setup).feed events rng t = (.error error, rng', t')) :
    Failure setup.tokenizer e error := by
  induction events generalizing rng t with
  | nil => cases h
  | cons event events ih =>
    rw [Sink.feed] at h
    rcases received : (Turn.sink setup).receive event rng t with ⟨error' | _, rng₁, t₁⟩ <;>
      rw [received] at h
    · obtain rfl := Except.error.inj (congrArg Prod.fst h)
      exact failure_of_receive received
    · exact ih h

/-- An answer to a prompt that the engine does not turn down. -/
theorem Answered.failure {cache : Cache} {rng : Rng} {t : Turn δ π} {ended : CourseEnd Cache (Turn δ π)}
    (h : Answered e request (Turn.sink setup) cache rng t ended) (fits : refusal? request = none)
    (failed : ended.result = .error error) : Failure setup.tokenizer e error := by
  cases h with
  | refused refusal => rw [fits] at refusal; cases refusal
  | unreadable _ fault? => cases failed; exact .reading fault?
  | unheard _ _ heard => cases failed; exact failure_of_feed heard
  | sampled _ _ _ _ ends =>
    cases ends with
    | capped => cases failed
    | panicked => cases failed
    | ended _ _ ends =>
      cases ends with
      | stopped => cases failed
      | failed received => cases failed; exact failure_of_receive received
      | unreadable _ _ fault? => cases failed; exact .reading fault?

end Engine

/-! ### Runs -/

namespace Conversation

theorem turn_failure (c : Conversation γ δ π) (e : Engine) (text : String) (s : ConversationState Cache π)
    (console : Console) {error : SessionError}
    (failed : ((c.answeredBy e).turn text s console).result = .error error) :
    Failure c.tokenizer e error := by
  rcases (c.answeredBy e).turn_cases text s console with served | ⟨prompt, console', -, served⟩
  · rcases served.failure error failed with rfl | ⟨text, encoding⟩
    · exact .full
    · exact .encoding encoding
  · rcases served.failure error failed with rfl | failed
    · exact .full
    · exact (c.answered e prompt.tokens s console').failure served.refusal? failed

/-- **Where errors come from**: a run never ends with an error of the engine about a prompt. -/
theorem run_failure (c : Conversation γ δ π) (e : Engine) (input : List UInt8)
    (s : ConversationState Cache π) (console : Console) {error : SessionError}
    (failed : ((c.answeredBy e).run input s console).result = .error error) :
    Failure c.tokenizer e error := by
  rcases (c.answeredBy e).run_error input s console failed with rfl | ⟨text, s', console', failed, -⟩
  · exact .full
  · exact c.turn_failure e text s' console' failed

end Conversation

end PromptLoop
