import Mathlib.Tactic.SplitIfs
import PromptLoop.Engine.Generate
import PromptLoop.Generation.Script

/-!
# Generators that stop at an error

A receiver of events may fail. A generator is fail-stop if it then does nothing more but end with that very
error. Engines are, and so are scripts. Fail-stop generators have no errors of outputs by themselves: if
one ends with such an error, then the receiver of its events had it (`Course.FailStop.run_quiet`).
-/

namespace PromptLoop

variable {γ σ : Type}

/-- An error of an output. -/
def OutputError {α : Type} (result : Except SessionError α) : Prop := ∃ detail, result = .error (.io detail)

/-- An early end for an error of an output. -/
def OutputHalt {α : Type} (result : Except Halt α) : Prop := ∃ detail, result = .error (SessionError.io detail)

/-- A course that passes on the error of a receiver at once, and has no errors of outputs by itself. -/
inductive Course.FailStop : Course γ → Prop
  | finish {result : Except Halt Unit} {after : γ} (quiet : ¬ OutputHalt result) :
      FailStop (.finish result after)
  | draw {next : UInt32 → Course γ} (stops : ∀ word, FailStop (next word)) : FailStop (.draw next)
  | emit {event : Event} {next : Answer → Course γ}
      (fails : ∀ error, ∃ after, next (.error error) = .finish (.error error) after)
      (stops : ∀ goOn, FailStop (next (.ok goOn))) : FailStop (.emit event next)

/-- A generator all of whose courses pass on the error of a receiver at once. -/
def Generator.FailStop (g : Generator γ) : Prop := ∀ request state, (g.generate request state).FailStop

theorem not_outputHalt_ok {α : Type} (value : α) : ¬ OutputHalt (.ok value) := by
  rintro ⟨detail, ended⟩
  cases ended

theorem not_outputHalt_generation {α : Type} (detail : String) :
    ¬ OutputHalt (.error (SessionError.generation detail) : Except Halt α) := by
  rintro ⟨detail', ended⟩
  cases ended

theorem not_outputHalt_panic {α : Type} (panic : Panic) : ¬ OutputHalt (.error panic : Except Halt α) := by
  rintro ⟨detail, ended⟩
  cases ended

namespace Course.FailStop

theorem ends (after : γ) : Course.FailStop (.finish (.ok ()) after) := .finish (not_outputHalt_ok ())

theorem fails (detail : String) (after : γ) :
    Course.FailStop (.finish (.error (SessionError.generation detail)) after) :=
  .finish (not_outputHalt_generation detail)

theorem emitAll {after : γ} {continuation : Course γ} (h : continuation.FailStop) (events : List Event) :
    (Course.emitAll after continuation events).FailStop := by
  induction events with
  | nil => exact h
  | cons event events ih => exact .emit (fun error => ⟨after, rfl⟩) (fun goOn => ih)

/-- Settling on a token neither fails nor hears of errors. -/
theorem settle (e : Engine) (choice : Choice) {after : γ} {next : Event → Course γ}
    (h : ∀ event, (next event).FailStop) : (e.settle choice after next).FailStop := by
  cases choice with
  | impossible => exact h _
  | certain candidate => exact h _
  | drawn wheel first others => exact .draw fun word => h _
  | overflowing => exact .finish (not_outputHalt_panic _)

end Course.FailStop

/-- Scripts pass on errors at once. -/
theorem Script.failStop (script : Script) : script.generator.FailStop := by
  have emitted : ∀ {requests token} {rest : Course Nat}, rest.FailStop →
      (script.emitToken requests token rest).FailStop := by
    intro requests token rest stops
    refine .emit (fun error => ⟨requests, rfl⟩) ?_
    intro goOn
    dsimp only
    split_ifs
    · exact stops
    · exact .ends _
  have played : ∀ requests cues, (script.play requests cues).FailStop := by
    intro requests cues
    induction cues with
    | nil => exact .ends _
    | cons cue cues ih =>
      cases cue with
      | token token => exact emitted ih
      | random count base => exact .draw fun word => emitted ih
      | fail detail => exact .fails _ _
  intro request requests
  exact (played _ _).emitAll _

/-- Engines pass on errors at once. -/
theorem Engine.failStop (e : Engine) : e.generator.FailStop := by
  have sampled : ∀ request left position logits cache,
      (e.sampleFrom request left position logits cache).FailStop := by
    intro request left
    induction left with
    | zero => exact fun _ _ _ => .ends _
    | succ left ih =>
      intro position logits cache
      rw [sampleFrom]
      split_ifs
      · exact .ends _
      · refine .settle e _ fun event => .emit (fun error => ⟨cache, rfl⟩) fun goOn => ?_
        dsimp only
        split_ifs
        · exact .ends _
        · rw [Model.forward]
          rcases e.model.fault? cache [event.token] position with _ | fault
          · exact ih _ _ _
          · exact .fails _ _
  intro request cache
  show (e.answer request cache).FailStop
  rw [answer]
  split_ifs
  · exact .fails _ _
  · exact .fails _ _
  · rw [Model.forward]
    rcases e.model.fault? cache request.prompt request.startPos with _ | fault
    · exact (sampled _ _ _ _ _).emitAll _
    · exact .fails _ _

/-- **If the receiver of events has no errors of outputs**, a course that is fail-stop has none. -/
theorem Course.FailStop.run_quiet {course : Course γ} (h : course.FailStop) {sink : Sink σ} {P : σ → Prop}
    (keeps : ∀ event rng state, P state → P (sink.receive event rng state).2.2)
    (quiet : ∀ event rng state, P state → ¬ OutputError (sink.receive event rng state).1) (rng : Rng) {state : σ}
    (holds : P state) : ¬ OutputHalt (course.run sink rng state).result := by
  induction h generalizing rng state with
  | finish quiet => exact quiet
  | draw _ ih => exact ih _ _ holds
  | @emit event next fails _ ih =>
    have kept := keeps event rng state holds
    have answered := quiet event rng state holds
    rw [run]
    rcases hr : sink.receive event rng state with ⟨error | goOn, rng', state'⟩ <;> rw [hr] at kept answered
    · obtain ⟨after, stops⟩ := fails error
      dsimp only
      rw [stops]
      rintro ⟨detail, same⟩
      exact answered ⟨detail, congrArg Except.error (Halt.error.inj (Except.error.inj same))⟩
    · exact ih goOn rng' kept

end PromptLoop
