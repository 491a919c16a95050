import PromptLoop.Proofs.Handling
import PromptLoop.Proofs.Losses
import PromptLoop.Proofs.RunsBeside

/-!
# Outputs that are full

A run is compared with the same run on outputs that take so many bytes and no more. If the run writes no
more than that, nothing is different. If it writes more, the run on the limited outputs ends with the write
that does not fit: what it has written until then is the beginning of what is written without the limits,
its calls are cut short, and nothing comes after the error (`Conversation.run_limited`).

The generator is one that passes on errors at once, as scripts and engines do. The run without the limits
may also fail by itself; with a tokenizer that has no errors of outputs, and no trained tokenizer has, it
does not fail with one, so that a run on limited outputs fails with one exactly if a limit is exceeded.
-/

namespace PromptLoop

variable {γ δ π : Type}

/-! ### Limited outputs -/

/-- What a write comes to with and without a limit. -/
theorem Writer.write_limited (written : List UInt8) (n : Nat) (text : String) :
    (Writer.mk written none).write text = (.ok (), ⟨written ++ Line.bytes text, none⟩) ∧
      ((written ++ Line.bytes text).length ≤ n →
        (Writer.mk written (some n)).write text = (.ok (), ⟨written ++ Line.bytes text, some n⟩)) ∧
      (written.length ≤ n → n < (written ++ Line.bytes text).length →
        ((Writer.mk written (some n)).write text).1 = .error full ∧
          ((Writer.mk written (some n)).write text).2.written <+: written ++ Line.bytes text) := by
  refine ⟨rfl, ?_, ?_⟩
  · intro fits
    rw [List.length_append] at fits
    have room : (Line.bytes text).length ≤ n - written.length := by omega
    simp [write, writeBytes, Writer.fits, Writer.room, fits, List.take_of_length_le room]
  · intro sofar beyond
    rw [List.length_append] at beyond
    refine ⟨?_, written_writeBytes _ _⟩
    have some : (Line.bytes text).isEmpty = false := by
      rcases hb : Line.bytes text with _ | ⟨b, bs⟩
      · rw [hb, List.length_nil] at beyond
        omega
      · rfl
    have tight : ¬ written.length + (Line.bytes text).length ≤ n := by omega
    simp [write, writeBytes, Writer.fits, some, tight]

namespace Console

/-- Limited outputs that have taken all that outputs without limits have taken. -/
structure KeepsUp (n m : Nat) (k k' : Console) : Prop where
  works : k.Works
  same : k' = ⟨⟨k.out.written, some n⟩, ⟨k.err.written, some m⟩⟩
  out : k.out.written.length ≤ n
  err : k.err.written.length ≤ m

/-- Outputs without limits have taken more than limited outputs can. -/
def Exceeds (n m : Nat) (k : Console) : Prop := n < k.out.written.length ∨ m < k.err.written.length

/-- Limited outputs that have taken the beginning of what outputs without limits have taken. -/
structure CutOff (n m : Nat) (k k' : Console) : Prop where
  out : k'.out.written <+: k.out.written
  err : k'.err.written <+: k.err.written
  exceeds : k.Exceeds n m

variable {n m : Nat} {k k' : Console}

theorem KeepsUp.answer (h : KeepsUp n m k k') (text : String) :
    WrittenBeside (KeepsUp n m) (CutOff n m) (k.answer text) (k'.answer text) := by
  obtain ⟨⟨out, capacity⟩, ⟨err, capacity'⟩⟩ := k
  obtain ⟨⟨unlimited, unlimited'⟩, rfl, outFits, errFits⟩ := h
  cases unlimited
  cases unlimited'
  obtain ⟨whole, fits, beyond⟩ := Writer.write_limited out n text
  unfold Console.answer
  rw [whole]
  by_cases room : (out ++ Line.bytes text).length ≤ n
  · rw [fits room]
    exact .both ⟨⟨rfl, rfl⟩, rfl, room, errFits⟩
  · obtain ⟨full, written⟩ := beyond outFits (Nat.not_le.mp room)
    dsimp only
    rw [full]
    exact .failed ⟨written, List.prefix_rfl, .inl (Nat.not_le.mp room)⟩

theorem KeepsUp.note (h : KeepsUp n m k k') (text : String) :
    WrittenBeside (KeepsUp n m) (CutOff n m) (k.note text) (k'.note text) := by
  obtain ⟨⟨out, capacity⟩, ⟨err, capacity'⟩⟩ := k
  obtain ⟨⟨unlimited, unlimited'⟩, rfl, outFits, errFits⟩ := h
  cases unlimited
  cases unlimited'
  obtain ⟨whole, fits, beyond⟩ := Writer.write_limited err m text
  unfold Console.note
  rw [whole]
  by_cases room : (err ++ Line.bytes text).length ≤ m
  · rw [fits room]
    exact .both ⟨⟨rfl, rfl⟩, rfl, outFits, room⟩
  · obtain ⟨full, written⟩ := beyond errFits (Nat.not_le.mp room)
    dsimp only
    rw [full]
    exact .failed ⟨List.prefix_rfl, written, .inr (Nat.not_le.mp room)⟩

/-- Limited outputs that are cut off stay so. -/
theorem CutOff.stable (n m : Nat) (k' : Console) : Console.Stable fun k => CutOff n m k k' := by
  intro k text ⟨out, err, exceeds⟩
  have grows : ∀ w : Writer, w.written <+: (w.write text).2.written := fun w => List.prefix_append _ _
  constructor
  · exact ⟨out.trans (grows _), err, exceeds.imp_left fun beyond => Nat.lt_of_lt_of_le beyond (grows _).length_le⟩
  · exact ⟨out, err.trans (grows _), exceeds.imp_right fun beyond => Nat.lt_of_lt_of_le beyond (grows _).length_le⟩

end Console

/-- Outputs with limits beside outputs without. -/
def Comparison.limited (verbosity n m : Nat) : Comparison verbosity verbosity :=
  .ofSame verbosity (Console.KeepsUp n m) (Console.CutOff n m) (fun text follows => follows.answer text)
    (fun text follows => follows.note text) (Console.CutOff.stable n m)

/-! ### Tokenizers -/

/-- A tokenizer that has no errors of outputs. -/
structure Tokenizer.Quiet (t : Tokenizer δ) : Prop where
  encode : ∀ text, ¬ OutputError (t.encode text)
  step : ∀ state token, ¬ OutputError (t.step state token).1

theorem TrainedTokenizer.quiet (t : TrainedTokenizer) : t.tokenizer.Quiet := by
  constructor
  · rintro text ⟨detail, failed⟩
    obtain ⟨detail', same⟩ := t.encode_error failed
    cases same
  · rintro state token ⟨detail, failed⟩
    obtain ⟨detail', same⟩ := t.step_error failed
    cases same

/-- A turn whose outputs have no limit has no errors of outputs. -/
theorem Turn.receive_quiet {setup : TurnSetup δ π} (quiet : setup.tokenizer.Quiet) (event : Event) (rng : Rng)
    {t : Turn δ π} (works : t.console.Works) : ¬ OutputError (t.receive setup event rng).1 := by
  rintro ⟨detail, failed⟩
  have reception := (t.receive_reception setup event rng).1
  rw [failed] at reception
  rcases reception.of_error with ⟨-, broken⟩ | ⟨-, stepped⟩
  · exact broken works
  · exact quiet.step _ _ ⟨detail, stepped⟩

namespace Conversation

variable {c : Conversation γ δ π} {s : ConversationState γ π} {k : Console}

theorem turn_quiet (stops : c.generator.FailStop) (quiet : c.tokenizer.Quiet) (text : String)
    (works : k.Works) : ¬ OutputHalt (c.turn text s k).result := by
  rintro ⟨detail, failed⟩
  cases (c.turn_handled text s works).1 with
  | unencodable unbuilt _ result _ =>
    obtain ⟨text', unencoded⟩ := c.build_error unbuilt
    rw [result] at failed
    exact quiet.encode text' ⟨detail, unencoded.trans (congrArg _ (Halt.error.inj (Except.error.inj failed)))⟩
  | passedOver _ _ _ result _ =>
    rw [result] at failed
    cases failed
  | @called prompt console works called result =>
    rw [result] at failed
    refine Course.FailStop.run_quiet (stops _ _) (P := fun t : Turn δ π => t.console.Works) ?_ ?_ s.rng works
      ⟨detail, failed⟩
    · exact fun event rng t => (t.receive_reception c.turnSetup event rng).2
    · exact fun event rng t => Turn.receive_quiet quiet event rng

/-- A run whose outputs have no limit has no errors of outputs. -/
theorem run_quiet (stops : c.generator.FailStop) (quiet : c.tokenizer.Quiet) (input : List UInt8)
    (s : ConversationState γ π) (works : k.Works) : ¬ OutputHalt (c.run input s k).result := by
  obtain ⟨calls, top, last, works', ends, same⟩ := runFrom_ends (c := c)
    (P := fun _ top => top.console.Works) (fun _ _ _ _ goes works => goes.works works)
    ⟨Line.lines input, s, k⟩ works
  have same : c.run input s k = afterCalls calls last := same
  rw [same]
  rintro ⟨detail, failed⟩
  cases ends with
  | overBudget =>
    have printed := (works'.answer (budgetNotice c.settings.maxTokens)).1
    have result : ((top.console.answer (budgetNotice c.settings.maxTokens)).1.map fun _ =>
        Termination.budgetExhausted).mapError Halt.error = .error (SessionError.io detail) := failed
    rw [printed] at result
    cases result
  | unmarked marked =>
    have printed := (works'.answer (inputMark c.verbosity)).1
    rw [marked] at printed
    cases printed
  | quits => cases failed
  | @failed error console text opens _ result =>
    obtain rfl : error = SessionError.io detail := Except.error.inj failed
    exact turn_quiet (s := top.state.atPhase .awaitingInput) stops quiet text (opens.works works')
      ⟨detail, result⟩

/-! ### Runs -/

/-- A run on outputs with limits, compared with the run on outputs without. -/
structure StopsWhenFull (c : Conversation γ δ π) (n m : Nat) (whole limited : Run γ π) : Prop where
  /-- What is written is the beginning of what is written without the limits. -/
  out : limited.console.out.written <+: whole.console.out.written
  err : limited.console.err.written <+: whole.console.err.written
  /-- The calls are the first of the calls, the last of them perhaps with fewer events. -/
  calls : CutShort whole.calls limited.calls
  /-- If more is written than the limits allow, the run ends with the write that does not fit. -/
  stops : whole.console.Exceeds n m → limited.result = .error Writer.full
  /-- If no more is written than the limits allow, there is no difference. -/
  same : ¬ whole.console.Exceeds n m →
    limited.result = whole.result ∧ limited.state = whole.state ∧ limited.calls = whole.calls ∧
      limited.console.out.written = whole.console.out.written ∧
      limited.console.err.written = whole.console.err.written
  /-- The run fails with an error of an output exactly if more is written than the limits allow. -/
  fails : c.tokenizer.Quiet → (OutputHalt limited.result ↔ whole.console.Exceeds n m)

theorem stopsWhenFull_of_beside {n m : Nat} {whole limited : Run γ π}
    (beside : Run.Beside (.limited c.verbosity n m) whole limited)
    (quiet : c.tokenizer.Quiet → ¬ OutputHalt whole.result) : StopsWhenFull c n m whole limited := by
  cases beside with
  | same follows =>
    obtain ⟨works, rfl, out, err⟩ := follows
    have within : ¬ whole.console.Exceeds n m := by
      rintro (beyond | beyond)
      · exact absurd out (Nat.not_le.mpr beyond)
      · exact absurd err (Nat.not_le.mpr beyond)
    constructor
    · exact List.prefix_rfl
    · exact List.prefix_rfl
    · exact .refl _
    · intro beyond
      exact absurd beyond within
    · intro _
      exact ⟨rfl, rfl, rfl, rfl, rfl⟩
    · intro tokenizer
      exact iff_of_false (quiet tokenizer) within
  | left result left calls =>
    obtain ⟨out, err, beyond⟩ := left
    constructor
    · exact out
    · exact err
    · exact calls
    · intro _
      exact result
    · intro within
      exact absurd beyond within
    · intro _
      exact iff_of_true ⟨_, result⟩ beyond

/-- **A run on outputs with limits.** Scripts and engines pass on errors at once, and trained tokenizers have
no errors of outputs. For every generator that passes on errors at once, a run on limited outputs stops
when an output is full, and is the run without limits otherwise. -/
theorem run_limited :
    (∀ script : Script, script.generator.FailStop) ∧ (∀ e : Engine, e.generator.FailStop) ∧
      (∀ t : TrainedTokenizer, t.tokenizer.Quiet) ∧
      ∀ c : Conversation γ δ π, c.generator.FailStop → ∀ input s n m,
        StopsWhenFull c n m (c.run input s (Console.fresh none none))
          (c.run input s (Console.fresh (some n) (some m))) := by
  refine ⟨Script.failStop, Engine.failStop, TrainedTokenizer.quiet, ?_⟩
  intro c stops input s n m
  have keepsUp : (Comparison.limited c.verbosity n m).Follows (Console.fresh none none)
      (Console.fresh (some n) (some m)) := by
    exact ⟨Console.works_fresh, rfl, Nat.zero_le _, Nat.zero_le _⟩
  have beside := runFrom_beside (c := c) (.inl stops) ⟨Line.lines input, s, Console.fresh none none⟩ keepsUp
  exact stopsWhenFull_of_beside beside fun quiet => run_quiet stops quiet input s Console.works_fresh

/-- Two texts for an engine that is silent, where the second output has no room for the first dot of
progress: of two calls with three events and two the first is made, and hears one event. -/
theorem silent_run_limited :
    let c := silent 1 2 ⟨100, 10, Single.one, 1, true, true⟩
    let s := ConversationState.start c.settings Rng.fixed Cache.empty ()
    let whole := c.run (Line.bytes "a\nb\n") s (Console.fresh none none)
    let limited := c.run (Line.bytes "a\nb\n") s (Console.fresh (some 4) (some 20))
    whole.calls.map (·.receipts.length) = [3, 2] ∧ limited.calls.map (·.receipts.length) = [1] ∧
      limited.result = .error Writer.full ∧ StopsWhenFull c 4 20 whole limited := by
  intro c s whole limited
  have stops := run_limited.2.2.2 c (Engine.failStop (.silent 1)) (Line.bytes "a\nb\n") s 4 20
  have beyond : 20 < whole.console.err.written.length := by decide +kernel
  refine ⟨?_, ?_, stops.stops (.inr beyond), stops⟩
  · decide +kernel
  · decide +kernel

end Conversation

end PromptLoop
