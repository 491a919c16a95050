import PromptLoop.Proofs.Alike
import PromptLoop.Proofs.Exchanges
import PromptLoop.Proofs.Lines
import PromptLoop.Proofs.RunsBeside

/-!
# Runs one after the other

If a run comes to the end of its input, another run can take up from the state that it leaves. Together the
two do what one run does on both inputs (`Conversation.run_append`): everything that matters between two
lines is in the state. The inputs must meet between two lines, so the first is empty or ends with a newline,
and it must be UTF-8, as a line that is not counts as the end of the input.

The one difference is a mark: the first run asks for a line once more before it meets the end of its input.
-/

namespace PromptLoop

variable {γ δ π : Type}

/-! ### Outputs that work -/

/-- Outputs without limits that have taken the same as others since they were given. -/
structure Console.KeepsPace (k₀ k₀' k k' : Console) : Prop where
  works : k.Works
  alike : Console.Alike k₀ k₀' k k'

/-- Writes that work and come to the same keep pace. -/
theorem WrittenBeside.ofWrites {k₀ k₀' : Console} {w w' : Except SessionError Unit × Console}
    (worked : w.1 = .ok () ∧ w.2.Works) (same : w'.1 = w.1 ∧ Console.Alike k₀ k₀' w.2 w'.2) :
    WrittenBeside (Console.KeepsPace k₀ k₀') (fun _ _ => False) w w' :=
  .ofDone worked.1 (same.1.trans worked.1) ⟨worked.2, same.2⟩

/-- Two consoles that work, side by side. No write fails. -/
def Comparison.working (verbosity : Nat) (k₀ k₀' : Console) : Comparison verbosity verbosity :=
  .ofSame verbosity (Console.KeepsPace k₀ k₀') (fun _ _ => False)
    (fun text keeps => .ofWrites (keeps.works.answer text) (keeps.alike.answer text))
    (fun text keeps => .ofWrites (keeps.works.note text) (keeps.alike.note text)) (fun _ _ _ => False.elim)

theorem Console.Works.alike {k k' : Console} (works : k.Works) (works' : k'.Works) : Console.Alike k k' k k' := by
  have left : ∀ {w : Writer}, w.capacity = none → w.left = none := by
    intro w unlimited
    rw [Writer.left, unlimited]
    rfl
  refine SameRoom.alike ⟨?_, ?_⟩
  · rw [left works.1, left works'.1]
  · rw [left works.2, left works'.2]

theorem Console.stable_works : Console.Stable Console.Works :=
  fun _ text works => ⟨(works.answer text).2, (works.note text).2⟩

/-- What outputs have taken stays at the beginning of what they take. -/
theorem Console.stable_prefix (k : Console) :
    Console.Stable fun k' => k.out.written <+: k'.out.written ∧ k.err.written <+: k'.err.written :=
  fun _ _ ⟨out, err⟩ =>
    ⟨⟨out.trans (List.prefix_append _ _), err⟩, ⟨out, err.trans (List.prefix_append _ _)⟩⟩

/-- What a write that works adds. -/
theorem Console.Works.written_answer {k : Console} (works : k.Works) (text : String) :
    (k.answer text).2.out.written = k.out.written ++ Line.bytes text ∧
      (k.answer text).2.err.written = k.err.written := by
  obtain ⟨⟨written, capacity⟩, err⟩ := k
  obtain ⟨unlimited, -⟩ := works
  cases unlimited
  exact ⟨rfl, rfl⟩

theorem Console.Works.written_note {k : Console} (works : k.Works) (text : String) :
    (k.note text).2.out.written = k.out.written ∧
      (k.note text).2.err.written = k.err.written ++ Line.bytes text := by
  obtain ⟨out, ⟨written, capacity⟩⟩ := k
  obtain ⟨-, unlimited⟩ := works
  cases unlimited
  exact ⟨rfl, rfl⟩

/-- What two runs write one after the other, each to its own output, and what they write to one output. The
first run ends with a mark, after which the second does not go on. -/
theorem Writer.Alike.joined {w wA wB w' w₁ wA' w₂ wB' : Writer} {mark : List UInt8}
    (first : Writer.Alike wA w wA' w₁) (second : Writer.Alike wB w' wB' w₂)
    (kept : w.written <+: w'.written) (marked : w₁.written = w'.written ++ mark) :
    ∃ x y, wA'.written = wA.written ++ (x ++ mark) ∧ wB'.written = wB.written ++ y ∧
      w₂.written = w.written ++ (x ++ y) := by
  obtain ⟨x, grown⟩ := kept
  obtain ⟨_, written, onto⟩ := first.more
  obtain ⟨y, more, onto'⟩ := second.more
  rw [marked, ← grown, List.append_assoc] at onto
  refine ⟨x, y, ?_, more, ?_⟩
  · rw [List.append_cancel_left onto]
    exact written
  · rw [← List.append_assoc, grown]
    exact onto'

namespace Conversation

variable {c : Conversation γ δ π} {s : ConversationState γ π} {k k' : Console}

/-- On outputs that work, a run does the same as on others that do. -/
theorem runFrom_working (lines : List (List UInt8)) (works : k.Works) (works' : k'.Works) :
    ∃ k₁', c.runFrom ⟨lines, s, k'⟩ = { c.runFrom ⟨lines, s, k⟩ with console := k₁' } ∧
      Console.Alike k k' (c.runFrom ⟨lines, s, k⟩).console k₁' := by
  have follows : (Comparison.working c.verbosity k k').Follows k k' := ⟨works, works.alike works'⟩
  have beside := runFrom_beside (c := c) (.inr fun _ _ => False.elim) ⟨lines, s, k⟩ follows
  have same : c.atVerbosity c.verbosity = c := rfl
  rw [same] at beside
  generalize c.runFrom ⟨lines, s, k⟩ = r at beside ⊢
  generalize c.runFrom ⟨lines, s, k'⟩ = r' at beside ⊢
  cases beside with
  | same follows => exact ⟨_, rfl, follows.alike⟩
  | left _ left _ => exact left.elim

/-! ### Seams -/

/-- The stage that a run starts from does not matter. -/
theorem runFrom_atPhase (c : Conversation γ δ π) (lines : List (List UInt8)) (s : ConversationState γ π)
    (phase : Phase) (k : Console) : c.runFrom ⟨lines, s.atPhase phase, k⟩ = c.runFrom ⟨lines, s, k⟩ := by
  rw [runFrom_eq_runAfter, runFrom_eq_runAfter]
  rfl

/-- A round leaves the lines after its own as they are, whatever they are. -/
theorem GoesOn.withRest {line : List UInt8} {rest : List (List UInt8)} {call : Option Call} {top : LoopTop γ π}
    (goes : c.GoesOn ⟨line :: rest, s, k⟩ call top) (rest' : List (List UInt8)) :
    c.GoesOn ⟨line :: rest', s, k⟩ call { top with lines := rest' } := by
  cases goes with
  | cleared opens command => exact .cleared opens command
  | served opens command result => exact .served opens command result

/-- Where a run that comes to the end of its input could have gone on: the state and the outputs before it
asks for one more line. -/
structure Seam (c : Conversation γ δ π) (lines : List (List UInt8)) (s : ConversationState γ π) (k : Console)
    (s' : ConversationState γ π) (k' : Console) : Prop where
  state : (c.runFrom ⟨lines, s, k⟩).state = s'.atPhase .terminated
  marked : k'.answer (inputMark c.verbosity) = (.ok (), (c.runFrom ⟨lines, s, k⟩).console)
  kept : ∀ P, Console.Stable P → P k → P k'
  rest : ∀ more, c.runFrom ⟨lines ++ more, s, k⟩ =
    afterCalls (c.runFrom ⟨lines, s, k⟩).calls (c.runFrom ⟨more, s', k'⟩)

/-- A run on lines of text that comes to the end of its input could have gone on there. -/
theorem exists_seam {lines : List (List UInt8)} (texts : ∀ line ∈ lines, ∃ text, Line.text? line = some text)
    (ends : (c.runFrom ⟨lines, s, k⟩).result = .ok .endOfInput) : ∃ s' k', Seam c lines s k s' k' := by
  induction lines generalizing s k with
  | nil =>
    rcases c.round_cases ⟨[], s, k⟩ with ⟨r, hr, ended⟩ | ⟨call, next, hr, goes⟩
    · have run : c.runFrom ⟨[], s, k⟩ = r := by
        rw [runFrom_eq_runAfter, hr]
        rfl
      rw [run] at ends
      obtain ⟨console, opens, -, rfl⟩ := ended.endOfInput ends
      refine ⟨s, k, ?_, ?_, fun P _ => id, fun more => ?_⟩
      · rw [run]
        rfl
      · rw [run]
        exact opens.2
      · rw [run]
        rfl
    · obtain ⟨line, none⟩ := goes.exists_line
      cases none
  | cons line rest ih =>
    obtain ⟨⟨text, isText⟩, texts⟩ := List.forall_mem_cons.mp texts
    rcases c.round_cases ⟨line :: rest, s, k⟩ with ⟨r, hr, ended⟩ | ⟨call, ⟨lines, s₁, k₁⟩, hr, goes⟩
    · rw [runFrom_eq_runAfter, hr] at ends
      obtain ⟨console, -, command, -⟩ := ended.endOfInput ends
      have unread := LoopTop.lines_of_command (⟨line :: rest, s, k⟩ : LoopTop γ π)
      rw [command] at unread
      rw [unread line rest rfl] at isText
      cases isText
    · obtain ⟨line', same⟩ := goes.exists_line
      obtain ⟨-, rfl⟩ := List.cons.inj same
      have run : c.runFrom ⟨line :: rest, s, k⟩ = afterCall call (c.runFrom ⟨rest, s₁, k₁⟩) := by
        rw [runFrom_eq_runAfter, hr]
        rfl
      rw [run] at ends
      obtain ⟨s', k', seam⟩ := ih texts ends
      refine ⟨s', k', ?_, ?_, ?_, fun more => ?_⟩
      · rw [run]
        exact seam.state
      · rw [run]
        exact seam.marked
      · intro P stable holds
        have kept := round_keeps (c := c) stable ⟨line :: rest, s, k⟩ holds
        rw [hr] at kept
        exact seam.kept P stable kept
      · rw [List.cons_append, runFrom_eq_runAfter, (goes.withRest (rest ++ more)).round, run]
        show afterCall call (c.runFrom ⟨rest ++ more, s₁, k₁⟩) = _
        rw [seam.rest more]
        simp only [afterCall, afterCalls, List.append_assoc]

/-- Two runs one after the other, on inputs that meet between two lines and each with its own outputs, and one
run on both inputs. -/
structure Joined (c : Conversation γ δ π) (k kA kB : Console) (first second whole : Run γ π) : Prop where
  result : whole.result = second.result
  state : whole.state = second.state
  calls : whole.calls = first.calls ++ second.calls
  /-- What is printed is the same but for the mark that the first run prints at the end of its input. -/
  out : ∃ x y, first.console.out.written =
      kA.out.written ++ (x ++ if c.verbosity = 0 then [] else Line.bytes "> ") ∧
    second.console.out.written = kB.out.written ++ y ∧ whole.console.out.written = k.out.written ++ (x ++ y)
  /-- The notes are the same. -/
  err : ∃ x y, first.console.err.written = kA.err.written ++ x ∧
    second.console.err.written = kB.err.written ++ y ∧ whole.console.err.written = k.err.written ++ (x ++ y)

theorem bytes_inputMark (verbosity : Nat) :
    Line.bytes (inputMark verbosity) = if verbosity = 0 then [] else Line.bytes "> " := by
  unfold inputMark
  by_cases quiet : verbosity = 0
  · rw [if_pos quiet, if_neg (by omega)]
    rfl
  · rw [if_neg quiet, if_pos (by omega)]

/-- **Runs one after the other.** If a run on lines of text comes to the end of its input, then another run
from the state that it leaves does what is left to do of one run on both inputs. -/
theorem run_append (c : Conversation γ δ π) (s : ConversationState γ π) {A : List UInt8} (B : List UInt8)
    {k kA kB : Console} (works : k.Works) (worksA : kA.Works) (worksB : kB.Works)
    (isText : ∃ text, Line.text? A = some text) (meet : A = [] ∨ A.getLast? = some Line.newline)
    (ends : (c.run A s kA).result = .ok .endOfInput) :
    Joined c k kA kB (c.run A s kA) (c.run B (c.run A s kA).state kB) (c.run (A ++ B) s k) := by
  obtain ⟨text, isText⟩ := isText
  have texts : ∀ line ∈ Line.lines A, ∃ text, Line.text? line = some text :=
    fun line mem => Line.text?_of_mem_lines isText mem
  have split : c.run (A ++ B) s k = c.runFrom ⟨Line.lines A ++ Line.lines B, s, k⟩ := by
    rw [← Line.lines_append meet B]
    rfl
  -- The first run on the outputs of the whole run.
  obtain ⟨k₁, same, alike⟩ := runFrom_working (c := c) (s := s) (Line.lines A) worksA works
  have ends' : (c.runFrom ⟨Line.lines A, s, k⟩).result = .ok .endOfInput := by
    rw [same]
    exact ends
  obtain ⟨s', k', state, marked, kept, rest⟩ := exists_seam texts ends'
  rw [same] at state marked rest
  have state : (c.run A s kA).state = s'.atPhase .terminated := state
  have marked : k'.answer (inputMark c.verbosity) = (.ok (), k₁) := marked
  -- The second run on the outputs that the whole run has where the inputs meet.
  have works' : k'.Works := kept _ Console.stable_works works
  obtain ⟨k₂, same', alike'⟩ := runFrom_working (c := c) (s := s') (Line.lines B) worksB works'
  have second : c.run B (c.run A s kA).state kB = c.runFrom ⟨Line.lines B, s', kB⟩ := by
    rw [state]
    exact c.runFrom_atPhase _ _ _ _
  have whole : c.run (A ++ B) s k = afterCalls (c.run A s kA).calls
      { c.runFrom ⟨Line.lines B, s', kB⟩ with console := k₂ } := by
    rw [split, rest, same']
    rfl
  have grown := kept _ k.stable_prefix ⟨List.prefix_rfl, List.prefix_rfl⟩
  have printed := works'.written_answer (inputMark c.verbosity)
  rw [marked, bytes_inputMark] at printed
  rw [second, whole]
  constructor
  · rfl
  · rfl
  · rfl
  · exact alike.out.joined alike'.out grown.1 printed.1
  · have unmarked : k₁.err.written = k'.err.written ++ [] := by rw [printed.2, List.append_nil]
    obtain ⟨x, y, written, more, onto⟩ := alike.err.joined alike'.err grown.2 unmarked
    rw [List.append_nil] at written
    exact ⟨x, y, written, more, onto⟩

/-- Two inputs of one text each for an engine that is silent, with the mark that asks for a line: the first
run prints it twice. -/
theorem silent_run_append :
    let c := { silent 1 2 ⟨100, 10, Single.one, 1, true, false⟩ with verbosity := 1 }
    let s := ConversationState.start c.settings Rng.fixed Cache.empty ()
    let k := Console.fresh none none
    let first := c.run (Line.bytes "a\n") s k
    let second := c.run (Line.bytes "b\n%q\n") first.state k
    let whole := c.run (Line.bytes "a\n" ++ Line.bytes "b\n%q\n") s k
    first.result = .ok .endOfInput ∧ second.result = .ok .quitCommand ∧
      first.console.out.written = Line.bytes "> \n\n> " ∧ Joined c k k k first second whole := by
  intro c s k first second whole
  have ends : first.result = .ok .endOfInput := by decide +kernel
  have meet : Line.bytes "a\n" = [] ∨ (Line.bytes "a\n").getLast? = some Line.newline := by decide +kernel
  refine ⟨ends, ?_, ?_, ?_⟩
  · decide +kernel
  · decide +kernel
  · exact run_append c s (Line.bytes "b\n%q\n") Console.works_fresh Console.works_fresh Console.works_fresh
      ⟨"a\n", Line.text?_bytes "a\n"⟩ meet ends

end Conversation

end PromptLoop
