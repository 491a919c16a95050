import PromptLoop.Proofs.Seams

/-!
# How much is printed

A session may print remarks of its own between the texts of the answers (`Remark`). How much is printed
decides which remarks there are, and nothing else: two runs that differ in how much is printed, with outputs
that have no limit, make the same calls, end in the same way and in the same state and note the same
(`Conversation.run_verbosity`). What the one that prints more has printed is what the other has printed with
remarks put in (`Annotated`).
-/

namespace PromptLoop

variable {γ δ π : Type}

/-! ### Remarks -/

/-- The statistics of a turn. -/
def Conversation.statistics (session : Session) (speed : String) : String :=
  s!"{session.turnPos} tokens ({session.contextPos} total tokens)\n" ++ speed ++ speedUnit ++ "\n"

/-- The remarks of a session, each with the least verbosity that it is printed at. -/
inductive Remark : Nat → String → Prop
  /-- The mark that asks for a line. -/
  | inputMark : Remark 1 "> "
  /-- The blank lines before an answer. -/
  | answerLead : Remark 1 "\n\n"
  /-- The mark for the end of a sequence. -/
  | endMark : Remark 2 "\n[ End ]\n"
  /-- The statistics of a turn. -/
  | statistics (session : Session) (speed : String) : Remark 2 (Conversation.statistics session speed)

/-- The second bytes are the first with remarks put in that are printed at the second verbosity but not at
the first. -/
inductive Annotated (v v' : Nat) : List UInt8 → List UInt8 → Prop
  | nil : Annotated v v' [] []
  | same {xs ys : List UInt8} (h : Annotated v v' xs ys) (bytes : List UInt8) :
      Annotated v v' (xs ++ bytes) (ys ++ bytes)
  | remark {xs ys : List UInt8} (h : Annotated v v' xs ys) {level : Nat} {text : String}
      (remark : Remark level text) (off : v < level) (on : level ≤ v') :
      Annotated v v' xs (ys ++ Line.bytes text)

namespace Annotated

variable {v v' : Nat} {xs ys : List UInt8}

theorem refl (v v' : Nat) (bytes : List UInt8) : Annotated v v' bytes bytes := .same .nil bytes

/-- What is printed is still there, in order. -/
theorem sublist (h : Annotated v v' xs ys) : xs.Sublist ys := by
  induction h with
  | nil => exact List.Sublist.refl _
  | same _ bytes ih => exact ih.append_right bytes
  | remark _ _ _ _ ih => exact ih.trans (List.sublist_append_left _ _)

end Annotated

/-! ### Comparing -/

/-- The second text may be printed in place of the first. -/
def Annotates (v v' : Nat) (text text' : String) : Prop :=
  ∀ xs ys, Annotated v v' xs ys → Annotated v v' (xs ++ Line.bytes text) (ys ++ Line.bytes text')

namespace Annotates

variable {v v' : Nat}

theorem refl (text : String) : Annotates v v' text text := fun _ _ h => h.same _

theorem append {a a' b b' : String} (first : Annotates v v' a a') (second : Annotates v v' b b') :
    Annotates v v' (a ++ b) (a' ++ b') := by
  intro xs ys h
  rw [Line.bytes_append, Line.bytes_append, ← List.append_assoc, ← List.append_assoc]
  exact second _ _ (first _ _ h)

/-- A remark at two verbosities. -/
theorem ofRemark (more : v ≤ v') {level : Nat} {text : String} (remark : Remark level text) :
    Annotates v v' (if level ≤ v then text else "") (if level ≤ v' then text else "") := by
  by_cases on : level ≤ v
  · rw [if_pos on, if_pos (Nat.le_trans on more)]
    exact .refl text
  by_cases on' : level ≤ v'
  · rw [if_neg on, if_pos on']
    intro xs ys h
    rw [show Line.bytes "" = [] from rfl, List.append_nil]
    exact h.remark remark (Nat.lt_of_not_le on) on'
  · rw [if_neg on, if_neg on']
    exact .refl ""

end Annotates

/-- Outputs without limits, of which the second have taken the same notes as the first and the same answers
with remarks put in. -/
structure Console.Annotates (v v' : Nat) (k k' : Console) : Prop where
  works : k.Works
  works' : k'.Works
  out : Annotated v v' k.out.written k'.out.written
  err : k'.err.written = k.err.written

namespace Console.Annotates

variable {v v' : Nat} {k k' : Console}

theorem answer (h : Console.Annotates v v' k k') {text text' : String}
    (annotates : PromptLoop.Annotates v v' text text') :
    WrittenBeside (Console.Annotates v v') (fun _ _ => False) (k.answer text) (k'.answer text') := by
  obtain ⟨done, works⟩ := h.works.answer text
  obtain ⟨done', works'⟩ := h.works'.answer text'
  obtain ⟨out, err⟩ := h.works.written_answer text
  obtain ⟨out', err'⟩ := h.works'.written_answer text'
  refine .ofDone done done' ⟨works, works', ?_, ?_⟩
  · rw [out, out']
    exact annotates _ _ h.out
  · rw [err, err', h.err]

theorem note (h : Console.Annotates v v' k k') (text : String) :
    WrittenBeside (Console.Annotates v v') (fun _ _ => False) (k.note text) (k'.note text) := by
  obtain ⟨done, works⟩ := h.works.note text
  obtain ⟨done', works'⟩ := h.works'.note text
  obtain ⟨out, err⟩ := h.works.written_note text
  obtain ⟨out', err'⟩ := h.works'.written_note text
  refine .ofDone done done' ⟨works, works', ?_, ?_⟩
  · rw [out, out']
    exact h.out
  · rw [err, err', h.err]

end Console.Annotates

theorem Console.stable_never (_ : Console) : Console.Stable fun _ => False := fun _ _ => False.elim

/-- Outputs without limits at two verbosities, of which the second is not the lower. No write fails. -/
def Comparison.annotated {v v' : Nat} (more : v ≤ v') : Comparison v v' where
  Follows := Console.Annotates v v'
  Left _ _ := False
  Corresponds := Annotates v v'
  same := .refl
  inputMark := .ofRemark more .inputMark
  answerLead := .ofRemark more .answerLead
  endMark := .ofRemark more .endMark
  turnSummary session speed :=
    (Annotates.ofRemark more (.statistics session speed)).append (.refl "\n\n")
  answer follows annotates := Console.Annotates.answer follows annotates
  note text h := h.note text
  left := Console.stable_never

/-! ### Runs -/

namespace Conversation

/-- A run and a run that does the same but prints more. -/
structure SaysMore (v v' : Nat) (r r' : Run γ π) : Prop where
  result : r'.result = r.result
  calls : r'.calls = r.calls
  state : r'.state = r.state
  err : r'.console.err.written = r.console.err.written
  out : Annotated v v' r.console.out.written r'.console.out.written

theorem run_saysMore (c : Conversation γ δ π) (input : List UInt8) (s : ConversationState γ π) {k : Console}
    (works : k.Works) {v v' : Nat} (more : v ≤ v') :
    SaysMore v v' ((c.atVerbosity v).run input s k) ((c.atVerbosity v').run input s k) := by
  have follows : Console.Annotates v v' k k := ⟨works, works, .refl v v' _, rfl⟩
  have both : Run.Beside (Comparison.annotated more) ((c.atVerbosity v).run input s k)
      ((c.atVerbosity v').run input s k) :=
    runFrom_beside (c := c.atVerbosity v) (.inr fun _ _ => id) ⟨Line.lines input, s, k⟩ follows
  generalize (c.atVerbosity v).run input s k = r at both ⊢
  generalize (c.atVerbosity v').run input s k = r' at both ⊢
  cases both with
  | same follows => exact ⟨rfl, rfl, rfl, follows.err, follows.out⟩
  | left _ left _ => exact left.elim

/-- **How much is printed** is all that verbosity decides: two runs at different verbosities, with outputs
that have no limit, have the same result, make the same calls with the same events, end in the same state
and note the same. What is printed at the lower verbosity is printed at the higher one, in order, with
nothing but remarks put in. -/
theorem run_verbosity (c : Conversation γ δ π) (input : List UInt8) (s : ConversationState γ π) {k : Console}
    (works : k.Works) (v v' : Nat) :
    let r := (c.atVerbosity v).run input s k
    let r' := (c.atVerbosity v').run input s k
    r'.result = r.result ∧ r'.calls = r.calls ∧ r'.state = r.state ∧
      r'.console.err.written = r.console.err.written ∧
      (v ≤ v' → Annotated v v' r.console.out.written r'.console.out.written ∧
        r.console.out.written.Sublist r'.console.out.written) := by
  intro r r'
  rcases Nat.le_total v v' with more | less
  · have told : SaysMore v v' r r' := c.run_saysMore input s works more
    exact ⟨told.result, told.calls, told.state, told.err, fun _ => ⟨told.out, told.out.sublist⟩⟩
  · have told : SaysMore v' v r' r := c.run_saysMore input s works less
    refine ⟨told.result.symm, told.calls.symm, told.state.symm, told.err.symm, fun more => ?_⟩
    -- The verbosities are the same.
    obtain rfl := Nat.le_antisymm more less
    exact ⟨.refl v v _, List.Sublist.refl _⟩

/-- A silent session that prints nothing of its own, and the same session with all its remarks. -/
theorem silent_run_verbosity :
    let c := silent 1 2 ⟨100, 10, Single.one, 1, true, false⟩
    let s := ConversationState.start c.settings Rng.fixed Cache.empty ()
    let k := Console.fresh none none
    let r := (c.atVerbosity 0).run (Line.bytes "a\n") s k
    let r' := (c.atVerbosity 2).run (Line.bytes "a\n") s k
    k.Works ∧ r.console.out.written = Line.bytes "\n\n" ∧
      r'.console.out.written =
        Line.bytes "> \n[ End ]\n3 tokens (0 total tokens)\n tokens / sec\n\n\n> " ∧
      r'.result = r.result ∧ r'.calls = r.calls ∧ r'.state = r.state ∧
      r'.console.err.written = r.console.err.written ∧
      Annotated 0 2 r.console.out.written r'.console.out.written ∧
      r.console.out.written.Sublist r'.console.out.written := by
  intro c s k r r'
  obtain ⟨result, calls, state, err, out⟩ := run_verbosity c (Line.bytes "a\n") s Console.works_fresh 0 2
  refine ⟨Console.works_fresh, ?_, ?_, result, calls, state, err, out (by decide)⟩
  · decide +kernel
  · decide +kernel

end Conversation

end PromptLoop
