import Mathlib.Data.List.Basic
import Mathlib.Tactic.SplitIfs
import PromptLoop.Proofs.Utf8
import PromptLoop.Tokenizer.Stream

/-!
# Texts of fragments

The text of fragments is that of the run of bytes at their start, if there is one, and then the rest. Seen
from the other end, it is a front and then the text of the run of bytes that they end with.

Fragments are closed if their text does not end with a replacement character. What follows closed
fragments adds its own text to theirs, with one exception: if they end with bytes and the bytes after them
are not well-formed, then the bytes make one run that is not well-formed, and the text of the closed
fragments is lost.
-/

namespace PromptLoop

namespace Fragment

open StreamDecoder (endsOpen byteLength)

/-! ### Runs of bytes -/

/-- The text of a run of bytes. -/
def runText (bytes : List UInt8) : List Char := (textsOfBytes bytes).flatten

@[simp] theorem runText_nil : runText [] = [] := rfl

@[simp] theorem runText_utf8 (cs : List Char) : runText (utf8 cs) = cs := by
  unfold runText textsOfBytes
  split_ifs with empty
  · exact (utf8_eq_nil (List.isEmpty_iff.mp empty)).symm
  · rw [text?_utf8]
    show (String.ofList cs).toList ++ [] = cs
    rw [String.toList_ofList, List.append_nil]

theorem runText_of_not_wellFormed {bytes : List UInt8} (h : ¬ WellFormed bytes) :
    runText bytes = List.replicate bytes.length replacementChar := by
  have empty : bytes.isEmpty = false := by
    cases bytes with
    | nil => exact absurd ⟨[], rfl⟩ h
    | cons => rfl
  rw [runText, textsOfBytes, if_neg (by rw [empty]; exact Bool.false_ne_true), text?_eq_none h]
  exact List.flatten_replicate_singleton

theorem length_runText_le (bytes : List UInt8) : (runText bytes).length ≤ bytes.length := by
  by_cases h : WellFormed bytes
  · obtain ⟨cs, rfl⟩ := h
    rw [runText_utf8]
    exact length_le_length_utf8 cs
  · refine Nat.le_of_eq ?_
    rw [runText_of_not_wellFormed h, List.length_replicate]

theorem runText_ne_nil {bytes : List UInt8} (h : bytes ≠ []) : runText bytes ≠ [] := by
  by_cases wf : WellFormed bytes
  · obtain ⟨cs, rfl⟩ := wf
    rw [runText_utf8]
    rintro rfl
    exact h rfl
  · rw [runText_of_not_wellFormed wf, Ne, List.replicate_eq_nil_iff, List.length_eq_zero_iff]
    exact h

/-! ### Texts from the left -/

/-- The text of fragments. -/
def render (fs : List Fragment) : List Char := (join [] fs).flatten

/-- The bytes at the start of fragments. -/
def lead : List Fragment → List UInt8
  | .byte b :: fs => b :: lead fs
  | .text _ :: _ => []
  | [] => []

/-- The text of fragments after the bytes at their start. -/
def tail : List Fragment → List Char
  | .byte _ :: fs => tail fs
  | .text cs :: fs => cs ++ render fs
  | [] => []

theorem flatten_join (run : List UInt8) (fs : List Fragment) :
    (join run fs).flatten = runText (run ++ lead fs) ++ tail fs := by
  induction fs generalizing run with
  | nil => rw [join, lead, tail, List.append_nil, List.append_nil, runText]
  | cons f fs ih =>
    cases f with
    | byte b => rw [join, ih, lead, tail, List.append_assoc, List.singleton_append]
    | text cs =>
      rw [join, lead, tail, List.append_nil, List.flatten_append, List.flatten_cons, render, runText]

theorem render_eq (fs : List Fragment) : render fs = runText (lead fs) ++ tail fs := flatten_join [] fs

@[simp] theorem render_nil : render [] = [] := rfl

theorem render_text (cs : List Char) (fs : List Fragment) : render (.text cs :: fs) = cs ++ render fs := by
  rw [render_eq, lead, tail, runText_nil, List.nil_append]

theorem render_byte (b : UInt8) (fs : List Fragment) :
    render (.byte b :: fs) = runText (b :: lead fs) ++ tail fs := by
  rw [render_eq, lead, tail]

/-- Fragments start with the bytes that those at their start start with. -/
theorem lead_prefix (fs gs : List Fragment) : lead fs <+: lead (fs ++ gs) := by
  induction fs with
  | nil => exact List.nil_prefix
  | cons f fs ih =>
    cases f with
    | byte b => exact List.cons_prefix_cons.mpr ⟨rfl, ih⟩
    | text cs => exact List.nil_prefix

/-! ### Texts from the right -/

/-- The bytes that fragments end with, after a run of bytes. -/
def lastRun (run : List UInt8) : List Fragment → List UInt8
  | [] => run
  | .byte b :: fs => lastRun (run ++ [b]) fs
  | .text _ :: fs => lastRun [] fs

/-- The text of fragments before the bytes that they end with, after a run of bytes. -/
def front (run : List UInt8) : List Fragment → List Char
  | [] => []
  | .byte b :: fs => front (run ++ [b]) fs
  | .text cs :: fs => runText run ++ cs ++ front [] fs

theorem flatten_join_append (run : List UInt8) (fs gs : List Fragment) :
    (join run (fs ++ gs)).flatten = front run fs ++ runText (lastRun run fs ++ lead gs) ++ tail gs := by
  induction fs generalizing run with
  | nil => rw [List.nil_append, flatten_join, front, lastRun, List.nil_append]
  | cons f fs ih =>
    cases f with
    | byte b => rw [List.cons_append, join, ih, front, lastRun]
    | text cs =>
      rw [List.cons_append, join, List.flatten_append, List.flatten_cons, ih, front, lastRun, ← runText]
      simp only [List.append_assoc]

theorem render_append (fs gs : List Fragment) :
    render (fs ++ gs) = front [] fs ++ runText (lastRun [] fs ++ lead gs) ++ tail gs :=
  flatten_join_append [] fs gs

theorem render_eq_front (fs : List Fragment) : render fs = front [] fs ++ runText (lastRun [] fs) := by
  have h := render_append fs []
  rw [List.append_nil] at h
  rw [h, lead, tail, List.append_nil, List.append_nil]

theorem lastRun_append (run : List UInt8) (fs gs : List Fragment) :
    lastRun run (fs ++ gs) = lastRun (lastRun run fs) gs := by
  induction fs generalizing run with
  | nil => rfl
  | cons f fs ih =>
    cases f with
    | byte b => exact ih _
    | text cs => exact ih _

theorem lastRun_eq_nil_congr {run run' : List UInt8} (h : run = [] ↔ run' = []) (fs : List Fragment) :
    lastRun run fs = [] ↔ lastRun run' fs = [] := by
  induction fs generalizing run run' with
  | nil => exact h
  | cons f fs ih =>
    cases f with
    | byte b => exact ih (by simp)
    | text cs => exact Iff.rfl

/-- Whether fragments end with bytes does not depend on what is before them, unless there are none. -/
theorem lastRun_append_eq_nil {fs gs : List Fragment} (h : gs ≠ []) :
    lastRun [] (fs ++ gs) = [] ↔ lastRun [] gs = [] := by
  rw [lastRun_append]
  rcases gs with _ | ⟨_ | _, gs⟩
  · exact absurd rfl h
  · exact lastRun_eq_nil_congr (by simp) gs
  · exact Iff.rfl

/-! ### Fragments without text -/

theorem render_eq_nil_iff {fs : List Fragment} : render fs = [] ↔ ∀ f ∈ fs, f = .text [] := by
  induction fs with
  | nil => simp
  | cons f fs ih =>
    rw [List.forall_mem_cons, ← ih]
    cases f with
    | byte b =>
      rw [render_byte, List.append_eq_nil_iff]
      exact ⟨fun h => absurd h.1 (runText_ne_nil (List.cons_ne_nil _ _)), fun h => by cases h.1⟩
    | text cs => rw [render_text, List.append_eq_nil_iff, text.injEq]

variable {fs gs : List Fragment}

theorem lead_of_silent (h : render fs = []) : lead fs = [] := by
  rcases hl : lead fs with _ | ⟨b, bs⟩
  · rfl
  · rw [render_eq, List.append_eq_nil_iff, hl] at h
    exact absurd h.1 (runText_ne_nil (List.cons_ne_nil _ _))

theorem tail_of_silent (h : render fs = []) : tail fs = [] := by
  rw [render_eq, List.append_eq_nil_iff] at h
  exact h.2

theorem render_append_silent (h : render gs = []) : render (fs ++ gs) = render fs := by
  rw [render_append, lead_of_silent h, tail_of_silent h, List.append_nil, List.append_nil,
    ← render_eq_front]

theorem render_silent_append (h : render fs = []) : render (fs ++ gs) = render gs := by
  induction fs with
  | nil => rfl
  | cons f fs ih =>
    rw [render_eq_nil_iff, List.forall_mem_cons] at h
    obtain ⟨rfl, h⟩ := h
    rw [List.cons_append, render_text, List.nil_append]
    exact ih (render_eq_nil_iff.mpr h)

theorem lastRun_silent (h : render fs = []) (run : List UInt8) : lastRun run fs = [] ∨ fs = [] := by
  rcases fs with _ | ⟨f, fs⟩
  · exact .inr rfl
  · rw [render_eq_nil_iff, List.forall_mem_cons] at h
    obtain ⟨rfl, h⟩ := h
    left
    show lastRun [] fs = []
    induction fs with
    | nil => rfl
    | cons g gs ih =>
      rw [List.forall_mem_cons] at h
      obtain ⟨rfl, h⟩ := h
      exact ih h

/-! ### Closed fragments -/

/-- The text of fragments does not end with a replacement character. -/
def Closed (fs : List Fragment) : Prop := endsOpen (render fs) = false

theorem endsOpen_append (cs : List Char) {ds : List Char} (h : ds ≠ []) :
    endsOpen (cs ++ ds) = endsOpen ds := by
  unfold endsOpen
  rw [List.getLast?_append_of_ne_nil _ h]

theorem endsOpen_replicate {n : Nat} (h : n ≠ 0) : endsOpen (List.replicate n replacementChar) = true := by
  obtain ⟨n, rfl⟩ := Nat.exists_eq_succ_of_ne_zero h
  unfold endsOpen
  rw [List.replicate_succ', List.getLast?_append_of_ne_nil _ (List.cons_ne_nil _ _)]
  exact decide_eq_true rfl

theorem closed_nil : Closed [] := rfl

/-- The text of bytes that are not well-formed is open. -/
theorem endsOpen_runText {bytes : List UInt8} (h : ¬ WellFormed bytes) : endsOpen (runText bytes) = true := by
  rw [runText_of_not_wellFormed h]
  refine endsOpen_replicate fun none => h ?_
  rw [List.eq_nil_of_length_eq_zero none]
  exact ⟨[], rfl⟩

theorem getLast_of_endsOpen {cs : List Char} (h : endsOpen cs = true) :
    ∃ before, cs = before ++ [replacementChar] :=
  List.getLast?_eq_some_iff.mp (of_decide_eq_true h)

/-- A byte whose text is open is no character. -/
theorem not_wellFormed_of_endsOpen {b : UInt8} (h : endsOpen (runText [b]) = true) : ¬ WellFormed [b] := by
  rintro ⟨cs, bytes⟩
  rw [← bytes, runText_utf8] at h
  obtain ⟨before, rfl⟩ := getLast_of_endsOpen h
  have count := congrArg List.length bytes
  rw [utf8_append, List.length_append, show (utf8 [replacementChar]).length = 3 from rfl,
    List.length_singleton] at count
  omega

/-- The bytes that closed fragments end with are well-formed. -/
theorem Closed.wellFormed (h : Closed fs) : WellFormed (lastRun [] fs) := by
  by_contra wf
  have nonempty : runText (lastRun [] fs) ≠ [] := by
    refine runText_ne_nil fun none => wf ?_
    rw [none]
    exact ⟨[], rfl⟩
  rw [Closed, render_eq_front, endsOpen_append _ nonempty, endsOpen_runText wf] at h
  cases h

/-- The text of bytes after well-formed bytes, if they are well-formed themselves. -/
theorem runText_append {bytes bytes' : List UInt8} (h : WellFormed bytes) (h' : WellFormed bytes') :
    runText (bytes ++ bytes') = runText bytes ++ runText bytes' := by
  obtain ⟨cs, rfl⟩ := h
  obtain ⟨ds, rfl⟩ := h'
  rw [← utf8_append, runText_utf8, runText_utf8, runText_utf8]

theorem not_wellFormed_append {bytes bytes' : List UInt8} (h : WellFormed bytes)
    (h' : ¬ WellFormed bytes') : ¬ WellFormed (bytes ++ bytes') := by
  obtain ⟨cs, rfl⟩ := h
  exact fun whole => h' ((wellFormed_append_iff cs bytes').mp whole)

/-- What follows closed fragments adds its text to theirs, unless it makes their last bytes a run that is
not well-formed. -/
theorem Closed.render_append (h : Closed fs) (good : lastRun [] fs ≠ [] → WellFormed (lead gs)) :
    render (fs ++ gs) = render fs ++ render gs := by
  rw [Fragment.render_append, render_eq_front, render_eq gs]
  by_cases run : lastRun [] fs = []
  · rw [run, runText_nil, List.nil_append, List.append_nil, List.append_assoc]
  · rw [runText_append h.wellFormed (good run)]
    simp only [List.append_assoc]

/-- What follows closed fragments, if it has any text, is open if and only if all of them are. -/
theorem Closed.endsOpen_append (h : Closed fs) (text : render gs ≠ []) :
    endsOpen (render (fs ++ gs)) = endsOpen (render gs) := by
  by_cases wf : WellFormed (lead gs)
  · rw [h.render_append fun _ => wf, Fragment.endsOpen_append _ text]
  · have whole := not_wellFormed_append h.wellFormed wf
    have nonempty : ∀ {bytes}, ¬ WellFormed bytes → runText bytes ≠ [] := fun {bytes} wf =>
      runText_ne_nil (by rintro rfl; exact wf ⟨[], rfl⟩)
    rw [Fragment.render_append, render_eq gs]
    by_cases more : tail gs = []
    · rw [more, List.append_nil, List.append_nil, Fragment.endsOpen_append _ (nonempty whole),
        endsOpen_runText whole, endsOpen_runText wf]
    · rw [Fragment.endsOpen_append _ more, Fragment.endsOpen_append _ more]

theorem byteLength_append (cs ds : List Char) :
    byteLength (cs ++ ds) = byteLength cs + byteLength ds := by
  induction cs with
  | nil => exact (Nat.zero_add _).symm
  | cons c cs ih =>
    rw [byteLength, byteLength] at ih
    rw [List.cons_append, byteLength, byteLength, List.foldr_cons, List.foldr_cons, ih, Nat.add_assoc]

theorem byteLength_pos {cs : List Char} (h : cs ≠ []) : 0 < byteLength cs := by
  cases cs with
  | nil => exact absurd rfl h
  | cons c cs =>
    have := c.utf8Size_pos
    rw [byteLength, List.foldr_cons]
    omega

theorem byteLength_replicate (n : Nat) : byteLength (List.replicate n replacementChar) = 3 * n := by
  induction n with
  | zero => rfl
  | succ n ih =>
    rw [List.replicate_succ, ← List.singleton_append, byteLength_append, ih,
      show byteLength [replacementChar] = 3 from rfl]
    omega

/-- What follows closed fragments, if it has any text, makes their text longer. -/
theorem Closed.byteLength_lt (h : Closed fs) (text : render gs ≠ []) :
    byteLength (render fs) < byteLength (render (fs ++ gs)) := by
  by_cases wf : WellFormed (lead gs)
  · rw [h.render_append fun _ => wf, byteLength_append]
    exact Nat.lt_add_of_pos_right (byteLength_pos text)
  · obtain ⟨cs, run⟩ := h.wellFormed
    have some_lead : lead gs ≠ [] := by
      intro none
      rw [none] at wf
      exact wf ⟨[], rfl⟩
    have := List.length_pos_iff.mpr some_lead
    have bytes : (utf8 cs).length = byteLength cs := length_utf8 cs
    rw [Fragment.render_append, render_eq_front,
      runText_of_not_wellFormed (not_wellFormed_append h.wellFormed wf), ← run, runText_utf8, byteLength_append,
      byteLength_append, byteLength_append, byteLength_replicate, List.length_append, bytes]
    omega

/-- The text of closed fragments is lost if their last bytes become a run that is not well-formed. -/
theorem Closed.not_prefix (h : Closed fs) (run : lastRun [] fs ≠ []) (wf : ¬ WellFormed (lead gs)) :
    ¬ render fs <+: render (fs ++ gs) := by
  obtain ⟨cs, hcs⟩ := h.wellFormed
  have nonempty : cs ≠ [] := by
    rintro rfl
    exact run hcs.symm
  intro extends_
  rw [Fragment.render_append, render_eq_front,
    runText_of_not_wellFormed (not_wellFormed_append h.wellFormed wf), ← hcs, runText_utf8, List.append_assoc,
    List.prefix_append_right_inj] at extends_
  -- The characters are among the replacement characters, so the last of them is one.
  have short : cs.length ≤ (List.replicate (utf8 cs ++ lead gs).length replacementChar).length := by
    rw [List.length_replicate, List.length_append]
    exact Nat.le_trans (length_le_length_utf8 cs) (Nat.le_add_right _ _)
  have within := List.prefix_of_prefix_length_le extends_ (List.prefix_append _ _) short
  have all : cs = List.replicate cs.length replacementChar :=
    List.eq_replicate_iff.mpr ⟨rfl, fun c hc => List.eq_of_mem_replicate (within.subset hc)⟩
  have is_open : endsOpen cs = true := by
    rw [all]
    exact endsOpen_replicate fun none => nonempty (List.eq_nil_of_length_eq_zero none)
  rw [Closed, render_eq_front, ← hcs, runText_utf8, Fragment.endsOpen_append _ nonempty, is_open] at h
  cases h

end Fragment

end PromptLoop
