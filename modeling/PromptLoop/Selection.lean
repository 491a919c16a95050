import PromptLoop.Number.Single
import PromptLoop.Token

/-!
# Selecting candidates

Tokens that may be sampled are candidates, each with its probability. They are ordered by probability, in the
total order of bit patterns, and then by id.

Before they are put in order, the likeliest of them are selected. A `Selection` says how: which of equally likely
candidates are selected is left open where it makes a difference, except that a single one is the first in the
list. `Selection.earliest` selects the first ones always.
-/

namespace PromptLoop

/-- A token with its probability among all tokens of the vocabulary, before the temperature. -/
structure Candidate where
  /-- The token id. -/
  token : Token
  /-- The probability. -/
  score : Single
  deriving DecidableEq, Repr

namespace Candidate

/-- Whether a candidate is at least as likely as another. -/
def atLeast (a b : Candidate) : Bool := b.score.rank ≤ a.score.rank

/-- Some of the candidates are as many as asked for, and none of the others is likelier than one of them. -/
structure Likeliest (count : Nat) (cs selected : List Candidate) : Prop where
  length : selected.length = count
  others : ∃ others, (selected ++ others).Perm cs ∧ ∀ c ∈ selected, ∀ d ∈ others, c.atLeast d = true

end Candidate

/-- A way to select the likeliest candidates. -/
structure Selection where
  /-- Selects as many candidates as asked for. -/
  select : Nat → List Candidate → List Candidate
  /-- If there are more than asked for, the likeliest are selected. -/
  likeliest : ∀ count cs, count < cs.length → Candidate.Likeliest count cs (select count cs)
  /-- A single one is the first of the likeliest. -/
  first : ∀ cs, 1 < cs.length → ∃ before c after, cs = before ++ c :: after ∧ select 1 cs = [c] ∧
    ∀ d ∈ before, d.score.rank < c.score.rank

namespace Candidate

theorem atLeast_trans (a b c : Candidate) (h : a.atLeast b = true) (h' : b.atLeast c = true) :
    a.atLeast c = true := by
  simp only [atLeast, decide_eq_true_eq] at h h' ⊢
  exact Int.le_trans h' h

theorem atLeast_total (a b : Candidate) : (a.atLeast b || b.atLeast a) = true := by
  simp only [atLeast, Bool.or_eq_true, decide_eq_true_eq]
  exact Int.le_total _ _

end Candidate

namespace Selection

/-- The candidates in the order of their probabilities, equally likely ones as they come. -/
def sorted (cs : List Candidate) : List Candidate := cs.mergeSort Candidate.atLeast

theorem pairwise_sorted (cs : List Candidate) : (sorted cs).Pairwise fun a b => a.atLeast b = true :=
  List.pairwise_mergeSort Candidate.atLeast_trans Candidate.atLeast_total cs

@[simp] theorem length_sorted (cs : List Candidate) : (sorted cs).length = cs.length := List.length_mergeSort cs

theorem likeliest_take_sorted {count : Nat} {cs : List Candidate} (h : count < cs.length) :
    Candidate.Likeliest count cs ((sorted cs).take count) := by
  have split := List.take_append_drop count (sorted cs)
  refine ⟨?_, (sorted cs).drop count, split.symm ▸ List.mergeSort_perm cs _, ?_⟩
  · rw [List.length_take, length_sorted, Nat.min_eq_left (Nat.le_of_lt h)]
  · have inOrder := pairwise_sorted cs
    rw [← split] at inOrder
    exact (List.pairwise_append.mp inOrder).2.2

/-- Sorting leaves candidates that are equally likely as they come. -/
theorem filter_sorted (cs : List Candidate) (rank : Int) :
    (sorted cs).filter (·.score.rank == rank) = cs.filter (·.score.rank == rank) := by
  have equal : (cs.filter (·.score.rank == rank)).Pairwise fun a b => a.atLeast b = true := by
    refine List.pairwise_iff_forall_sublist.mpr fun {a b} both => ?_
    have ha := (List.mem_filter.mp (both.subset List.mem_cons_self)).2
    have hb := (List.mem_filter.mp (both.subset (List.mem_cons_of_mem a List.mem_cons_self))).2
    simp only [beq_iff_eq] at ha hb
    simp [Candidate.atLeast, ha, hb]
  have kept := (List.sublist_mergeSort Candidate.atLeast_trans Candidate.atLeast_total equal
    List.filter_sublist).filter (·.score.rank == rank)
  rw [List.filter_filter] at kept
  simp only [Bool.and_self] at kept
  exact (kept.eq_of_length ((List.mergeSort_perm cs _).filter _).length_eq.symm).symm

/-- The first of the sorted candidates is the first of the likeliest. -/
theorem exists_first_of_sorted {cs rest : List Candidate} {c : Candidate} (h : sorted cs = c :: rest) :
    ∃ before after, cs = before ++ c :: after ∧ ∀ d ∈ before, d.score.rank < c.score.rank := by
  have equal := filter_sorted cs c.score.rank
  rw [h, List.filter_cons_of_pos (by simp)] at equal
  obtain ⟨before, after, whole, less, -, -⟩ := List.filter_eq_cons_iff.mp equal.symm
  refine ⟨before, after, whole, fun d mem => ?_⟩
  have listed : d ∈ sorted cs := List.mem_mergeSort.mpr (whole ▸ List.mem_append_left _ mem)
  have inOrder := pairwise_sorted cs
  rw [h] at listed inOrder
  have apart : d.score.rank ≠ c.score.rank := fun same => less d mem (beq_iff_eq.mpr same)
  rcases List.mem_cons.mp listed with rfl | behind
  · exact absurd rfl apart
  · have := (List.pairwise_cons.mp inOrder).1 d behind
    simp only [Candidate.atLeast, decide_eq_true_eq] at this
    omega

/-- Selects the first ones of equally likely candidates. -/
def earliest : Selection where
  select count cs := (sorted cs).take count
  likeliest _ _ h := likeliest_take_sorted h
  first cs more := by
    rcases h : sorted cs with _ | ⟨c, rest⟩
    · rw [← length_sorted, h] at more
      cases more
    · obtain ⟨before, after, whole, less⟩ := exists_first_of_sorted h
      exact ⟨before, c, after, whole, rfl, less⟩

end Selection

end PromptLoop
