import Mathlib.Data.List.Basic
import PromptLoop.Sampling

/-!
# What sampling can give

The candidates for a token are the ids of the vocabulary, each with its probability. A filter leaves some
of them, the likeliest of these are the leading ones, and one of the leading ones is sampled. So what is
sampled is an accepted id with its own probability, and there is nothing to sample only if every id is
rejected (`sample_eq_some`, `sample_eq_none_iff`). A word is drawn only if at least two candidates lead
(`two_le_of_drawn`).
-/

namespace PromptLoop

namespace Sampling

/-! ### Probabilities and candidates -/

@[simp] theorem length_softmax (logits : List Single) : (softmax logits).length = logits.length := by
  unfold softmax
  simp only
  split <;> simp

theorem mem_candidates {probabilities : List Single} {c : Candidate} :
    c ∈ candidates probabilities ↔ probabilities[c.token]? = some c.score := by
  simp only [candidates, List.mem_map, List.mem_zipIdx_iff_getElem?, Prod.exists]
  constructor
  · rintro ⟨p, i, listed, rfl⟩
    exact listed
  · intro listed
    exact ⟨c.score, c.token, listed, rfl⟩

/-- The tokens of the candidates are the ids of the vocabulary, in order. -/
theorem map_token_candidates (probabilities : List Single) :
    (candidates probabilities).map (·.token) = List.range probabilities.length := by
  rw [candidates, List.map_map, List.range_eq_range', ← List.zipIdx_map_snd 0 probabilities]
  rfl

/-- The candidates that a filter leaves. -/
def acceptedCandidates (logits : List Single) (accept : Token → Bool) : List Candidate :=
  (candidates (softmax logits)).filter fun c => accept c.token

theorem mem_acceptedCandidates {logits : List Single} {accept : Token → Bool} {c : Candidate} :
    c ∈ acceptedCandidates logits accept ↔ accept c.token = true ∧ (softmax logits)[c.token]? = some c.score := by
  rw [acceptedCandidates, List.mem_filter, mem_candidates, and_comm]

/-- They are in the order of their ids. -/
theorem pairwise_acceptedCandidates (logits : List Single) (accept : Token → Bool) :
    (acceptedCandidates logits accept).Pairwise fun a b => a.token < b.token := by
  have inOrder := List.pairwise_lt_range (n := (softmax logits).length)
  rw [← map_token_candidates, List.pairwise_map] at inOrder
  exact inOrder.filter _

/-! ### Leading candidates -/

section

variable {selection : Selection} {k : Nat} {cs : List Candidate}

/-- The leading candidates are all candidates, or the selected ones. -/
theorem exists_perm_leading (selection : Selection) (k : Nat) (cs : List Candidate) :
    ∃ others, (leading selection k cs ++ others).Perm cs ∧
      (leading selection k cs).length = min (max k 1) cs.length ∧
      ∀ c ∈ leading selection k cs, ∀ d ∈ others, d.score.rank ≤ c.score.rank := by
  rw [leading]
  split_ifs with more
  · obtain ⟨length, others, perm, less⟩ := selection.likeliest (max k 1) cs more
    refine ⟨others, ((List.mergeSort_perm _ _).append_right others).trans perm, ?_, fun c mem d mem' => ?_⟩
    · rw [List.length_mergeSort, length, Nat.min_eq_left (Nat.le_of_lt more)]
    · simpa [Candidate.atLeast] using less c (List.mem_mergeSort.mp mem) d mem'
  · refine ⟨[], by simpa using List.mergeSort_perm cs _, ?_, fun _ _ _ none => absurd none List.not_mem_nil⟩
    rw [List.length_mergeSort]
    omega

theorem mem_of_mem_leading {c : Candidate} (h : c ∈ leading selection k cs) : c ∈ cs := by
  obtain ⟨others, perm, -⟩ := exists_perm_leading selection k cs
  exact perm.subset (List.mem_append_left others h)

@[simp] theorem length_leading (selection : Selection) (k : Nat) (cs : List Candidate) :
    (leading selection k cs).length = min (max k 1) cs.length := by
  obtain ⟨-, -, length, -⟩ := exists_perm_leading selection k cs
  exact length

theorem leading_eq_nil_iff : leading selection k cs = [] ↔ cs = [] := by
  rw [← List.length_eq_zero_iff, ← List.length_eq_zero_iff, length_leading]
  omega

end

/-! ### Choices -/

/-- What a choice between candidates settles on: nothing if there are none, and else one of them, unless their
weights are too large. -/
theorem settle_chooseAmong (temperature : Single) (cs : List Candidate) (rng : Rng) :
    match ((chooseAmong temperature cs).settle rng).1 with
    | .error _ => chooseAmong temperature cs = .overflowing
    | .ok none => cs = []
    | .ok (some c) => c ∈ cs := by
  rcases cs with _ | ⟨first, _ | ⟨second, others⟩⟩
  · rfl
  · exact List.mem_singleton_self first
  · rw [chooseAmong]
    · rcases Wheel.ofWeights _ with ⟨⟨⟩⟩ | wheel
      · exact List.mem_cons_self
      · rfl
      · simp only [Choice.settle, Choice.pick, List.getD_eq_getElem?_getD]
        rcases picked : (first :: second :: others)[wheel.index rng.word]? with _ | c
        · exact List.mem_cons_self
        · exact List.mem_of_getElem? picked
    · nofun

/-- A wheel is turned only if there are at least two candidates. -/
theorem two_le_of_chooseAmong {temperature : Single} {cs : List Candidate} {wheel : Wheel} {first : Candidate}
    {others : List Candidate} (h : chooseAmong temperature cs = .drawn wheel first others) : 2 ≤ cs.length := by
  rcases cs with _ | ⟨a, _ | ⟨b, rest⟩⟩
  · cases h
  · cases h
  · simp

/-! ### Sampling -/

variable {selection : Selection} {logits : List Single} {k : Nat} {temperature : Single}
  {accept : Token → Bool} {rng : Rng}

/-- The number of ids of a vocabulary that a filter accepts. -/
def accepted (size : Nat) (accept : Token → Bool) : Nat := (List.range size).countP accept

theorem length_acceptedCandidates (logits : List Single) (accept : Token → Bool) :
    (acceptedCandidates logits accept).length = accepted logits.length accept := by
  rw [acceptedCandidates, ← List.countP_eq_length_filter, accepted, ← length_softmax, ← map_token_candidates,
    List.countP_map]
  rfl

theorem accepted_eq_zero_iff {size : Nat} :
    accepted size accept = 0 ↔ ∀ token < size, accept token = false := by
  simp [accepted, List.countP_eq_zero]

theorem sample_eq (selection : Selection) (logits : List Single) (k : Nat) (temperature : Single)
    (accept : Token → Bool) (rng : Rng) :
    sample selection logits k temperature accept rng =
      (chooseAmong temperature (leading selection k (acceptedCandidates logits accept))).settle rng := rfl

/-- What sampling settles on. -/
theorem settle_sample (selection : Selection) (logits : List Single) (k : Nat) (temperature : Single)
    (accept : Token → Bool) (rng : Rng) :
    match (sample selection logits k temperature accept rng).1 with
    | .error _ => choose selection logits k temperature accept = .overflowing
    | .ok none => leading selection k (acceptedCandidates logits accept) = []
    | .ok (some c) => c ∈ leading selection k (acceptedCandidates logits accept) :=
  settle_chooseAmong temperature (leading selection k (acceptedCandidates logits accept)) rng

/-- **What is sampled** is an accepted id with its probability. -/
theorem sample_eq_some {c : Candidate} (h : (sample selection logits k temperature accept rng).1 = .ok (some c)) :
    accept c.token = true ∧ (softmax logits)[c.token]? = some c.score := by
  have settled := settle_sample selection logits k temperature accept rng
  rw [h] at settled
  exact mem_acceptedCandidates.mp (mem_of_mem_leading settled)

/-- **Nothing is sampled** only if every id of the vocabulary is rejected. -/
theorem sample_eq_none_iff :
    (sample selection logits k temperature accept rng).1 = .ok none ↔
      ∀ token < logits.length, accept token = false := by
  rw [← accepted_eq_zero_iff, ← length_acceptedCandidates, List.length_eq_zero_iff]
  constructor
  · intro none
    have settled := settle_sample selection logits k temperature accept rng
    rw [none] at settled
    exact leading_eq_nil_iff.mp settled
  · intro rejected
    rw [sample_eq, leading_eq_nil_iff.mpr rejected]
    rfl

/-- A word is drawn only if at least two candidates lead. -/
theorem two_le_of_drawn {wheel : Wheel} {first : Candidate} {others : List Candidate}
    (h : choose selection logits k temperature accept = .drawn wheel first others) :
    2 ≤ min (max k 1) (accepted logits.length accept) := by
  rw [← length_acceptedCandidates, ← length_leading selection]
  exact two_le_of_chooseAmong h

end Sampling

end PromptLoop
