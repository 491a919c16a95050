import PromptLoop.Proofs.Leading
import PromptLoop.Proofs.Softmax

/-!
# The greatest logit

Sampling from one candidate takes a likeliest accepted token, the one with the lowest id if several are equally
likely. Probabilities are in the order of the logits, so the token with the greatest accepted logit is a likeliest
one. It is the one that is taken exactly if no accepted token before it is equally likely (`sample_one_iff`).

That a token with a smaller logit is equally likely happens by rounding, when the logits are so close that their
probabilities have the same nearest value (`closeLogits`), and by underflow, when both probabilities are zero.
-/

namespace PromptLoop

namespace Sampling

open Single

variable {selection : Selection} {logits : List Single} {temperature : Single} {accept : Token → Bool} {rng : Rng}

/-! ### One candidate -/

/-- A single candidate is not weighed. -/
theorem not_overflows_of_length_le {cs : List Candidate} (h : cs.length ≤ 1) : ¬ Overflows temperature cs := by
  rintro ⟨_, _, _, rfl, -⟩
  simp at h

/-- What is sampled from one candidate stands before every accepted candidate. -/
theorem standsBefore_of_sample_one {c d : Candidate}
    (h : (sample selection logits 1 temperature accept rng).1 = .ok (some c))
    (mem : d ∈ acceptedCandidates logits accept) : standsBefore c d = true := by
  have leads := mem_leading_of_sample h
  have short := (length_leading selection 1 (acceptedCandidates logits accept)).trans_le (min_le_left _ _)
  obtain ⟨first, single⟩ := List.length_eq_one_iff.mp (short.antisymm (List.length_pos_of_mem leads))
  rw [single, List.mem_singleton] at leads
  exact standsBefore_of_leading_one (pairwise_acceptedCandidates logits accept) (leads ▸ single) mem

/-- Something is sampled from one candidate if a token is accepted. -/
theorem exists_sample_one {token : Token} (below : token < logits.length) (accepted : accept token = true)
    (selection : Selection) (temperature : Single) (rng : Rng) :
    ∃ c, (sample selection logits 1 temperature accept rng).1 = .ok (some c) :=
  exists_sample below accepted
    (not_overflows_of_length_le ((length_leading selection 1 _).trans_le (min_le_left _ _))) rng

/-! ### Ranks of probabilities -/

theorem rank_eq_code {p : Single} (h : p.isNegative = false) : p.rank = p.code := by
  rw [rank, h]
  rfl

/-- Numbers that are not negative and have the same rank are the same. -/
theorem eq_of_rank_eq {p q : Single} (h : p.isNegative = false) (h' : q.isNegative = false) (same : p.rank = q.rank) :
    p = q := by
  rw [rank_eq_code h, rank_eq_code h', Nat.cast_inj] at same
  rw [← ofCode_code p, ← ofCode_code q, h, h', same]

/-- The probability of a listed logit. -/
theorem Weighable.getElem?_softmax (h : Weighable logits) {token : Token} {l : Single}
    (listed : logits[token]? = some l) :
    (softmax logits)[token]? = some (probability logits l) := by
  rw [h.softmax_eq, List.getElem?_map, listed, Option.map_some]

theorem Weighable.rank_probability_le (h : Weighable logits) {l l' : Single} (mem : l ∈ logits) (mem' : l' ∈ logits)
    (le : l.order ≤ l'.order) : (probability logits l).rank ≤ (probability logits l').rank := by
  rw [rank_eq_code (h.probability_bounds mem).1, rank_eq_code (h.probability_bounds mem').1]
  exact_mod_cast h.probability_mono mem mem' le

/-- What is sampled from one candidate is as likely as the greatest accepted logit, and does not come after it. -/
theorem Weighable.sampled_of_greatest (h : Weighable logits) {token : Token} {l : Single}
    (listed : logits[token]? = some l) (accepted : accept token = true)
    (greatest : ∀ other l', logits[other]? = some l' → accept other = true → l'.order ≤ l.order) {c : Candidate}
    (sampled : (sample selection logits 1 temperature accept rng).1 = .ok (some c)) :
    c.score = probability logits l ∧ c.token ≤ token := by
  obtain ⟨c_accepted, c_listed⟩ := sample_eq_some sampled
  rw [h.softmax_eq, List.getElem?_map] at c_listed
  obtain ⟨l', listed', score⟩ := Option.map_eq_some_iff.mp c_listed
  have mem : l ∈ logits := List.mem_of_getElem? listed
  have mem' : l' ∈ logits := List.mem_of_getElem? listed'
  have rank_le := h.rank_probability_le mem' mem (greatest c.token l' listed' c_accepted)
  have before : standsBefore c ⟨token, probability logits l⟩ = true :=
    standsBefore_of_sample_one sampled (mem_acceptedCandidates.mpr ⟨accepted, h.getElem?_softmax listed⟩)
  rw [score] at rank_le
  obtain ⟨same, token_le⟩ := (standsBefore_iff.mp before).resolve_left (not_lt.mpr rank_le)
  exact ⟨eq_of_rank_eq (score ▸ (h.probability_bounds mem').1) (h.probability_bounds mem).1 same, token_le⟩

/-- **Sampling from one candidate takes the greatest accepted logit** exactly if no accepted token before it has come
out with the same probability. -/
theorem sample_one_iff (finite : ∀ l ∈ logits, l.IsFinite) {token : Token} {l : Single}
    (listed : logits[token]? = some l) (accepted : accept token = true)
    (greatest : ∀ other l', logits[other]? = some l' → accept other = true → other ≠ token → l' < l)
    (selection : Selection) (temperature : Single) (rng : Rng) :
    (sample selection logits 1 temperature accept rng).1.map (Option.map (·.token)) = .ok (some token) ↔
      ∀ other < token, accept other = true → (softmax logits)[other]? ≠ (softmax logits)[token]? := by
  have mem : l ∈ logits := List.mem_of_getElem? listed
  have weighable : Weighable logits := ⟨fun l' mem' => .inl (finite l' mem'), l, mem, finite l mem⟩
  have order_le : ∀ other l', logits[other]? = some l' → accept other = true → l'.order ≤ l.order := by
    intro other l' listed' accepted'
    by_cases same : other = token
    · rw [same, listed] at listed'
      rw [Option.some.inj listed']
    · have number' := (finite l' (List.mem_of_getElem? listed')).isNaN
      exact ((lt_iff number' (finite l mem).isNaN).mp (greatest other l' listed' accepted' same)).le
  obtain ⟨c, sampled⟩ :=
    exists_sample_one (List.getElem?_eq_some_iff.mp listed).1 accepted selection temperature rng
  obtain ⟨same_score, token_le⟩ := weighable.sampled_of_greatest listed accepted order_le sampled
  rw [sampled, Except.map, Option.map_some, Except.ok.injEq, Option.some.injEq, weighable.getElem?_softmax listed]
  constructor
  · intro chosen other below accepted' same
    have before : standsBefore c ⟨other, probability logits l⟩ = true :=
      standsBefore_of_sample_one sampled (mem_acceptedCandidates.mpr ⟨accepted', same⟩)
    rw [standsBefore_iff, same_score] at before
    have not_after : c.token ≤ other := (before.resolve_left (lt_irrefl _)).2
    rw [chosen] at not_after
    exact absurd below (Nat.not_lt.mpr not_after)
  · intro distinct
    obtain ⟨accepted', listed'⟩ := sample_eq_some sampled
    by_contra differs
    exact distinct c.token (lt_of_le_of_ne token_le differs) accepted' (listed'.trans (congrArg some same_score))

/-- Two logits whose probabilities are told apart. -/
def distinctLogits : List Single := [zero, one]

/-- The greater of two logits is taken. -/
theorem distinctLogits_sample_one :
    (∀ l ∈ distinctLogits, l.IsFinite) ∧ distinctLogits[1]? = some one ∧
      ((sample .earliest distinctLogits 1 one (fun _ => true) Rng.fixed).1.map (Option.map (·.token)) = .ok (some 1) ↔
        ∀ other < 1, true = true → (softmax distinctLogits)[other]? ≠ (softmax distinctLogits)[1]?) := by
  have finite : ∀ l ∈ distinctLogits, l.IsFinite := by decide
  have greatest : ∀ other l', distinctLogits[other]? = some l' → true = true → other ≠ 1 → l' < one := by
    rintro (_ | _ | other) l' listed - differs
    · obtain rfl := Option.some.inj listed
      decide
    · exact absurd rfl differs
    · cases listed
  exact ⟨finite, rfl, sample_one_iff finite rfl rfl greatest .earliest one Rng.fixed⟩

/-- Two logits that are next to each other. -/
def closeLogits : List Single := [⟨0x3effffff⟩, ⟨0x3f000000⟩]

/-- The smaller of two logits is taken if both have the same probability. -/
theorem closeLogits_takes_smaller :
    (∀ l ∈ closeLogits, l.IsFinite) ∧ closeLogits[1]? = some ⟨0x3f000000⟩ ∧
      (∀ other l', closeLogits[other]? = some l' → other ≠ 1 → l' < ⟨0x3f000000⟩) ∧
      (sample .earliest closeLogits 1 one (fun _ => true) Rng.fixed).1.map (Option.map (·.token)) ≠ .ok (some 1) := by
  have even : softmax closeLogits = [⟨0x3f000000⟩, ⟨0x3f000000⟩] := by decide +kernel
  have listed : acceptedCandidates closeLogits (fun _ => true) = [⟨0, ⟨0x3f000000⟩⟩, ⟨1, ⟨0x3f000000⟩⟩] := by
    rw [acceptedCandidates, even]
    rfl
  have first : leading .earliest 1 [(⟨0, ⟨0x3f000000⟩⟩ : Candidate), ⟨1, ⟨0x3f000000⟩⟩] = [⟨0, ⟨0x3f000000⟩⟩] := by
    simp [leading, Selection.earliest, Selection.sorted, List.mergeSort,
      show Candidate.atLeast ⟨0, ⟨0x3f000000⟩⟩ ⟨1, ⟨0x3f000000⟩⟩ = true by decide]
  refine ⟨by decide, rfl, ?_, ?_⟩
  · rintro (_ | _ | other) l' listed differs
    · obtain rfl := Option.some.inj listed
      decide
    · exact absurd rfl differs
    · cases listed
  · rw [sample_eq, listed, first]
    decide

end Sampling

end PromptLoop
