import PromptLoop.Proofs.GreatestLogit
import PromptLoop.Proofs.LogarithmOrder

/-!
# Weights of candidates

The weight of a candidate is the power of how far the logarithm of its probability is below that of the first
candidate, divided by the temperature. Logarithms are in the order of the probabilities, so at a positive temperature
a weight is a power of a number that is not positive, and no more than one (`weight_bounds`).

So the weights of logits that can be weighed add up to a finite number, and sampling from such logits does not panic
(`Weighable.not_overflows`).
-/

namespace PromptLoop

namespace Single

variable {x y : Single}

/-- Numbers from negative 89 to zero. -/
structure IsLow (x : Single) : Prop where
  finite : x.IsFinite
  nonpos : x.order ≤ 0
  small : x.code ≤ 0x42b20000

theorem value_89 : Format.single.value 0x42b20000 = 89 := by
  rw [Format.value, show Format.single.parts 0x42b20000 = (11665408, -17) by decide]
  norm_num

theorem IsLow.value_bounds (h : x.IsLow) : -89 ≤ x.value ∧ x.value ≤ 0 := by
  have size : |x.value| ≤ 89 := by
    rw [value, Format.abs_signed, ← value_89]
    exact Format.value_le_value (by decide) h.small
  have le := value_le_of_order h.finite (show zero.IsFinite by decide) (h.nonpos.trans (by decide))
  rw [show zero.value = 0 by decide +kernel] at le
  exact ⟨(abs_le.mp size).1, le⟩

/-- The difference of two such numbers, the lower one first. -/
theorem IsLow.sub (hx : x.IsLow) (hy : y.IsLow) (h : x.order ≤ y.order) :
    (x - y).IsFinite ∧ (x - y).order = -(x - y).code := by
  have edge : Format.single.nearestCode 89 = 0x42b20000 := by
    rw [← value_89, Format.nearestCode_value (by decide)]
  have le := value_le_of_order hx.finite hy.finite h
  have range := Format.nearestCode_mono (f := Format.single) (sub_nonneg.mpr le)
    (show y.value - x.value ≤ 89 by linarith [hx.value_bounds.1, hy.value_bounds.2])
  have order := order_sub hx.finite hy.finite h
  rw [edge] at range
  have difference := value_of_order_nonpos (x := x - y)
    (by rw [order, order_expUnderflow]; omega) (by rw [order]; omega)
  exact ⟨difference.1, difference.2.2.2⟩

/-- A quotient of a number that is not positive by a positive one is not positive. -/
theorem div_nonpos (hx : x.IsFinite) (nonpos : x.order = -x.code) (hy : y.IsFinite) (positive : zero < y) :
    (x / y).isNaN = false ∧ (x / y).order ≤ 0 := by
  rw [lt_iff (by decide) hy.isNaN, show zero.order = 0 by decide] at positive
  have sign : y.isNegative = false := by
    by_contra! negative
    rw [order, Bool.eq_true_of_not_eq_false negative, Format.order, if_pos rfl] at positive
    omega
  rw [order_eq_code sign] at positive
  have le := Format.nearestCode_le_infinity (f := Format.single)
    (Format.single.value x.code / Format.single.value y.code)
  rw [div_eq hx hy (by omega), sign]
  refine ⟨isNaN_ofCode _ le, ?_⟩
  rw [order_ofCode _ le]
  rcases negative : x.isNegative with _ | _
  · rw [order_eq_code negative] at nonpos
    rw [show x.code = 0 by omega, Format.value_zero, zero_div, Format.nearestCode_zero]
    decide
  · simp [Format.order]

end Single

namespace Sampling

open Single

variable {p q temperature : Single}

/-! ### Weights -/

/-- Numbers from zero to one. -/
structure IsProbability (p : Single) : Prop where
  nonneg : p.isNegative = false
  le_one : p.code ≤ one.code

theorem IsProbability.isFinite (h : IsProbability p) : p.IsFinite := h.le_one.trans_lt (by decide)

/-- A probability kept away from zero. -/
theorem IsProbability.larger_leastNormal (h : IsProbability p) :
    (p.larger leastNormal).isNegative = false ∧ (p.larger leastNormal).code = max p.code leastNormal.code := by
  have nonneg : (p.larger leastNormal).isNegative = false := by
    rcases (order_larger h.isFinite.isNaN (show leastNormal.isNaN = false by decide)).2 with same | same <;> rw [same]
    · exact h.nonneg
    · decide
  have order := (order_larger h.isFinite.isNaN (show leastNormal.isNaN = false by decide)).1
  rw [order_eq_code nonneg, order_eq_code h.nonneg,
    order_eq_code (show leastNormal.isNegative = false by decide)] at order
  exact ⟨nonneg, by exact_mod_cast order⟩

theorem IsProbability.isLow_logScore (h : IsProbability p) : (logScore p).IsLow := by
  obtain ⟨nonneg, code⟩ := h.larger_leastNormal
  obtain ⟨finite, nonpos, small⟩ := ln_bounds nonneg (code ▸ le_max_right _ _)
    (code ▸ max_le h.le_one (show leastNormal.code ≤ one.code by decide))
  exact ⟨finite, nonpos, small⟩

theorem IsProbability.logScore_mono (h : IsProbability p) (h' : IsProbability q) (le : p.code ≤ q.code) :
    (logScore p).order ≤ (logScore q).order := by
  obtain ⟨nonneg, code⟩ := h.larger_leastNormal
  obtain ⟨nonneg', code'⟩ := h'.larger_leastNormal
  refine ln_mono nonneg nonneg' (code ▸ le_max_right _ _) ?_
    (code' ▸ max_le h'.le_one (show leastNormal.code ≤ one.code by decide))
  rw [code, code']
  exact max_le_max_right _ le

/-- **Weights** at a positive temperature are between zero and one. -/
theorem weight_bounds (h : IsProbability p) (h' : IsProbability q) (le : p.code ≤ q.code)
    (finite : temperature.IsFinite) (positive : zero < temperature) : IsProbability (weight temperature q p) := by
  obtain ⟨difference, nonpos⟩ := h.isLow_logScore.sub h'.isLow_logScore (h.logScore_mono h' le)
  obtain ⟨number, quotient⟩ := div_nonpos difference nonpos finite positive
  obtain ⟨nonneg, le_one⟩ := exp_bounds number quotient
  exact ⟨nonneg, le_one⟩

/-! ### The weights of leading candidates -/

variable {logits : List Single} {accept : Token → Bool}

theorem Weighable.isProbability_score (h : Weighable logits) {c : Candidate}
    (mem : c ∈ acceptedCandidates logits accept) : IsProbability c.score := by
  have listed := List.mem_of_getElem? (mem_acceptedCandidates.mp mem).2
  rw [h.softmax_eq] at listed
  obtain ⟨l, listed, score⟩ := List.mem_map.mp listed
  obtain ⟨nonneg, le⟩ := score ▸ h.probability_bounds listed
  exact ⟨nonneg, le⟩

/-- **Sampling does not panic** if the logits can be weighed and the temperature is positive. -/
theorem Weighable.not_overflows (h : Weighable logits) (finite : temperature.IsFinite) (positive : zero < temperature)
    (selection : Selection) (k : Nat) (accept : Token → Bool) :
    ¬ Overflows temperature (leading selection k (acceptedCandidates logits accept)) := by
  rintro ⟨first, second, others, lead, -, infinite⟩
  have weights : ∀ c ∈ first :: second :: others, IsProbability (weight temperature first.score c.score) := by
    intro c mem
    have listed : first ∈ acceptedCandidates logits accept := mem_of_mem_leading (lead ▸ List.mem_cons_self)
    have listed' : c ∈ acceptedCandidates logits accept := mem_of_mem_leading (lead ▸ mem)
    have below := rank_le_of_leading lead listed'
    have score := h.isProbability_score listed
    have score' := h.isProbability_score listed'
    rw [rank_eq_code score.nonneg, rank_eq_code score'.nonneg, Nat.cast_le] at below
    exact weight_bounds score' score below finite positive
  have start := weights first List.mem_cons_self
  have sum := (isSum_foldl ⟨start.nonneg, start.le_one.trans (by decide)⟩ fun w mem => by
    obtain ⟨c, listed, rfl⟩ := List.mem_map.mp mem
    have bounds := weights c (List.mem_cons_of_mem first listed)
    exact ⟨bounds.nonneg, bounds.le_one⟩).1
  exact absurd (of_decide_eq_true infinite) sum.isFinite.ne

end Sampling

end PromptLoop
