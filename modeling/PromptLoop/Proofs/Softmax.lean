import PromptLoop.Proofs.Candidates
import PromptLoop.Proofs.ExponentialOrder

/-!
# Probabilities

The probability of a logit is its power relative to the largest logit, divided by the sum of the powers. The logits
are finite or negative infinity, and at least one is finite (`Weighable`). Then every difference, power and sum is a
number in range: the largest logit has the power one, and a sum of powers stays at `2 ^ 24` once it is there.

Each of these operations rounds, and each keeps order. So probabilities are in the order of the logits
(`Weighable.probability_mono`), although different logits may have the same probability.
-/

namespace PromptLoop

namespace Single

variable {x y : Single}

/-! ### Differences from the largest number -/

/-- How far a number is below another. -/
theorem order_sub (hx : x.IsFinite) (hy : y.IsFinite) (h : x.order ≤ y.order) :
    (x - y).order = -(Format.single.nearestCode (y.value - x.value) : ℕ) := by
  have le := value_le_of_order hx hy h
  rw [sub_eq hx hy, order_ofCode _ (Format.nearestCode_le_infinity _), abs_sub_comm, abs_of_nonneg (sub_nonneg.mpr le)]
  rcases le.eq_or_lt with same | less
  · rw [same, sub_self, Format.nearestCode_zero]
    unfold Format.order
    split_ifs <;> rfl
  · rw [sumSign, if_neg (sub_neg.mpr less).ne, decide_eq_true (sub_neg.mpr less)]
    rfl

variable {top : Single}

/-- The differences from the largest number are numbers that are not positive. -/
theorem sub_largest (hx : x.IsLogit) (finite : top.IsFinite) (h : x.order ≤ top.order) :
    (x - top).isNaN = false ∧ (x - top).order ≤ 0 := by
  rcases hx with hx | rfl
  · rw [order_sub hx finite h, sub_eq hx finite]
    exact ⟨isNaN_ofCode _ (Format.nearestCode_le_infinity _), by omega⟩
  · rw [negInfinity_sub finite]
    decide

/-- Differences from the largest number are in the order of the numbers. -/
theorem order_sub_mono (hx : x.IsLogit) (hy : y.IsLogit) (finite : top.IsFinite) (le : x.order ≤ y.order)
    (h : y.order ≤ top.order) : (x - top).order ≤ (y - top).order := by
  rcases hx with hx | rfl
  · have hy : y.IsFinite := isFinite_of_order_lt hy ((order_gt hx).trans_le le)
    have := value_le_of_order hx hy le
    have := value_le_of_order hy finite h
    have := Format.nearestCode_mono (f := Format.single) (sub_nonneg.mpr this)
      (show top.value - y.value ≤ top.value - x.value by linarith)
    rw [order_sub hx finite (le.trans h), order_sub hy finite h]
    omega
  · rw [negInfinity_sub finite]
    exact order_ge (sub_largest hy finite h).1

/-! ### Powers -/

/-- The power of a number relative to the largest. -/
def relative (top x : Single) : Single := (x - top).exp

theorem relative_bounds (hx : x.IsLogit) (finite : top.IsFinite) (h : x.order ≤ top.order) :
    (relative top x).isNegative = false ∧ (relative top x).code ≤ one.code :=
  have ⟨number, nonpos⟩ := sub_largest hx finite h
  exp_bounds number nonpos

theorem relative_mono (hx : x.IsLogit) (hy : y.IsLogit) (finite : top.IsFinite) (le : x.order ≤ y.order)
    (h : y.order ≤ top.order) : (relative top x).code ≤ (relative top y).code :=
  have ⟨number, _⟩ := sub_largest hx finite (le.trans h)
  have ⟨_, nonpos⟩ := sub_largest hy finite h
  exp_mono number (order_sub_mono hx hy finite le h) nonpos

/-- The power of the largest number itself is one. -/
theorem relative_self (finite : top.IsFinite) : relative top top = one := by
  have difference : top - top = zero := by
    rw [sub_eq finite finite, sub_self, abs_zero, Format.nearestCode_zero, sumSign, if_pos rfl, Bool.and_not_self]
    decide
  rw [relative, difference]
  decide +kernel

/-! ### Sums of powers -/

/-- The code of `2 ^ 24`, which one more does not change. -/
def fullCode : ℕ := 0x4b800000

theorem value_one : Format.single.value one.code = 1 := by
  rw [Format.value, show Format.single.parts one.code = (2 ^ 23, -23) by decide]
  norm_num

theorem nearestCode_full_add_one :
    Format.single.nearestCode (Format.single.value fullCode + Format.single.value one.code) = fullCode := by
  have full : Format.single.value fullCode = 2 ^ 24 := by
    rw [Format.value, show Format.single.parts fullCode = (2 ^ 23, 1) by decide]
    norm_num
  have edge : Format.single.nearestCode ((2 ^ 24 + 1 : ℕ) / (1 : ℕ)) = fullCode := by
    rw [← Format.nearest_eq Format.single _ one_pos]
    decide
  rw [full, value_one, ← edge]
  norm_num

/-- A sum of powers that has been added up so far. -/
structure IsSum (x : Single) : Prop where
  nonneg : x.isNegative = false
  le : x.code ≤ fullCode

theorem IsSum.isFinite (h : x.IsSum) : x.IsFinite := h.le.trans_lt (by decide)

/-- A power added to a sum makes a sum again, which is no less. -/
theorem IsSum.add (h : x.IsSum) (nonneg : y.isNegative = false) (le : y.code ≤ one.code) :
    (x + y).IsSum ∧ x.code ≤ (x + y).code ∧ y.code ≤ (x + y).code := by
  have finite : y.IsFinite := le.trans_lt (by decide)
  have value := Format.value_nonneg (f := Format.single)
  have up := Format.value_le_value (f := Format.single) (by decide) h.le
  have up' := Format.value_le_value (f := Format.single) (by decide) le
  have bound : Format.single.nearestCode (Format.single.value x.code + Format.single.value y.code) ≤ fullCode := by
    rw [← nearestCode_full_add_one]
    exact Format.nearestCode_mono (add_nonneg (value _) (value _)) (add_le_add up up')
  have lt := bound.trans_lt (show fullCode < 2 ^ 31 by decide)
  have first := Format.nearestCode_mono (f := Format.single) (value x.code) (le_add_of_nonneg_right (value y.code))
  have second := Format.nearestCode_mono (f := Format.single) (value y.code) (le_add_of_nonneg_left (value x.code))
  rw [Format.nearestCode_value h.isFinite.le] at first
  rw [Format.nearestCode_value finite.le] at second
  rw [add_eq (by simp [h.nonneg]) (by simp [nonneg]) h.isFinite.isNaN finite.isNaN, h.nonneg, nonneg, Bool.and_self]
  exact ⟨⟨isNegative_ofCode _ lt, (code_ofCode _ lt).trans_le bound⟩, (code_ofCode _ lt).symm ▸ first,
    (code_ofCode _ lt).symm ▸ second⟩

/-- **Sums of powers** are finite and no less than any of the powers. -/
theorem isSum_foldl {powers : List Single} {start : Single} (h : start.IsSum)
    (small : ∀ p ∈ powers, p.isNegative = false ∧ p.code ≤ one.code) :
    (powers.foldl (· + ·) start).IsSum ∧ start.code ≤ (powers.foldl (· + ·) start).code ∧
      ∀ p ∈ powers, p.code ≤ (powers.foldl (· + ·) start).code := by
  induction powers generalizing start with
  | nil => exact ⟨h, le_rfl, by simp⟩
  | cons p powers ih =>
    obtain ⟨nonneg, le⟩ := small p List.mem_cons_self
    obtain ⟨next, first, second⟩ := h.add nonneg le
    obtain ⟨whole, above, each⟩ := ih next fun q mem => small q (List.mem_cons_of_mem p mem)
    refine ⟨whole, first.trans above, fun q mem => ?_⟩
    rcases List.mem_cons.mp mem with rfl | mem
    · exact second.trans above
    · exact each q mem

end Single

namespace Sampling

open Single

/-! ### The largest logit -/

theorem foldl_larger {logits : List Single} {start : Single} (h : start.IsLogit) (all : ∀ l ∈ logits, l.IsLogit) :
    logits.foldl larger start ∈ start :: logits ∧ start.order ≤ (logits.foldl larger start).order ∧
      ∀ l ∈ logits, l.order ≤ (logits.foldl larger start).order := by
  induction logits generalizing start with
  | nil => exact ⟨List.mem_singleton_self start, le_rfl, by simp⟩
  | cons l logits ih =>
    have logit := all l List.mem_cons_self
    obtain ⟨order, which⟩ := order_larger h.isNaN logit.isNaN
    have next : (start.larger l).IsLogit := by
      rcases which with same | same <;> rw [same] <;> assumption
    obtain ⟨whole, above, each⟩ := ih next fun l' mem => all l' (List.mem_cons_of_mem l mem)
    rw [order] at above
    refine ⟨?_, (le_max_left _ _).trans above, fun l' mem => ?_⟩
    · rcases List.mem_cons.mp whole with same | mem
      · rw [List.foldl_cons, same]
        rcases which with same | same <;> simp [same]
      · exact List.mem_cons_of_mem _ (List.mem_cons_of_mem _ mem)
    · rcases List.mem_cons.mp mem with rfl | mem
      · exact (le_max_right _ _).trans above
      · exact each l' mem

/-- Logits are finite or negative infinity, and not all of them are infinite. -/
structure Weighable (logits : List Single) : Prop where
  logit : ∀ l ∈ logits, l.IsLogit
  finite : ∃ l ∈ logits, l.IsFinite

variable {logits : List Single}

theorem Weighable.le_largest (h : Weighable logits) {l : Single} (mem : l ∈ logits) :
    l.order ≤ (largest logits).order :=
  (foldl_larger (.inr rfl) h.logit).2.2 l mem

/-- The largest logit is one of the logits. -/
theorem Weighable.largest_mem (h : Weighable logits) : largest logits ∈ logits := by
  obtain ⟨l, mem, finite⟩ := h.finite
  rcases List.mem_cons.mp (foldl_larger (.inr rfl) h.logit).1 with same | listed
  · have := (order_gt finite).trans_le (h.le_largest mem)
    rw [largest, same] at this
    exact absurd this (lt_irrefl _)
  · exact listed

theorem Weighable.isFinite_largest (h : Weighable logits) : (largest logits).IsFinite := by
  obtain ⟨l, mem, finite⟩ := h.finite
  exact isFinite_of_order_lt (h.logit _ h.largest_mem) ((order_gt finite).trans_le (h.le_largest mem))

/-! ### Probabilities -/

/-- The sum of the powers. -/
def total (logits : List Single) : Single := Single.sum (logits.map (relative (largest logits)))

theorem Weighable.powers_bounds (h : Weighable logits) {p : Single}
    (mem : p ∈ logits.map (relative (largest logits))) : p.isNegative = false ∧ p.code ≤ one.code := by
  obtain ⟨l, listed, rfl⟩ := List.mem_map.mp mem
  exact relative_bounds (h.logit l listed) h.isFinite_largest (h.le_largest listed)

/-- The sum of the powers is finite and at least one. -/
theorem Weighable.total (h : Weighable logits) : (total logits).IsSum ∧ one.code ≤ (Sampling.total logits).code := by
  obtain ⟨whole, -, each⟩ := isSum_foldl (show zero.IsSum from ⟨by decide, by decide⟩) fun p mem => h.powers_bounds mem
  have top := each _ (List.mem_map_of_mem h.largest_mem)
  rw [relative_self h.isFinite_largest] at top
  exact ⟨whole, top⟩

/-- The probability of a logit. -/
def probability (logits : List Single) (l : Single) : Single := relative (largest logits) l / total logits

theorem softmax_eq_ite (logits : List Single) :
    softmax logits = if zero < total logits then (logits.map (relative (largest logits))).map (· / total logits)
      else logits.map (relative (largest logits)) := rfl

/-- **Probabilities** are the powers of the logits in relation to their sum. -/
theorem Weighable.softmax_eq (h : Weighable logits) : softmax logits = logits.map (probability logits) := by
  obtain ⟨sum, one_le⟩ := h.total
  have positive : zero < Sampling.total logits := by
    rw [lt_iff (by decide) sum.isFinite.isNaN, order_eq_code sum.nonneg, show zero.order = 0 by decide]
    exact_mod_cast lt_of_lt_of_le (show 0 < one.code by decide) one_le
  rw [softmax_eq_ite, if_pos positive, List.map_map]
  rfl

theorem Weighable.probability_eq (h : Weighable logits) {l : Single} (mem : l ∈ logits) :
    probability logits l = ofCode false (Format.single.nearestCode
      (Format.single.value (relative (largest logits) l).code /
        Format.single.value (Sampling.total logits).code)) := by
  obtain ⟨sum, one_le⟩ := h.total
  obtain ⟨nonneg, le⟩ := relative_bounds (h.logit l mem) h.isFinite_largest (h.le_largest mem)
  rw [probability, div_eq (le.trans_lt (by decide)) sum.isFinite (lt_of_lt_of_le (by decide) one_le), nonneg,
    sum.nonneg]
  rfl

theorem Weighable.nearestCode_le_one (h : Weighable logits) {l : Single} (mem : l ∈ logits) :
    Format.single.nearestCode (Format.single.value (relative (largest logits) l).code /
      Format.single.value (Sampling.total logits).code) ≤ one.code := by
  obtain ⟨sum, one_le⟩ := h.total
  have le := (relative_bounds (h.logit l mem) h.isFinite_largest (h.le_largest mem)).2.trans one_le
  have ratio := div_le_one_of_le₀ (Format.value_le_value (f := Format.single) sum.isFinite.le le)
    (Format.value_nonneg _)
  rw [← value_one] at ratio
  have rounded := Format.nearestCode_mono (f := Format.single)
    (div_nonneg (Format.value_nonneg _) (Format.value_nonneg _)) ratio
  rwa [Format.nearestCode_value (by decide)] at rounded

/-- Probabilities are not negative and no more than one. -/
theorem Weighable.probability_bounds (h : Weighable logits) {l : Single} (mem : l ∈ logits) :
    (probability logits l).isNegative = false ∧ (probability logits l).code ≤ one.code := by
  have le := h.nearestCode_le_one mem
  have lt := le.trans_lt (show one.code < 2 ^ 31 by decide)
  rw [h.probability_eq mem]
  exact ⟨isNegative_ofCode _ lt, (code_ofCode _ lt).trans_le le⟩

/-- **Probabilities are in the order of the logits.** -/
theorem Weighable.probability_mono (h : Weighable logits) {l l' : Single} (mem : l ∈ logits) (mem' : l' ∈ logits)
    (le : l.order ≤ l'.order) : (probability logits l).code ≤ (probability logits l').code := by
  have lt := (h.nearestCode_le_one mem).trans_lt (show one.code < 2 ^ 31 by decide)
  have lt' := (h.nearestCode_le_one mem').trans_lt (show one.code < 2 ^ 31 by decide)
  have finite : (relative (largest logits) l').code ≤ Format.single.infinity :=
    (relative_bounds (h.logit l' mem') h.isFinite_largest (h.le_largest mem')).2.trans (by decide)
  have powers := relative_mono (h.logit l mem) (h.logit l' mem') h.isFinite_largest le (h.le_largest mem')
  rw [h.probability_eq mem, h.probability_eq mem', code_ofCode _ lt, code_ofCode _ lt']
  exact Format.nearestCode_mono (div_nonneg (Format.value_nonneg _) (Format.value_nonneg _))
    (div_le_div_of_nonneg_right (Format.value_le_value finite powers) (Format.value_nonneg _))

end Sampling

end PromptLoop
