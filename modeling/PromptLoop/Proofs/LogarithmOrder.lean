import PromptLoop.Proofs.LogarithmSteps

/-!
# The order of logarithms

The logarithm of numbers up to one keeps their order, although each is computed with rounding: from one single
precision number to the next the logarithm without rounding rises by more than the rounding takes away. That holds
within a range of the table, where the polynomial rises, and from one range to the next, where the entries of the
table fit together but for a small part of the rise.

So the logarithms of positive numbers up to one are finite and not positive, in the order of the numbers
(`Single.ln_mono`).
-/

namespace PromptLoop

namespace Logarithm

/-! ### Ranges -/

/-- The range of a code in the table. -/
def cell (code : ℕ) : ℕ := ((code - origin) / 0x00080000 % 16).toNat

/-- The power of two that is taken out of a code. -/
def octave (code : ℕ) : ℤ := (code - origin) / 0x00800000

/-- The code of the rest. -/
def restCode (code : ℕ) : ℕ := (code - octave code * 0x00800000 : ℤ).toNat

/-- The first code of a range. -/
def cellStart (i : ℕ) : ℕ := 0x3f330000 + i * 0x00080000

/-- The first number of a range. -/
def edge (i : ℕ) : ℚ := Format.single.value (cellStart i)

theorem cell_lt (code : ℕ) : cell code < 16 := by
  unfold cell
  omega

theorem restCode_bounds (code : ℕ) :
    cellStart (cell code) ≤ restCode code ∧ restCode code < cellStart (cell code + 1) := by
  unfold cellStart cell restCode octave origin
  omega

/-- The next code is in the same range or at the start of the next one. -/
theorem next_cases (code : ℕ) :
    (cell (code + 1) = cell code ∧ octave (code + 1) = octave code ∧ restCode (code + 1) = restCode code + 1) ∨
    (cell code < 15 ∧ cell (code + 1) = cell code + 1 ∧ octave (code + 1) = octave code ∧
      restCode (code + 1) = cellStart (cell code + 1)) ∨
    (cell code = 15 ∧ cell (code + 1) = 0 ∧ octave (code + 1) = octave code + 1 ∧
      restCode (code + 1) = cellStart 0) := by
  unfold cellStart cell restCode octave origin
  push_cast
  omega

/-! ### The table -/

/-- Within a range the quotient is near one. -/
theorem edges : ∀ i < 16,
    0 < reciprocal i ∧ 31 / 32 ≤ edge i * reciprocal i ∧ edge (i + 1) * reciprocal i ≤ 33 / 32 := by
  decide +kernel

/-- The ranges fit together. -/
theorem seams : ∀ i < 15, centreLn i + polynomial (edge (i + 1) * reciprocal i - 1) ≤
    centreLn (i + 1) + polynomial (edge (i + 1) * reciprocal (i + 1) - 1) + 1 / (50 * 2 ^ 24) := by
  decide +kernel

/-- The last range fits to the first one of the next power of two. -/
theorem last_seam : centreLn 15 + polynomial (edge 16 * reciprocal 15 - 1) ≤
    centreLn 0 + lnTwoTerm + polynomial (edge 0 * reciprocal 0 - 1) + 1 / (50 * 2 ^ 24) := by
  decide +kernel

section

variable {i a b : ℕ}

theorem cellStart_le (h : i < 16) : cellStart (i + 1) ≤ Format.single.infinity := by
  have : Format.single.infinity = 0x7f800000 := by decide
  rw [cellStart]
  omega

theorem quotient_bounds (hi : i < 16) (low : cellStart i ≤ a) (high : a ≤ cellStart (i + 1)) :
    31 / 32 ≤ Format.single.value a * reciprocal i ∧ Format.single.value a * reciprocal i ≤ 33 / 32 := by
  obtain ⟨positive, below, above⟩ := edges i hi
  have finite := cellStart_le hi
  have first := mul_le_mul_of_nonneg_right
    (Format.value_le_value (f := Format.single) (high.trans finite) low) positive.le
  have last := mul_le_mul_of_nonneg_right (Format.value_le_value (f := Format.single) finite high) positive.le
  exact ⟨below.trans first, last.trans above⟩

theorem abs_quotient_sub_le (hi : i < 16) (low : cellStart i ≤ a) (high : a ≤ cellStart (i + 1)) :
    |Format.single.value a * reciprocal i - 1| ≤ 2 ^ (-5 : ℤ) := by
  obtain ⟨below, above⟩ := quotient_bounds hi low high
  rw [abs_le]
  norm_num
  constructor <;> linarith

/-- Within a range the polynomial rises from one number to the next. -/
theorem polynomial_cell (hi : i < 16) (low : cellStart i ≤ a) (lt : a < b) (high : b ≤ cellStart (i + 1)) :
    polynomial (Format.single.value a * reciprocal i - 1) + 5 / (6 * 2 ^ 24) ≤
      polynomial (Format.single.value b * reciprocal i - 1) := by
  obtain ⟨positive, -, -⟩ := edges i hi
  have wider : (2 : ℚ) ^ (-5 : ℤ) ≤ 2 ^ (-4 : ℤ) := by norm_num
  have near := (abs_quotient_sub_le hi low (lt.le.trans high)).trans wider
  have near' := (abs_quotient_sub_le hi (low.trans lt.le) high).trans wider
  have quotient := (quotient_bounds hi (low.trans lt.le) high).1
  have apart := mul_le_mul_of_nonneg_right
    (Format.div_le_value_sub (f := Format.single) (high.trans (cellStart_le hi)) lt) positive.le
  rw [show Format.single.fractionBits + 1 = 24 from rfl, div_mul_eq_mul_div, sub_mul] at apart
  have slope := (polynomial_slope near near' (by norm_num at apart; linarith)).1
  norm_num at apart slope ⊢
  linarith

end

/-! ### From one number to the next -/

/-- The logarithm without rounding of the number of a code. -/
def exactAt (code : ℕ) : ℚ := exact (cell code) (octave code) (Format.single.value (restCode code))

theorem exactAt_succ (code : ℕ) : exactAt code + 1 / 2 ^ 25 ≤ exactAt (code + 1) := by
  obtain ⟨low, high⟩ := restCode_bounds code
  have hi := cell_lt code
  unfold exactAt exact
  rcases next_cases code with ⟨cells, octaves, rest⟩ | ⟨inner, cells, octaves, rest⟩ | ⟨last, cells, octaves, rest⟩
  · have rises := polynomial_cell hi low (Nat.lt_succ_self _) (Nat.succ_le_of_lt high)
    rw [cells, octaves, rest]
    norm_num at rises ⊢
    linarith
  · have rises := polynomial_cell hi low high le_rfl
    have seam := seams _ inner
    rw [cells, octaves, rest]
    unfold edge at seam
    norm_num at rises seam ⊢
    linarith
  · have rises := polynomial_cell hi low high le_rfl
    have seam := last_seam
    rw [cells, octaves, rest]
    unfold edge at seam
    rw [last] at rises ⊢
    push_cast
    norm_num at rises seam ⊢
    linarith

/-- **The logarithm without rounding rises** from each number to the next. -/
theorem exactAt_lt {a b : ℕ} (h : a < b) : exactAt a + 1 / 2 ^ 25 ≤ exactAt b := by
  induction b, h using Nat.le_induction with
  | base => exact exactAt_succ a
  | succ b _ ih =>
    have := exactAt_succ b
    linarith

/-! ### Rounded logarithms -/

/-- The logarithm of the number of a code, as it is computed. -/
def resultAt (code : ℕ) : ℚ := result (cell code) (octave code) (Format.single.value (restCode code))

section

variable {code : ℕ}

theorem octave_bounds (low : 0x00800000 ≤ code) (high : code < 0x3f800000) : -127 < octave code ∧ octave code ≤ 0 := by
  unfold octave origin
  omega

theorem abs_resultAt_sub_le (low : 0x00800000 ≤ code) (high : code < 0x3f800000) :
    |resultAt code - exactAt code| ≤ 2 ^ (-43 : ℤ) := by
  obtain ⟨below, above⟩ := restCode_bounds code
  obtain ⟨least, greatest⟩ := octave_bounds low high
  exact abs_result_sub_le (cell_lt code) least greatest (abs_quotient_sub_le (cell_lt code) below above.le)

theorem resultAt_bounds (low : 0x00800000 ≤ code) (high : code < 0x3f800000) :
    -89 ≤ resultAt code ∧ resultAt code < 0 := by
  have near := abs_le.mp (abs_resultAt_sub_le low high)
  have one : exactAt 0x3f800000 = 0 := by decide +kernel
  have least : -88 ≤ exactAt 0x00800000 := by decide +kernel
  have above := exactAt_lt high
  rw [one] at above
  have below : exactAt 0x00800000 ≤ exactAt code := by
    rcases low.eq_or_lt with same | less
    · rw [same]
    · have := exactAt_lt less
      linarith
  norm_num at near above
  constructor <;> linarith

theorem resultAt_mono {code' : ℕ} (low : 0x00800000 ≤ code) (lt : code < code') (high : code' < 0x3f800000) :
    resultAt code ≤ resultAt code' := by
  have near := abs_le.mp (abs_resultAt_sub_le low (lt.trans high))
  have near' := abs_le.mp (abs_resultAt_sub_le (low.trans lt.le) high)
  have apart := exactAt_lt lt
  norm_num at near near' apart
  linarith

/-- **The logarithm is computed** as described. -/
theorem denotes_evaluate (low : 0x00800000 ≤ code) (high : code < 0x3f800000) :
    Denotes (evaluate code) (resultAt code) := by
  obtain ⟨below, above⟩ := restCode_bounds code
  obtain ⟨least, greatest⟩ := octave_bounds low high
  have small : restCode code < Format.single.infinity := above.trans_le (cellStart_le (cell_lt code))
  have lt := small.trans Single.infinity_lt
  have finite : (Single.ofCode false (restCode code)).IsFinite := by
    rwa [Single.IsFinite, Single.code_ofCode _ lt]
  have rest := Denotes.widen finite
  rw [Single.value, Single.isNegative_ofCode _ lt, Single.code_ofCode _ lt, Format.signed_false] at rest
  exact denotes_result (cell_lt code) least greatest (abs_quotient_sub_le (cell_lt code) below above.le) rest

end

end Logarithm

namespace Single

open Logarithm

variable {x y : Single}

/-! ### Logarithms -/

theorem ln_eq (positive : x.isNegative = false) (low : leastNormal.code ≤ x.code) (high : x.code < one.code) :
    x.ln = ofCode true (Format.single.nearestCode (-resultAt x.code)) := by
  have least : leastNormal.code = 0x00800000 := by decide
  have greatest : one.code = 0x3f800000 := by decide
  have finite : x.IsFinite := high.trans (by decide)
  have infinite : x.isInfinite = false := by simpa [isInfinite] using finite.ne
  have not_one : x ≠ one := fun same => by simp [same] at high
  have normal : ¬ x < leastNormal := by
    rw [lt_iff finite.isNaN (by decide), order_eq_code positive, show leastNormal.order = leastNormal.code by decide]
    omega
  rw [least] at low
  rw [greatest] at high
  rw [ln, if_neg (by simp [finite.isNaN]), if_neg (by omega), if_neg (by simp [positive]), if_neg (by simp [infinite]),
    if_neg not_one, if_neg normal]
  exact (denotes_evaluate low high).narrow_of_neg (resultAt_bounds low high).2

theorem nearestCode_resultAt_le (low : leastNormal.code ≤ x.code) (high : x.code < one.code) :
    Format.single.nearestCode (-resultAt x.code) ≤ 0x42b20000 := by
  obtain ⟨below, above⟩ := resultAt_bounds low high
  have edge : Format.single.nearestCode ((89 : ℕ) / (1 : ℕ)) = 0x42b20000 := by
    rw [← Format.nearest_eq Format.single _ one_pos]
    decide
  rw [← edge]
  refine Format.nearestCode_mono (by linarith) ?_
  norm_num
  linarith

theorem ln_one : one.ln = zero := by decide

/-- Logarithms of numbers up to one are finite and not positive. -/
theorem ln_bounds (positive : x.isNegative = false) (low : leastNormal.code ≤ x.code) (high : x.code ≤ one.code) :
    x.ln.IsFinite ∧ x.ln.order ≤ 0 ∧ x.ln.code ≤ 0x42b20000 := by
  rcases high.eq_or_lt with same | less
  · have is_one : x = one := by rw [← ofCode_code x, positive, same]; decide
    rw [is_one, ln_one]
    decide
  · have le := nearestCode_resultAt_le low less
    have lt := le.trans_lt (show 0x42b20000 < 2 ^ 31 by decide)
    have finite := le.trans (show 0x42b20000 ≤ Format.single.infinity by decide)
    rw [ln_eq positive low less, order_ofCode _ finite, IsFinite, code_ofCode _ lt]
    exact ⟨le.trans_lt (by decide), by simp [Format.order], le⟩

/-- **Logarithms keep the order** of numbers up to one. -/
theorem ln_mono (positive : x.isNegative = false) (positive' : y.isNegative = false) (low : leastNormal.code ≤ x.code)
    (le : x.code ≤ y.code) (high : y.code ≤ one.code) : x.ln.order ≤ y.ln.order := by
  rcases le.eq_or_lt with same | less
  · have is_same : x = y := by rw [← ofCode_code x, ← ofCode_code y, positive, positive', same]
    rw [is_same]
  rcases high.eq_or_lt with is_one | below
  · have is_one : y = one := by rw [← ofCode_code y, positive', is_one]; decide
    rw [is_one, ln_one]
    exact (ln_bounds positive low (le.trans high)).2.1
  · have code_le := nearestCode_resultAt_le low (less.trans below)
    have code_le' := nearestCode_resultAt_le (low.trans le) below
    have finite := code_le.trans (show 0x42b20000 ≤ Format.single.infinity by decide)
    have finite' := code_le'.trans (show 0x42b20000 ≤ Format.single.infinity by decide)
    have results := resultAt_mono low less below
    have rounded := Format.nearestCode_mono (f := Format.single)
      (by have := (resultAt_bounds (low.trans le) below).2; linarith) (neg_le_neg results)
    rw [ln_eq positive low (less.trans below), ln_eq positive' (low.trans le) below, order_ofCode _ finite,
      order_ofCode _ finite']
    simpa [Format.order] using rounded

end Single

end PromptLoop
