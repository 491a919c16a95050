import PromptLoop.Number.Logarithm
import PromptLoop.Proofs.Doubles

/-!
# How the logarithm is computed

The logarithm is computed in double precision: the number is taken apart into a power of two and a rest, a table
gives the logarithm of a number near the rest, and a polynomial covers the quotient of the two. Here each of these
is a function of rational numbers in which every operation is rounded, and the computation denotes the result of
these functions (`denotes_evaluate`).

The result is off from that of the same functions without rounding by much less than the logarithms of neighbouring
single precision numbers are apart (`abs_result_sub_le`).
-/

namespace PromptLoop

namespace Logarithm

/-! ### The computation in rational numbers -/

/-- The reciprocal of the number near the rest. -/
def reciprocal (i : ℕ) : ℚ := bitsValue (centres.getD i (0, 0)).1

/-- The logarithm of the number near the rest. -/
def centreLn (i : ℕ) : ℚ := bitsValue (centres.getD i (0, 0)).2

/-- The logarithm of two. -/
def lnTwoTerm : ℚ := bitsValue 0x3fe62e42fefa39ef

/-- The coefficients of the polynomial. -/
def quarticTerm : ℚ := bitsValue 0xbfd00ea348b88334
@[inherit_doc quarticTerm] def cubicTerm : ℚ := bitsValue 0x3fd5575b0be00b6a
@[inherit_doc quarticTerm] def quadraticTerm : ℚ := bitsValue 0xbfdffffef20a4123

/-- How far the quotient is from one. -/
def reduced (i : ℕ) (z : ℚ) : ℚ := kept (kept (z * reciprocal i) - 1)

/-- The logarithm of the number near the rest, with the power of two. -/
def base (i : ℕ) (k : ℤ) : ℚ := kept (centreLn i + kept (k * lnTwoTerm))

/-- The factor of the square, as it is computed. -/
def factor (r : ℚ) : ℚ := kept (kept (quarticTerm * kept (r * r)) + kept (kept (cubicTerm * r) + quadraticTerm))

/-- The logarithm, as it is computed. -/
def result (i : ℕ) (k : ℤ) (z : ℚ) : ℚ :=
  kept (kept (factor (reduced i z) * kept (reduced i z * reduced i z)) + kept (base i k + reduced i z))

/-- The polynomial without rounding. -/
def polynomial (r : ℚ) : ℚ := r + quadraticTerm * r ^ 2 + cubicTerm * r ^ 3 + quarticTerm * r ^ 4

/-- The logarithm without rounding. -/
def exact (i : ℕ) (k : ℤ) (z : ℚ) : ℚ := centreLn i + k * lnTwoTerm + polynomial (z * reciprocal i - 1)

/-! ### Constants -/

theorem denotes_lnTwo : Denotes lnTwo lnTwoTerm := denotes_ofBits (by decide)

theorem denotes_quartic : Denotes quartic quarticTerm := denotes_ofBits (by decide)

theorem denotes_cubic : Denotes cubic cubicTerm := denotes_ofBits (by decide)

theorem denotes_quadratic : Denotes quadratic quadraticTerm := denotes_ofBits (by decide)

theorem denotes_reciprocal {i : ℕ} (h : i < 16) :
    Denotes (Float.ofBits (centres.getD i (0, 0)).1) (reciprocal i) := by
  have finite : ∀ i < 16, (centres.getD i (0, 0)).1.toNat % 2 ^ 63 < Format.double.infinity := by decide
  exact denotes_ofBits (finite i h)

theorem denotes_centreLn {i : ℕ} (h : i < 16) :
    Denotes (Float.ofBits (centres.getD i (0, 0)).2) (centreLn i) := by
  have finite : ∀ i < 16, (centres.getD i (0, 0)).2.toNat % 2 ^ 63 < Format.double.infinity := by decide
  exact denotes_ofBits (finite i h)

/-- Whole numbers in the range of exponents are exact. -/
theorem denotes_ofInt {k : ℤ} (low : -127 < k) (high : k ≤ 0) : Denotes (Float.ofInt k) k := by
  have words : ∀ n < 127, (Float.ofInt (-(n : ℕ))).toBits.toNat =
        Format.double.word (0 < n) (Format.double.nearest n 1) ∧
      Format.double.nearest n 1 < Format.double.infinity ∧
      Format.double.signed (0 < n) (Format.double.nearest n 1) = -n := by decide +kernel
  obtain ⟨n, rfl⟩ := Int.exists_eq_neg_ofNat high
  obtain ⟨word, finite, value⟩ := words n (by omega)
  exact ⟨_, _, finite, word, by simpa using value⟩

/-- The bounds of the constants. -/
theorem constants :
    |quarticTerm| ≤ 2 ^ (-1 : ℤ) ∧ |cubicTerm| ≤ 2 ^ (-1 : ℤ) ∧ |quadraticTerm| ≤ 2 ^ (-1 : ℤ) ∧
      0 < lnTwoTerm ∧ lnTwoTerm ≤ 7 / 10 ∧ ∀ i < 16, |centreLn i| ≤ 1 / 2 := by decide +kernel

/-! ### The polynomial -/

section

variable {r : ℚ}

theorem abs_square_le (h : |r| ≤ 2 ^ (-4 : ℤ)) : |r * r| ≤ 2 ^ (-8 : ℤ) := abs_mul_le_two_pow rfl h h

theorem abs_quartic_mul_le (h : |r| ≤ 2 ^ (-4 : ℤ)) : |quarticTerm * kept (r * r)| ≤ 2 ^ (-9 : ℤ) :=
  abs_mul_le_two_pow rfl constants.1 (abs_kept_le (by norm_num) (by norm_num) (abs_square_le h))

theorem abs_cubic_mul_le (h : |r| ≤ 2 ^ (-4 : ℤ)) : |cubicTerm * r| ≤ 2 ^ (-5 : ℤ) :=
  abs_mul_le_two_pow rfl constants.2.1 h

theorem abs_line_le (h : |r| ≤ 2 ^ (-4 : ℤ)) : |kept (cubicTerm * r) + quadraticTerm| ≤ 2 ^ (0 : ℤ) := by
  have cube := abs_kept_le (by norm_num) (by norm_num) (abs_cubic_mul_le h)
  refine (abs_add_le _ _).trans ((add_le_add cube constants.2.2.1).trans ?_)
  norm_num

theorem abs_terms_le (h : |r| ≤ 2 ^ (-4 : ℤ)) :
    |kept (quarticTerm * kept (r * r)) + kept (kept (cubicTerm * r) + quadraticTerm)| ≤ 2 ^ (1 : ℤ) := by
  have first := abs_kept_le (by norm_num) (by norm_num) (abs_quartic_mul_le h)
  have second := abs_kept_le (by norm_num) (by norm_num) (abs_line_le h)
  refine (abs_add_le _ _).trans ((add_le_add first second).trans ?_)
  norm_num

theorem abs_factor_le (h : |r| ≤ 2 ^ (-4 : ℤ)) : |factor r| ≤ 2 ^ (1 : ℤ) :=
  abs_kept_le (by norm_num) (by norm_num) (abs_terms_le h)

theorem abs_product_le (h : |r| ≤ 2 ^ (-4 : ℤ)) : |factor r * kept (r * r)| ≤ 2 ^ (-7 : ℤ) :=
  abs_mul_le_two_pow rfl (abs_factor_le h) (abs_kept_le (by norm_num) (by norm_num) (abs_square_le h))

/-- The factor of the square is off by little. -/
theorem abs_factor_sub_le (h : |r| ≤ 2 ^ (-4 : ℤ)) :
    |factor r - (quarticTerm * r ^ 2 + cubicTerm * r + quadraticTerm)| ≤ 2 ^ (-51 : ℤ) := by
  have square := abs_kept_sub_le_two_pow (by norm_num) (by norm_num) (abs_square_le h)
  have first := abs_le.mp (abs_kept_sub_le_two_pow (by norm_num) (by norm_num) (abs_quartic_mul_le h))
  have cube := abs_le.mp (abs_kept_sub_le_two_pow (by norm_num) (by norm_num) (abs_cubic_mul_le h))
  have line := abs_le.mp (abs_kept_sub_le_two_pow (by norm_num) (by norm_num) (abs_line_le h))
  have sum := abs_le.mp (abs_kept_sub_le_two_pow (by norm_num) (by norm_num) (abs_terms_le h))
  have by_square := abs_le.mp (abs_mul_le_two_pow rfl constants.1 square)
  rw [abs_le]
  rw [← factor] at sum
  norm_num at first cube line sum by_square ⊢
  constructor <;> linarith

/-- The square and higher terms of the polynomial are computed almost exactly. -/
theorem abs_product_sub_le (h : |r| ≤ 2 ^ (-4 : ℤ)) :
    |kept (factor r * kept (r * r)) - (polynomial r - r)| ≤ 2 ^ (-57 : ℤ) := by
  have square := abs_kept_sub_le_two_pow (by norm_num) (by norm_num) (abs_square_le h)
  have product := abs_le.mp (abs_kept_sub_le_two_pow (by norm_num) (by norm_num) (abs_product_le h))
  have factors := abs_le.mp (abs_mul_sub_mul_le (abs_factor_le h) square (abs_factor_sub_le h) (abs_square_le h))
  have terms : polynomial r - r = (quarticTerm * r ^ 2 + cubicTerm * r + quadraticTerm) * (r * r) := by
    unfold polynomial
    ring
  rw [terms, abs_le]
  norm_num at product factors ⊢
  constructor <;> linarith

/-- The slope of the polynomial is near one. -/
theorem polynomial_slope {r' : ℚ} (h : |r| ≤ 2 ^ (-4 : ℤ)) (h' : |r'| ≤ 2 ^ (-4 : ℤ)) (le : r ≤ r') :
    9 / 10 * (r' - r) ≤ polynomial r' - polynomial r ∧ polynomial r' - polynomial r ≤ 11 / 10 * (r' - r) := by
  have split : polynomial r' - polynomial r = (r' - r) * (1 + quadraticTerm * (r + r') +
      cubicTerm * (r' * r' + r' * r + r * r) + quarticTerm * ((r + r') * (r' * r' + r * r))) := by
    unfold polynomial
    ring
  have products : |r' * r| ≤ 2 ^ (-8 : ℤ) := abs_mul_le_two_pow rfl h' h
  have sum : |r + r'| ≤ 2 ^ (-3 : ℤ) := (abs_add_le r r').trans ((add_le_add h h').trans_eq (by norm_num))
  have evens : |r' * r' + r * r| ≤ 2 ^ (-7 : ℤ) :=
    (abs_add_le _ _).trans ((add_le_add (abs_square_le h') (abs_square_le h)).trans_eq (by norm_num))
  have squares : |r' * r' + r' * r + r * r| ≤ 2 ^ (-6 : ℤ) :=
    (abs_add_three _ _ _).trans
      ((add_le_add (add_le_add (abs_square_le h') products) (abs_square_le h)).trans (by norm_num))
  have quadratic := abs_le.mp (abs_mul_le_two_pow rfl constants.2.2.1 sum)
  have cubic := abs_le.mp (abs_mul_le_two_pow rfl constants.2.1 squares)
  have quartic := abs_le.mp (abs_mul_le_two_pow rfl constants.1 (abs_mul_le_two_pow rfl sum evens))
  norm_num at quadratic cubic quartic
  rw [split]
  have nonneg : 0 ≤ r' - r := sub_nonneg.mpr le
  constructor
  · rw [mul_comm]
    exact mul_le_mul_of_nonneg_left (by linarith) nonneg
  · rw [mul_comm (11 / 10)]
    exact mul_le_mul_of_nonneg_left (by linarith) nonneg

end

/-! ### The result -/

section

variable {i : ℕ} {k : ℤ} {z : ℚ}

theorem abs_quotient_le (h : |z * reciprocal i - 1| ≤ 2 ^ (-5 : ℤ)) : |z * reciprocal i| ≤ 2 ^ (1 : ℤ) := by
  rw [abs_le] at h ⊢
  norm_num at h ⊢
  constructor <;> linarith

theorem abs_kept_quotient_sub_le (h : |z * reciprocal i - 1| ≤ 2 ^ (-5 : ℤ)) :
    |kept (z * reciprocal i) - 1| ≤ 2 ^ (-4 : ℤ) := by
  have near := abs_le.mp (abs_kept_sub_le_two_pow (by norm_num) (by norm_num) (abs_quotient_le h))
  rw [abs_le] at h ⊢
  norm_num at h near ⊢
  constructor <;> linarith

theorem abs_reduced_le (h : |z * reciprocal i - 1| ≤ 2 ^ (-5 : ℤ)) : |reduced i z| ≤ 2 ^ (-4 : ℤ) :=
  abs_kept_le (by norm_num) (by norm_num) (abs_kept_quotient_sub_le h)

theorem abs_reduced_sub_le (h : |z * reciprocal i - 1| ≤ 2 ^ (-5 : ℤ)) :
    |reduced i z - (z * reciprocal i - 1)| ≤ 2 ^ (-51 : ℤ) := by
  have near := abs_le.mp (abs_kept_sub_le_two_pow (by norm_num) (by norm_num) (abs_quotient_le h))
  have last := abs_le.mp (abs_kept_sub_le_two_pow (by norm_num) (by norm_num) (abs_kept_quotient_sub_le h))
  rw [reduced, abs_le]
  norm_num at near last ⊢
  constructor <;> linarith

/-- The polynomial of the reduced number is near that of the exact one. -/
theorem abs_polynomial_reduced_sub_le (h : |z * reciprocal i - 1| ≤ 2 ^ (-5 : ℤ)) :
    |polynomial (reduced i z) - polynomial (z * reciprocal i - 1)| ≤ 2 ^ (-50 : ℤ) := by
  have near := abs_le.mp (abs_reduced_sub_le h)
  have small := abs_reduced_le h
  have small' : |z * reciprocal i - 1| ≤ 2 ^ (-4 : ℤ) := h.trans (by norm_num)
  rw [abs_le]
  norm_num at near ⊢
  rcases le_total (reduced i z) (z * reciprocal i - 1) with le | le
  · have := polynomial_slope small small' le
    constructor <;> linarith
  · have := polynomial_slope small' small le
    constructor <;> linarith

theorem abs_power_le (low : -127 < k) (high : k ≤ 0) : |k * lnTwoTerm| ≤ 89 := by
  have below : (-127 : ℚ) ≤ k := by exact_mod_cast low.le
  have above : (k : ℚ) ≤ 0 := by exact_mod_cast high
  obtain ⟨-, -, -, positive, small, -⟩ := constants
  rw [abs_le]
  constructor <;> nlinarith

theorem abs_base_sub_le (hi : i < 16) (low : -127 < k) (high : k ≤ 0) :
    |kept (k * lnTwoTerm) - k * lnTwoTerm| ≤ 2 ^ (-46 : ℤ) ∧ |centreLn i + kept (k * lnTwoTerm)| ≤ 2 ^ (7 : ℤ) ∧
      |base i k - (centreLn i + k * lnTwoTerm)| ≤ 2 ^ (-45 : ℤ) := by
  have power := abs_power_le low high
  have centre := constants.2.2.2.2.2 i hi
  have off := abs_kept_sub_le_two_pow (n := 7) (by norm_num) (by norm_num) (power.trans (by norm_num))
  have sum : |centreLn i + kept (k * lnTwoTerm)| ≤ 2 ^ (7 : ℤ) := by
    rw [abs_le] at power centre off ⊢
    norm_num at power centre off ⊢
    constructor <;> linarith
  have last := abs_kept_sub_le_two_pow (by norm_num) (by norm_num) sum
  refine ⟨off, sum, ?_⟩
  rw [abs_le] at off last ⊢
  rw [base]
  norm_num at off last ⊢
  constructor <;> linarith

theorem abs_base_add_le (hi : i < 16) (low : -127 < k) (high : k ≤ 0) {r : ℚ} (h : |r| ≤ 2 ^ (-4 : ℤ)) :
    |base i k + r| ≤ 2 ^ (7 : ℤ) := by
  have power := abs_le.mp (abs_power_le low high)
  have centre := abs_le.mp (constants.2.2.2.2.2 i hi)
  have off := abs_le.mp (abs_base_sub_le hi low high).2.2
  rw [abs_le] at h ⊢
  norm_num at off h ⊢
  constructor <;> linarith

theorem abs_sum_le (hi : i < 16) (low : -127 < k) (high : k ≤ 0) {r : ℚ} (h : |r| ≤ 2 ^ (-4 : ℤ)) :
    |kept (factor r * kept (r * r)) + kept (base i k + r)| ≤ 2 ^ (7 : ℤ) := by
  have terms := abs_le.mp (abs_kept_le (by norm_num) (by norm_num) (abs_product_le h))
  have near := abs_le.mp (abs_kept_sub_le_two_pow (by norm_num) (by norm_num) (abs_base_add_le hi low high h))
  have power := abs_le.mp (abs_power_le low high)
  have centre := abs_le.mp (constants.2.2.2.2.2 i hi)
  have off := abs_le.mp (abs_base_sub_le hi low high).2.2
  rw [abs_le] at h ⊢
  norm_num at terms near off h ⊢
  constructor <;> linarith

/-- **The logarithm is computed almost exactly.** -/
theorem abs_result_sub_le (hi : i < 16) (low : -127 < k) (high : k ≤ 0)
    (h : |z * reciprocal i - 1| ≤ 2 ^ (-5 : ℤ)) : |result i k z - exact i k z| ≤ 2 ^ (-43 : ℤ) := by
  have small := abs_reduced_le h
  have terms := abs_le.mp (abs_product_sub_le small)
  have sum := abs_le.mp (abs_kept_sub_le_two_pow (by norm_num) (by norm_num) (abs_base_add_le hi low high small))
  have last := abs_le.mp (abs_kept_sub_le_two_pow (by norm_num) (by norm_num) (abs_sum_le hi low high small))
  have off := abs_le.mp (abs_base_sub_le hi low high).2.2
  have moved := abs_le.mp (abs_polynomial_reduced_sub_le h)
  rw [result, exact, abs_le]
  norm_num at terms sum last off moved ⊢
  constructor <;> linarith

/-- The computation denotes the result. -/
theorem denotes_result (hi : i < 16) (low : -127 < k) (high : k ≤ 0) (h : |z * reciprocal i - 1| ≤ 2 ^ (-5 : ℤ))
    {x : Float} (hx : Denotes x z) :
    let r := x * Float.ofBits (centres.getD i (0, 0)).1 - 1
    Denotes ((quartic * (r * r) + (cubic * r + quadratic)) * (r * r) +
      (Float.ofBits (centres.getD i (0, 0)).2 + Float.ofInt k * lnTwo + r)) (result i k z) := by
  intro r
  have small := abs_reduced_le h
  have quotient := hx.mul (denotes_reciprocal hi) (fits_of_abs_le (by norm_num) (abs_quotient_le h))
  have hr : Denotes r (reduced i z) :=
    quotient.sub denotes_one (fits_of_abs_le (by norm_num) (abs_kept_quotient_sub_le h))
  have square := hr.mul hr (fits_of_abs_le (by norm_num) (abs_square_le small))
  have first := denotes_quartic.mul square (fits_of_abs_le (by norm_num) (abs_quartic_mul_le small))
  have cube := denotes_cubic.mul hr (fits_of_abs_le (by norm_num) (abs_cubic_mul_le small))
  have line := cube.add denotes_quadratic (fits_of_abs_le (by norm_num) (abs_line_le small))
  have high_terms := first.add line (fits_of_abs_le (by norm_num) (abs_terms_le small))
  have product := high_terms.mul square (fits_of_abs_le (by norm_num) (abs_product_le small))
  have power := (denotes_ofInt low high).mul denotes_lnTwo
    (fits_of_abs_le (n := 7) (by norm_num) ((abs_power_le low high).trans (by norm_num)))
  have base := (denotes_centreLn hi).add power (fits_of_abs_le (by norm_num) (abs_base_sub_le hi low high).2.1)
  have sum := base.add hr (fits_of_abs_le (by norm_num) (abs_base_add_le hi low high small))
  exact product.add sum (fits_of_abs_le (by norm_num) (abs_sum_le hi low high small))

end

end Logarithm

end PromptLoop
