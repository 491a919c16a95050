import PromptLoop.Number.Exponential
import PromptLoop.Proofs.Doubles

/-!
# How the exponential is computed

The exponential is computed in double precision: the number of steps is split into whole steps and a rest, a
polynomial covers the rest, and a table the whole steps. Here each of these is a function of rational numbers in
which every operation is rounded, and the computation denotes the result of these functions (`denotes_evaluate`).

The polynomial is off from its exact value by much less than the last digit of a single precision number
(`abs_polynomial_sub_le`).
-/

namespace PromptLoop

namespace Exponential

/-! ### The computation in rational numbers -/

/-- The number of steps for a unit. A step multiplies the power by the thirty-second root of two. -/
def rate : ℚ := (6497320848556798 : ℕ) * 2 ^ (-47 : ℤ)

/-- The coefficients of the polynomial. -/
def cubicTerm : ℚ := (7998914000135060 : ℕ) * 2 ^ (-72 : ℤ)
@[inherit_doc cubicTerm] def quadraticTerm : ℚ := (8655142144099571 : ℕ) * 2 ^ (-65 : ℤ)
@[inherit_doc cubicTerm] def linearTerm : ℚ := (6243314769351382 : ℕ) * 2 ^ (-58 : ℤ)

/-- The number of steps to a number. -/
def steps (q : ℚ) : ℚ := kept (rate * q)

/-- The nearest whole number of steps. -/
def whole (z : ℚ) : ℤ := roundEven (z + 3 * 2 ^ 51) - 3 * 2 ^ 51

/-- What is left of the steps. -/
def rest (z : ℚ) : ℚ := kept (z - whole z)

/-- The square and the cube of the polynomial, as they are computed. -/
def highTerms (r : ℚ) : ℚ := kept (kept (kept (cubicTerm * r) + quadraticTerm) * kept (r * r))

/-- The other terms of the polynomial, as they are computed. -/
def lowTerms (r : ℚ) : ℚ := kept (kept (linearTerm * r) + 1)

/-- The polynomial, as it is computed. -/
def polynomial (r : ℚ) : ℚ := kept (highTerms r + lowTerms r)

/-- The code of a power in the table. -/
def tableCode (k : ℤ) : ℕ := (powers.getD (k % 32).toNat 0).toNat

/-- The power of two for a whole number of steps. -/
def stepPower (k : ℤ) : ℚ := Format.double.value (tableCode k) * 2 ^ (k / 32)

/-- The exponential, as it is computed. -/
def result (q : ℚ) : ℚ := kept (polynomial (rest (steps q)) * stepPower (whole (steps q)))

/-! ### Constants -/

theorem denotes_stepsPerUnit : Denotes stepsPerUnit rate :=
  denotes_constant 0x40471547652b82fe _ _ (by decide) (by decide)

theorem denotes_cubic : Denotes cubic cubicTerm :=
  denotes_constant 0x3ebc6af84b912394 _ _ (by decide) (by decide)

theorem denotes_quadratic : Denotes quadratic quadraticTerm :=
  denotes_constant 0x3f2ebfce50fac4f3 _ _ (by decide) (by decide)

theorem denotes_linear : Denotes linear linearTerm :=
  denotes_constant 0x3f962e42ff0c52d6 _ _ (by decide) (by decide)

theorem denotes_shift : Denotes shift (3 * 2 ^ 51) := by
  have denotes := denotes_constant 0x4338000000000000 (3 * 2 ^ 51) 0 (by decide) (by decide)
  rw [zpow_zero, mul_one] at denotes
  exact_mod_cast denotes

/-! ### Powers of two -/

/-- Adding to the exponent of a code multiplies its value by a power of two. -/
theorem value_add_exponent {f : Format} {code code' : ℕ} {k : ℤ} (normal : 2 ^ f.fractionBits ≤ code)
    (normal' : 2 ^ f.fractionBits ≤ code') (same : (code' : ℤ) = code + k * 2 ^ f.fractionBits) :
    f.value code' = f.value code * 2 ^ k := by
  have power : (0 : ℤ) < 2 ^ f.fractionBits := by positivity
  have fraction : code' % 2 ^ f.fractionBits = code % 2 ^ f.fractionBits := by
    zify
    rw [same, Int.add_mul_emod_self_right]
  have exponent : ((code' / 2 ^ f.fractionBits : ℕ) : ℤ) = (code / 2 ^ f.fractionBits : ℕ) + k := by
    push_cast
    rw [same, Int.add_mul_ediv_right _ _ power.ne']
  have some : 0 < code / 2 ^ f.fractionBits := Nat.div_pos normal (Nat.two_pow_pos _)
  have some' : 0 < code' / 2 ^ f.fractionBits := Nat.div_pos normal' (Nat.two_pow_pos _)
  rw [Format.value, Format.value, Format.parts_above some.ne', Format.parts_above some'.ne', fraction, mul_assoc,
    ← zpow_add₀ two_ne_zero]
  congr 2
  omega

/-- The powers in the table are between one and two. -/
theorem tableCode_bounds (k : ℤ) : 1023 * 2 ^ 52 ≤ tableCode k ∧ tableCode k < 1024 * 2 ^ 52 := by
  have small : (k % 32).toNat < 32 := by omega
  have every : ∀ i < 32, 1023 * 2 ^ 52 ≤ (powers.getD i 0).toNat ∧ (powers.getD i 0).toNat < 1024 * 2 ^ 52 := by
    decide
  exact every _ small

theorem denotes_powerOfTwo {k : ℤ} (low : -9000 ≤ k) (high : k ≤ 0) : Denotes (powerOfTwo k) (stepPower k) := by
  obtain ⟨above, below⟩ := tableCode_bounds k
  obtain ⟨code, same⟩ : ∃ code : ℕ, (code : ℤ) = tableCode k + k / 32 * 2 ^ 52 :=
    ⟨(tableCode k + k / 32 * 2 ^ 52).toNat, Int.toNat_of_nonneg (by omega)⟩
  have finite : code < Format.double.infinity := by
    rw [show Format.double.infinity = 2047 * 2 ^ 52 by decide]
    omega
  have value : Format.double.value code = stepPower k :=
    value_add_exponent (f := Format.double) (k := k / 32) (show 2 ^ 52 ≤ _ by omega) (show 2 ^ 52 ≤ _ by omega) same
  rw [← value]
  refine Denotes.ofBits false finite ?_
  have entry : (tableCode k : ℤ) + k / 32 * 0x0010000000000000 = code := by
    rw [same]
    norm_num
  have lt := finite.trans Denotes.infinity_lt
  rw [tableCode] at entry
  rw [entry, Int.toNat_natCast, UInt64.toNat_ofNat', Format.word]
  simp
  omega

/-! ### Every step in range -/

theorem abs_steps_le {q : ℚ} (low : -105 ≤ q) (high : q ≤ 0) : |steps q| ≤ 2 ^ (13 : ℤ) := by
  refine abs_kept_le (by norm_num) (by norm_num) ?_
  rw [abs_le]
  norm_num [rate]
  constructor <;> linarith

theorem abs_whole_sub_le {z : ℚ} (h : |z| ≤ 2 ^ (13 : ℤ)) : |(whole z : ℚ) - z| ≤ 1 / 2 := by
  have low := (abs_le.mp h).1
  have near := abs_roundEven_sub_le (show 0 ≤ z + 3 * 2 ^ 51 by norm_num at low ⊢; linarith)
  simp only [whole, Int.cast_sub, Int.cast_mul, Int.cast_pow, Int.cast_ofNat, Int.cast_natCast]
  rwa [show (roundEven (z + 3 * 2 ^ 51) : ℚ) - 3 * 2 ^ 51 - z = roundEven (z + 3 * 2 ^ 51) - (z + 3 * 2 ^ 51) by ring]

theorem whole_mono {z z' : ℚ} (h : z ≤ z') : whole z ≤ whole z' := by
  have := roundEven_mono (add_le_add_left h (3 * 2 ^ 51))
  unfold whole
  omega

theorem whole_nonpos {z : ℚ} (h : z ≤ 0) : whole z ≤ 0 := by
  have := whole_mono h
  have zero : whole 0 = 0 := by
    have := roundEven_natCast (3 * 2 ^ 51)
    simp only [Nat.cast_mul, Nat.cast_pow, Nat.cast_ofNat] at this
    rw [whole, zero_add, this]
    norm_num
  rwa [zero] at this

theorem abs_whole_lt {z : ℚ} (h : |z| ≤ 2 ^ (13 : ℤ)) : |whole z| < 9000 := by
  have near := abs_le.mp (abs_whole_sub_le h)
  have bounds := abs_le.mp h
  norm_num at bounds
  have : |(whole z : ℚ)| < 9000 := abs_lt.mpr ⟨by linarith, by linarith⟩
  exact_mod_cast this

theorem abs_rest_le {z : ℚ} (h : |z| ≤ 2 ^ (13 : ℤ)) : |rest z| ≤ 2 ^ (-1 : ℤ) := by
  refine abs_kept_le (by norm_num) (by norm_num) ?_
  have := abs_whole_sub_le h
  rw [abs_sub_comm]
  norm_num
  linarith

/-- The words of the shifted steps count the whole steps. -/
theorem shifted_steps {z : ℚ} (h : |z| ≤ 2 ^ (13 : ℤ)) :
    Format.double.nearestCode (z + 3 * 2 ^ 51) = 0x4338000000000000 + whole z ∧
      kept (z + 3 * 2 ^ 51) = whole z + 3 * 2 ^ 51 := by
  obtain ⟨low, high⟩ := abs_le.mp h
  norm_num at low high
  obtain ⟨code, value⟩ := nearestCode_of_whole (q := z + 3 * 2 ^ 51) (by norm_num; linarith) (by norm_num; linarith)
  rw [code, value, whole]
  push_cast
  constructor <;> ring

/-! ### The polynomial -/

section

variable {r : ℚ}

/-- The polynomial without rounding. -/
def exact (r : ℚ) : ℚ := cubicTerm * r ^ 3 + quadraticTerm * r ^ 2 + linearTerm * r + 1

theorem abs_cubic_mul_le (h : |r| ≤ 2 ^ (-1 : ℤ)) : |cubicTerm * r| ≤ 2 ^ (-20 : ℤ) := by
  rw [abs_mul]
  refine (mul_le_mul_of_nonneg_left h (abs_nonneg _)).trans ?_
  norm_num [cubicTerm, abs_of_pos]

theorem abs_linear_mul_le (h : |r| ≤ 2 ^ (-1 : ℤ)) : |linearTerm * r| ≤ 2 ^ (-6 : ℤ) := by
  rw [abs_mul]
  refine (mul_le_mul_of_nonneg_left h (abs_nonneg _)).trans ?_
  norm_num [linearTerm, abs_of_pos]

theorem abs_square_le (h : |r| ≤ 2 ^ (-1 : ℤ)) : |r * r| ≤ 2 ^ (-2 : ℤ) := abs_mul_le_two_pow rfl h h

/-- The first factor of the high terms. -/
theorem abs_factor_le (h : |r| ≤ 2 ^ (-1 : ℤ)) : |kept (cubicTerm * r) + quadraticTerm| ≤ 2 ^ (-12 : ℤ) := by
  have := abs_kept_le (by norm_num) (by norm_num) (abs_cubic_mul_le h)
  refine (abs_add_le _ _).trans ((add_le_add_left this _).trans ?_)
  norm_num [quadraticTerm, abs_of_pos]

theorem abs_product_le (h : |r| ≤ 2 ^ (-1 : ℤ)) :
    |kept (kept (cubicTerm * r) + quadraticTerm) * kept (r * r)| ≤ 2 ^ (-14 : ℤ) :=
  abs_mul_le_two_pow rfl (abs_kept_le (by norm_num) (by norm_num) (abs_factor_le h))
    (abs_kept_le (by norm_num) (by norm_num) (abs_square_le h))

theorem abs_highTerms_sub_le (h : |r| ≤ 2 ^ (-1 : ℤ)) :
    |highTerms r - (cubicTerm * r ^ 3 + quadraticTerm * r ^ 2)| ≤ 2 ^ (-64 : ℤ) := by
  have off := abs_le.mp (abs_kept_sub_le_two_pow (by norm_num) (by norm_num) (abs_cubic_mul_le h))
  have off' := abs_le.mp (abs_kept_sub_le_two_pow (by norm_num) (by norm_num) (abs_factor_le h))
  have square_off := abs_kept_sub_le_two_pow (by norm_num) (by norm_num) (abs_square_le h)
  have product_off := abs_le.mp (abs_kept_sub_le_two_pow (by norm_num) (by norm_num) (abs_product_le h))
  have factor_le := abs_kept_le (by norm_num) (by norm_num) (abs_factor_le h)
  have square_le := abs_square_le h
  rw [highTerms]
  generalize kept (kept (cubicTerm * r) + quadraticTerm) = factor at *
  generalize kept (r * r) = square at *
  have factor_off : |factor - (cubicTerm * r + quadraticTerm)| ≤ 2 ^ (-64 : ℤ) := by
    rw [abs_le]
    norm_num at off off' ⊢
    constructor <;> linarith
  have factors := abs_le.mp (abs_mul_sub_mul_le factor_le square_off factor_off square_le)
  have terms : cubicTerm * r ^ 3 + quadraticTerm * r ^ 2 = (cubicTerm * r + quadraticTerm) * (r * r) := by ring
  rw [terms, abs_le]
  norm_num at product_off factors ⊢
  constructor <;> linarith

theorem abs_line_add_one_le (h : |r| ≤ 2 ^ (-1 : ℤ)) : |kept (linearTerm * r) + 1| ≤ 2 ^ (1 : ℤ) := by
  have := abs_kept_le (by norm_num) (by norm_num) (abs_linear_mul_le h)
  refine (abs_add_le _ _).trans ((add_le_add_left this _).trans ?_)
  norm_num

theorem abs_lowTerms_sub_le (h : |r| ≤ 2 ^ (-1 : ℤ)) :
    |lowTerms r - (linearTerm * r + 1)| ≤ 2 ^ (-52 : ℤ) + 2 ^ (-59 : ℤ) := by
  have off := abs_le.mp (abs_kept_sub_le_two_pow (by norm_num) (by norm_num) (abs_linear_mul_le h))
  have last := abs_le.mp (abs_kept_sub_le_two_pow (by norm_num) (by norm_num) (abs_line_add_one_le h))
  rw [lowTerms, abs_le]
  norm_num at off last ⊢
  constructor <;> linarith

theorem abs_sum_sub_le (h : |r| ≤ 2 ^ (-1 : ℤ)) :
    |highTerms r + lowTerms r - exact r| ≤ 2 ^ (-52 : ℤ) + 2 ^ (-58 : ℤ) := by
  have high := abs_le.mp (abs_highTerms_sub_le h)
  have low := abs_le.mp (abs_lowTerms_sub_le h)
  rw [exact, abs_le]
  norm_num at high low ⊢
  constructor <;> linarith

/-- The polynomial rises. -/
theorem exact_slope {r' : ℚ} (h : |r| ≤ 2 ^ (-1 : ℤ)) (h' : |r'| ≤ 2 ^ (-1 : ℤ)) (le : r ≤ r') :
    214 / 10000 * (r' - r) ≤ exact r' - exact r := by
  have low := (abs_le.mp h).1
  have low' := (abs_le.mp h').1
  have square : 0 ≤ r' * r' + r' * r + r * r := by nlinarith [sq_nonneg (r + r'), sq_nonneg r, sq_nonneg r']
  have split : exact r' - exact r =
      (r' - r) * (linearTerm + quadraticTerm * (r + r') + cubicTerm * (r' * r' + r' * r + r * r)) := by
    unfold exact
    ring
  rw [split, mul_comm]
  refine mul_le_mul_of_nonneg_left ?_ (by linarith)
  have cube : 0 ≤ cubicTerm * (r' * r' + r' * r + r * r) := mul_nonneg (by norm_num [cubicTerm]) square
  have line : quadraticTerm * (-1) ≤ quadraticTerm * (r + r') :=
    mul_le_mul_of_nonneg_left (by norm_num at low low'; linarith) (by norm_num [quadraticTerm])
  have slope : 214 / 10000 ≤ linearTerm + quadraticTerm * (-1) := by norm_num [linearTerm, quadraticTerm]
  linarith

theorem exact_bounds (h : |r| ≤ 2 ^ (-1 : ℤ)) : 9892 / 10000 ≤ exact r ∧ exact r ≤ 10109 / 10000 := by
  obtain ⟨low, high⟩ := abs_le.mp h
  norm_num at low high
  have below := exact_slope (r := -(1 / 2)) (by norm_num) h low
  have above := exact_slope h (show |(1 / 2 : ℚ)| ≤ 2 ^ (-1 : ℤ) by norm_num) high
  have left : 9892 / 10000 ≤ exact (-(1 / 2)) := by norm_num [exact, cubicTerm, quadraticTerm, linearTerm]
  have right : exact (1 / 2) ≤ 10109 / 10000 := by norm_num [exact, cubicTerm, quadraticTerm, linearTerm]
  constructor <;> linarith

theorem abs_sum_le (h : |r| ≤ 2 ^ (-1 : ℤ)) : |highTerms r + lowTerms r| ≤ 2 ^ (1 : ℤ) := by
  have near := abs_le.mp (abs_sum_sub_le h)
  have bounds := exact_bounds h
  rw [abs_le]
  norm_num at near ⊢
  constructor <;> linarith

/-- **The polynomial is computed almost exactly.** -/
theorem abs_polynomial_sub_le (h : |r| ≤ 2 ^ (-1 : ℤ)) : |polynomial r - exact r| ≤ 2 ^ (-50 : ℤ) := by
  have near := abs_le.mp (abs_sum_sub_le h)
  have last := abs_le.mp (abs_kept_sub_le_two_pow (by norm_num) (by norm_num) (abs_sum_le h))
  rw [polynomial, abs_le]
  norm_num at near last ⊢
  constructor <;> linarith

end

/-! ### The result -/

theorem stepPower_bounds {k : ℤ} (high : k ≤ 0) : 0 < stepPower k ∧ stepPower k < 2 := by
  obtain ⟨above, below⟩ := tableCode_bounds k
  have one : Format.double.value (1024 * 2 ^ 52) = 2 := by
    rw [Format.value, show Format.double.parts (1024 * 2 ^ 52) = (2 ^ 52, -51) by decide]
    norm_num
  have lt := Format.value_lt_value (f := Format.double) (by decide) below
  have positive : 0 < Format.double.value (tableCode k) := Format.value_pos (below.le.trans (by decide)) (by omega)
  have power : (2 : ℚ) ^ (k / 32) ≤ 1 := zpow_le_one_of_nonpos₀ one_le_two (by omega)
  rw [one] at lt
  constructor
  · unfold stepPower
    positivity
  · exact (mul_le_of_le_one_right positive.le power).trans_lt lt

/-- The whole steps are read off the word of the shifted steps, and shifted back. -/
theorem denotes_whole {x : Float} {z : ℚ} (h : Denotes x z) (range : |z| ≤ 2 ^ (13 : ℤ)) :
    ((x + shift).toBits.toNat : ℤ) - 0x4338000000000000 = whole z ∧ Denotes (x + shift - shift) (whole z) := by
  obtain ⟨low, high⟩ := abs_le.mp range
  norm_num at low high
  obtain ⟨code, value⟩ := shifted_steps range
  have whole_lt := abs_lt.mp (abs_whole_lt range)
  have low' : (-9000 : ℚ) < whole z := by exact_mod_cast whole_lt.1
  have high' : (whole z : ℚ) < 9000 := by exact_mod_cast whole_lt.2
  have shifted := h.add denotes_shift (abs_le.mpr ⟨by norm_num; linarith, by norm_num; linarith⟩)
  constructor
  · rw [shifted.toNat_toBits (by linarith) (by rw [value]; linarith), code]
    ring
  · rw [value] at shifted
    have back := shifted.sub denotes_shift (abs_le.mpr ⟨by norm_num; linarith, by norm_num; linarith⟩)
    rwa [add_sub_cancel_right, kept_intCast (abs_lt.mpr ⟨by omega, by omega⟩)] at back

/-- The polynomial is computed as described. -/
theorem denotes_polynomial {x : Float} {r : ℚ} (h : Denotes x r) (range : |r| ≤ 2 ^ (-1 : ℤ)) :
    Denotes ((cubic * x + quadratic) * (x * x) + (linear * x + 1)) (polynomial r) := by
  have cube := denotes_cubic.mul h (fits_of_abs_le (by norm_num) (abs_cubic_mul_le range))
  have factor := cube.add denotes_quadratic (fits_of_abs_le (by norm_num) (abs_factor_le range))
  have square := h.mul h (fits_of_abs_le (by norm_num) (abs_square_le range))
  have high := factor.mul square (fits_of_abs_le (by norm_num) (abs_product_le range))
  have line := denotes_linear.mul h (fits_of_abs_le (by norm_num) (abs_linear_mul_le range))
  have low := line.add denotes_one (fits_of_abs_le (by norm_num) (abs_line_add_one_le range))
  exact high.add low (fits_of_abs_le (by norm_num) (abs_sum_le range))

theorem abs_result_le {r : ℚ} {k : ℤ} (range : |r| ≤ 2 ^ (-1 : ℤ)) (high : k ≤ 0) :
    |polynomial r * stepPower k| ≤ 2 ^ (2 : ℤ) := by
  have powers := stepPower_bounds high
  have value := abs_kept_le (by norm_num) (by norm_num) (abs_sum_le range)
  rw [abs_mul, abs_of_pos powers.1]
  refine (mul_le_mul value powers.2.le powers.1.le (by positivity)).trans ?_
  norm_num

theorem steps_nonpos {q : ℚ} (h : q ≤ 0) : steps q ≤ 0 := by
  have := kept_mono (show rate * q ≤ 0 from mul_nonpos_of_nonneg_of_nonpos (by norm_num [rate]) h)
  rwa [kept_zero] at this

/-- **The exponential is computed** as described. -/
theorem denotes_evaluate {x : Float} {q : ℚ} (h : Denotes x q) (low : -105 ≤ q) (high : q ≤ 0) :
    Denotes (evaluate x) (result q) := by
  have range := abs_steps_le low high
  have z : Denotes (stepsPerUnit * x) (steps q) := denotes_stepsPerUnit.mul h (by
    rw [abs_le]
    norm_num [rate]
    constructor <;> linarith)
  obtain ⟨bits, whole_steps⟩ := denotes_whole z range
  have whole_lt := abs_lt.mp (abs_whole_lt range)
  have whole_nonpos := whole_nonpos (steps_nonpos high)
  have rest_range := abs_rest_le range
  have r : Denotes (stepsPerUnit * x - (stepsPerUnit * x + shift - shift)) (rest (steps q)) :=
    z.sub whole_steps (by
      have near := abs_whole_sub_le range
      rw [abs_sub_comm]
      norm_num
      linarith)
  have power : Denotes (powerOfTwo (((stepsPerUnit * x + shift).toBits.toNat : ℤ) - 0x4338000000000000))
      (stepPower (whole (steps q))) := by
    rw [bits]
    exact denotes_powerOfTwo (by omega) whole_nonpos
  exact (denotes_polynomial r rest_range).mul power
    (fits_of_abs_le (by norm_num) (abs_result_le rest_range whole_nonpos))

end Exponential

end PromptLoop
