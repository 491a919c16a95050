import PromptLoop.Proofs.ExponentialSteps

/-!
# The order of exponentials

The exponential of numbers that are not positive keeps their order, although each is computed with rounding: numbers
that differ in single precision are so far apart that the polynomial tells them apart, unless they are so near to
zero that both exponentials are one. From one step to the next the power from the table makes up for what the
polynomial falls.

So the exponentials are between zero and one, in the order of the numbers (`Single.exp_mono`).
-/

namespace PromptLoop

namespace Exponential

/-! ### The table -/

/-- The value of an entry of the table. -/
theorem value_tableCode (k : ℤ) :
    Format.double.value (tableCode k) = (tableCode k - 1022 * 2 ^ 52 : ℤ) / 2 ^ 52 := by
  obtain ⟨above, below⟩ := tableCode_bounds k
  have parts : Format.double.parts (tableCode k) = (tableCode k - 1022 * 2 ^ 52, -52) := by
    have exponent : tableCode k / 2 ^ 52 = 1023 := by omega
    have least : Format.double.leastPlace = -1074 := by decide
    simp only [Format.parts, Nat.shiftRight_eq_div_pow, Nat.one_shiftLeft, least]
    rw [show Format.double.fractionBits = 52 from rfl, exponent]
    ext
    · simp
      omega
    · simp
  rw [Format.value, parts, zpow_neg, ← div_eq_mul_inv,
    show (tableCode k : ℤ) - 1022 * 2 ^ 52 = (tableCode k - 1022 * 2 ^ 52 : ℕ) by omega]
  rfl

/-- The least ratio of a power in the table to the one before it. -/
def growth : ℚ := 10218971486 / 10000000000

theorem growth_mul_stepPower_le (k : ℤ) : growth * stepPower k ≤ stepPower (k + 1) := by
  have within : ∀ i < 31, 10218971486 * ((powers.getD i 0).toNat - 1022 * 2 ^ 52 : ℤ) ≤
      10000000000 * ((powers.getD (i + 1) 0).toNat - 1022 * 2 ^ 52) := by decide
  have around : 10218971486 * ((powers.getD 31 0).toNat - 1022 * 2 ^ 52 : ℤ) ≤
      20000000000 * ((powers.getD 0 0).toNat - 1022 * 2 ^ 52) := by decide
  unfold stepPower growth
  rw [value_tableCode, value_tableCode]
  by_cases last : k % 32 = 31
  · have next : (k + 1) % 32 = 0 := by omega
    have double : (k + 1) / 32 = k / 32 + 1 := by omega
    have ratio : (10218971486 * (tableCode k - 1022 * 2 ^ 52 : ℤ) : ℚ) ≤
        20000000000 * (tableCode (k + 1) - 1022 * 2 ^ 52 : ℤ) := by
      simp only [tableCode, last, next]
      exact_mod_cast around
    rw [double, zpow_add_one₀ two_ne_zero]
    have := mul_le_mul_of_nonneg_right ratio (show (0 : ℚ) ≤ 2 ^ (k / 32) by positivity)
    linarith
  · have next : ((k + 1) % 32).toNat = (k % 32).toNat + 1 := by omega
    have same : (k + 1) / 32 = k / 32 := by omega
    have ratio : (10218971486 * (tableCode k - 1022 * 2 ^ 52 : ℤ) : ℚ) ≤
        10000000000 * (tableCode (k + 1) - 1022 * 2 ^ 52 : ℤ) := by
      simp only [tableCode, next]
      exact_mod_cast within _ (by omega)
    rw [same]
    have := mul_le_mul_of_nonneg_right ratio (show (0 : ℚ) ≤ 2 ^ (k / 32) by positivity)
    linarith

theorem stepPower_zero : stepPower 0 = 1 := by
  rw [stepPower, value_tableCode, show tableCode 0 = 1023 * 2 ^ 52 by decide]
  norm_num

theorem stepPower_nonneg (k : ℤ) : 0 ≤ stepPower k :=
  mul_nonneg (Format.value_nonneg _) (by positivity)

theorem stepPower_mono {k k' : ℤ} (h : k ≤ k') : stepPower k ≤ stepPower k' := by
  obtain ⟨n, rfl⟩ := Int.le.dest h
  clear h
  induction n with
  | zero => simp
  | succ n ih =>
    have grown := growth_mul_stepPower_le (k + n)
    have := stepPower_nonneg (k + n)
    rw [growth] at grown
    push_cast
    rw [← add_assoc]
    linarith

/-! ### Numbers that are apart -/

/-- A single precision number is apart from the next by at least this part of it. -/
def gap : ℚ := 1 / 2 ^ 24

theorem abs_steps_sub_le {q bound : ℚ} (low : -bound ≤ q) (high : q ≤ 0) (normal : 1 / 2 ^ 26 ≤ bound)
    (fits : bound ≤ 105) : |steps q - rate * q| ≤ rate * bound / 2 ^ 53 := by
  have positive : 0 < rate := by norm_num [rate]
  refine abs_kept_sub_le ?_ ?_ ?_
  · rw [abs_mul, abs_of_pos positive, abs_of_nonpos high]
    exact mul_le_mul_of_nonneg_left (by linarith) positive.le
  · calc (2 : ℚ) ^ (-1022 : ℤ) ≤ 2 ^ (-26 : ℤ) := zpow_le_zpow_right₀ one_le_two (by norm_num)
      _ = 1 / 2 ^ 26 := by norm_num
      _ ≤ bound := normal
      _ ≤ rate * bound := le_mul_of_one_le_left (by linarith) (by norm_num [rate])
  · norm_num [rate]
    linarith

theorem whole_eq_zero {z : ℚ} (h : |z| < 1 / 2) : whole z = 0 := by
  have near := abs_le.mp (abs_whole_sub_le (h.le.trans (by norm_num)))
  have small : |(whole z : ℚ)| < 1 := by
    rw [abs_lt] at h ⊢
    constructor <;> linarith
  have : |whole z| < 1 := by exact_mod_cast small
  exact Int.abs_lt_one_iff.mp this

theorem abs_sub_whole_le {z : ℚ} (h : |z| ≤ 2 ^ (13 : ℤ)) : |z - whole z| ≤ |z| := by
  rcases le_or_gt (1 / 2) |z| with far | close
  · rw [abs_sub_comm]
    exact (abs_whole_sub_le h).trans far
  · rw [whole_eq_zero close, Int.cast_zero, sub_zero]

/-- The rest of the steps is off by little. -/
theorem abs_rest_sub_le {q bound : ℚ} (low : -bound ≤ q) (high : q ≤ 0) (normal : 1 / 2 ^ 26 ≤ bound)
    (fits : bound ≤ 105) : |rest (steps q) - (steps q - whole (steps q))| ≤ 2 * rate * bound / 2 ^ 53 := by
  have near := abs_le.mp (abs_steps_sub_le low high normal fits)
  have range := abs_steps_le (by linarith) high
  have positive : 0 < rate := by norm_num [rate]
  have lower := mul_le_mul_of_nonneg_left low positive.le
  have upper := mul_nonpos_of_nonneg_of_nonpos positive.le high
  have product : 0 < rate * bound := mul_pos positive (by norm_num at normal; linarith)
  refine abs_kept_sub_le ((abs_sub_whole_le range).trans ?_) ?_ ?_
  · rw [abs_le]
    constructor <;> linarith
  · calc (2 : ℚ) ^ (-1022 : ℤ) ≤ 2 ^ (-26 : ℤ) := zpow_le_zpow_right₀ one_le_two (by norm_num)
      _ = 1 / 2 ^ 26 := by norm_num
      _ ≤ bound := normal
      _ ≤ 2 * rate * bound := le_mul_of_one_le_left (by linarith) (by norm_num [rate])
  · norm_num [rate]
    linarith

/-- **Numbers that are apart have steps that are apart.** -/
theorem steps_apart {q q' : ℚ} (low : -105 ≤ q) (far : q ≤ -(1 / 2 ^ 26)) (high : q' ≤ 0) (apart : -q * gap ≤ q' - q) :
    rate * -q * (9 / 10 * gap) ≤ rest (steps q') + whole (steps q') - (rest (steps q) + whole (steps q)) := by
  have le : q ≤ q' := by
    have : 0 ≤ -q * gap := mul_nonneg (by norm_num at far; linarith) (by norm_num [gap])
    linarith
  have near := abs_le.mp (abs_steps_sub_le (neg_neg q).le (le.trans high) (by linarith) (by linarith))
  have near' := abs_le.mp (abs_steps_sub_le (show -(-q) ≤ q' by linarith) high (by linarith) (by linarith))
  have rest_near := abs_le.mp (abs_rest_sub_le (neg_neg q).le (le.trans high) (by linarith) (by linarith))
  have rest_near' := abs_le.mp (abs_rest_sub_le (show -(-q) ≤ q' by linarith) high (by linarith) (by linarith))
  have scaled := mul_le_mul_of_nonneg_left apart (show 0 ≤ rate by norm_num [rate])
  have product : 0 ≤ rate * -q := mul_nonneg (by norm_num [rate]) (by norm_num at far; linarith)
  rw [gap] at scaled ⊢
  linarith

/-! ### Order -/

section

variable {r r' : ℚ}

/-- Within a step the polynomial keeps the order of numbers that are apart. -/
theorem polynomial_mono (h : |r| ≤ 2 ^ (-1 : ℤ)) (h' : |r'| ≤ 2 ^ (-1 : ℤ)) (apart : 1 / 2 ^ 45 ≤ r' - r) :
    polynomial r ≤ polynomial r' := by
  have slope := exact_slope h h' (by norm_num at apart; linarith)
  have near := abs_le.mp (abs_sum_sub_le h)
  have near' := abs_le.mp (abs_sum_sub_le h')
  refine kept_mono ?_
  norm_num at apart near near'
  linarith

/-- From one step to the next the power grows by more than the polynomial falls. -/
theorem polynomial_le_growth_mul (h : |r| ≤ 2 ^ (-1 : ℤ)) (h' : |r'| ≤ 2 ^ (-1 : ℤ))
    (apart : 1 / 2 ^ 26 ≤ r' + 1 - r) :
    polynomial r ≤ growth * polynomial r' := by
  obtain ⟨-, top⟩ := abs_le.mp h
  obtain ⟨bottom, -⟩ := abs_le.mp h'
  norm_num at top bottom
  have before := exact_slope h (show |(1 / 2 : ℚ)| ≤ 2 ^ (-1 : ℤ) by norm_num) top
  have after := exact_slope (r := -(1 / 2)) (by norm_num) h' bottom
  have seam : exact (1 / 2) ≤ growth * exact (-(1 / 2)) + 1 / 10 ^ 10 := by
    norm_num [exact, growth, cubicTerm, quadraticTerm, linearTerm]
  have near := abs_le.mp (abs_polynomial_sub_le h)
  have near' := abs_le.mp (abs_polynomial_sub_le h')
  rw [growth] at seam ⊢
  norm_num at apart near near'
  linarith

end

theorem polynomial_bounds {r : ℚ} (h : |r| ≤ 2 ^ (-1 : ℤ)) :
    989 / 1000 ≤ polynomial r ∧ polynomial r ≤ 1011 / 1000 := by
  have near := abs_le.mp (abs_polynomial_sub_le h)
  have bounds := exact_bounds h
  norm_num at near
  constructor <;> linarith

/-- The power at the next step is no less, if the numbers are apart. -/
theorem product_le_of_next {r r' : ℚ} (h : |r| ≤ 2 ^ (-1 : ℤ)) (h' : |r'| ≤ 2 ^ (-1 : ℤ))
    (apart : 1 / 2 ^ 26 ≤ r' + 1 - r) (k : ℤ) : polynomial r * stepPower k ≤ polynomial r' * stepPower (k + 1) := by
  have positive := (polynomial_bounds h').1
  calc polynomial r * stepPower k
      ≤ growth * polynomial r' * stepPower k :=
        mul_le_mul_of_nonneg_right (polynomial_le_growth_mul h h' apart) (stepPower_nonneg k)
    _ = polynomial r' * (growth * stepPower k) := by ring
    _ ≤ polynomial r' * stepPower (k + 1) := mul_le_mul_of_nonneg_left (growth_mul_stepPower_le k) (by linarith)

/-- The power is no less if there is a whole step between the numbers. -/
theorem product_le_of_skip {r r' : ℚ} (h : |r| ≤ 2 ^ (-1 : ℤ)) (h' : |r'| ≤ 2 ^ (-1 : ℤ)) {k k' : ℤ}
    (skip : k + 2 ≤ k') : polynomial r * stepPower k ≤ polynomial r' * stepPower k' := by
  have grown := growth_mul_stepPower_le k
  have grown' := growth_mul_stepPower_le (k + 1)
  have rest := stepPower_mono (show k + 1 + 1 ≤ k' by omega)
  rw [growth] at grown grown'
  calc polynomial r * stepPower k
      ≤ 1011 / 1000 * stepPower k := mul_le_mul_of_nonneg_right (polynomial_bounds h).2 (stepPower_nonneg k)
    _ ≤ 989 / 1000 * stepPower k' := by linarith [stepPower_nonneg k]
    _ ≤ polynomial r' * stepPower k' := mul_le_mul_of_nonneg_right (polynomial_bounds h').1 (stepPower_nonneg k')

/-- **The computed exponential keeps the order** of numbers that are apart. -/
theorem result_mono {q q' : ℚ} (low : -105 ≤ q) (far : q ≤ -(1 / 2 ^ 26)) (high : q' ≤ 0)
    (apart : -q * gap ≤ q' - q) : result q ≤ result q' := by
  have le : q ≤ q' := by
    have : 0 ≤ -q * gap := mul_nonneg (by norm_num at far; linarith) (by norm_num [gap])
    linarith
  have range := abs_steps_le low (le.trans high)
  have range' := abs_steps_le (low.trans le) high
  have in_step := abs_rest_le range
  have in_step' := abs_rest_le range'
  have steps_le : steps q ≤ steps q' := kept_mono (mul_le_mul_of_nonneg_left le (by norm_num [rate]))
  have whole_le := whole_mono steps_le
  have moved := steps_apart low far high apart
  refine kept_mono ?_
  rcases whole_le.eq_or_lt with same | more
  · -- Both lie in one step.
    rw [same] at moved ⊢
    refine mul_le_mul_of_nonneg_right (polynomial_mono in_step in_step' ?_) (stepPower_nonneg _)
    rw [add_sub_add_right_eq_sub] at moved
    refine le_trans ?_ moved
    norm_num [rate, gap] at far ⊢
    linarith
  rcases (Int.add_one_le_of_lt more).eq_or_lt with next | further
  · -- They lie in neighbouring steps, the first at least half a step below zero.
    have away : steps q ≤ -(1 / 2) := by
      have near := abs_le.mp (abs_whole_sub_le range)
      have := whole_nonpos (steps_nonpos high)
      have : (whole (steps q) : ℚ) ≤ -1 := by exact_mod_cast (by omega : whole (steps q) ≤ -1)
      linarith
    have near := abs_le.mp (abs_steps_sub_le (neg_neg q).le (le.trans high) (by linarith) (by linarith))
    rw [← next] at moved ⊢
    refine product_le_of_next in_step in_step' ?_ _
    push_cast at moved
    rw [gap] at moved
    norm_num [rate] at near moved ⊢
    linarith
  · exact product_le_of_skip in_step in_step' (by omega)

/-- The computed exponential is positive. -/
theorem result_pos {q : ℚ} (low : -105 ≤ q) (high : q ≤ 0) : 0 < result q := by
  have range := abs_steps_le low high
  have enough : (2 : ℚ) ^ (-300 : ℤ) ≤ polynomial (rest (steps q)) * stepPower (whole (steps q)) := by
    have value := (polynomial_bounds (abs_rest_le range)).1
    have below := (abs_lt.mp (abs_whole_lt range)).1
    have entry : 1 ≤ Format.double.value (tableCode (whole (steps q))) := by
      have := (tableCode_bounds (whole (steps q))).1
      rw [value_tableCode, le_div_iff₀ (by positivity)]
      exact_mod_cast (by omega : (1 : ℤ) * 2 ^ 52 ≤ tableCode (whole (steps q)) - 1022 * 2 ^ 52)
    have power : (2 : ℚ) ^ (-299 : ℤ) ≤ 2 ^ (whole (steps q) / 32) := zpow_le_zpow_right₀ one_le_two (by omega)
    calc (2 : ℚ) ^ (-300 : ℤ) = 1 / 2 * (1 * 2 ^ (-299 : ℤ)) := by
          rw [show (-300 : ℤ) = -299 - 1 by norm_num, zpow_sub_one₀ two_ne_zero]
          ring
      _ ≤ polynomial (rest (steps q)) * stepPower (whole (steps q)) :=
        mul_le_mul (by linarith) (mul_le_mul entry power (by positivity) (by linarith)) (by positivity) (by linarith)
  have := kept_mono enough
  rw [kept_two_pow (by norm_num) (by norm_num)] at this
  exact lt_of_lt_of_le (by positivity) this

/-! ### Near one -/

theorem rest_nonpos {z : ℚ} (h : z ≤ 0) (zero : whole z = 0) : rest z ≤ 0 := by
  have := kept_mono h
  rw [kept_zero] at this
  rwa [rest, zero, Int.cast_zero, sub_zero]

theorem exact_zero : exact 0 = 1 := by
  norm_num [exact]

/-- Below zero the polynomial does not fall by more than its slope there. -/
theorem le_exact {r : ℚ} (h : r ≤ 0) (h' : |r| ≤ 2 ^ (-1 : ℤ)) : 1 + 217 / 10000 * r ≤ exact r := by
  have low := (abs_le.mp h').1
  norm_num at low
  have cube : cubicTerm * (1 / 4) * r ≤ cubicTerm * r ^ 3 := by
    have : r * (1 / 4) ≤ r * r ^ 2 := mul_le_mul_of_nonpos_left (by nlinarith) h
    have := mul_le_mul_of_nonneg_left this (show 0 ≤ cubicTerm by norm_num [cubicTerm])
    linarith
  have square : 0 ≤ quadraticTerm * r ^ 2 := mul_nonneg (by norm_num [quadraticTerm]) (sq_nonneg r)
  rw [exact]
  norm_num [cubicTerm, linearTerm] at cube ⊢
  linarith

/-- The computed exponential of a number that is not positive is hardly above one. -/
theorem result_le {q : ℚ} (low : -105 ≤ q) (high : q ≤ 0) : result q ≤ 1 + 1 / 2 ^ 25 := by
  have in_step := abs_rest_le (abs_steps_le low high)
  have steps_le := steps_nonpos high
  have whole_le := whole_nonpos steps_le
  have off := abs_le.mp (abs_kept_sub_le_two_pow (by norm_num) (by norm_num) (abs_result_le in_step whole_le))
  have product : polynomial (rest (steps q)) * stepPower (whole (steps q)) ≤ 1 + 1 / 2 ^ 50 := by
    rcases whole_le.eq_or_lt with zero | below
    · have slope := exact_slope in_step (by norm_num : |(0 : ℚ)| ≤ 2 ^ (-1 : ℤ)) (rest_nonpos steps_le zero)
      have near := abs_le.mp (abs_polynomial_sub_le in_step)
      have := rest_nonpos steps_le zero
      rw [exact_zero] at slope
      rw [zero, stepPower_zero, mul_one]
      norm_num at near ⊢
      linarith
    · have grown := growth_mul_stepPower_le (-1)
      have power := stepPower_mono (show whole (steps q) ≤ -1 by omega)
      rw [growth, show (-1 + 1 : ℤ) = 0 from rfl, stepPower_zero] at grown
      refine (mul_le_mul (polynomial_bounds in_step).2 power (stepPower_nonneg _) (by norm_num)).trans ?_
      linarith
  rw [result]
  norm_num at off product ⊢
  linarith

/-- The computed exponential of a number near zero is near one. -/
theorem le_result {q : ℚ} (low : -(1 / 2 ^ 26) ≤ q) (high : q ≤ 0) : 1 - 1 / 2 ^ 25 ≤ result q := by
  have range := abs_steps_le (by norm_num at low; linarith) high
  have in_step := abs_rest_le range
  have steps_le := steps_nonpos high
  have near := abs_le.mp (abs_steps_sub_le low high le_rfl (by norm_num))
  have rest_near := abs_le.mp (abs_rest_sub_le low high le_rfl (by norm_num))
  have zero : whole (steps q) = 0 := by
    refine whole_eq_zero (abs_lt.mpr ⟨?_, ?_⟩)
    · norm_num [rate] at near low
      linarith
    · linarith
  have rest_le := rest_nonpos steps_le zero
  rw [zero, Int.cast_zero, sub_zero] at rest_near
  have rest_ge : -(47 / 2 ^ 26) ≤ rest (steps q) := by
    norm_num [rate] at near rest_near low ⊢
    linarith
  have above := le_exact rest_le in_step
  have polynomial_near := abs_le.mp (abs_polynomial_sub_le in_step)
  have off := abs_le.mp (abs_kept_sub_le_two_pow (by norm_num) (by norm_num) (abs_result_le in_step zero.le))
  rw [zero, stepPower_zero, mul_one] at off
  rw [result, zero, stepPower_zero, mul_one]
  norm_num at rest_ge polynomial_near off ⊢
  linarith

end Exponential

namespace Single

open Exponential

variable {x y : Single}

/-! ### Exponentials -/

theorem order_expUnderflow : expUnderflow.order = -0x42cff1b4 := by decide

theorem order_expOverflow : expOverflow.order = 0x42b17217 := by decide

theorem exp_of_order_lt (number : x.isNaN = false) (h : x.order < expUnderflow.order) : x.exp = zero := by
  have small : x < expUnderflow := (lt_iff number (by decide)).mpr h
  have not_large : ¬ expOverflow < x := by
    rw [lt_iff (by decide) number, order_expOverflow]
    rw [order_expUnderflow] at h
    omega
  rw [exp, if_neg (by simp [number]), if_neg not_large, if_pos small]

/-- Numbers in the range of the exponential that are not positive. -/
theorem value_of_order_nonpos (low : expUnderflow.order ≤ x.order) (high : x.order ≤ 0) :
    x.IsFinite ∧ -105 ≤ x.value ∧ x.value = -Format.single.value x.code ∧ x.order = -x.code := by
  have order : x.order = -x.code := by
    unfold order Format.order at *
    split_ifs at * <;> omega
  have value : x.value = -Format.single.value x.code := by
    unfold Single.order Format.order at high
    rw [Single.value, Format.signed]
    split_ifs at high ⊢ with negative
    · rfl
    · rw [show x.code = 0 by omega, Format.value_zero, neg_zero]
  rw [order_expUnderflow, order] at low
  have code_le : x.code ≤ 0x42cff1b4 := by omega
  have largest : Format.single.value 0x42cff1b4 ≤ 105 := by
    rw [Format.value, show Format.single.parts 0x42cff1b4 = (13627828, -17) by decide]
    norm_num
  have := Format.value_le_value (f := Format.single) (by decide) code_le
  exact ⟨code_le.trans_lt (by decide), by linarith, value, order⟩

theorem exp_eq (low : expUnderflow.order ≤ x.order) (high : x.order ≤ 0) :
    x.exp = ofCode false (Format.single.nearestCode (result x.value)) := by
  obtain ⟨finite, above, value, -⟩ := value_of_order_nonpos low high
  have not_small : ¬ x < expUnderflow := by
    rw [lt_iff finite.isNaN (by decide)]
    omega
  have not_large : ¬ expOverflow < x := by
    rw [lt_iff (by decide) finite.isNaN, order_expOverflow]
    omega
  rw [exp, if_neg (by simp [finite.isNaN]), if_neg not_large, if_neg not_small]
  have nonpos : x.value ≤ 0 := by
    have := Format.value_nonneg (f := Format.single) x.code
    linarith
  exact (denotes_evaluate (Denotes.widen finite) above nonpos).narrow (result_pos above nonpos)

/-- What rounds to one or above. -/
theorem one_le_nearestCode {q : ℚ} (low : 1 - 1 / 2 ^ 25 ≤ q) : one.code ≤ Format.single.nearestCode q := by
  have edge : Format.single.nearestCode ((2 ^ 25 - 1 : ℕ) / (2 ^ 25 : ℕ)) = one.code := by
    rw [← Format.nearest_eq Format.single _ (by norm_num)]
    decide
  rw [← edge]
  refine Format.nearestCode_mono (by norm_num) (le_trans ?_ low)
  norm_num

/-- What rounds to one or below. -/
theorem nearestCode_le_one {q : ℚ} (nonneg : 0 ≤ q) (high : q ≤ 1 + 1 / 2 ^ 25) :
    Format.single.nearestCode q ≤ one.code := by
  have edge : Format.single.nearestCode ((2 ^ 25 + 1 : ℕ) / (2 ^ 25 : ℕ)) = one.code := by
    rw [← Format.nearest_eq Format.single _ (by norm_num)]
    decide
  rw [← edge]
  refine Format.nearestCode_mono nonneg (high.trans ?_)
  norm_num

/-- Exponentials of numbers that are not positive are between zero and one. -/
theorem exp_bounds (number : x.isNaN = false) (high : x.order ≤ 0) :
    x.exp.isNegative = false ∧ x.exp.code ≤ one.code := by
  rcases lt_or_ge x.order expUnderflow.order with small | low
  · rw [exp_of_order_lt number small]
    decide
  · obtain ⟨finite, above, value, -⟩ := value_of_order_nonpos low high
    have nonpos : x.value ≤ 0 := by
      have := Format.value_nonneg (f := Format.single) x.code
      linarith
    have le := nearestCode_le_one (result_pos above nonpos).le (result_le above nonpos)
    have lt := le.trans_lt (show one.code < 2 ^ 31 by decide)
    rw [exp_eq low high]
    exact ⟨isNegative_ofCode _ lt, (code_ofCode _ lt).trans_le le⟩

/-- **Exponentials keep the order** of numbers that are not positive. -/
theorem exp_mono (number : x.isNaN = false) (le : x.order ≤ y.order) (high : y.order ≤ 0) :
    x.exp.code ≤ y.exp.code := by
  rcases lt_or_ge x.order expUnderflow.order with small | low
  · rw [exp_of_order_lt number small]
    exact Nat.zero_le _
  obtain ⟨finite, above, value, order⟩ := value_of_order_nonpos low (le.trans high)
  obtain ⟨finite', above', value', order'⟩ := value_of_order_nonpos (low.trans le) high
  have nonpos' : y.value ≤ 0 := by
    have := Format.value_nonneg (f := Format.single) y.code
    linarith
  have positive := result_pos above' nonpos'
  have le_one := nearestCode_le_one positive.le (result_le above' nonpos')
  have lt := le_one.trans_lt (show one.code < 2 ^ 31 by decide)
  have second : y.exp.code = Format.single.nearestCode (result y.value) := by
    rw [exp_eq (low.trans le) high, code_ofCode _ lt]
  have nonpos : x.value ≤ 0 := by
    have := Format.value_nonneg (f := Format.single) x.code
    linarith
  have positive' := result_pos above nonpos
  have lt' := (nearestCode_le_one positive'.le (result_le above nonpos)).trans_lt (show one.code < 2 ^ 31 by decide)
  have first : x.exp.code = Format.single.nearestCode (result x.value) := by
    rw [exp_eq low (le.trans high), code_ofCode _ lt']
  have x_le := le.trans high
  rw [order, order'] at le
  rcases (show y.code ≤ x.code by omega).eq_or_lt with same | less
  · rw [first, second, value, value', same]
  rcases lt_or_ge (-(1 / 2 ^ 26)) y.value with near | far
  · -- Next to zero both exponentials are one.
    have := one_le_nearestCode (le_result near.le nonpos')
    have := (exp_bounds number x_le).2
    omega
  · have apart := Format.div_le_value_sub finite.le less
    have below := Format.value_le_value finite.le less.le
    rw [first, second]
    refine Format.nearestCode_mono positive'.le (result_mono above ?_ nonpos' ?_)
    · linarith
    · rw [value, value', Exponential.gap]
      rw [show Format.single.fractionBits + 1 = 24 from rfl] at apart
      linarith

end Single

end PromptLoop
