import Mathlib.Tactic.FieldSimp
import PromptLoop.Proofs.Packing

/-!
# Arithmetic on words

The operations of the core library give the nearest code of the exact result, with its sign. They are
stated here for a word as a sign and a code, so that a number is the value of its code and the only trace of the
format is the rounding. A sum of positive numbers that is too large is infinity and remains so, which the formula
for the sum covers, as rounding ends at infinity (`toNat_pack_add`).

Words are compared as signed codes (`compare_unpacked`).
-/

namespace PromptLoop

open Float.Model.UnpackedFloat

variable {m : Float.Model.Format}

/-! ### Unpacked numbers -/

theorem signOf_mul (a b : Bool) : signOf a * signOf b = signOf (a != b) := by
  cases a <;> cases b <;> rfl

theorem signOf_div (a b : Bool) : signOf a / signOf b = signOf (a != b) := by
  cases a <;> cases b <;> rfl

theorem infinity_pos (wide : 1 < m.exponentBits) : 0 < (Format.ofModel m).infinity := by
  have : 2 ^ 1 < 2 ^ m.exponentBits := Nat.pow_lt_pow_right one_lt_two wide
  rw [Format.infinity_eq]
  exact Nat.mul_pos (by simp only [Format.exponentBits_ofModel]; omega) (Nat.two_pow_pos _)

theorem unpacked_zero (wide : 1 < m.exponentBits) (negative : Bool) :
    unpacked m negative 0 = .zero (signOf negative) := by
  have := infinity_pos wide
  rw [unpacked, if_neg (Nat.not_lt_zero _), if_neg this.ne, dif_neg]
  rw [Format.parts_least (Nat.zero_div _), Nat.zero_mod]
  exact lt_irrefl 0

theorem unpacked_infinity (negative : Bool) :
    unpacked m negative (Format.ofModel m).infinity = .infinity (signOf negative) := by
  rw [unpacked, if_neg (lt_irrefl _), if_pos rfl]

theorem unpacked_of_pos (negative : Bool) {code : ℕ} (positive : 0 < code)
    (finite : code < (Format.ofModel m).infinity) :
    ∃ h : 0 < ((Format.ofModel m).parts code).1, unpacked m negative code =
      .finite (signOf negative) ((Format.ofModel m).parts code).1 ((Format.ofModel m).parts code).2 h := by
  have h : 0 < ((Format.ofModel m).parts code).1 := by
    by_contra! zero
    have value := Format.value_pos finite.le positive.ne'
    rw [Format.value, Nat.le_zero.mp zero, Nat.cast_zero, zero_mul] at value
    exact lt_irrefl _ value
  exact ⟨h, by rw [unpacked, if_neg finite.not_gt, if_neg finite.ne, dif_pos h]⟩

/-- The forms that a number is taken apart into. -/
theorem unpacked_cases (wide : 1 < m.exponentBits) (negative : Bool) {code : ℕ}
    (number : code ≤ (Format.ofModel m).infinity) :
    (code = 0 ∧ unpacked m negative code = .zero (signOf negative)) ∨
      (0 < code ∧ code < (Format.ofModel m).infinity ∧ ∃ h, unpacked m negative code =
        .finite (signOf negative) ((Format.ofModel m).parts code).1 ((Format.ofModel m).parts code).2 h) ∨
      (code = (Format.ofModel m).infinity ∧ unpacked m negative code = .infinity (signOf negative)) := by
  rcases code.eq_zero_or_pos with rfl | positive
  · exact .inl ⟨rfl, unpacked_zero wide negative⟩
  · rcases number.lt_or_eq with finite | rfl
    · exact .inr (.inl ⟨positive, finite, unpacked_of_pos negative positive finite⟩)
    · exact .inr (.inr ⟨rfl, unpacked_infinity negative⟩)

/-- What has been taken apart is put together again. -/
theorem toNat_pack_unpacked (wide : 1 < m.exponentBits) (negative : Bool) {code : ℕ}
    (number : code ≤ (Format.ofModel m).infinity) :
    (pack m (unpacked m negative code)).toNat = (Format.ofModel m).word negative code := by
  rcases number.lt_or_eq with finite | rfl
  · rcases code.eq_zero_or_pos with rfl | positive
    · rw [unpacked_zero wide]
      exact toNat_packedZero negative
    · obtain ⟨h, same⟩ := unpacked_of_pos negative positive finite
      rw [same, toNat_pack_finite wide negative h (Format.isParts_parts code), Format.codeOf_parts,
        min_eq_right number]
  · rw [unpacked_infinity]
    exact toNat_packedInfinity negative

/-! ### Products and quotients -/

/-- The product of two mantissas is not coarser than it is rounded. -/
theorem add_le_lastPlace {mantissa mantissa' : ℕ} {place place' : ℤ}
    (h : (Format.ofModel m).IsParts mantissa place) (h' : (Format.ofModel m).IsParts mantissa' place')
    (positive : 0 < mantissa) (positive' : 0 < mantissa') :
    place + place' ≤ (Format.ofModel m).lastPlace ((mantissa * mantissa' : ℕ) * 2 ^ (place + place')) := by
  have product : 0 < mantissa * mantissa' := Nat.mul_pos positive positive'
  have log := log_mul_zpow product le_rfl (lt_add_one _) (place + place')
  rw [Format.lastPlace, log, Format.fractionBits_ofModel]
  by_cases full : 2 ^ m.mantissaBitsWithoutImplicit ≤ mantissa * mantissa'
  · have := (Nat.le_log2 product.ne').mpr full
    omega
  · have low : place = (Format.ofModel m).leastPlace :=
      h.full.resolve_left fun long => full (long.trans (Nat.le_mul_of_pos_right _ positive'))
    have low' : place' = (Format.ofModel m).leastPlace :=
      h'.full.resolve_left fun long => full (long.trans (Nat.le_mul_of_pos_left _ positive))
    have : (Format.ofModel m).leastPlace ≤ 0 := by
      have := m.hm
      rw [Format.leastPlace_eq]
      omega
    omega

/-- **Products.** -/
theorem toNat_pack_mul (wide : 1 < m.exponentBits) (negative negative' : Bool) {code code' : ℕ}
    (finite : code < (Format.ofModel m).infinity) (finite' : code' < (Format.ofModel m).infinity) :
    (pack m (mul m (unpacked m negative code) (unpacked m negative' code'))).toNat =
      (Format.ofModel m).word (negative != negative')
        ((Format.ofModel m).nearestCode ((Format.ofModel m).value code * (Format.ofModel m).value code')) := by
  rcases code.eq_zero_or_pos with rfl | positive
  · have zero : mul m (unpacked m negative 0) (unpacked m negative' code') =
        .zero (signOf (negative != negative')) := by
      rw [unpacked_zero wide, ← signOf_mul]
      rcases code'.eq_zero_or_pos with rfl | positive'
      · rw [unpacked_zero wide]
        rfl
      · obtain ⟨h', same'⟩ := unpacked_of_pos negative' positive' finite'
        rw [same']
        rfl
    rw [zero, Format.value_zero, zero_mul, Format.nearestCode_zero]
    exact toNat_packedZero _
  rcases code'.eq_zero_or_pos with rfl | positive'
  · obtain ⟨h, same⟩ := unpacked_of_pos negative positive finite
    rw [same, unpacked_zero wide, Format.value_zero, mul_zero, Format.nearestCode_zero, ← toNat_packedZero,
      ← signOf_mul]
    rfl
  obtain ⟨h, same⟩ := unpacked_of_pos negative positive finite
  obtain ⟨h', same'⟩ := unpacked_of_pos negative' positive' finite'
  have isParts := Format.isParts_parts (f := Format.ofModel m) code
  have isParts' := Format.isParts_parts (f := Format.ofModel m) code'
  have product : (Format.ofModel m).value code * (Format.ofModel m).value code' =
      (((Format.ofModel m).parts code).1 * ((Format.ofModel m).parts code').1 : ℕ) *
        2 ^ (((Format.ofModel m).parts code).2 + ((Format.ofModel m).parts code').2) := by
    rw [Format.value, Format.value, zpow_add₀ two_ne_zero]
    push_cast
    ring
  have some : 0 < ((Format.ofModel m).parts code).1 * ((Format.ofModel m).parts code').1 := Nat.mul_pos h h'
  rw [same, same', product]
  dsimp only [mul]
  rw [signOf_mul, toNat_pack_roundWithAccuracy wide _ (stands_exact _) (by exact_mod_cast some)
    (fun zero => absurd zero some.ne') (add_le_lastPlace isParts isParts' h h')]

/-- The digits of a fraction tell how it compares with a half. -/
theorem stands_div (num : ℕ) {den : ℕ} (h : 0 < den) :
    Stands (.ofMantissaAndAccuracy (num / den) (accuracyOfFraction (num % den) den)) (num / den) := by
  have den_pos : (0 : ℚ) < den := by exact_mod_cast h
  have whole : (num : ℚ) = den * (num / den : ℕ) + (num % den : ℕ) := by
    exact_mod_cast (Nat.div_add_mod num den).symm
  have rest_lt : ((num % den : ℕ) : ℚ) < den := by exact_mod_cast Nat.mod_lt num h
  have rest : (num : ℚ) / den - (num / den : ℕ) = (num % den : ℕ) / den := by
    rw [eq_div_iff den_pos.ne', sub_mul, div_mul_cancel₀ _ den_pos.ne']
    linarith
  have bounds : 0 ≤ ((num % den : ℕ) / den : ℚ) ∧ ((num % den : ℕ) / den : ℚ) < 1 :=
    ⟨by positivity, (div_lt_one den_pos).mpr rest_lt⟩
  clear whole rest_lt
  unfold accuracyOfFraction
  split_ifs with zero
  · rw [zero, Nat.cast_zero, zero_div] at rest
    rw [sub_eq_zero.mp rest]
    exact stands_exact _
  · have positive : 0 < ((num % den : ℕ) / den : ℚ) := by
      have := Nat.pos_of_ne_zero zero
      positivity
    rcases order : compare (2 * (num % den)) den with _ | _ | _
    · have below : ((num % den : ℕ) / den : ℚ) < 1 / 2 := by
        rw [div_lt_div_iff₀ den_pos two_pos]
        exact_mod_cast (by have := compare_lt_iff_lt.mp order; omega)
      generalize (num : ℚ) / den = x, ((num % den : ℕ) / den : ℚ) = rest at *
      constructor <;> simp only [ExtendedMantissa.ofMantissaAndAccuracy] <;> grind
    · have same : ((num % den : ℕ) / den : ℚ) = 1 / 2 := by
        rw [div_eq_div_iff den_pos.ne' two_ne_zero]
        exact_mod_cast (by have := compare_eq_iff_eq.mp order; omega)
      rw [show (num : ℚ) / den = (num / den : ℕ) + 1 / 2 by linarith]
      constructor <;> simp only [ExtendedMantissa.ofMantissaAndAccuracy] <;> norm_num
    · have above : (1 / 2 : ℚ) < (num % den : ℕ) / den := by
        rw [div_lt_div_iff₀ two_pos den_pos]
        exact_mod_cast (by have := compare_gt_iff_gt.mp order; omega)
      generalize (num : ℚ) / den = x, ((num % den : ℕ) / den : ℚ) = rest at *
      constructor <;> simp only [ExtendedMantissa.ofMantissaAndAccuracy] <;> grind

/-- A mantissa that has been moved far enough to the left is no less than another. -/
theorem shiftLeft_div_pos {mantissa mantissa' n : ℕ} (h : 0 < mantissa) (h' : 0 < mantissa')
    (enough : mantissa'.log2 + 1 ≤ mantissa.log2 + n) : 0 < mantissa <<< n / mantissa' := by
  refine Nat.div_pos ?_ h'
  calc mantissa' ≤ 2 ^ (mantissa'.log2 + 1) := Nat.lt_log2_self.le
    _ ≤ 2 ^ (mantissa.log2 + n) := Nat.pow_le_pow_right two_pos enough
    _ = 2 ^ mantissa.log2 * 2 ^ n := pow_add ..
    _ ≤ mantissa * 2 ^ n := Nat.mul_le_mul_right _ (Nat.log2_self_le h.ne')
    _ = mantissa <<< n := (Nat.shiftLeft_eq ..).symm

/-- The power of two at or below a quotient. -/
theorem le_log_div {mantissa mantissa' : ℕ} (h : 0 < mantissa) (h' : 0 < mantissa') (place place' : ℤ) :
    mantissa.log2 + place - (mantissa'.log2 + place') - 1 ≤
      Int.log 2 (mantissa * 2 ^ place / (mantissa' * 2 ^ place') : ℚ) := by
  have low : (2 : ℚ) ^ (mantissa.log2 : ℤ) ≤ mantissa := by exact_mod_cast Nat.log2_self_le h.ne'
  have high : (mantissa' : ℚ) ≤ 2 ^ (mantissa'.log2 + 1 : ℤ) := by
    exact_mod_cast (Nat.lt_log2_self : mantissa' < 2 ^ (mantissa'.log2 + 1)).le
  rw [← Int.zpow_le_iff_le_log (by norm_num) (by positivity)]
  push_cast
  rw [le_div_iff₀ (by positivity)]
  calc (2 : ℚ) ^ (mantissa.log2 + place - (mantissa'.log2 + place') - 1) * (mantissa' * 2 ^ place')
      ≤ 2 ^ (mantissa.log2 + place - (mantissa'.log2 + place') - 1) * (2 ^ (mantissa'.log2 + 1 : ℤ) * 2 ^ place') := by
        gcongr
    _ = 2 ^ (mantissa.log2 : ℤ) * 2 ^ place := by
        rw [← zpow_add₀ two_ne_zero, ← zpow_add₀ two_ne_zero, ← zpow_add₀ two_ne_zero]
        congr 1
        ring
    _ ≤ mantissa * 2 ^ place := by gcongr

/-- A quotient of mantissas at their places is one at a lower place, with the first mantissa moved to the left. -/
theorem quotient_eq (mantissa : ℕ) {mantissa' : ℕ} (h' : 0 < mantissa') {place place' target : ℤ}
    (le : target ≤ place - place') :
    (mantissa * 2 ^ place / (mantissa' * 2 ^ place') : ℚ) =
      (mantissa <<< (place - place' - target).toNat : ℕ) / mantissa' * 2 ^ target := by
  obtain ⟨n, hn⟩ := Int.le.dest le
  rw [← hn, add_sub_cancel_left, Int.toNat_natCast, Nat.shiftLeft_eq, show place = place' + (target + n) by omega,
    zpow_add₀ two_ne_zero, zpow_add₀ two_ne_zero, zpow_natCast]
  push_cast
  field_simp

/-- **Quotients.** -/
theorem toNat_pack_div (wide : 1 < m.exponentBits) (negative negative' : Bool) {code code' : ℕ}
    (finite : code < (Format.ofModel m).infinity) (finite' : code' < (Format.ofModel m).infinity)
    (positive' : 0 < code') :
    (pack m (div m (unpacked m negative code) (unpacked m negative' code'))).toNat =
      (Format.ofModel m).word (negative != negative')
        ((Format.ofModel m).nearestCode ((Format.ofModel m).value code / (Format.ofModel m).value code')) := by
  obtain ⟨h', same'⟩ := unpacked_of_pos negative' positive' finite'
  rcases code.eq_zero_or_pos with rfl | positive
  · rw [unpacked_zero wide, same', Format.value_zero, zero_div, Format.nearestCode_zero, ← toNat_packedZero,
      ← signOf_div]
    rfl
  obtain ⟨h, same⟩ := unpacked_of_pos negative positive finite
  rw [same, same', Format.value, Format.value]
  generalize (Format.ofModel m).parts code = n at *
  generalize (Format.ofModel m).parts code' = d at *
  obtain ⟨mantissa, place⟩ := n
  obtain ⟨mantissa', place'⟩ := d
  dsimp only at h h' ⊢
  obtain ⟨target, ht⟩ : ∃ t, t = min (place - place') (m.targetExponent
    (Float.Model.totalExponent mantissa place - Float.Model.totalExponent mantissa' place')) := ⟨_, rfl⟩
  have quotient := quotient_eq mantissa h' (ht ▸ min_le_left _ _ : target ≤ place - place')
  have shifted : 0 < mantissa <<< (place - place' - target).toNat := by
    rw [Nat.shiftLeft_eq]
    positivity
  have target_eq : target = min (place - place') (max (Format.ofModel m).leastPlace
      (mantissa.log2 + place - (mantissa'.log2 + place') - 1 - m.mantissaBitsWithoutImplicit)) := by
    rw [ht, Format.targetExponent_eq, Float.Model.totalExponent, Float.Model.totalExponent]
    congr 2
    omega
  have fine : target ≤ (Format.ofModel m).lastPlace (mantissa * 2 ^ place / (mantissa' * 2 ^ place') : ℚ) := by
    have := le_log_div h h' place place'
    rw [Format.lastPlace, Format.fractionBits_ofModel]
    omega
  have long : mantissa <<< (place - place' - target).toNat / mantissa' = 0 →
      target ≤ (Format.ofModel m).leastPlace := by
    intro short
    by_contra! above
    exact absurd short (shiftLeft_div_pos h h' (by omega)).ne'
  rw [quotient] at fine ⊢
  have positive_shifted : (0 : ℚ) < (mantissa <<< (place - place' - target).toNat : ℕ) := by exact_mod_cast shifted
  dsimp only [div, divCore]
  rw [← ht, signOf_div, toNat_pack_roundWithAccuracy wide _ (stands_div _ h') (by positivity) long fine]

/-! ### Sums and differences -/

/-- The value of a code with a sign. -/
def Format.signed (f : Format) (negative : Bool) (code : ℕ) : ℚ := if negative then -f.value code else f.value code

namespace Format

variable {f : Format}

@[simp] theorem signed_zero (negative : Bool) : f.signed negative 0 = 0 := by
  simp [signed]

@[simp] theorem signed_false (code : ℕ) : f.signed false code = f.value code := rfl

theorem signed_of_nonneg {negative : Bool} {code : ℕ} (nonneg : negative = true → code = 0) :
    f.signed negative code = f.value code := by
  cases negative
  · rfl
  · rw [nonneg rfl]
    simp

theorem signed_not (negative : Bool) (code : ℕ) : f.signed (!negative) code = -f.signed negative code := by
  cases negative <;> simp [signed]

@[simp] theorem abs_signed (negative : Bool) (code : ℕ) : |f.signed negative code| = f.value code := by
  cases negative <;> simp [signed, abs_of_nonneg, value_nonneg]

theorem signed_neg_iff {negative : Bool} {code : ℕ} (positive : 0 < f.value code) :
    f.signed negative code < 0 ↔ negative = true := by
  cases negative <;> simp [signed, positive, positive.le]

theorem signed_ne_zero {negative : Bool} {code : ℕ} (positive : 0 < f.value code) : f.signed negative code ≠ 0 := by
  rw [← abs_pos, abs_signed]
  exact positive

end Format

/-- The sign of a rounded sum: that of the exact sum, and negative for an exact zero only if both summands are. -/
def sumSign (negative negative' : Bool) (q : ℚ) : Bool := if q = 0 then negative && negative' else q < 0

theorem sumSign_signed (negative other other' : Bool) {f : Format} {code : ℕ} (positive : 0 < f.value code) :
    sumSign other other' (f.signed negative code) = negative := by
  rw [sumSign, if_neg (Format.signed_ne_zero positive)]
  simp [Format.signed_neg_iff positive]

/-- A mantissa with a sign, moved to a lower place. -/
theorem apply_decreaseExponent (negative : Bool) (mantissa : ℕ) {place low : ℤ} (le : low ≤ place) :
    (((signOf negative).apply ((decreaseExponent mantissa place low).1 : ℤ) : ℤ) : ℚ) * 2 ^ low =
      (if negative then -(mantissa * 2 ^ place) else mantissa * 2 ^ place : ℚ) := by
  obtain ⟨n, rfl⟩ := Int.le.dest le
  have moved : (decreaseExponent mantissa (low + n) low).1 = mantissa * 2 ^ n := by
    simp [decreaseExponent, Nat.shiftLeft_eq]
  rw [moved, zpow_add₀ two_ne_zero, zpow_natCast]
  cases negative <;> simp only [signOf, Sign.apply, if_true, Bool.false_eq_true, if_false] <;> push_cast <;> ring

/-- The sum of mantissas at a common place is rounded and put together. -/
theorem toNat_pack_sum (wide : 1 < m.exponentBits) (negative negative' : Bool) {mantissa place : ℤ} {sum : ℚ}
    (exact : sum = mantissa * 2 ^ place) (differ : sum = 0 → (negative && negative') = false) :
    (pack m (Float.Model.UnpackedFloat.normalize m mantissa place .positive)).toNat =
      (Format.ofModel m).word (sumSign negative negative' sum) ((Format.ofModel m).nearestCode |sum|) := by
  by_cases zero : mantissa = 0
  · have cancels : sum = 0 := by rw [exact, zero, Int.cast_zero, zero_mul]
    have nothing : Float.Model.UnpackedFloat.normalize m mantissa place .positive = .zero (signOf false) := by
      rw [zero]
      rfl
    rw [cancels, abs_zero, Format.nearestCode_zero, sumSign, if_pos rfl, differ cancels, nothing]
    exact toNat_packedZero false
  · have scale : (0 : ℚ) < 2 ^ place := by positivity
    have some : sum ≠ 0 := by
      rw [exact]
      exact mul_ne_zero (Int.cast_ne_zero.mpr zero) scale.ne'
    have sign : (sum < 0) = (mantissa < 0) := by
      rw [exact, ← not_le, ← not_le, mul_nonneg_iff_of_pos_right scale, Int.cast_nonneg_iff]
    rw [toNat_pack_normalize wide zero, sumSign, if_neg some, ← exact]
    simp only [sign]

theorem zero_add_unpacked (wide : 1 < m.exponentBits) (negative negative' : Bool) {code : ℕ} (positive : 0 < code)
    (finite : code < (Format.ofModel m).infinity) :
    add m (unpacked m negative 0) (unpacked m negative' code) = unpacked m negative' code := by
  obtain ⟨h, same⟩ := unpacked_of_pos negative' positive finite
  rw [unpacked_zero wide, same]
  rfl

theorem add_unpacked_zero (wide : 1 < m.exponentBits) (negative negative' : Bool) {code : ℕ} (positive : 0 < code)
    (finite : code < (Format.ofModel m).infinity) :
    add m (unpacked m negative code) (unpacked m negative' 0) = unpacked m negative code := by
  obtain ⟨h, same⟩ := unpacked_of_pos negative positive finite
  rw [unpacked_zero wide, same]
  rfl

/-- **Sums.** -/
theorem toNat_pack_add (wide : 1 < m.exponentBits) (negative negative' : Bool) {code code' : ℕ}
    (finite : code < (Format.ofModel m).infinity) (finite' : code' < (Format.ofModel m).infinity) :
    let sum := (Format.ofModel m).signed negative code + (Format.ofModel m).signed negative' code'
    (pack m (add m (unpacked m negative code) (unpacked m negative' code'))).toNat =
      (Format.ofModel m).word (sumSign negative negative' sum) ((Format.ofModel m).nearestCode |sum|) := by
  intro sum
  rcases code.eq_zero_or_pos with rfl | positive <;> rcases code'.eq_zero_or_pos with rfl | positive'
  · have same : sum = 0 := by simp [sum]
    rw [same, abs_zero, Format.nearestCode_zero, sumSign, if_pos rfl, unpacked_zero wide, unpacked_zero wide,
      ← toNat_packedZero]
    cases negative <;> cases negative' <;> rfl
  · have value := Format.value_pos finite'.le positive'.ne'
    have same : sum = (Format.ofModel m).signed negative' code' := by simp [sum]
    rw [zero_add_unpacked wide _ _ positive' finite', same, sumSign_signed _ _ _ value, Format.abs_signed,
      Format.nearestCode_value finite'.le, toNat_pack_unpacked wide negative' finite'.le]
  · have value := Format.value_pos finite.le positive.ne'
    have same : sum = (Format.ofModel m).signed negative code := by simp [sum]
    rw [add_unpacked_zero wide _ _ positive finite, same, sumSign_signed _ _ _ value, Format.abs_signed,
      Format.nearestCode_value finite.le, toNat_pack_unpacked wide negative finite.le]
  · obtain ⟨h, same⟩ := unpacked_of_pos negative positive finite
    obtain ⟨h', same'⟩ := unpacked_of_pos negative' positive' finite'
    have value := Format.value_pos finite.le positive.ne'
    have value' := Format.value_pos finite'.le positive'.ne'
    rw [same, same']
    refine toNat_pack_sum wide negative negative' ?_ ?_
    · have first := apply_decreaseExponent negative ((Format.ofModel m).parts code).1
        (min_le_left ((Format.ofModel m).parts code).2 ((Format.ofModel m).parts code').2)
      have second := apply_decreaseExponent negative' ((Format.ofModel m).parts code').1
        (min_le_right ((Format.ofModel m).parts code).2 ((Format.ofModel m).parts code').2)
      rw [Int.cast_add, add_mul]
      exact (congrArg₂ (· + ·) first second).symm
    · -- Only numbers of different signs cancel.
      intro cancels
      by_contra! both
      obtain ⟨rfl, rfl⟩ := Bool.and_eq_true_iff.mp (Bool.eq_true_of_not_eq_false both)
      simp only [sum, Format.signed, if_true] at cancels
      linarith

/-- A difference is the sum with the other number negated. -/
theorem sub_unpacked (a : Float.Model.UnpackedFloat) (negative : Bool) (code : ℕ) :
    sub m a (unpacked m negative code) = add m a (unpacked m (!negative) code) := by
  by_cases nan : (Format.ofModel m).infinity < code
  · rw [unpacked, unpacked, if_pos nan, if_pos nan]
    cases a <;> rfl
  by_cases infinite : code = (Format.ofModel m).infinity
  · rw [infinite, unpacked_infinity, unpacked_infinity]
    cases a <;> cases negative <;> rfl
  rw [unpacked, unpacked, if_neg nan, if_neg nan, if_neg infinite, if_neg infinite]
  by_cases some : 0 < ((Format.ofModel m).parts code).1
  · rw [dif_pos some, dif_pos some]
    cases a with
    | finite s mantissa place h =>
      cases negative
      · rfl
      · exact congrArg (Float.Model.UnpackedFloat.normalize m · _ .positive) (sub_neg_eq_add _ _)
    | _ => cases negative <;> rfl
  · rw [dif_neg some, dif_neg some]
    cases a <;> cases negative <;> rfl

/-- Rounding ends at infinity. -/
theorem Format.nearestCode_of_infinity_le {f : Format} {q : ℚ} (h : f.value f.infinity ≤ q) :
    f.nearestCode q = f.infinity := by
  have := nearestCode_mono (f := f) (value_nonneg _) h
  rw [nearestCode_value le_rfl] at this
  exact le_antisymm (nearestCode_le_infinity q) this

theorem sub_negative_infinity (negative : Bool) {code : ℕ} (finite : code < (Format.ofModel m).infinity) :
    sub m (unpacked m true (Format.ofModel m).infinity) (unpacked m negative code) = .infinity (signOf true) := by
  rw [unpacked_infinity, unpacked, if_neg finite.not_gt, if_neg finite.ne]
  by_cases some : 0 < ((Format.ofModel m).parts code).1
  · rw [dif_pos some]
    rfl
  · rw [dif_neg some]
    rfl

theorem eq_false_of_infinity (wide : 1 < m.exponentBits) {negative : Bool} {code : ℕ}
    (nonneg : negative = true → code = 0) (top : code = (Format.ofModel m).infinity) : negative = false := by
  cases negative
  · rfl
  · exact absurd (top.symm.trans (nonneg rfl)) (infinity_pos wide).ne'

theorem infinity_add_unpacked (wide : 1 < m.exponentBits) {negative : Bool} {code : ℕ}
    (number : code ≤ (Format.ofModel m).infinity) (nonneg : negative = true → code = 0) :
    add m (.infinity (signOf false)) (unpacked m negative code) = .infinity (signOf false) := by
  rcases unpacked_cases wide negative number with ⟨-, same⟩ | ⟨-, -, _, same⟩ | ⟨top, same⟩
  · rw [same]
    rfl
  · rw [same]
    rfl
  · rw [same, eq_false_of_infinity wide nonneg top]
    rfl

theorem add_infinity (wide : 1 < m.exponentBits) (negative : Bool) {code : ℕ}
    (finite : code < (Format.ofModel m).infinity) :
    add m (unpacked m negative code) (.infinity (signOf false)) = .infinity (signOf false) := by
  rcases unpacked_cases wide negative finite.le with ⟨-, same⟩ | ⟨-, -, _, same⟩ | ⟨top, -⟩
  · rw [same]
    rfl
  · rw [same]
    rfl
  · exact absurd top finite.ne

/-- **Sums of numbers that are not negative**, infinity and the negative zero included. -/
theorem toNat_pack_add_nonneg (wide : 1 < m.exponentBits) {negative negative' : Bool} {code code' : ℕ}
    (number : code ≤ (Format.ofModel m).infinity) (number' : code' ≤ (Format.ofModel m).infinity)
    (nonneg : negative = true → code = 0) (nonneg' : negative' = true → code' = 0) :
    (pack m (add m (unpacked m negative code) (unpacked m negative' code'))).toNat =
      (Format.ofModel m).word (negative && negative')
        ((Format.ofModel m).nearestCode ((Format.ofModel m).value code + (Format.ofModel m).value code')) := by
  have value_nonneg := Format.value_nonneg (f := Format.ofModel m)
  rcases number.lt_or_eq with finite | top
  · rcases number'.lt_or_eq with finite' | top'
    · have above : 0 ≤ (Format.ofModel m).value code + (Format.ofModel m).value code' :=
        add_nonneg (value_nonneg _) (value_nonneg _)
      have sign : sumSign negative negative' ((Format.ofModel m).value code + (Format.ofModel m).value code') =
          (negative && negative') := by
        rw [sumSign, decide_eq_false above.not_gt]
        split_ifs with zero
        · rfl
        · cases negative <;> cases negative' <;> simp_all
      have exact_sum := toNat_pack_add wide negative negative' finite finite'
      simp only [Format.signed_of_nonneg nonneg, Format.signed_of_nonneg nonneg', abs_of_nonneg above, sign]
        at exact_sum
      exact exact_sum
    · rw [top', eq_false_of_infinity wide nonneg' top', unpacked_infinity, add_infinity wide _ finite, Bool.and_false,
        Format.nearestCode_of_infinity_le (le_add_of_nonneg_left (value_nonneg _))]
      exact toNat_packedInfinity false
  · rw [top, eq_false_of_infinity wide nonneg top, unpacked_infinity, infinity_add_unpacked wide number' nonneg',
      Bool.false_and, Format.nearestCode_of_infinity_le (le_add_of_nonneg_right (value_nonneg _))]
    exact toNat_packedInfinity false

/-! ### Comparison -/

/-- The place of a sign and a code in the order of numbers. -/
def Format.order (negative : Bool) (code : ℕ) : ℤ := if negative then -code else code

theorem lt_of_parts_lt {f : Format} {code code' : ℕ} (h : (f.parts code).2 < (f.parts code').2) : code < code' := by
  have isParts := Format.isParts_parts (f := f) code
  have isParts' := Format.isParts_parts (f := f) code'
  have same := Format.codeOf_parts (f := f) code
  have same' := Format.codeOf_parts (f := f) code'
  have lt := isParts.lt
  have full := isParts'.full.resolve_right (h.trans_le' isParts.least_le).ne'
  obtain ⟨n, hn⟩ : ∃ n : ℕ,
      ((f.parts code').2 - f.leastPlace).toNat = ((f.parts code).2 - f.leastPlace).toNat + 1 + n :=
    Nat.exists_eq_add_of_le (by have := isParts.least_le; omega)
  rw [Format.codeOf] at same same'
  rw [hn, add_mul, add_mul] at same'
  rw [pow_succ] at lt
  have := Nat.zero_le (n * 2 ^ f.fractionBits)
  omega

/-- Codes are in the order of their places and, at one place, of their mantissas. -/
theorem compare_parts {f : Format} (code code' : ℕ) :
    (compare (f.parts code).2 (f.parts code').2).then (compare (f.parts code).1 (f.parts code').1) =
      compare code code' := by
  rcases lt_trichotomy (f.parts code).2 (f.parts code').2 with below | same | above
  · rw [compare_lt_iff_lt.mpr below, compare_lt_iff_lt.mpr (lt_of_parts_lt below)]
    rfl
  · have code_eq := Format.codeOf_parts (f := f) code
    have code_eq' := Format.codeOf_parts (f := f) code'
    rw [Format.codeOf] at code_eq code_eq'
    rw [same] at code_eq
    rw [compare_eq_iff_eq.mpr same, Ordering.eq_then]
    rcases lt_trichotomy (f.parts code).1 (f.parts code').1 with below | same' | above
    · rw [compare_lt_iff_lt.mpr below, compare_lt_iff_lt.mpr (by omega)]
    · rw [compare_eq_iff_eq.mpr same', compare_eq_iff_eq.mpr (by omega)]
    · rw [compare_gt_iff_gt.mpr above, compare_gt_iff_gt.mpr (by omega)]
  · rw [compare_gt_iff_gt.mpr above, compare_gt_iff_gt.mpr (lt_of_parts_lt above)]
    rfl

theorem compare_signOf (a b : Bool) :
    compare (signOf a) (signOf b) = if a = b then .eq else if a then .lt else .gt := by
  cases a <;> cases b <;> rfl

theorem eq_compare {o : Ordering} {a b : ℤ}
    (h : match o with | .lt => a < b | .eq => a = b | .gt => b < a) : o = compare a b := by
  cases o
  · exact (compare_lt_iff_lt.mpr h).symm
  · exact (compare_eq_iff_eq.mpr h).symm
  · exact (compare_gt_iff_gt.mpr h).symm

/-- Numbers of one sign are in the order of their codes, or the other way round. -/
theorem compare_order (negative : Bool) (code code' : ℕ) :
    compare (Format.order negative code) (Format.order negative code') =
      if negative then (compare code code').swap else compare code code' := by
  symm
  rcases lt_trichotomy code code' with below | rfl | above
  · rw [compare_lt_iff_lt.mpr below]
    cases negative <;> exact eq_compare (by simp [Format.order]; omega)
  · rw [compare_eq_iff_eq.mpr rfl]
    cases negative <;> exact eq_compare rfl
  · rw [compare_gt_iff_gt.mpr above]
    cases negative <;> exact eq_compare (by simp [Format.order]; omega)

/-- **Comparison** of numbers is that of signed codes. -/
theorem compare_unpacked (wide : 1 < m.exponentBits) (negative negative' : Bool) {code code' : ℕ}
    (number : code ≤ (Format.ofModel m).infinity) (number' : code' ≤ (Format.ofModel m).infinity) :
    (unpacked m negative code).compare (unpacked m negative' code') =
      some (compare (Format.order negative code) (Format.order negative' code')) := by
  have infinity := infinity_pos wide
  rcases unpacked_cases wide negative number with ⟨zero, same⟩ | ⟨positive, finite, h, same⟩ | ⟨infinite, same⟩ <;>
  rcases unpacked_cases wide negative' number' with
    ⟨zero', same'⟩ | ⟨positive', finite', h', same'⟩ | ⟨infinite', same'⟩ <;>
  rw [same, same']
  case inr.inl.inr.inl =>
    -- Numbers of one sign are compared by place and mantissa, which is comparing their codes.
    have codes := compare_parts (f := Format.ofModel m) code code'
    cases negative <;> cases negative'
    · exact congrArg some (codes.trans (compare_order false code code').symm)
    · exact congrArg some (eq_compare (by simp [Format.order]; omega))
    · exact congrArg some (eq_compare (by simp [Format.order]; omega))
    · exact congrArg some ((congrArg Ordering.swap codes).trans (compare_order true code code').symm)
  case inr.inr.inr.inr =>
    refine congrArg some ((compare_signOf negative negative').trans ?_)
    rw [infinite, infinite']
    cases negative <;> cases negative'
    · exact eq_compare rfl
    · exact eq_compare (by simp [Format.order]; omega)
    · exact eq_compare (by simp [Format.order]; omega)
    · exact eq_compare rfl
  all_goals
    cases negative <;> cases negative' <;> exact congrArg some (eq_compare (by simp [Format.order]; omega))

end PromptLoop
