import Mathlib.Algebra.Order.Field.Power
import Mathlib.Algebra.Order.Floor.Semifield
import Mathlib.Data.Int.Log
import Mathlib.Data.Rat.Floor
import Mathlib.Tactic.Linarith
import Mathlib.Tactic.NormNum
import Mathlib.Tactic.Ring
import PromptLoop.Number.Rounding

/-!
# The nearest value of a format

The codes of a format number its values in order, and `Format.nearest` gives the code of the value that is
nearest to a ratio. Here a code has its value as a rational number (`Format.value`) and rounding is a function of
the rational number that is rounded (`Format.nearestCode`), whatever ratio it is written as.

Three facts about rounding carry all that is said about arithmetic elsewhere: it keeps order
(`Format.nearestCode_mono`), it leaves every value of the format as it is (`Format.nearestCode_value`), and it is
off by at most half a unit in the last place (`Format.abs_rounded_sub_le`).
-/

namespace PromptLoop

/-! ### Whole numbers -/

/-- The whole number nearest to a number that is not negative, a half going to the even neighbour. -/
def roundEven (q : ℚ) : ℕ :=
  if q - ⌊q⌋₊ < 1 / 2 then ⌊q⌋₊
  else if 1 / 2 < q - ⌊q⌋₊ then ⌊q⌋₊ + 1
  else ⌊q⌋₊ + ⌊q⌋₊ % 2

@[simp] theorem roundEven_natCast (n : ℕ) : roundEven n = n := by
  simp [roundEven]

theorem floor_le_roundEven (q : ℚ) : ⌊q⌋₊ ≤ roundEven q := by
  unfold roundEven
  split_ifs <;> omega

theorem roundEven_le_floor_add_one (q : ℚ) : roundEven q ≤ ⌊q⌋₊ + 1 := by
  unfold roundEven
  split_ifs <;> omega

theorem roundEven_mono {p q : ℚ} (h : p ≤ q) : roundEven p ≤ roundEven q := by
  rcases (Nat.floor_le_floor h).eq_or_lt with same | less
  · -- Between the same whole numbers the larger one has the larger fraction.
    unfold roundEven
    rw [← same]
    split_ifs <;> first | omega | (exfalso; linarith)
  · exact (roundEven_le_floor_add_one p).trans (less.trans_le (floor_le_roundEven q))

theorem abs_roundEven_sub_le {q : ℚ} (h : 0 ≤ q) : |(roundEven q : ℚ) - q| ≤ 1 / 2 := by
  have low := Nat.floor_le h
  have high := Nat.lt_floor_add_one q
  have parity : ((⌊q⌋₊ % 2 : ℕ) : ℚ) ≤ 1 := by exact_mod_cast (by omega : ⌊q⌋₊ % 2 ≤ 1)
  have parity' : (0 : ℚ) ≤ ((⌊q⌋₊ % 2 : ℕ) : ℚ) := by positivity
  rw [abs_le]
  unfold roundEven
  split_ifs <;> push_cast at * <;> constructor <;> linarith

theorem roundEven_le {q : ℚ} {n : ℕ} (h : q ≤ n) : roundEven q ≤ n := by
  have := roundEven_mono h
  rwa [roundEven_natCast] at this

theorem le_roundEven {q : ℚ} {n : ℕ} (h : (n : ℚ) ≤ q) : n ≤ roundEven q := by
  have := roundEven_mono h
  rwa [roundEven_natCast] at this

namespace Format

theorem roundRatio_eq (num : ℕ) {den : ℕ} (h : 0 < den) : roundRatio num den = roundEven (num / den : ℚ) := by
  have floor : ⌊(num / den : ℚ)⌋₊ = num / den := Nat.floor_div_eq_div num den
  have positive : (0 : ℚ) < den := by exact_mod_cast h
  have rest : (num / den : ℚ) - (num / den : ℕ) = (num % den : ℕ) / den := by
    have whole : (num : ℚ) = den * (num / den : ℕ) + (num % den : ℕ) := by
      exact_mod_cast (Nat.div_add_mod num den).symm
    rw [eq_div_iff positive.ne', sub_mul, div_mul_cancel₀ _ positive.ne']
    linarith
  have below : ((num % den : ℕ) / den : ℚ) < 1 / 2 ↔ 2 * (num % den) < den := by
    rw [div_lt_div_iff₀ positive two_pos, one_mul, mul_comm]
    exact_mod_cast Iff.rfl
  have above : (1 / 2 : ℚ) < (num % den : ℕ) / den ↔ den < 2 * (num % den) := by
    rw [div_lt_div_iff₀ two_pos positive, one_mul, mul_comm _ (2 : ℚ)]
    exact_mod_cast Iff.rfl
  simp only [roundRatio, roundEven, floor, rest, below, above]

/-! ### Codes and values -/

variable (f : Format)

theorem infinity_eq : f.infinity = (2 ^ f.exponentBits - 1) * 2 ^ f.fractionBits := by
  simp [infinity, Nat.shiftLeft_eq]

/-- The value of a code. -/
def value (code : ℕ) : ℚ := (f.parts code).1 * 2 ^ (f.parts code).2

/-- The code of a mantissa at a place, which is at or above the least place. -/
def codeOf (mantissa : ℕ) (place : ℤ) : ℕ := (place - f.leastPlace).toNat * 2 ^ f.fractionBits + mantissa

/-- A mantissa and a place as a code has them: the mantissa is full, or the place is the least. -/
structure IsParts (mantissa : ℕ) (place : ℤ) : Prop where
  least_le : f.leastPlace ≤ place
  lt : mantissa < 2 ^ (f.fractionBits + 1)
  full : 2 ^ f.fractionBits ≤ mantissa ∨ place = f.leastPlace

variable {f}

/-- The parts of a code with the least exponent. -/
theorem parts_least {code : ℕ} (least : code / 2 ^ f.fractionBits = 0) :
    f.parts code = (code % 2 ^ f.fractionBits, f.leastPlace) := by
  simp [parts, Nat.shiftRight_eq_div_pow, Nat.one_shiftLeft, least]

/-- The parts of a code with another exponent. -/
theorem parts_above {code : ℕ} (above : code / 2 ^ f.fractionBits ≠ 0) :
    f.parts code = (2 ^ f.fractionBits + code % 2 ^ f.fractionBits,
      f.leastPlace + (code / 2 ^ f.fractionBits - 1 : ℕ)) := by
  simp [parts, Nat.shiftRight_eq_div_pow, Nat.one_shiftLeft, above]

theorem isParts_parts (code : ℕ) : f.IsParts (f.parts code).1 (f.parts code).2 := by
  have fraction := Nat.mod_lt code (Nat.two_pow_pos f.fractionBits)
  by_cases least : code / 2 ^ f.fractionBits = 0
  · rw [parts_least least]
    exact ⟨le_rfl, by rw [pow_succ]; omega, .inr rfl⟩
  · rw [parts_above least]
    exact ⟨by omega, by rw [pow_succ]; omega, .inl (Nat.le_add_right _ _)⟩

@[simp] theorem codeOf_parts (code : ℕ) : f.codeOf (f.parts code).1 (f.parts code).2 = code := by
  have split := Nat.div_add_mod code (2 ^ f.fractionBits)
  by_cases least : code / 2 ^ f.fractionBits = 0
  · rw [least] at split
    rw [parts_least least, codeOf]
    simpa using split
  · obtain ⟨n, some⟩ := Nat.exists_eq_succ_of_ne_zero least
    rw [some] at split
    rw [parts_above least, codeOf, some, Nat.succ_eq_add_one, Nat.add_sub_cancel]
    rw [show f.leastPlace + (n : ℤ) - f.leastPlace = n by ring, Int.toNat_natCast]
    linarith

theorem IsParts.parts_codeOf {mantissa : ℕ} {place : ℤ} (h : f.IsParts mantissa place) :
    f.parts (f.codeOf mantissa place) = (mantissa, place) := by
  obtain ⟨n, rfl⟩ := Int.le.dest h.least_le
  have small := h.lt
  have power := Nat.two_pow_pos f.fractionBits
  rw [pow_succ] at small
  unfold parts codeOf
  simp only [Nat.shiftRight_eq_div_pow, Nat.one_shiftLeft, add_sub_cancel_left, Int.toNat_natCast]
  rw [Nat.mul_add_mod_self_right, mul_comm n, Nat.mul_add_div power]
  rcases Nat.lt_or_ge mantissa (2 ^ f.fractionBits) with short | full
  · have least : n = 0 := by
      rcases h.full with full | least
      · omega
      · omega
    simp [least, Nat.div_eq_of_lt short, Nat.mod_eq_of_lt short]
  · have one : mantissa / 2 ^ f.fractionBits = 1 := Nat.div_eq_of_lt_le (by omega) (by omega)
    have rest : mantissa % 2 ^ f.fractionBits = mantissa - 2 ^ f.fractionBits := by
      have := Nat.div_add_mod mantissa (2 ^ f.fractionBits)
      rw [one] at this
      omega
    rw [one, rest, if_neg (by omega)]
    ext
    · simp only
      omega
    · simp

/-- The value of a mantissa at a place. A mantissa may also be the next power of two. -/
theorem value_codeOf {mantissa : ℕ} {place : ℤ} (least_le : f.leastPlace ≤ place)
    (le : mantissa ≤ 2 ^ (f.fractionBits + 1)) (full : 2 ^ f.fractionBits ≤ mantissa ∨ place = f.leastPlace) :
    f.value (f.codeOf mantissa place) = mantissa * 2 ^ place := by
  rcases le.lt_or_eq with lt | rfl
  · rw [value, IsParts.parts_codeOf ⟨least_le, lt, full⟩]
  · have same : f.codeOf (2 ^ (f.fractionBits + 1)) place = f.codeOf (2 ^ f.fractionBits) (place + 1) := by
      unfold codeOf
      rw [show (place + 1 - f.leastPlace).toNat = (place - f.leastPlace).toNat + 1 by omega]
      ring
    have power := Nat.two_pow_pos f.fractionBits
    rw [same, value, IsParts.parts_codeOf ⟨by omega, by rw [pow_succ]; omega, .inl le_rfl⟩]
    push_cast
    rw [zpow_add_one₀ two_ne_zero, pow_succ]
    ring

theorem value_nonneg (code : ℕ) : 0 ≤ f.value code := by
  unfold value
  positivity

@[simp] theorem value_zero : f.value 0 = 0 := by
  simp [value, parts]

/-! ### Rounding -/

/-- The place of the last digit that is kept of a number. -/
def lastPlace (f : Format) (q : ℚ) : ℤ := max f.leastPlace (Int.log 2 q - f.fractionBits)

/-- The code of the value that is nearest to a number that is not negative. -/
def nearestCode (f : Format) (q : ℚ) : ℕ :=
  if q = 0 then 0 else min f.infinity (f.codeOf (roundEven (q / 2 ^ f.lastPlace q)) (f.lastPlace q))

theorem leastPlace_le_lastPlace (q : ℚ) : f.leastPlace ≤ f.lastPlace q := le_max_left _ _

theorem lastPlace_mono {p q : ℚ} (positive : 0 < p) (h : p ≤ q) : f.lastPlace p ≤ f.lastPlace q :=
  max_le_max_left _ (sub_le_sub_right (Int.log_mono_right positive h) _)

/-- Rounded at its last place, a number has no more digits than fit, or is the next power of two. -/
theorem scaled_lt (q : ℚ) : q / 2 ^ f.lastPlace q < 2 ^ (f.fractionBits + 1) := by
  rw [div_lt_iff₀ (by positivity), ← zpow_natCast (2 : ℚ), ← zpow_add₀ two_ne_zero]
  refine (Int.lt_zpow_succ_log_self (by norm_num : 1 < 2) q).trans_le ?_
  refine zpow_le_zpow_right₀ one_le_two ?_
  have := le_max_right f.leastPlace (Int.log 2 q - f.fractionBits)
  unfold lastPlace
  push_cast
  omega

/-- Away from the least place, a number has as many digits as fit. -/
theorem le_scaled {q : ℚ} (positive : 0 < q) (far : f.lastPlace q ≠ f.leastPlace) :
    (2 ^ f.fractionBits : ℚ) ≤ q / 2 ^ f.lastPlace q := by
  have place : f.lastPlace q = Int.log 2 q - f.fractionBits := by
    unfold lastPlace at far ⊢
    omega
  rw [le_div_iff₀ (by positivity), ← zpow_natCast (2 : ℚ), ← zpow_add₀ two_ne_zero, place,
    add_sub_cancel]
  exact Int.zpow_log_le_self (by norm_num : 1 < 2) positive

/-- What a number is rounded to, in units of its last place. -/
theorem mantissa_le (q : ℚ) :
    roundEven (q / 2 ^ f.lastPlace q) ≤ 2 ^ (f.fractionBits + 1) :=
  roundEven_le (by exact_mod_cast (scaled_lt q).le)

theorem mantissa_full {q : ℚ} (positive : 0 < q) :
    2 ^ f.fractionBits ≤ roundEven (q / 2 ^ f.lastPlace q) ∨ f.lastPlace q = f.leastPlace := by
  by_cases far : f.lastPlace q = f.leastPlace
  · exact .inr far
  · exact .inl (le_roundEven (by exact_mod_cast le_scaled positive far))

theorem nearestCode_le_infinity (q : ℚ) : f.nearestCode q ≤ f.infinity := by
  unfold nearestCode
  split_ifs
  · exact Nat.zero_le _
  · exact min_le_left _ _

@[simp] theorem nearestCode_zero : f.nearestCode 0 = 0 := by
  simp [nearestCode]

/-- **Rounding keeps order.** -/
theorem nearestCode_mono {p q : ℚ} (nonneg : 0 ≤ p) (h : p ≤ q) : f.nearestCode p ≤ f.nearestCode q := by
  rcases nonneg.eq_or_lt with rfl | positive
  · rw [nearestCode_zero]
    exact Nat.zero_le _
  have positive' : 0 < q := positive.trans_le h
  rw [nearestCode, nearestCode, if_neg positive.ne', if_neg positive'.ne']
  refine min_le_min_left _ ?_
  rcases (lastPlace_mono (f := f) positive h).eq_or_lt with same | further
  · rw [same]
    exact Nat.add_le_add_left (roundEven_mono (div_le_div_of_nonneg_right h (by positivity))) _
  · -- The larger number has a higher last place and a full mantissa there.
    have least := leastPlace_le_lastPlace (f := f) p
    have high := mantissa_le (f := f) p
    have full : 2 ^ f.fractionBits ≤ roundEven (q / 2 ^ f.lastPlace q) :=
      (mantissa_full (f := f) positive').resolve_right (by omega)
    obtain ⟨n, places⟩ : ∃ n : ℕ,
        (f.lastPlace q - f.leastPlace).toNat = (f.lastPlace p - f.leastPlace).toNat + 1 + n :=
      Nat.exists_eq_add_of_le (by omega)
    unfold codeOf
    rw [places, add_mul, add_mul]
    rw [pow_succ] at high
    have := Nat.zero_le (n * 2 ^ f.fractionBits)
    omega

theorem log_lt_of_fits {mantissa : ℕ} (positive : 0 < mantissa) (lt : mantissa < 2 ^ (f.fractionBits + 1))
    (place : ℤ) : Int.log 2 (mantissa * 2 ^ place : ℚ) < f.fractionBits + 1 + place := by
  rw [← Int.lt_zpow_iff_log_lt (by norm_num) (by positivity)]
  push_cast
  rw [zpow_add₀ two_ne_zero]
  exact mul_lt_mul_of_pos_right (by exact_mod_cast lt) (by positivity)

/-- A mantissa at a place, at least the least place, is as near to itself as can be. -/
theorem nearestCode_mul_zpow {mantissa : ℕ} {place : ℤ} (h : f.IsParts mantissa place) :
    f.nearestCode (mantissa * 2 ^ place) = min f.infinity (f.codeOf mantissa place) := by
  rcases mantissa.eq_zero_or_pos with rfl | positive
  · have least : place = f.leastPlace := by
      rcases h.full with full | least
      · exact absurd full (Nat.not_le.mpr (Nat.two_pow_pos _))
      · exact least
    simp [codeOf, least]
  have number : (0 : ℚ) < mantissa * 2 ^ place := by positivity
  have last : f.lastPlace (mantissa * 2 ^ place : ℚ) = place := by
    have log_lt := log_lt_of_fits positive h.lt place
    unfold lastPlace
    rcases h.full with full | least
    · have le_log : (f.fractionBits : ℤ) + place ≤ Int.log 2 (mantissa * 2 ^ place : ℚ) := by
        rw [← Int.zpow_le_iff_le_log (by norm_num) number]
        push_cast
        rw [zpow_add₀ two_ne_zero]
        exact mul_le_mul_of_nonneg_right (by exact_mod_cast full) (by positivity)
      have := h.least_le
      omega
    · omega
  rw [nearestCode, if_neg number.ne', last, mul_div_cancel_right₀ _ (by positivity), roundEven_natCast]

/-- **Rounding leaves values as they are.** -/
theorem nearestCode_value {code : ℕ} (finite : code ≤ f.infinity) : f.nearestCode (f.value code) = code := by
  rw [value, nearestCode_mul_zpow (isParts_parts code), codeOf_parts, min_eq_right finite]

/-- Codes are in the order of their values. -/
theorem value_lt_value {a b : ℕ} (finite : b ≤ f.infinity) (h : a < b) : f.value a < f.value b := by
  by_contra! le
  have := nearestCode_mono (f := f) (value_nonneg b) le
  rw [nearestCode_value finite, nearestCode_value (h.le.trans finite)] at this
  omega

theorem value_le_value {a b : ℕ} (finite : b ≤ f.infinity) (h : a ≤ b) : f.value a ≤ f.value b := by
  rcases h.eq_or_lt with rfl | less
  · exact le_rfl
  · exact (value_lt_value finite less).le

theorem value_pos {code : ℕ} (finite : code ≤ f.infinity) (h : code ≠ 0) : 0 < f.value code := by
  have := value_lt_value finite (Nat.pos_of_ne_zero h)
  rwa [value_zero] at this

/-- A value of a format is apart from the ones below it by at least this part of it. -/
theorem div_le_value_sub {code code' : ℕ} (finite : code ≤ f.infinity) (h : code' < code) :
    f.value code / 2 ^ (f.fractionBits + 1) ≤ f.value code - f.value code' := by
  have isParts := isParts_parts (f := f) code
  have same := codeOf_parts (f := f) code
  have value : f.value code = (f.parts code).1 * 2 ^ (f.parts code).2 := rfl
  generalize (f.parts code).1 = mantissa at *
  generalize (f.parts code).2 = place at *
  have unit : (0 : ℚ) < 2 ^ place := by positivity
  have bound : (mantissa : ℚ) ≤ 2 ^ (f.fractionBits + 1) := by exact_mod_cast isParts.lt.le
  have below : f.value code' ≤ f.value (code - 1) := value_le_value (by omega) (by omega)
  by_cases inside : 2 ^ f.fractionBits < mantissa ∨ place = f.leastPlace
  · have positive : 0 < mantissa := by
      rcases inside with large | least
      · exact Nat.zero_lt_of_lt large
      · rw [codeOf, least, sub_self, Int.toNat_zero, zero_mul] at same
        omega
    have before : f.codeOf (mantissa - 1) place = code - 1 := by
      rw [← same, codeOf, codeOf]
      omega
    rw [← before,
      value_codeOf isParts.least_le (by have := isParts.lt; omega) (inside.imp_left fun h => by omega)] at below
    push_cast [Nat.one_le_iff_ne_zero.mpr positive.ne'] at below
    rw [value, div_le_iff₀ (by positivity)]
    nlinarith [mul_le_mul_of_nonneg_left bound unit.le]
  · -- The least full mantissa: the number before it is at the place below.
    push Not at inside
    have full : mantissa = 2 ^ f.fractionBits :=
      le_antisymm inside.1 (isParts.full.resolve_right inside.2)
    have power := Nat.two_pow_pos f.fractionBits
    have lower : f.leastPlace ≤ place - 1 := by
      have := isParts.least_le
      have := inside.2
      omega
    obtain ⟨n, hn⟩ : ∃ n, (place - f.leastPlace).toNat = n + 1 := Nat.exists_eq_succ_of_ne_zero (by omega)
    have before : f.codeOf (2 ^ (f.fractionBits + 1) - 1) (place - 1) = code - 1 := by
      rw [← same, codeOf, codeOf, hn, show (place - 1 - f.leastPlace).toNat = n by omega, full, add_mul, pow_succ]
      omega
    rw [← before, value_codeOf lower (Nat.sub_le _ _) (.inl (by rw [pow_succ]; omega))] at below
    have half : (2 : ℚ) ^ place = 2 * 2 ^ (place - 1) := by
      rw [← zpow_one_add₀ two_ne_zero, add_sub_cancel]
    push_cast [Nat.one_le_two_pow] at below
    rw [value, full, half, div_le_iff₀ (by positivity)]
    push_cast
    rw [pow_succ] at below ⊢
    have apart : (2 : ℚ) ^ (place - 1) ≤ 2 ^ f.fractionBits * (2 * 2 ^ (place - 1)) - f.value code' := by linarith
    have := mul_le_mul_of_nonneg_right apart (show (0 : ℚ) ≤ 2 ^ f.fractionBits * 2 by positivity)
    linarith

/-- What a number is rounded to. -/
theorem value_nearestCode {q : ℚ} (positive : 0 < q) (finite : f.nearestCode q < f.infinity) :
    f.value (f.nearestCode q) = roundEven (q / 2 ^ f.lastPlace q) * 2 ^ f.lastPlace q := by
  rw [nearestCode, if_neg positive.ne'] at finite ⊢
  rw [min_eq_right (by omega)]
  exact value_codeOf (leastPlace_le_lastPlace q) (mantissa_le q) (mantissa_full positive)

/-- Rounding is off by at most half a unit in the last place. -/
theorem abs_value_nearestCode_sub_le {q : ℚ} (positive : 0 < q) (finite : f.nearestCode q < f.infinity) :
    |f.value (f.nearestCode q) - q| ≤ 2 ^ f.lastPlace q / 2 := by
  have unit : (0 : ℚ) < 2 ^ f.lastPlace q := by positivity
  have off := abs_roundEven_sub_le (show 0 ≤ q / 2 ^ f.lastPlace q by positivity)
  rw [value_nearestCode positive finite]
  calc |(roundEven (q / 2 ^ f.lastPlace q) : ℚ) * 2 ^ f.lastPlace q - q|
      = |(roundEven (q / 2 ^ f.lastPlace q) : ℚ) - q / 2 ^ f.lastPlace q| * 2 ^ f.lastPlace q := by
        rw [← abs_of_pos unit, ← abs_mul, abs_of_pos unit, sub_mul, div_mul_cancel₀ _ unit.ne']
    _ ≤ 1 / 2 * 2 ^ f.lastPlace q := mul_le_mul_of_nonneg_right off unit.le
    _ = 2 ^ f.lastPlace q / 2 := by ring

/-- Rounding leaves a number as it is that has no more digits than fit at a place. -/
theorem value_nearestCode_of_fits {mantissa : ℕ} {place : ℤ} (lt : mantissa < 2 ^ (f.fractionBits + 1))
    (least_le : f.leastPlace ≤ place) (finite : f.nearestCode (mantissa * 2 ^ place) < f.infinity) :
    f.value (f.nearestCode (mantissa * 2 ^ place)) = mantissa * 2 ^ place := by
  rcases mantissa.eq_zero_or_pos with rfl | positive
  · simp
  have number : (0 : ℚ) < mantissa * 2 ^ place := by positivity
  have log_lt := log_lt_of_fits positive lt place
  have fine : f.lastPlace (mantissa * 2 ^ place) ≤ place := by
    unfold lastPlace
    omega
  obtain ⟨n, hn⟩ := Int.le.dest fine
  have whole : (mantissa * 2 ^ place / 2 ^ f.lastPlace (mantissa * 2 ^ place) : ℚ) = (mantissa * 2 ^ n : ℕ) := by
    rw [div_eq_iff (by positivity)]
    conv_lhs => rw [← hn, zpow_add₀ two_ne_zero, zpow_natCast]
    push_cast
    ring
  rw [value_nearestCode number finite, whole, roundEven_natCast, ← whole, div_mul_cancel₀ _ (by positivity)]

theorem nearestCode_lt_infinity {q : ℚ} (bound : ℚ) (nonneg : 0 ≤ q) (le : q ≤ bound)
    (finite : f.nearestCode bound < f.infinity) : f.nearestCode q < f.infinity :=
  (nearestCode_mono nonneg le).trans_lt finite

/-! ### Numbers with a sign -/

/-- What a number of either sign is rounded to. -/
def rounded (f : Format) (q : ℚ) : ℚ := if q < 0 then -f.value (f.nearestCode (-q)) else f.value (f.nearestCode q)

theorem rounded_of_nonneg {q : ℚ} (h : 0 ≤ q) : f.rounded q = f.value (f.nearestCode q) := if_neg h.not_gt

@[simp] theorem rounded_zero : f.rounded 0 = 0 := by
  rw [rounded_of_nonneg le_rfl, nearestCode_zero, value_zero]

theorem rounded_neg (q : ℚ) : f.rounded (-q) = -f.rounded q := by
  rcases lt_trichotomy q 0 with negative | rfl | positive
  · rw [rounded_of_nonneg (by linarith), rounded, if_pos negative, neg_neg]
  · simp
  · rw [rounded_of_nonneg positive.le, rounded, if_pos (by linarith), neg_neg]

theorem rounded_nonneg {q : ℚ} (h : 0 ≤ q) : 0 ≤ f.rounded q := by
  rw [rounded_of_nonneg h]
  exact value_nonneg _

theorem rounded_mono {p q : ℚ} (h : p ≤ q) : f.rounded p ≤ f.rounded q := by
  have nonneg : ∀ {p q : ℚ}, 0 ≤ p → p ≤ q → f.rounded p ≤ f.rounded q := by
    intro p q nonneg h
    rw [rounded_of_nonneg nonneg, rounded_of_nonneg (nonneg.trans h)]
    exact value_le_value (nearestCode_le_infinity q) (nearestCode_mono nonneg h)
  rcases le_total 0 p with positive | negative
  · exact nonneg positive h
  rcases le_total 0 q with positive | negative'
  · have below := rounded_nonneg (f := f) (neg_nonneg.mpr negative)
    rw [rounded_neg] at below
    exact (neg_nonneg.mp below).trans (rounded_nonneg positive)
  · have := nonneg (neg_nonneg.mpr negative') (neg_le_neg h)
    rwa [rounded_neg, rounded_neg, neg_le_neg_iff] at this

/-- Rounding leaves a number as it is that has no more digits than fit, of either sign. -/
theorem rounded_of_fits {mantissa : ℕ} {place : ℤ} (lt : mantissa < 2 ^ (f.fractionBits + 1))
    (least_le : f.leastPlace ≤ place) (finite : f.nearestCode (mantissa * 2 ^ place) < f.infinity) :
    f.rounded (mantissa * 2 ^ place) = mantissa * 2 ^ place := by
  rw [rounded_of_nonneg (by positivity), value_nearestCode_of_fits lt least_le finite]

/-- **Rounding is off by little**, compared with any bound on the number that is no less than the least full
mantissa. -/
theorem abs_rounded_sub_le {q bound : ℚ} (le : |q| ≤ bound) (normal : 2 ^ (f.leastPlace + f.fractionBits) ≤ bound)
    (finite : f.nearestCode bound < f.infinity) : |f.rounded q - q| ≤ bound / 2 ^ (f.fractionBits + 1) := by
  have positive_case : ∀ {q : ℚ}, 0 < q → q ≤ bound → |f.rounded q - q| ≤ bound / 2 ^ (f.fractionBits + 1) := by
    intro q positive le
    rw [rounded_of_nonneg positive.le]
    refine (abs_value_nearestCode_sub_le positive (nearestCode_lt_infinity bound positive.le le finite)).trans ?_
    have unit : (2 : ℚ) ^ f.lastPlace q * 2 ^ f.fractionBits ≤ bound := by
      by_cases far : f.lastPlace q = f.leastPlace
      · rwa [far, ← zpow_natCast (2 : ℚ) f.fractionBits, ← zpow_add₀ two_ne_zero]
      · have := le_scaled positive far
        rw [le_div_iff₀ (by positivity), mul_comm] at this
        exact this.trans le
    rw [div_le_div_iff₀ two_pos (by positivity), pow_succ]
    linarith
  rcases lt_trichotomy q 0 with negative | rfl | positive
  · have off := positive_case (neg_pos.mpr negative) ((neg_le_abs q).trans le)
    rwa [rounded_neg, ← neg_sub', abs_neg] at off
  · have : 0 ≤ bound := (abs_nonneg _).trans le
    rw [rounded_zero, sub_zero, abs_zero]
    positivity
  · exact positive_case positive ((le_abs_self q).trans le)

/-! ### Reading ratios -/

/-- The power of two at or below a number is the only one with the number between it and the next. -/
theorem log_eq_of_between {q : ℚ} {place : ℤ} (low : 2 ^ place ≤ q) (high : q < 2 ^ (place + 1)) :
    Int.log 2 q = place := by
  have positive : 0 < q := lt_of_lt_of_le (by positivity) low
  have le_log : place ≤ Int.log 2 q := (Int.zpow_le_iff_le_log (by norm_num) positive).mp (by exact_mod_cast low)
  have log_lt : Int.log 2 q < place + 1 :=
    (Int.lt_zpow_iff_log_lt (by norm_num) positive).mp (by exact_mod_cast high)
  omega

theorem floorLog_eq {num den : ℕ} (hn : 0 < num) (hd : 0 < den) :
    floorLog num den = Int.log 2 (num / den : ℚ) := by
  have den_pos : (0 : ℚ) < den := by exact_mod_cast hd
  obtain ⟨guess, hg⟩ : ∃ guess : ℤ, guess = (num.log2 : ℤ) - den.log2 := ⟨_, rfl⟩
  have num_low : (2 : ℚ) ^ num.log2 ≤ num := by exact_mod_cast Nat.log2_self_le hn.ne'
  have num_high : (num : ℚ) < 2 ^ (num.log2 + 1) := by exact_mod_cast Nat.lt_log2_self
  have den_low : (2 : ℚ) ^ den.log2 ≤ den := by exact_mod_cast Nat.log2_self_le hd.ne'
  have den_high : (den : ℚ) < 2 ^ (den.log2 + 1) := by exact_mod_cast Nat.lt_log2_self
  -- The ratio lies less than one power of two below the guess and less than one above it.
  have low : (2 : ℚ) ^ (guess - 1) ≤ num / den := by
    rw [le_div_iff₀ den_pos]
    calc (2 : ℚ) ^ (guess - 1) * den ≤ 2 ^ (guess - 1) * 2 ^ (den.log2 + 1) := by gcongr
      _ = 2 ^ num.log2 := by
        rw [← zpow_natCast, ← zpow_natCast, ← zpow_add₀ two_ne_zero]
        congr 1
        push_cast
        omega
      _ ≤ num := num_low
  have high : (num / den : ℚ) < 2 ^ (guess + 1) := by
    rw [div_lt_iff₀ den_pos]
    calc (num : ℚ) < 2 ^ (num.log2 + 1) := num_high
      _ = 2 ^ (guess + 1) * 2 ^ den.log2 := by
        rw [← zpow_natCast, ← zpow_natCast, ← zpow_add₀ two_ne_zero]
        congr 1
        push_cast
        omega
      _ ≤ 2 ^ (guess + 1) * den := by gcongr
  have below_iff : (if 0 ≤ guess then num < den <<< guess.toNat else num <<< (-guess).toNat < den) ↔
      (num / den : ℚ) < 2 ^ guess := by
    rw [div_lt_iff₀ den_pos]
    split_ifs with sign
    · obtain ⟨n, rfl⟩ := Int.eq_ofNat_of_zero_le sign
      rw [Int.toNat_natCast, Nat.shiftLeft_eq, zpow_natCast, mul_comm]
      exact_mod_cast Iff.rfl
    · obtain ⟨n, hn⟩ := Int.eq_ofNat_of_zero_le (by omega : 0 ≤ -guess)
      rw [hn, Int.toNat_natCast, Nat.shiftLeft_eq, show guess = -(n : ℤ) by omega, zpow_neg, zpow_natCast,
        inv_mul_eq_div, lt_div_iff₀ (by positivity)]
      exact_mod_cast Iff.rfl
  unfold floorLog
  simp only [← hg]
  by_cases below : (num / den : ℚ) < 2 ^ guess
  · rw [if_pos (below_iff.mpr below), log_eq_of_between low (by rwa [sub_add_cancel])]
  · rw [if_neg (mt below_iff.mp below), log_eq_of_between (not_lt.mp below) high]

theorem unitsAt_eq (num : ℕ) {den : ℕ} (hd : 0 < den) (place : ℤ) :
    unitsAt num den place = roundEven (num / den / 2 ^ place : ℚ) := by
  unfold unitsAt
  split_ifs with sign
  · obtain ⟨n, rfl⟩ := Int.eq_ofNat_of_zero_le sign
    rw [Int.toNat_natCast, Nat.shiftLeft_eq, roundRatio_eq _ (by positivity), zpow_natCast, div_div]
    push_cast
    rfl
  · obtain ⟨n, hn⟩ := Int.eq_ofNat_of_zero_le (by omega : 0 ≤ -place)
    rw [hn, Int.toNat_natCast, Nat.shiftLeft_eq, roundRatio_eq _ hd, show place = -(n : ℤ) by omega, zpow_neg,
      zpow_natCast, div_inv_eq_mul]
    push_cast
    rw [div_mul_eq_mul_div]

/-- **Reading a ratio is rounding it.** -/
theorem nearest_eq (f : Format) (num : ℕ) {den : ℕ} (hd : 0 < den) :
    f.nearest num den = f.nearestCode (num / den) := by
  rcases num.eq_zero_or_pos with rfl | hn
  · simp [nearest]
  have positive : (0 : ℚ) < num / den := by positivity
  rw [nearest, nearestCode, if_neg hn.ne', if_neg positive.ne', floorLog_eq hn hd]
  simp only [Nat.shiftLeft_eq, unitsAt_eq num hd]
  rfl

theorem nearestScaled_eq (f : Format) (mantissa : ℕ) (place : ℤ) :
    f.nearestScaled mantissa place = f.nearestCode (mantissa * 2 ^ place) := by
  unfold nearestScaled
  split_ifs with sign
  · obtain ⟨n, rfl⟩ := Int.eq_ofNat_of_zero_le sign
    rw [nearest_eq f _ one_pos, Int.toNat_natCast, Nat.shiftLeft_eq, zpow_natCast]
    push_cast
    rw [div_one]
  · obtain ⟨n, hn⟩ := Int.eq_ofNat_of_zero_le (by omega : 0 ≤ -place)
    rw [hn, Int.toNat_natCast, Nat.one_shiftLeft, nearest_eq f _ (Nat.two_pow_pos n), show place = -(n : ℤ) by omega,
      zpow_neg, zpow_natCast]
    push_cast
    rw [div_eq_mul_inv]

end Format

end PromptLoop
