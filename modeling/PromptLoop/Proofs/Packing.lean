import Mathlib.Data.Nat.Bitwise
import PromptLoop.Proofs.Nearest

/-!
# Numbers as words

The core library computes with numbers in three steps: it takes a word apart into a sign, a mantissa and a place,
works with these, and puts the rounded result together as a word. A word is a sign in front of a code
(`Format.word`). Here the first and the last step are said in terms of codes: a word is taken apart into the
mantissa and the place of its code (`unpack_word`), and a mantissa is rounded and put together as the nearest code
(`toNat_pack_roundWithAccuracy`).
-/

namespace PromptLoop

open Float.Model.UnpackedFloat

/-- The format of the core library's description of it. -/
def Format.ofModel (m : Float.Model.Format) : Format := ⟨m.mantissaBitsWithoutImplicit, m.exponentBits⟩

/-- A code with a sign in front of it. -/
def Format.word (f : Format) (negative : Bool) (code : ℕ) : ℕ :=
  (if negative then 2 ^ (f.exponentBits + f.fractionBits) else 0) + code

/-- The sign that a flag stands for. -/
def signOf (negative : Bool) : Sign := if negative then .negative else .positive

namespace Format

variable {m : Float.Model.Format}

@[simp] theorem fractionBits_ofModel : (ofModel m).fractionBits = m.mantissaBitsWithoutImplicit := rfl

@[simp] theorem exponentBits_ofModel : (ofModel m).exponentBits = m.exponentBits := rfl

theorem mantissaBits_eq : m.mantissaBits = 1 + m.mantissaBitsWithoutImplicit := rfl

theorem minExponent_eq : m.minExponent = (ofModel m).leastPlace := by
  simp only [Float.Model.Format.minExponent, mantissaBits_eq, leastPlace, exponentBits_ofModel,
    fractionBits_ofModel, Nat.one_shiftLeft]
  push_cast
  omega

theorem leastPlace_eq : (ofModel m).leastPlace = 1 - m.exponentBias - m.mantissaBitsWithoutImplicit := by
  have power := Nat.two_pow_pos (m.exponentBits - 1)
  simp only [leastPlace, exponentBits_ofModel, fractionBits_ofModel, Nat.one_shiftLeft,
    Float.Model.Format.exponentBias]
  omega

theorem targetExponent_eq (total : ℤ) :
    m.targetExponent total = max (ofModel m).leastPlace (total - 1 - m.mantissaBitsWithoutImplicit) := by
  rw [Float.Model.Format.targetExponent, minExponent_eq, mantissaBits_eq, max_comm]
  push_cast
  rw [sub_sub]

end Format

variable {m : Float.Model.Format}

/-! ### Putting words together -/

theorem toNat_packComponents (s : Sign) (exponent : BitVec m.exponentBits)
    (mantissa : BitVec m.mantissaBitsWithoutImplicit) :
    (packComponents m s exponent mantissa).toNat =
      s.toBitVec.toNat * 2 ^ (m.exponentBits + m.mantissaBitsWithoutImplicit) +
        (exponent.toNat * 2 ^ m.mantissaBitsWithoutImplicit + mantissa.toNat) := by
  rw [packComponents, BitVec.toNat_append, BitVec.toNat_append,
    ← Nat.shiftLeft_add_eq_or_of_lt exponent.isLt, ← Nat.shiftLeft_add_eq_or_of_lt mantissa.isLt]
  simp only [Nat.shiftLeft_eq, pow_add]
  ring

@[simp] theorem toNat_toBitVec_signOf (negative : Bool) :
    (signOf negative).toBitVec.toNat = if negative then 1 else 0 := by
  cases negative <;> rfl

theorem toNat_packComponents_signOf (negative : Bool) (exponent : BitVec m.exponentBits)
    (mantissa : BitVec m.mantissaBitsWithoutImplicit) :
    (packComponents m (signOf negative) exponent mantissa).toNat =
      (Format.ofModel m).word negative (exponent.toNat * 2 ^ m.mantissaBitsWithoutImplicit + mantissa.toNat) := by
  rw [toNat_packComponents, toNat_toBitVec_signOf, Format.word]
  cases negative <;> simp

theorem toNat_packedInfinity (negative : Bool) :
    (packedInfinity m (signOf negative)).toNat = (Format.ofModel m).word negative (Format.ofModel m).infinity := by
  rw [packedInfinity, toNat_packComponents_signOf, Format.infinity_eq, BitVec.neg_one_eq_allOnes,
    BitVec.toNat_allOnes]
  simp

theorem toNat_packedZero (negative : Bool) :
    (packedZero m (signOf negative)).toNat = (Format.ofModel m).word negative 0 := by
  rw [packedZero, toNat_packComponents_signOf]
  simp

/-- A mantissa at a place is put together as its code, or as infinity if that is too large. -/
theorem toNat_pack_finite (wide : 1 < m.exponentBits) (negative : Bool) {mantissa : ℕ} {place : ℤ}
    (positive : 0 < mantissa) (h : (Format.ofModel m).IsParts mantissa place) :
    (pack m (.finite (signOf negative) mantissa place positive)).toNat =
      (Format.ofModel m).word negative
        (min (Format.ofModel m).infinity ((Format.ofModel m).codeOf mantissa place)) := by
  obtain ⟨n, rfl⟩ := Int.le.dest h.least_le
  have capacity : 2 ^ 2 ≤ 2 ^ m.exponentBits := Nat.pow_le_pow_right two_pos wide
  have power := Nat.two_pow_pos m.mantissaBitsWithoutImplicit
  have small : mantissa < 2 * 2 ^ m.mantissaBitsWithoutImplicit := by
    have := h.lt
    rw [pow_succ] at this
    simpa [mul_comm] using this
  have full : 2 ^ m.mantissaBitsWithoutImplicit ≤ mantissa ∨ n = 0 := by
    have := h.full
    simpa using this
  have long_iff : mantissa.log2 = m.mantissaBitsWithoutImplicit ↔ 2 ^ m.mantissaBitsWithoutImplicit ≤ mantissa := by
    rw [Nat.log2_eq_iff positive.ne']
    exact and_iff_left h.lt
  have biased : ((Format.ofModel m).leastPlace + n + m.exponentBias + m.mantissaBitsWithoutImplicit : ℤ).toNat =
      n + 1 := by
    rw [Format.leastPlace_eq]
    omega
  have code : (Format.ofModel m).codeOf mantissa ((Format.ofModel m).leastPlace + n) =
      n * 2 ^ m.mantissaBitsWithoutImplicit + mantissa := by
    simp [Format.codeOf]
  have infinity : (Format.ofModel m).infinity = (2 ^ m.exponentBits - 1) * 2 ^ m.mantissaBitsWithoutImplicit :=
    Format.infinity_eq _
  unfold pack
  dsimp only
  rw [biased, code]
  split_ifs with large normal
  · -- The exponent is that of infinity or beyond.
    have above : 2 ^ m.exponentBits - 1 ≤ n + 1 := by omega
    have := Nat.mul_le_mul_right (2 ^ m.mantissaBitsWithoutImplicit) above
    rw [add_mul] at this
    rw [toNat_packedInfinity, min_eq_left (by omega)]
  · -- The first digit of a full mantissa is left out, and it counts one in the exponent.
    have below : n + 2 ≤ 2 ^ m.exponentBits - 1 := by omega
    have := Nat.mul_le_mul_right (2 ^ m.mantissaBitsWithoutImplicit) below
    rw [add_mul] at this
    have long : 2 ^ m.mantissaBitsWithoutImplicit ≤ mantissa := by
      rw [Format.mantissaBits_eq] at normal
      exact long_iff.mp (by omega)
    have rest : mantissa % 2 ^ m.mantissaBitsWithoutImplicit = mantissa - 2 ^ m.mantissaBitsWithoutImplicit := by
      rw [Nat.mod_eq_sub_mod long, Nat.mod_eq_of_lt (by omega)]
    rw [toNat_packComponents_signOf, BitVec.toNat_ofNat, BitVec.toNat_ofNat, rest,
      Nat.mod_eq_of_lt (by omega : n + 1 < 2 ^ m.exponentBits), min_eq_right (by omega), add_mul]
    congr 1
    omega
  · -- The mantissa is short, which it is only at the least place.
    have short : mantissa < 2 ^ m.mantissaBitsWithoutImplicit := by
      rw [Format.mantissaBits_eq] at normal
      exact not_le.mp fun long => normal (by rw [long_iff.mpr long, add_comm])
    have least : n = 0 := full.resolve_left (Nat.not_le.mpr short)
    have := Nat.mul_le_mul_right (2 ^ m.mantissaBitsWithoutImplicit) (by omega : 1 ≤ 2 ^ m.exponentBits - 1)
    rw [toNat_packComponents_signOf, BitVec.toNat_ofNat, BitVec.toNat_ofNat, Nat.mod_eq_of_lt short, least,
      min_eq_right (by omega)]
    simp

/-! ### Taking words apart -/

/-- What a sign and a code are taken apart into. -/
def unpacked (m : Float.Model.Format) (negative : Bool) (code : ℕ) : Float.Model.UnpackedFloat :=
  if (Format.ofModel m).infinity < code then .notANumber
  else if code = (Format.ofModel m).infinity then .infinity (signOf negative)
  else if positive : 0 < ((Format.ofModel m).parts code).1 then
    .finite (signOf negative) ((Format.ofModel m).parts code).1 ((Format.ofModel m).parts code).2 positive
  else .zero (signOf negative)

/-- Finite numbers are equal if their parts are. -/
theorem finite_congr {sign : Sign} {mantissa mantissa' : ℕ} {place place' : ℤ} (positive : 0 < mantissa)
    (positive' : 0 < mantissa') (same : mantissa = mantissa') (same' : place = place') :
    Float.Model.UnpackedFloat.finite sign mantissa place positive = .finite sign mantissa' place' positive' := by
  subst same same'
  rfl

theorem toNat_unpackMantissa (b : BitVec m.numBits) :
    (unpackMantissa b).toNat = b.toNat % 2 ^ m.mantissaBitsWithoutImplicit := by
  have := m.hm
  simp only [unpackMantissa, BitVec.toNat_cast, BitVec.extractLsb_toNat, Nat.shiftRight_zero]
  congr 2
  omega

theorem toNat_unpackExponent (b : BitVec m.numBits) :
    (unpackExponent b).toNat = b.toNat / 2 ^ m.mantissaBitsWithoutImplicit % 2 ^ m.exponentBits := by
  have := m.he
  simp only [unpackExponent, BitVec.toNat_cast, BitVec.extractLsb_toNat, Nat.shiftRight_eq_div_pow]
  congr 2
  omega

theorem toNat_unpackSign (b : BitVec m.numBits) :
    (unpackSign b).toNat = b.toNat / 2 ^ (m.exponentBits + m.mantissaBitsWithoutImplicit) % 2 := by
  show (BitVec.cast _ (BitVec.extractLsb _ _ b)).toNat = _
  simp only [BitVec.toNat_cast, BitVec.extractLsb_toNat, Nat.shiftRight_eq_div_pow, Nat.sub_self,
    Nat.add_comm m.exponentBits]

section Fields

variable {b : BitVec m.numBits} {negative : Bool} {code : ℕ}

theorem toNat_unpackMantissa_word (word : b.toNat = (Format.ofModel m).word negative code) :
    (unpackMantissa b).toNat = code % 2 ^ m.mantissaBitsWithoutImplicit := by
  rw [toNat_unpackMantissa, word, Format.word]
  cases negative <;> simp [pow_add]

theorem toNat_unpackExponent_word (word : b.toNat = (Format.ofModel m).word negative code)
    (lt : code < 2 ^ (m.exponentBits + m.mantissaBitsWithoutImplicit)) :
    (unpackExponent b).toNat = code / 2 ^ m.mantissaBitsWithoutImplicit := by
  have power := Nat.two_pow_pos m.mantissaBitsWithoutImplicit
  have bound : code / 2 ^ m.mantissaBitsWithoutImplicit < 2 ^ m.exponentBits := by
    rw [Nat.div_lt_iff_lt_mul power, ← pow_add]
    exact lt
  rw [toNat_unpackExponent, word, Format.word]
  cases negative
  · simp [Nat.mod_eq_of_lt bound]
  · rw [if_pos rfl, Format.exponentBits_ofModel, Format.fractionBits_ofModel, pow_add, mul_comm,
      Nat.mul_add_div power, Nat.add_mod_left, Nat.mod_eq_of_lt bound]

theorem unpackSign_word (word : b.toNat = (Format.ofModel m).word negative code)
    (lt : code < 2 ^ (m.exponentBits + m.mantissaBitsWithoutImplicit)) :
    Sign.ofBitVec (unpackSign b) = signOf negative := by
  have bit : (unpackSign b).toNat = if negative then 1 else 0 := by
    rw [toNat_unpackSign, word, Format.word]
    cases negative
    · simp [Nat.div_eq_of_lt lt]
    · simp [Nat.add_div_left _ (Nat.two_pow_pos _), Nat.div_eq_of_lt lt]
  cases negative
  · exact if_pos (BitVec.eq_of_toNat_eq bit)
  · exact if_neg fun zero => by simp [zero] at bit

/-- The exponent of a word is all ones from infinity on. -/
theorem unpackExponent_eq_ones_iff (word : b.toNat = (Format.ofModel m).word negative code)
    (lt : code < 2 ^ (m.exponentBits + m.mantissaBitsWithoutImplicit)) :
    unpackExponent b = -1#_ ↔ (Format.ofModel m).infinity ≤ code := by
  have power := Nat.two_pow_pos m.mantissaBitsWithoutImplicit
  have exponent := toNat_unpackExponent_word word lt
  have bound := exponent ▸ (unpackExponent b).isLt
  rw [BitVec.neg_one_eq_allOnes, ← BitVec.toNat_inj, exponent, BitVec.toNat_allOnes, Format.infinity_eq,
    Format.exponentBits_ofModel, Format.fractionBits_ofModel, ← Nat.le_div_iff_mul_le power]
  omega

theorem unpackMantissa_eq_zero_iff (word : b.toNat = (Format.ofModel m).word negative code) :
    unpackMantissa b = 0#_ ↔ code % 2 ^ m.mantissaBitsWithoutImplicit = 0 := by
  rw [← BitVec.toNat_inj, toNat_unpackMantissa_word word, BitVec.toNat_ofNat, Nat.zero_mod]

/-- **A word is taken apart** into its sign and the parts of its code. -/
theorem unpack_word (word : b.toNat = (Format.ofModel m).word negative code)
    (lt : code < 2 ^ (m.exponentBits + m.mantissaBitsWithoutImplicit)) : unpack m b = unpacked m negative code := by
  have power := Nat.two_pow_pos m.mantissaBitsWithoutImplicit
  have mantissa := toNat_unpackMantissa_word word
  have exponent := toNat_unpackExponent_word word lt
  have ones := unpackExponent_eq_ones_iff word lt
  have empty := unpackMantissa_eq_zero_iff word
  have infinity : (Format.ofModel m).infinity = (2 ^ m.exponentBits - 1) * 2 ^ m.mantissaBitsWithoutImplicit :=
    Format.infinity_eq _
  unfold unpack unpacked
  dsimp only
  rw [unpackSign_word word lt, exponent]
  rcases lt_trichotomy code (Format.ofModel m).infinity with below | top | above
  · rw [if_neg (mt ones.mp below.not_ge), if_neg below.not_gt, if_neg below.ne]
    by_cases low : code / 2 ^ m.mantissaBitsWithoutImplicit = 0
    · have none : unpackExponent b = 0#_ := by rw [← BitVec.toNat_inj, exponent, low, BitVec.toNat_ofNat, Nat.zero_mod]
      rw [if_pos none, Format.parts_least low]
      by_cases rest : code % 2 ^ m.mantissaBitsWithoutImplicit = 0
      · rw [dif_pos (empty.mpr rest), dif_neg (by exact rest.not_gt)]
      · rw [dif_neg (mt empty.mp rest), dif_pos (by exact Nat.pos_of_ne_zero rest)]
        refine finite_congr _ _ mantissa ?_
        rw [low, Format.leastPlace_eq]
        push_cast
        ring
    · have joined : (1#1 ++ unpackMantissa b).toNat =
          2 ^ m.mantissaBitsWithoutImplicit + code % 2 ^ m.mantissaBitsWithoutImplicit := by
        rw [BitVec.toNat_append, ← Nat.shiftLeft_add_eq_or_of_lt (unpackMantissa b).isLt, mantissa, Nat.shiftLeft_eq]
        simp
      have some : unpackExponent b ≠ 0#_ := fun zero =>
        low (by rw [← exponent, zero, BitVec.toNat_ofNat, Nat.zero_mod])
      rw [if_neg some, Format.parts_above low, dif_pos (by exact Nat.add_pos_left power _)]
      refine finite_congr _ _ joined ?_
      rw [Format.leastPlace_eq, Format.fractionBits_ofModel]
      omega
  · have whole : code % 2 ^ m.mantissaBitsWithoutImplicit = 0 := by rw [top, infinity, Nat.mul_mod_left]
    rw [if_pos (ones.mpr top.ge), if_pos (empty.mpr whole), if_neg top.not_gt, if_pos top]
  · have rest : code % 2 ^ m.mantissaBitsWithoutImplicit ≠ 0 := by
      intro whole
      have same : code = code / 2 ^ m.mantissaBitsWithoutImplicit * 2 ^ m.mantissaBitsWithoutImplicit := by
        rw [Nat.div_mul_cancel (Nat.dvd_of_mod_eq_zero whole)]
      have bound : code / 2 ^ m.mantissaBitsWithoutImplicit ≤ 2 ^ m.exponentBits - 1 := by
        have := exponent ▸ (unpackExponent b).isLt
        omega
      have := Nat.mul_le_mul_right (2 ^ m.mantissaBitsWithoutImplicit) bound
      omega
    rw [if_pos (ones.mpr above.le), if_neg (mt empty.mp rest), if_pos above]

end Fields

/-! ### Rounding -/

/-- A mantissa with the digits after it stands for a number: it is the whole part, and the digits tell how the rest
compares with a half. -/
structure Stands (em : ExtendedMantissa) (x : ℚ) : Prop where
  le : (em.mantissa : ℚ) ≤ x
  lt : x < em.mantissa + 1
  round : em.roundBit = true ↔ 1 / 2 ≤ x - em.mantissa
  sticky : em.stickyBit = true ↔ x ≠ em.mantissa ∧ x ≠ em.mantissa + 1 / 2

theorem stands_exact (mantissa : ℕ) : Stands (.ofMantissaAndAccuracy mantissa .exact) mantissa := by
  constructor <;> simp [ExtendedMantissa.ofMantissaAndAccuracy]

theorem Stands.shiftRightOne {em : ExtendedMantissa} {x : ℚ} (h : Stands em x) :
    Stands em.shiftRightOne (x / 2) := by
  have le := h.le
  have lt := h.lt
  have whole : (em.mantissa : ℚ) = 2 * (em.mantissa / 2 : ℕ) + (em.mantissa % 2 : ℕ) := by
    exact_mod_cast (Nat.div_add_mod em.mantissa 2).symm
  rcases Nat.mod_two_eq_zero_or_one em.mantissa with even | odd
  · rw [even, Nat.cast_zero, add_zero] at whole
    refine ⟨?_, ?_, ?_, ?_⟩ <;> simp only [ExtendedMantissa.shiftRightOne, even]
    · linarith
    · linarith
    · simp
      linarith
    · rw [Bool.or_eq_true, h.round, h.sticky]
      grind
  · rw [odd, Nat.cast_one] at whole
    refine ⟨?_, ?_, ?_, ?_⟩ <;> simp only [ExtendedMantissa.shiftRightOne, odd]
    · linarith
    · linarith
    · simp
      linarith
    · rw [Bool.or_eq_true, h.round, h.sticky]
      grind

theorem Stands.shiftRight {em : ExtendedMantissa} {x : ℚ} (h : Stands em x) (n : ℕ) :
    Stands (em >>> n) (x / 2 ^ n) := by
  induction n with
  | zero =>
    rw [pow_zero, div_one]
    exact h
  | succ n ih =>
    rw [pow_succ, ← div_div]
    exact ih.shiftRightOne

theorem Stands.roundedMantissa {em : ExtendedMantissa} {x : ℚ} (h : Stands em x) :
    em.roundedMantissa = roundEven x := by
  have floor : ⌊x⌋₊ = em.mantissa := (Nat.floor_eq_iff (em.mantissa.cast_nonneg.trans h.le)).mpr ⟨h.le, h.lt⟩
  have le := h.le
  obtain ⟨mantissa, round, sticky⟩ := em
  have round_iff := h.round
  have sticky_iff := h.sticky
  simp only at floor le round_iff sticky_iff
  unfold roundEven
  rw [floor]
  cases round <;> cases sticky <;>
    simp only [ExtendedMantissa.roundedMantissa, ExtendedMantissa.accuracy, Accuracy.roundToNearestEven]
  all_goals grind

/-- The power of two at or below a mantissa, with whatever follows it. -/
theorem log_mul_zpow {mantissa : ℕ} (positive : 0 < mantissa) {x : ℚ} (le : (mantissa : ℚ) ≤ x)
    (lt : x < mantissa + 1) (place : ℤ) : Int.log 2 (x * 2 ^ place) = mantissa.log2 + place := by
  have low : (2 : ℚ) ^ mantissa.log2 ≤ x := le_trans (by exact_mod_cast Nat.log2_self_le positive.ne') le
  have high : x < 2 ^ (mantissa.log2 + 1) :=
    lt.trans_le (by exact_mod_cast (Nat.lt_log2_self : mantissa < 2 ^ (mantissa.log2 + 1)))
  refine Format.log_eq_of_between ?_ ?_
  · rw [zpow_add₀ two_ne_zero, zpow_natCast]
    gcongr
  · rw [add_right_comm, zpow_add₀ two_ne_zero]
    gcongr
    exact_mod_cast high

/-- The place that the core library rounds a mantissa at is the last place of the number. -/
theorem targetExponent_total {mantissa : ℕ} (place : ℤ) {x : ℚ} (positive : 0 < x) (le : (mantissa : ℚ) ≤ x)
    (lt : x < mantissa + 1) (low : mantissa = 0 → place ≤ (Format.ofModel m).leastPlace) :
    m.targetExponent (Float.Model.totalExponent mantissa place) = (Format.ofModel m).lastPlace (x * 2 ^ place) := by
  rw [Format.targetExponent_eq, Float.Model.totalExponent, Format.lastPlace, Format.fractionBits_ofModel]
  rcases mantissa.eq_zero_or_pos with rfl | some
  · have small : Int.log 2 (x * 2 ^ place) < place + 1 := by
      rw [← Int.lt_zpow_iff_log_lt (by norm_num) (by positivity)]
      rw [Nat.cast_zero, zero_add] at lt
      push_cast
      rw [zpow_add_one₀ two_ne_zero]
      have : (0 : ℚ) < 2 ^ place := by positivity
      nlinarith
    have := low rfl
    have : Nat.log2 0 = 0 := rfl
    omega
  · rw [log_mul_zpow some le lt]
    omega

/-- A rounded mantissa that has become a power of two is moved to the next place. -/
theorem shiftToTargetExponent_rounded {mantissa : ℕ} {place : ℤ} (least_le : (Format.ofModel m).leastPlace ≤ place)
    (le : mantissa ≤ 2 ^ (m.mantissaBitsWithoutImplicit + 1))
    (full : 2 ^ m.mantissaBitsWithoutImplicit ≤ mantissa ∨ place = (Format.ofModel m).leastPlace) :
    let moved := shiftToTargetExponent m mantissa place .exact
    (Format.ofModel m).IsParts moved.1.mantissa moved.2 ∧
      (Format.ofModel m).codeOf moved.1.mantissa moved.2 = (Format.ofModel m).codeOf mantissa place := by
  have target : m.targetExponent (Float.Model.totalExponent mantissa place) =
      max (Format.ofModel m).leastPlace (mantissa.log2 + place - m.mantissaBitsWithoutImplicit) := by
    rw [Format.targetExponent_eq, Float.Model.totalExponent]
    omega
  have power := Nat.two_pow_pos m.mantissaBitsWithoutImplicit
  simp only [shiftToTargetExponent, shiftToExponent, target]
  rcases le.lt_or_eq with lt | rfl
  · have log : mantissa.log2 ≤ m.mantissaBitsWithoutImplicit := by
      rcases mantissa.eq_zero_or_pos with rfl | positive
      · exact Nat.zero_le _
      · exact Nat.lt_succ_iff.mp ((Nat.log2_lt positive.ne').mpr lt)
    have stays : (max (Format.ofModel m).leastPlace (mantissa.log2 + place - m.mantissaBitsWithoutImplicit) -
        place).toNat = 0 := by omega
    rw [stays, Nat.cast_zero, add_zero]
    exact ⟨⟨least_le, lt, full⟩, rfl⟩
  · have moves : (max (Format.ofModel m).leastPlace ((2 ^ (m.mantissaBitsWithoutImplicit + 1)).log2 + place -
        m.mantissaBitsWithoutImplicit) - place).toNat = 1 := by
      rw [Nat.log2_two_pow]
      omega
    have half : 2 ^ (m.mantissaBitsWithoutImplicit + 1) / 2 = 2 ^ m.mantissaBitsWithoutImplicit := by
      rw [pow_succ, Nat.mul_div_cancel _ two_pos]
    rw [moves]
    show (Format.ofModel m).IsParts (2 ^ (m.mantissaBitsWithoutImplicit + 1) / 2) (place + 1) ∧
      (Format.ofModel m).codeOf (2 ^ (m.mantissaBitsWithoutImplicit + 1) / 2) (place + 1) = _
    rw [half]
    refine ⟨⟨by omega, Nat.pow_lt_pow_right one_lt_two (Nat.lt_succ_self _), .inl le_rfl⟩, ?_⟩
    unfold Format.codeOf
    rw [show (place + 1 - (Format.ofModel m).leastPlace).toNat = (place - (Format.ofModel m).leastPlace).toNat + 1 by
      omega, Format.fractionBits_ofModel]
    ring

/-- **A rounded number is put together as the nearest code.** The number is a mantissa with what follows it at a
place that is not above the last place. -/
theorem toNat_pack_roundWithAccuracy (wide : 1 < m.exponentBits) (negative : Bool) {mantissa : ℕ} {place : ℤ}
    {accuracy : Accuracy} {x : ℚ} (stands : Stands (.ofMantissaAndAccuracy mantissa accuracy) x) (positive : 0 < x)
    (low : mantissa = 0 → place ≤ (Format.ofModel m).leastPlace)
    (fine : place ≤ (Format.ofModel m).lastPlace (x * 2 ^ place)) :
    (pack m (roundWithAccuracy m (signOf negative) mantissa place accuracy)).toNat =
      (Format.ofModel m).word negative ((Format.ofModel m).nearestCode (x * 2 ^ place)) := by
  have number : 0 < x * 2 ^ place := by positivity
  have same : (ExtendedMantissa.ofMantissaAndAccuracy mantissa accuracy).mantissa = mantissa := by
    rcases accuracy with _ | ⟨_ | _ | _⟩ <;> rfl
  have target := targetExponent_total (m := m) place positive (same ▸ stands.le) (same ▸ stands.lt) low
  have first : shiftToTargetExponent m mantissa place accuracy =
      (ExtendedMantissa.ofMantissaAndAccuracy mantissa accuracy >>>
        ((Format.ofModel m).lastPlace (x * 2 ^ place) - place).toNat,
        (Format.ofModel m).lastPlace (x * 2 ^ place)) := by
    simp only [shiftToTargetExponent, shiftToExponent, target]
    congr 1
    omega
  have scaled : x / 2 ^ ((Format.ofModel m).lastPlace (x * 2 ^ place) - place).toNat =
      x * 2 ^ place / 2 ^ (Format.ofModel m).lastPlace (x * 2 ^ place) := by
    obtain ⟨n, hn⟩ := Int.le.dest fine
    rw [← hn, add_sub_cancel_left, Int.toNat_natCast, zpow_add₀ two_ne_zero, zpow_natCast]
    field_simp
  have rounded := (stands.shiftRight ((Format.ofModel m).lastPlace (x * 2 ^ place) - place).toNat).roundedMantissa
  rw [scaled] at rounded
  have full := Format.mantissa_full (f := Format.ofModel m) number
  obtain ⟨isParts, code⟩ := shiftToTargetExponent_rounded (Format.leastPlace_le_lastPlace (x * 2 ^ place))
    (Format.mantissa_le (x * 2 ^ place)) full
  have nearest := Format.nearestCode_mul_zpow isParts
  rw [code] at nearest
  unfold roundWithAccuracy
  rw [first]
  dsimp only
  rw [rounded, Format.nearestCode, if_neg number.ne']
  by_cases zero : (shiftToTargetExponent m
      (roundEven (x * 2 ^ place / 2 ^ (Format.ofModel m).lastPlace (x * 2 ^ place)))
      ((Format.ofModel m).lastPlace (x * 2 ^ place)) .exact).1.mantissa = 0
  · rw [zero, Nat.cast_zero, zero_mul, Format.nearestCode_zero] at nearest
    rw [dif_pos zero, ← nearest]
    exact toNat_packedZero negative
  · rw [dif_neg zero, toNat_pack_finite wide negative (Nat.pos_of_ne_zero zero) isParts, code]

/-- A mantissa at any place is rounded and put together as the nearest code. -/
theorem toNat_pack_round (wide : 1 < m.exponentBits) (negative : Bool) {mantissa : ℕ} (positive : 0 < mantissa)
    (place : ℤ) :
    (pack m (Float.Model.UnpackedFloat.round m (signOf negative) mantissa place)).toNat =
      (Format.ofModel m).word negative ((Format.ofModel m).nearestCode (mantissa * 2 ^ place)) := by
  have target := targetExponent_total (m := m) (x := mantissa) place (by exact_mod_cast positive) le_rfl
    (lt_add_one _) (fun zero => absurd zero positive.ne')
  simp only [Float.Model.UnpackedFloat.round, decreaseExponent, target, Nat.shiftLeft_eq]
  generalize last : (Format.ofModel m).lastPlace (mantissa * 2 ^ place) = t
  have same : ((mantissa * 2 ^ (place - t).toNat : ℕ) : ℚ) * 2 ^ (place - (place - t).toNat) =
      mantissa * 2 ^ place := by
    rw [zpow_sub₀ two_ne_zero, zpow_natCast]
    push_cast
    field_simp
  have number : 0 < mantissa * 2 ^ (place - t).toNat := by positivity
  rw [toNat_pack_roundWithAccuracy wide negative (stands_exact _) (by exact_mod_cast number)
    (fun zero => absurd zero number.ne') (by rw [same, last]; omega), same]

/-- The code and the sign of a whole number of either sign at any place. -/
theorem toNat_pack_normalize (wide : 1 < m.exponentBits) {mantissa : ℤ} (h : mantissa ≠ 0) (place : ℤ)
    (zeroSign : Sign) :
    (pack m (Float.Model.UnpackedFloat.normalize m mantissa place zeroSign)).toNat =
      (Format.ofModel m).word (mantissa < 0) ((Format.ofModel m).nearestCode |(mantissa : ℚ) * 2 ^ place|) := by
  have size : |(mantissa : ℚ) * 2 ^ place| = mantissa.natAbs * 2 ^ place := by
    rw [abs_mul, abs_of_pos (show (0 : ℚ) < 2 ^ place by positivity), Nat.cast_natAbs, Int.cast_abs]
  have positive : 0 < mantissa.natAbs := Int.natAbs_pos.mpr h
  rw [size]
  unfold Float.Model.UnpackedFloat.normalize
  rcases lt_or_gt_of_ne h with negative | above
  · rw [compare_lt_iff_lt.mpr negative, show (-mantissa).toNat = mantissa.natAbs by omega, decide_eq_true negative]
    exact toNat_pack_round wide true positive place
  · rw [compare_gt_iff_gt.mpr above, show mantissa.toNat = mantissa.natAbs by omega, decide_eq_false above.not_gt]
    exact toNat_pack_round wide false positive place

end PromptLoop
