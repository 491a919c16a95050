import PromptLoop.Proofs.Singles

/-!
# Arithmetic in double precision

A double precision number denotes the rational number of its word (`Denotes`), and what an operation denotes is the
exact result, rounded. So a computation in double precision is followed as a computation with rational numbers in
which every step is rounded.

A single precision number is widened without rounding, and a double precision number is narrowed by rounding it
once more.
-/

namespace PromptLoop

open Float.Model.UnpackedFloat Float.Model.Format

/-- The value of the nearest code, with the sign of the number. -/
theorem Format.signed_nearestCode {f : Format} {negative : Bool} {q : ℚ} (below : q < 0 → negative = true)
    (above : 0 < q → negative = false) : f.signed negative (f.nearestCode |q|) = f.rounded q := by
  rcases lt_trichotomy q 0 with h | rfl | h
  · rw [below h, abs_of_neg h, rounded, if_pos h]
    rfl
  · simp
  · rw [above h, abs_of_pos h, rounded_of_nonneg h.le, signed_false]

theorem Format.signed_sumSign (f : Format) (negative negative' : Bool) (q : ℚ) :
    f.signed (sumSign negative negative' q) (f.nearestCode |q|) = f.rounded q :=
  signed_nearestCode (fun below => by simp [sumSign, below, below.ne])
    fun above => by simp [sumSign, above.ne', above.not_gt]

/-! ### Numbers in range -/

/-- Numbers up to `2 ^ 200` are far from being too large. -/
theorem Format.double_fits {q : ℚ} (nonneg : 0 ≤ q) (le : q ≤ 2 ^ 200) :
    Format.double.nearestCode q < Format.double.infinity := by
  have isParts : Format.double.IsParts (2 ^ 52) 148 := ⟨by decide, by decide, .inl (by decide)⟩
  have large := Format.nearestCode_mul_zpow isParts
  refine Format.nearestCode_lt_infinity ((2 ^ 52 : ℕ) * 2 ^ (148 : ℤ)) nonneg ?_ ?_
  · refine le.trans_eq ?_
    norm_num
  · rw [large]
    decide

/-- A number rounded to double precision. -/
def kept (q : ℚ) : ℚ := Format.double.rounded q

@[simp] theorem kept_zero : kept 0 = 0 := Format.rounded_zero

theorem kept_neg (q : ℚ) : kept (-q) = -kept q := Format.rounded_neg q

theorem kept_mono {p q : ℚ} (h : p ≤ q) : kept p ≤ kept q := Format.rounded_mono h

/-- Rounding to double precision is off by little. -/
theorem abs_kept_sub_le {q bound : ℚ} (le : |q| ≤ bound) (normal : 2 ^ (-1022 : ℤ) ≤ bound) (fits : bound ≤ 2 ^ 200) :
    |kept q - q| ≤ bound / 2 ^ 53 :=
  Format.abs_rounded_sub_le le normal (Format.double_fits ((abs_nonneg q).trans le) fits)

/-- Rounding a number that is at most a power of two. -/
theorem abs_kept_sub_le_two_pow {q : ℚ} {n : ℤ} (low : -1022 ≤ n) (high : n ≤ 200) (h : |q| ≤ 2 ^ n) :
    |kept q - q| ≤ 2 ^ (n - 53) := by
  rw [zpow_sub₀ two_ne_zero]
  refine abs_kept_sub_le h (zpow_le_zpow_right₀ one_le_two low) ?_
  rw [← zpow_natCast]
  exact zpow_le_zpow_right₀ one_le_two high

/-- What is at most a power of two is in range. -/
theorem fits_of_abs_le {q : ℚ} {n : ℤ} (fits : n ≤ 200) (h : |q| ≤ 2 ^ n) : |q| ≤ 2 ^ 200 := by
  refine h.trans ?_
  rw [← zpow_natCast]
  exact zpow_le_zpow_right₀ one_le_two fits

/-- Bounds that are powers of two are multiplied by adding their exponents. -/
theorem abs_mul_le_two_pow {p q : ℚ} {m n k : ℤ} (sum : m + n = k) (hp : |p| ≤ 2 ^ m) (hq : |q| ≤ 2 ^ n) :
    |p * q| ≤ 2 ^ k := by
  rw [abs_mul, ← sum, zpow_add₀ two_ne_zero]
  exact mul_le_mul hp hq (abs_nonneg _) (by positivity)

/-- A product is off by how far each factor is off, made smaller or larger by the other one. -/
theorem abs_mul_sub_mul_le {p p' q q' : ℚ} {k l m n : ℤ} (hp : |p| ≤ 2 ^ k) (hq : |q - q'| ≤ 2 ^ l)
    (hp' : |p - p'| ≤ 2 ^ m) (hq' : |q'| ≤ 2 ^ n) : |p * q - p' * q'| ≤ 2 ^ (k + l) + 2 ^ (m + n) := by
  have split : p * q - p' * q' = p * (q - q') + (p - p') * q' := by ring
  rw [split]
  exact (abs_add_le _ _).trans (add_le_add (abs_mul_le_two_pow rfl hp hq) (abs_mul_le_two_pow rfl hp' hq'))

theorem kept_two_pow {n : ℤ} (low : -1074 ≤ n) (high : n ≤ 200) : kept (2 ^ n) = 2 ^ n := by
  have fits : Format.double.nearestCode (((1 : ℕ) : ℚ) * 2 ^ n) < Format.double.infinity := by
    refine Format.double_fits (by positivity) ?_
    rw [Nat.cast_one, one_mul, ← zpow_natCast]
    exact zpow_le_zpow_right₀ one_le_two high
  simpa [kept] using Format.rounded_of_fits (f := Format.double) (by decide) (le_trans (by decide) low) fits

theorem kept_intCast {n : ℤ} (h : |n| < 2 ^ 53) : kept n = n := by
  have natural {n : ℕ} (h : n < 2 ^ 53) : kept n = n := by
    have fits : Format.double.nearestCode ((n : ℚ) * 2 ^ (0 : ℤ)) < Format.double.infinity := by
      refine Format.double_fits (by positivity) ?_
      have : (n : ℚ) < 2 ^ 53 := by exact_mod_cast h
      rw [zpow_zero, mul_one]
      norm_num at this ⊢
      linarith
    simpa [kept] using Format.rounded_of_fits (f := Format.double) h (by decide) fits
  rcases Int.natAbs_eq n with same | same
  · rw [same, Int.cast_natCast]
    exact natural (by zify; exact h)
  · rw [same, Int.cast_neg, Int.cast_natCast, kept_neg]
    exact congrArg _ (natural (by zify; exact h))

/-- A number that is at most a power of two remains so. -/
theorem abs_kept_le {q : ℚ} {n : ℤ} (low : -1074 ≤ n) (high : n ≤ 200) (h : |q| ≤ 2 ^ n) : |kept q| ≤ 2 ^ n := by
  obtain ⟨below, above⟩ := abs_le.mp h
  have up := kept_mono above
  have down := kept_mono below
  rw [kept_neg] at down
  rw [kept_two_pow low high] at up down
  exact abs_le.mpr ⟨down, up⟩

/-- Between `2 ^ 52` and `2 ^ 53` the numbers of double precision are the whole numbers. -/
theorem nearestCode_of_whole {q : ℚ} (low : 2 ^ 52 ≤ q) (high : q < 2 ^ 53) :
    Format.double.nearestCode q = 1074 * 2 ^ 52 + roundEven q ∧ kept q = roundEven q := by
  have positive : 0 < q := by linarith
  have log : Int.log 2 q = 52 := Format.log_eq_of_between (by exact_mod_cast low) (by exact_mod_cast high)
  have last : Format.double.lastPlace q = 0 := by
    rw [Format.lastPlace, log]
    decide
  have round : roundEven q ≤ 2 ^ 53 := roundEven_le (by exact_mod_cast high.le)
  constructor
  · rw [Format.nearestCode, if_neg positive.ne', last, zpow_zero, div_one, Format.codeOf,
      show (0 - Format.double.leastPlace).toNat = 1074 by decide, show Format.double.fractionBits = 52 from rfl]
    exact min_eq_right (le_trans (Nat.add_le_add_left round _) (by decide))
  · have fits := Format.double_fits positive.le (high.le.trans (by norm_num))
    rw [kept, Format.rounded_of_nonneg positive.le, Format.value_nearestCode positive fits, last, zpow_zero, div_one,
      mul_one]

/-! ### Operations -/

theorem wide_binary64 : 1 < binary64.exponentBits := by decide

/-- A double precision number denotes a rational number. -/
structure Denotes (x : Float) (q : ℚ) : Prop where
  /-- Its word is a sign and the code of a finite number, whose value it is. -/
  word : ∃ negative code, code < Format.double.infinity ∧ x.toBits.toNat = Format.double.word negative code ∧
    Format.double.signed negative code = q

namespace Denotes

variable {x y : Float} {p q : ℚ}

theorem infinity_lt : Format.double.infinity < 2 ^ 63 := by decide

theorem unpack {negative : Bool} {code : ℕ} (word : x.toBits.toNat = Format.double.word negative code)
    (lt : code < 2 ^ 63) : x.toModel.unpack = unpacked binary64 negative code :=
  unpack_word (m := binary64) word lt

/-- A number with the bits of a word denotes its value. -/
theorem ofBits {bits : UInt64} (negative : Bool) {code : ℕ} (finite : code < Format.double.infinity)
    (word : bits.toNat = Format.double.word negative code) :
    Denotes (Float.ofBits bits) (Format.double.signed negative code) := by
  have packed := toNat_pack_unpacked (m := binary64) wide_binary64 negative finite.le
  rw [← unpack_word (m := binary64) (b := bits.toBitVec) word (finite.trans infinity_lt)] at packed
  exact ⟨negative, code, finite, packed, rfl⟩

/-- What an operation denotes whose result is put together from a word. -/
theorem of_pack {u : Float.Model.UnpackedFloat} {negative : Bool} {code : ℕ} (result : x.toModel = .pack u)
    (word : (pack binary64 u).toNat = Format.double.word negative code) (finite : code < Format.double.infinity) :
    Denotes x (Format.double.signed negative code) := by
  refine ⟨negative, code, finite, ?_, rfl⟩
  show x.toModel.toBits.toNat = _
  rw [result, ← word]
  rfl

/-- **Products.** -/
theorem mul (hx : Denotes x p) (hy : Denotes y q) (fits : |p * q| ≤ 2 ^ 200) :
    Denotes (x * y) (kept (p * q)) := by
  obtain ⟨negative, code, finite, word, rfl⟩ := hx.word
  obtain ⟨negative', code', finite', word', rfl⟩ := hy.word
  have product := toNat_pack_mul wide_binary64 negative negative' finite finite'
  rw [← unpack word (finite.trans infinity_lt), ← unpack word' (finite'.trans infinity_lt)] at product
  have fits := Format.double_fits (abs_nonneg _) fits
  rw [abs_mul, Format.abs_signed, Format.abs_signed] at fits
  have denotes := of_pack (x := x * y) rfl product fits
  have value_nonneg := Format.value_nonneg (f := Format.double)
  have nonneg := mul_nonneg (value_nonneg code) (value_nonneg code')
  rw [kept, ← Format.signed_nearestCode (f := Format.double) (q := _ * _), abs_mul, Format.abs_signed,
    Format.abs_signed]
  · exact denotes
  all_goals cases negative <;> cases negative' <;> simp [Format.signed, nonneg]

/-- **Sums.** -/
theorem add (hx : Denotes x p) (hy : Denotes y q) (fits : |p + q| ≤ 2 ^ 200) :
    Denotes (x + y) (kept (p + q)) := by
  obtain ⟨negative, code, finite, word, rfl⟩ := hx.word
  obtain ⟨negative', code', finite', word', rfl⟩ := hy.word
  have sum := toNat_pack_add wide_binary64 negative negative' finite finite'
  rw [← unpack word (finite.trans infinity_lt), ← unpack word' (finite'.trans infinity_lt)] at sum
  rw [kept, ← Format.signed_sumSign Format.double negative negative']
  exact of_pack (x := x + y) rfl sum (Format.double_fits (abs_nonneg _) fits)

/-- **Differences.** -/
theorem sub (hx : Denotes x p) (hy : Denotes y q) (fits : |p - q| ≤ 2 ^ 200) :
    Denotes (x - y) (kept (p - q)) := by
  obtain ⟨negative, code, finite, word, rfl⟩ := hx.word
  obtain ⟨negative', code', finite', word', rfl⟩ := hy.word
  have sum := toNat_pack_add wide_binary64 negative (!negative') finite finite'
  rw [← sub_unpacked, ← unpack word (finite.trans infinity_lt), ← unpack word' (finite'.trans infinity_lt)] at sum
  rw [sub_eq_add_neg, ← Format.signed_not] at fits ⊢
  rw [kept, ← Format.signed_sumSign Format.double negative (!negative')]
  exact of_pack (x := x - y) rfl sum (Format.double_fits (abs_nonneg _) fits)

end Denotes

/-! ### Constants -/

/-- The value of bits that are a finite number. -/
def bitsValue (bits : UInt64) : ℚ := Format.double.signed (2 ^ 63 ≤ bits.toNat) (bits.toNat % 2 ^ 63)

theorem denotes_ofBits {bits : UInt64} (finite : bits.toNat % 2 ^ 63 < Format.double.infinity) :
    Denotes (Float.ofBits bits) (bitsValue bits) := by
  refine Denotes.ofBits _ finite ?_
  have := bits.toNat_lt
  rw [Format.word]
  simp only [Format.double, decide_eq_true_eq]
  split_ifs <;> omega

/-- A constant denotes the value of its code. -/
theorem denotes_constant (bits : UInt64) (mantissa : ℕ) (place : ℤ) (finite : bits.toNat < Format.double.infinity)
    (parts : Format.double.parts bits.toNat = (mantissa, place)) :
    Denotes (Float.ofBits bits) (mantissa * 2 ^ place) := by
  have value : Format.double.value bits.toNat = mantissa * 2 ^ place := by
    rw [Format.value, parts]
  rw [← value]
  exact Denotes.ofBits false finite (by simp [Format.word])

theorem denotes_one : Denotes 1 1 := by
  have denotes := denotes_constant 0x3ff0000000000000 (2 ^ 52) (-52) (by decide) (by decide)
  rw [show (1 : Float) = Float.ofBits 0x3ff0000000000000 by decide +kernel]
  convert denotes using 1
  norm_num

/-! ### Widening and narrowing -/

theorem Single.value_le (x : Single) (h : x.IsFinite) : Format.single.value x.code ≤ 2 ^ 200 := by
  refine (Format.value_le_value le_rfl h.le).trans ?_
  have parts : Format.single.parts Format.single.infinity = (2 ^ 23, 105) := by decide
  rw [Format.value, parts]
  norm_num

/-- **Widening** keeps the value. -/
theorem Denotes.widen {x : Single} (h : x.IsFinite) : Denotes x.widen x.value := by
  have fits := Format.double_fits (Format.value_nonneg x.code) (Single.value_le x h)
  have isParts := Format.isParts_parts (f := Format.single) x.code
  have kept : Format.double.value (Format.double.nearestCode (Format.single.value x.code)) =
      Format.single.value x.code :=
    Format.value_nearestCode_of_fits (isParts.lt.trans (by decide)) (le_trans (by decide) isParts.least_le) fits
  have same : x.value =
      Format.double.signed x.isNegative (Format.double.nearestCode (Format.single.value x.code)) := by
    rw [Single.value, Format.signed, Format.signed, kept]
  rw [same]
  refine Denotes.ofBits x.isNegative fits ?_
  have lt := fits.trans Denotes.infinity_lt
  have finite : x.code ≠ Format.single.infinity := h.ne
  simp only [h.isNaN, Single.isInfinite, finite, decide_false, Bool.false_eq_true, if_false, Format.nearestScaled_eq]
  rw [UInt64.toNat_ofNat', Format.word, Format.value] at *
  cases x.isNegative <;> simp [Format.double] at * <;> omega

/-- The bits of a positive number are its code. -/
theorem Denotes.toBits_of_pos {x : Float} {q : ℚ} (h : Denotes x q) (positive : 0 < q) :
    x.toBits.toNat < Format.double.infinity ∧ Format.double.value x.toBits.toNat = q := by
  obtain ⟨negative, code, finite, word, rfl⟩ := h.word
  have sign : negative = false := by
    by_contra! h
    rw [Bool.eq_true_of_not_eq_false h] at positive
    exact absurd positive (by simp [Format.signed, Format.value_nonneg])
  subst sign
  have bits : x.toBits.toNat = code := by simpa [Format.word] using word
  rw [bits]
  exact ⟨finite, rfl⟩

/-- The bits of a positive number that has been rounded are the nearest code. -/
theorem Denotes.toNat_toBits {x : Float} {q : ℚ} (h : Denotes x (kept q)) (positive : 0 < q) (above : 0 < kept q) :
    x.toBits.toNat = Format.double.nearestCode q := by
  obtain ⟨finite, value⟩ := h.toBits_of_pos above
  rw [kept, Format.rounded_of_nonneg positive.le] at value
  rw [← Format.nearestCode_value finite.le, value, Format.nearestCode_value (Format.nearestCode_le_infinity q)]

/-- **Narrowing** rounds. -/
theorem Denotes.narrow {x : Float} {q : ℚ} (h : Denotes x q) (positive : 0 < q) :
    Single.narrow x = Single.ofCode false (Format.single.nearestCode q) := by
  obtain ⟨finite, value⟩ := h.toBits_of_pos positive
  have lt := finite.trans Denotes.infinity_lt
  simp only [Single.narrow, Nat.one_shiftLeft, Nat.mod_eq_of_lt lt, if_neg finite.not_gt, if_neg finite.ne,
    Format.nearestScaled_eq, decide_eq_false lt.not_ge, ← value]
  rfl

/-- Narrowing rounds a negative number like a positive one. -/
theorem Denotes.narrow_of_neg {x : Float} {q : ℚ} (h : Denotes x q) (below : q < 0) :
    Single.narrow x = Single.ofCode true (Format.single.nearestCode (-q)) := by
  obtain ⟨negative, code, finite, word, rfl⟩ := h.word
  have lt := finite.trans Denotes.infinity_lt
  have sign : negative = true := by
    by_contra! h
    rw [Bool.eq_false_of_not_eq_true h] at below
    exact absurd below (not_lt.mpr (Format.value_nonneg code))
  subst sign
  have rest : x.toBits.toNat % 2 ^ 63 = code := by
    rw [word, Format.word]
    simp [Format.double]
    omega
  have high : 2 ^ 63 ≤ x.toBits.toNat := by
    rw [word, Format.word]
    simp [Format.double]
  simp only [Single.narrow, Nat.one_shiftLeft, rest, if_neg finite.not_gt, if_neg finite.ne, Format.nearestScaled_eq,
    decide_eq_true high, Format.signed, if_true, neg_neg]
  rfl

end PromptLoop
