import PromptLoop.Number.Single
import PromptLoop.Proofs.Arithmetic

/-!
# Arithmetic in single precision

A single precision number is its sign and its code, and an operation gives the nearest code of the exact result.
The numbers that are compared and added up in sampling are not negative, and infinity may be among them; quotients
are those of finite numbers.
-/

namespace PromptLoop

open Float.Model.UnpackedFloat Float.Model.Format

namespace Single

/-! ### Signs and codes -/

theorem code_eq (x : Single) : x.code = x.bits.toNat % 2 ^ 31 := by
  rw [code, UInt32.toNat_and]
  exact Nat.and_two_pow_sub_one_eq_mod _ 31

theorem isNegative_eq (x : Single) : x.isNegative = decide (2 ^ 31 ≤ x.bits.toNat) := rfl

theorem code_lt (x : Single) : x.code < 2 ^ 31 := by
  rw [code_eq]
  exact Nat.mod_lt _ (by decide)

/-- The word of a number is its sign in front of its code. -/
theorem toNat_bits (x : Single) : x.bits.toNat = Format.single.word x.isNegative x.code := by
  have := x.bits.toNat_lt
  rw [Format.word, isNegative_eq, code_eq]
  simp only [Format.single]
  split_ifs with negative <;> simp at negative <;> omega

theorem toNat_ofCode (negative : Bool) {code : ℕ} (lt : code < 2 ^ 31) :
    (ofCode negative code).bits.toNat = Format.single.word negative code := by
  cases negative
  · simp [ofCode, Format.word]
    omega
  · have joined := Nat.shiftLeft_add_eq_or_of_lt lt 1
    simp only [ofCode, Format.word, if_true, UInt32.toNat_or, UInt32.toNat_ofNat', Format.single]
    rw [Nat.mod_eq_of_lt (lt.trans (by decide : 2 ^ 31 < 2 ^ 32))]
    exact joined.symm

theorem eq_ofCode_of_toNat {x : Single} {negative : Bool} {code : ℕ} (lt : code < 2 ^ 31)
    (h : x.bits.toNat = Format.single.word negative code) : x = ofCode negative code := by
  obtain ⟨bits⟩ := x
  exact congrArg Single.mk (UInt32.toNat_inj.mp (h.trans (toNat_ofCode negative lt).symm))

theorem ofCode_code (x : Single) : ofCode x.isNegative x.code = x :=
  (eq_ofCode_of_toNat x.code_lt x.toNat_bits).symm

@[simp] theorem isNegative_ofCode (negative : Bool) {code : ℕ} (lt : code < 2 ^ 31) :
    (ofCode negative code).isNegative = negative := by
  rw [isNegative_eq, toNat_ofCode negative lt, Format.word]
  cases negative <;> simp [Format.single]
  omega

@[simp] theorem code_ofCode (negative : Bool) {code : ℕ} (lt : code < 2 ^ 31) :
    (ofCode negative code).code = code := by
  rw [code_eq, toNat_ofCode negative lt, Format.word]
  cases negative <;> simp [Format.single] <;> omega

/-! ### Words -/

theorem wide_binary32 : 1 < binary32.exponentBits := by decide

theorem infinity_lt : Format.single.infinity < 2 ^ 31 := by decide

theorem isNaN_iff (x : Single) : x.isNaN = true ↔ Format.single.infinity < x.code := by
  simp [isNaN]

theorem code_le {x : Single} (number : x.isNaN = false) : x.code ≤ Format.single.infinity := by
  simpa [isNaN] using number

theorem unpack_bits (x : Single) :
    unpack binary32 x.bits.toBitVec = unpacked binary32 x.isNegative x.code :=
  unpack_word x.toNat_bits x.code_lt

/-- The core library's view of a number takes its word apart. -/
theorem unpack_toFloat32 {x : Single} (number : x.isNaN = false) :
    x.toFloat32.toModel.unpack = unpacked binary32 x.isNegative x.code := by
  have word := toNat_pack_unpacked wide_binary32 x.isNegative (code_le number)
  refine unpack_word (m := binary32) (Eq.trans ?_ word) x.code_lt
  rw [← unpack_bits]
  rfl

/-- An operation on numbers gives the number of the word that it puts together. -/
theorem lift_eq {op : Float32 → Float32 → Float32} {x y : Single} {u : Float.Model.UnpackedFloat} {negative : Bool}
    {code : ℕ} (number : x.isNaN = false) (number' : y.isNaN = false)
    (result : (op x.toFloat32 y.toFloat32).toModel = .pack u)
    (word : (pack binary32 u).toNat = Format.single.word negative code) (le : code ≤ Format.single.infinity) :
    lift op x y = ofCode negative code := by
  have lt : code < 2 ^ 31 := le.trans_lt infinity_lt
  have bits : (op x.toFloat32 y.toFloat32).toBits.toNat = Format.single.word negative code := by
    show (op x.toFloat32 y.toFloat32).toModel.toBits.toNat = _
    rw [result, ← word]
    rfl
  have valid : (op x.toFloat32 y.toFloat32).isNaN = false := by
    have unpacks : (op x.toFloat32 y.toFloat32).toModel.unpack = unpacked binary32 negative code :=
      unpack_word (m := binary32) bits lt
    rw [Float32.isNaN, Float32.Model.isNaN, unpacks]
    rcases unpacked_cases wide_binary32 negative le with ⟨-, same⟩ | ⟨-, -, _, same⟩ | ⟨-, same⟩ <;>
      rw [same] <;> rfl
  simp only [lift, number, number', valid, Bool.false_eq_true, if_false]
  exact eq_ofCode_of_toNat lt bits

/-! ### Operations -/

/-- Whether a number is finite. -/
def IsFinite (x : Single) : Prop := x.code < Format.single.infinity

instance (x : Single) : Decidable x.IsFinite :=
  inferInstanceAs (Decidable (x.code < Format.single.infinity))

/-- The value of a finite number. -/
def value (x : Single) : ℚ := Format.single.signed x.isNegative x.code

variable {x y : Single}

theorem IsFinite.isNaN (h : x.IsFinite) : x.isNaN = false := by
  simpa [Single.isNaN] using h.le

/-- **Quotients.** -/
theorem div_eq (hx : x.IsFinite) (hy : y.IsFinite) (positive : 0 < y.code) :
    x / y = ofCode (x.isNegative != y.isNegative)
      (Format.single.nearestCode (Format.single.value x.code / Format.single.value y.code)) := by
  have word := toNat_pack_div wide_binary32 x.isNegative y.isNegative hx hy positive
  rw [← unpack_toFloat32 hx.isNaN, ← unpack_toFloat32 hy.isNaN] at word
  exact lift_eq hx.isNaN hy.isNaN rfl word (Format.nearestCode_le_infinity _)

/-- **Differences.** -/
theorem sub_eq (hx : x.IsFinite) (hy : y.IsFinite) :
    x - y = ofCode (sumSign x.isNegative (!y.isNegative) (x.value - y.value))
      (Format.single.nearestCode |x.value - y.value|) := by
  have word := toNat_pack_add wide_binary32 x.isNegative (!y.isNegative) hx hy
  rw [← sub_unpacked, ← unpack_toFloat32 hx.isNaN, ← unpack_toFloat32 hy.isNaN] at word
  simp only [Format.signed_not, ← sub_eq_add_neg] at word
  exact lift_eq hx.isNaN hy.isNaN rfl word (Format.nearestCode_le_infinity _)

/-- The difference from negative infinity. -/
theorem negInfinity_sub (hy : y.IsFinite) : negInfinity - y = negInfinity := by
  have word : (pack binary32 (sub binary32 negInfinity.toFloat32.toModel.unpack y.toFloat32.toModel.unpack)).toNat =
      Format.single.word true Format.single.infinity := by
    rw [unpack_toFloat32 hy.isNaN, unpack_toFloat32 (x := negInfinity) rfl]
    exact (congrArg _ (congrArg _ (sub_negative_infinity _ hy))).trans (toNat_packedInfinity true)
  exact lift_eq (x := negInfinity) rfl hy.isNaN rfl word le_rfl

/-- **Sums** of numbers that are not negative. -/
theorem add_eq (hx : x.isNegative = true → x.code = 0) (hy : y.isNegative = true → y.code = 0)
    (number : x.isNaN = false) (number' : y.isNaN = false) :
    x + y = ofCode (x.isNegative && y.isNegative)
      (Format.single.nearestCode (Format.single.value x.code + Format.single.value y.code)) := by
  have word := toNat_pack_add_nonneg wide_binary32 (code_le number) (code_le number') hx hy
  rw [← unpack_toFloat32 number, ← unpack_toFloat32 number'] at word
  exact lift_eq number number' rfl word (Format.nearestCode_le_infinity _)

/-! ### Comparison -/

/-- The place of a number in the order of numbers. -/
def order (x : Single) : ℤ := Format.order x.isNegative x.code

theorem compare_eq (number : x.isNaN = false) (number' : y.isNaN = false) :
    x.toFloat32.toModel.unpack.compare y.toFloat32.toModel.unpack = some (compare x.order y.order) := by
  rw [unpack_toFloat32 number, unpack_toFloat32 number']
  exact compare_unpacked wide_binary32 _ _ (code_le number) (code_le number')

theorem lt_iff_view : x < y ↔ x.toFloat32.toModel.unpack.lt y.toFloat32.toModel.unpack = true := by
  show decide (x.toFloat32.toModel < y.toFloat32.toModel) = true ↔ _
  rw [decide_eq_true_iff]
  rfl

theorem le_iff_view : x ≤ y ↔ x.toFloat32.toModel.unpack.le y.toFloat32.toModel.unpack = true := by
  show decide (x.toFloat32.toModel ≤ y.toFloat32.toModel) = true ↔ _
  rw [decide_eq_true_iff]
  rfl

theorem le_of_lt (h : x < y) : x ≤ y := by
  rw [lt_iff_view, Float.Model.UnpackedFloat.lt, beq_iff_eq] at h
  rw [le_iff_view, Float.Model.UnpackedFloat.le, h]
  rfl

theorem lt_iff (number : x.isNaN = false) (number' : y.isNaN = false) : x < y ↔ x.order < y.order := by
  rw [lt_iff_view, Float.Model.UnpackedFloat.lt, compare_eq number number', ← compare_lt_iff_lt]
  simp

theorem le_iff (number : x.isNaN = false) (number' : y.isNaN = false) : x ≤ y ↔ x.order ≤ y.order := by
  rw [le_iff_view, Float.Model.UnpackedFloat.le, compare_eq number number', ← compare_le_iff_le]
  rcases compare x.order y.order with _ | _ | _ <;> simp

theorem unpack_of_isNaN (h : x.isNaN = true) : x.toFloat32.toModel.unpack = .notANumber := by
  have unpacked : unpack binary32 x.bits.toBitVec = .notANumber := by
    rw [unpack_bits, unpacked]
    exact if_pos ((isNaN_iff x).mp h)
  have canonical : unpack binary32 (pack binary32 .notANumber) = .notANumber := rfl
  rw [← canonical, ← unpacked]
  rfl

/-- Only numbers are compared. -/
theorem number_of_le (h : x ≤ y) : x.isNaN = false ∧ y.isNaN = false := by
  rw [le_iff_view, Float.Model.UnpackedFloat.le] at h
  constructor
  · by_contra! nan
    rw [unpack_of_isNaN (Bool.eq_true_of_not_eq_false nan)] at h
    cases h
  · by_contra! nan
    rw [unpack_of_isNaN (Bool.eq_true_of_not_eq_false nan)] at h
    generalize x.toFloat32.toModel.unpack = u at h
    cases u <;> cases h

/-- A number is finite or negative infinity. -/
def IsLogit (x : Single) : Prop := x.IsFinite ∨ x = negInfinity

theorem IsLogit.isNaN (h : x.IsLogit) : x.isNaN = false := by
  rcases h with finite | rfl
  · exact finite.isNaN
  · decide

theorem order_negInfinity : negInfinity.order = -Format.single.infinity := by decide

theorem order_ge (number : x.isNaN = false) : negInfinity.order ≤ x.order := by
  have := code_le number
  rw [order_negInfinity, order, Format.order]
  split_ifs <;> omega

theorem order_gt (h : x.IsFinite) : negInfinity.order < x.order := by
  have : x.code < Format.single.infinity := h
  rw [order_negInfinity, order, Format.order]
  split_ifs <;> omega

theorem isFinite_of_order_lt (h : x.IsLogit) (above : negInfinity.order < x.order) : x.IsFinite :=
  h.resolve_right fun same => absurd above (same ▸ lt_irrefl _)

theorem value_le_of_order (hx : x.IsFinite) (hy : y.IsFinite) (h : x.order ≤ y.order) : x.value ≤ y.value := by
  have nonneg := Format.value_nonneg (f := Format.single)
  have mono (a b : ℕ) (hb : b < Format.single.infinity) (h : a ≤ b) :=
    Format.value_le_value (f := Format.single) hb.le h
  unfold order Format.order at h
  unfold value Format.signed
  split_ifs at * with hn hn'
  · exact neg_le_neg (mono _ _ hx (by omega))
  · linarith [nonneg x.code, nonneg y.code]
  · rw [show x.code = 0 by omega, show y.code = 0 by omega]
    simp
  · exact mono _ _ hy (by omega)

/-- A number that is not negative is its code, whichever zero it is. -/
theorem order_nonneg_iff : 0 ≤ x.order ↔ (x.isNegative = true → x.code = 0) := by
  rw [order, Format.order]
  cases x.isNegative <;> simp

theorem order_of_nonneg (h : 0 ≤ x.order) : x.order = x.code := by
  rw [order, Format.order] at *
  split_ifs at * <;> omega

theorem order_eq_code (h : x.isNegative = false) : x.order = x.code := by
  rw [order, h]
  rfl

/-- The larger of two numbers. -/
theorem order_larger (number : x.isNaN = false) (number' : y.isNaN = false) :
    (x.larger y).order = max x.order y.order ∧ (x.larger y = x ∨ x.larger y = y) := by
  have less := lt_iff number number'
  unfold larger
  simp only [number, number', Bool.false_eq_true, if_false]
  split_ifs with h
  · exact ⟨(max_eq_right (less.mp h).le).symm, .inr rfl⟩
  · exact ⟨(max_eq_left (not_lt.mp (mt less.mpr h))).symm, .inl rfl⟩

theorem isNaN_ofCode (negative : Bool) {code : ℕ} (le : code ≤ Format.single.infinity) :
    (ofCode negative code).isNaN = false := by
  rw [isNaN, code_ofCode _ (le.trans_lt infinity_lt)]
  simpa using le

theorem order_ofCode (negative : Bool) {code : ℕ} (le : code ≤ Format.single.infinity) :
    (ofCode negative code).order = Format.order negative code := by
  rw [order, isNegative_ofCode _ (le.trans_lt infinity_lt), code_ofCode _ (le.trans_lt infinity_lt)]

end Single

end PromptLoop
