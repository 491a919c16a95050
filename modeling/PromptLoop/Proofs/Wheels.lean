import PromptLoop.Proofs.Singles
import PromptLoop.Random.Wheel

/-!
# Boundaries of a wheel

The weights of a wheel are not negative, so its boundaries rise (`Wheel.pairwise_partialSums`), with rounding and
infinity included. The index of a draw is the number of boundaries at or below its point, so it is above an index
exactly if the boundary of that index is at or below the point (`Wheel.lt_index_iff`).
-/

namespace PromptLoop

section Closed

variable {α : Type} {P : α → Bool} {xs : List α}

/-- Where those that satisfy a condition come first, their number tells which they are. -/
theorem lt_countP_iff (closed : xs.Pairwise fun a b => P b = true → P a = true) {i : ℕ} (h : i < xs.length) :
    i < xs.countP P ↔ P xs[i] = true := by
  induction xs generalizing i with
  | nil => cases h
  | cons x xs ih =>
    obtain ⟨first, rest⟩ := List.pairwise_cons.mp closed
    by_cases holds : P x = true
    · rw [List.countP_cons_of_pos holds]
      cases i with
      | zero => simp [holds]
      | succ i => rw [Nat.add_lt_add_iff_right, ih rest (Nat.lt_of_succ_lt_succ h), List.getElem_cons_succ]
    · have none : xs.countP P = 0 := List.countP_eq_zero.mpr fun a mem also => holds (first a mem also)
      rw [List.countP_cons_of_neg holds, none]
      cases i with
      | zero => simp [holds]
      | succ i => simpa using fun also => holds (first _ (List.getElem_mem _) also)

/-- Where those that satisfy a condition come first, they are a beginning of the list. -/
theorem filter_eq_take_countP (closed : xs.Pairwise fun a b => P b = true → P a = true) :
    xs.filter P = xs.take (xs.countP P) := by
  induction xs with
  | nil => rfl
  | cons x xs ih =>
    obtain ⟨first, rest⟩ := List.pairwise_cons.mp closed
    by_cases holds : P x = true
    · rw [List.filter_cons_of_pos holds, List.countP_cons_of_pos holds, List.take_succ_cons, ih rest]
    · have none : ∀ a ∈ xs, ¬ P a = true := fun a mem also => holds (first a mem also)
      rw [List.filter_cons_of_neg holds, List.countP_cons_of_neg holds, List.countP_eq_zero.mpr none]
      exact List.filter_eq_nil_iff.mpr none

end Closed

namespace Single

variable {x y : Single}

/-- A number that is not negative, infinity included. -/
structure IsWeight (x : Single) : Prop where
  number : x.isNaN = false
  nonneg : 0 ≤ x.order

theorem isWeight_of_zero_le (h : zero ≤ x) : x.IsWeight := by
  have number := (number_of_le h).2
  exact ⟨number, (le_iff (by decide) number).mp h⟩

/-- A sum of weights is a weight, and no less than the first. -/
theorem IsWeight.add (hx : x.IsWeight) (hy : y.IsWeight) : (x + y).IsWeight ∧ x.order ≤ (x + y).order := by
  have value := Format.value_nonneg (f := Format.single)
  have le := Format.nearestCode_le_infinity (f := Format.single)
    (Format.single.value x.code + Format.single.value y.code)
  have mono := Format.nearestCode_mono (f := Format.single) (value x.code) (le_add_of_nonneg_right (value y.code))
  rw [Format.nearestCode_value (code_le hx.number)] at mono
  have sum := add_eq (order_nonneg_iff.mp hx.nonneg) (order_nonneg_iff.mp hy.nonneg) hx.number hy.number
  have order : (x + y).order =
      (Format.single.nearestCode (Format.single.value x.code + Format.single.value y.code) : ℕ) := by
    rw [sum, order_ofCode _ le]
    cases signs : x.isNegative && y.isNegative
    · rfl
    · obtain ⟨sign, sign'⟩ := Bool.and_eq_true_iff.mp signs
      rw [order_nonneg_iff.mp hx.nonneg sign, order_nonneg_iff.mp hy.nonneg sign']
      simp [Format.order]
  rw [order_of_nonneg hx.nonneg, order]
  refine ⟨⟨sum ▸ isNaN_ofCode _ le, ?_⟩, by exact_mod_cast mono⟩
  rw [order]
  exact Int.natCast_nonneg _

end Single

namespace Wheel

open Single

/-- The sum of weights that follow a given sum, added from the left. -/
def sumFrom (sum : Single) (ws : List Single) : Single := ws.foldl (· + ·) sum

theorem isWeight_sumFrom {sum : Single} {ws : List Single} (h : sum.IsWeight) (all : ∀ w ∈ ws, w.IsWeight) :
    (sumFrom sum ws).IsWeight ∧ sum.order ≤ (sumFrom sum ws).order := by
  induction ws generalizing sum with
  | nil => exact ⟨h, le_rfl⟩
  | cons w ws ih =>
    obtain ⟨next, le⟩ := h.add (all w List.mem_cons_self)
    obtain ⟨whole, le'⟩ := ih next fun v mem => all v (List.mem_cons_of_mem w mem)
    exact ⟨whole, le.trans le'⟩

/-- The boundaries are the sums of the first weights. -/
theorem partialSums_eq (sum : Single) (ws : List Single) :
    (partialSums sum ws).1 = (List.range ws.length).map fun i => sumFrom sum (ws.take i) := by
  induction ws generalizing sum with
  | nil => rfl
  | cons w ws ih =>
    rw [List.length_cons, List.range_succ_eq_map, List.map_cons, List.map_map]
    exact congrArg (sum :: ·) (ih (sum + w))

theorem sumFrom_append (sum : Single) (vs ws : List Single) : sumFrom sum (vs ++ ws) = sumFrom (sumFrom sum vs) ws :=
  List.foldl_append

/-- A sum of more weights is no less. -/
theorem order_sumFrom_take {sum : Single} {ws : List Single} (h : sum.IsWeight) (all : ∀ w ∈ ws, w.IsWeight) {i j : ℕ}
    (le : i ≤ j) : (sumFrom sum (ws.take i)).order ≤ (sumFrom sum (ws.take j)).order := by
  have split : ws.take j = ws.take i ++ (ws.take j).drop i := by
    conv_lhs => rw [← List.take_append_drop i (ws.take j), List.take_take, min_eq_left le]
  have first : (sumFrom sum (ws.take i)).IsWeight :=
    (isWeight_sumFrom h fun w mem => all w (List.mem_of_mem_take mem)).1
  rw [split, sumFrom_append]
  exact (isWeight_sumFrom first fun w mem => all w (List.mem_of_mem_take (List.mem_of_mem_drop mem))).2

/-- **Boundaries rise**, so those at or below a point come first. -/
theorem pairwise_partialSums {sum : Single} {ws : List Single} (h : sum.IsWeight) (all : ∀ w ∈ ws, w.IsWeight)
    (point : Single) :
    (partialSums sum ws).1.Pairwise fun a b => (b ≤ point : Bool) = true → (a ≤ point : Bool) = true := by
  rw [partialSums_eq, List.pairwise_map]
  refine List.pairwise_lt_range.imp fun {i j} less => ?_
  simp only [decide_eq_true_eq]
  intro below
  have weight (i : ℕ) := (isWeight_sumFrom h fun w (mem : w ∈ ws.take i) => all w (List.mem_of_mem_take mem)).1
  have number := (number_of_le below).2
  rw [le_iff (weight _).number number] at below ⊢
  exact (order_sumFrom_take h all less.le).trans below

theorem partialSums_total (sum : Single) (ws : List Single) : (partialSums sum ws).2 = sumFrom sum ws := by
  induction ws generalizing sum with
  | nil => rfl
  | cons w ws ih => exact ih (sum + w)

variable {w : Single} {ws : List Single} {wheel : Wheel}

theorem ofWeights_eq_ok (h : ofWeights (w :: ws) = .ok wheel) :
    w.IsWeight ∧ (∀ v ∈ ws, v.IsWeight) ∧ wheel.boundaries = (partialSums w ws).1 := by
  rw [ofWeights] at h
  split_ifs at h with weights
  have all : ∀ v ∈ w :: ws, v.IsWeight := fun v mem =>
    isWeight_of_zero_le (of_decide_eq_true (List.all_eq_true.mp weights v mem))
  refine ⟨all w List.mem_cons_self, fun v mem => all v (List.mem_cons_of_mem w mem), ?_⟩
  simp only at h
  split_ifs at h
  exact congrArg boundaries (Except.ok.inj h).symm

/-- **Weights are too large** exactly if all of them are weights and their sum is infinite. -/
theorem ofWeights_eq_overflow_iff :
    ofWeights (w :: ws) = .error .overflow ↔
      (∀ v ∈ w :: ws, zero ≤ v) ∧ (sumFrom w ws).isInfinite = true := by
  rw [ofWeights]
  simp only [partialSums_total]
  split_ifs with weights zero infinite
  · refine iff_of_false nofun fun ⟨_, infinite⟩ => ?_
    rw [isInfinite, zero] at infinite
    exact absurd infinite (by decide)
  · exact iff_of_true rfl ⟨fun v mem => of_decide_eq_true (List.all_eq_true.mp weights v mem), infinite⟩
  · exact iff_of_false nofun fun h => infinite h.2
  · exact iff_of_false nofun fun h => weights (List.all_eq_true.mpr fun v mem => decide_eq_true (h.1 v mem))

/-- The index of a draw is that of a weight. -/
theorem index_lt (h : ofWeights (w :: ws) = .ok wheel) (word : UInt32) : wheel.index word < (w :: ws).length := by
  obtain ⟨-, -, same⟩ := ofWeights_eq_ok h
  have le : wheel.index word ≤ wheel.boundaries.length := List.countP_le_length
  rw [same, partialSums_eq, List.length_map, List.length_range] at le
  exact Nat.lt_succ_of_le le

/-- **The index of a draw** is above another exactly if the boundary of that one is not above the point. -/
theorem lt_index_iff (h : ofWeights (w :: ws) = .ok wheel) (word : UInt32) {i : ℕ} (lt : i < ws.length) :
    i < wheel.index word ↔ sumFrom w (ws.take i) ≤ wheel.point word := by
  obtain ⟨first, others, same⟩ := ofWeights_eq_ok h
  have within : i < (partialSums w ws).1.length := by
    rwa [partialSums_eq, List.length_map, List.length_range]
  have counted := lt_countP_iff (pairwise_partialSums first others (wheel.point word)) within
  have boundary : (partialSums w ws).1[i] = sumFrom w (ws.take i) := by
    simp only [partialSums_eq, List.getElem_map, List.getElem_range]
  rw [boundary, decide_eq_true_iff] at counted
  rw [index, same]
  exact counted

end Wheel

end PromptLoop
