import PromptLoop.Proofs.Weights

/-!
# Possible tokens

A token whose probability is zero, such as one whose logit is negative infinity, is not possible. Probabilities are
kept away from zero before the logarithm is taken, so such a token has a weight like any other: relative to the
likeliest token it is a power of the least normal number, which is near one at a high temperature.

Candidates that are not possible come last among the leading ones, and so they have the end of the wheel. One of them
is sampled exactly if it leads and the point of the draw is not below the weight of the possible ones
(`sample_possible_iff`). This happens (`masked_sampled`).
-/

namespace PromptLoop

open Single

/-- Whether a candidate has a positive probability. -/
def Candidate.isPossible (c : Candidate) : Bool := zero < c.score

namespace Sampling

variable {selection : Selection} {logits : List Single} {temperature : Single} {accept : Token → Bool}

/-! ### Positive probabilities -/

theorem invalid_div (x : Single) : invalid / x = invalid := by
  show lift (· / ·) invalid x = invalid
  rw [lift, if_pos (by decide)]
  decide

/-- If all logits are negative infinity, no probability is a number. -/
theorem eq_invalid_of_negInfinity (h : ∀ l ∈ logits, l = negInfinity) {p : Single} (mem : p ∈ softmax logits) :
    p = invalid := by
  have top : largest logits = negInfinity := by
    have logit : ∀ l ∈ logits, l.IsLogit := fun l listed => .inr (h l listed)
    rcases List.mem_cons.mp (foldl_larger (.inr rfl) logit).1 with same | listed
    · exact same
    · exact h _ listed
  have power : ∀ q ∈ logits.map (relative (largest logits)), q = invalid := by
    intro q listed
    obtain ⟨l, mem, rfl⟩ := List.mem_map.mp listed
    rw [top, h l mem]
    decide +kernel
  rw [softmax_eq_ite] at mem
  split_ifs at mem
  · obtain ⟨q, listed, rfl⟩ := List.mem_map.mp mem
    rw [power q listed, invalid_div]
  · exact power p mem

/-- Logits of which one has a positive probability can be weighed. -/
theorem weighable_of_positive (logit : ∀ l ∈ logits, l.IsLogit) {p : Single} (mem : p ∈ softmax logits)
    (positive : zero < p) : Weighable logits := by
  refine ⟨logit, ?_⟩
  by_contra! infinite
  have same := eq_invalid_of_negInfinity (fun l listed => (logit l listed).resolve_left (infinite l listed)) mem
  have number := (number_of_le (le_of_lt positive)).2
  rw [same] at number
  cases number

theorem Weighable.isPossible_iff (h : Weighable logits) {c : Candidate} (mem : c ∈ acceptedCandidates logits accept) :
    c.isPossible = true ↔ 0 < c.score.rank := by
  have score := h.isProbability_score mem
  rw [Candidate.isPossible, decide_eq_true_iff, lt_iff (by decide) score.isFinite.isNaN, order_eq_code score.nonneg,
    rank_eq_code score.nonneg]
  rfl

/-- A candidate that is not outranked by a possible one is possible. -/
theorem Weighable.possible_of_rank_le (h : Weighable logits) {c d : Candidate}
    (mem : c ∈ acceptedCandidates logits accept) (mem' : d ∈ acceptedCandidates logits accept)
    (le : d.score.rank ≤ c.score.rank) (possible : d.isPossible = true) : c.isPossible = true := by
  rw [h.isPossible_iff mem'] at possible
  rw [h.isPossible_iff mem]
  exact possible.trans_le le

/-- **Possible candidates come first** among the leading ones. -/
theorem Weighable.pairwise_possible (h : Weighable logits) (selection : Selection) (k : Nat) (accept : Token → Bool) :
    (leading selection k (acceptedCandidates logits accept)).Pairwise fun a b =>
      b.isPossible = true → a.isPossible = true :=
  (pairwise_leading selection k _).imp_of_mem fun mem mem' before =>
    h.possible_of_rank_le (mem_of_mem_leading mem) (mem_of_mem_leading mem')
      ((standsBefore_iff.mp before).elim le_of_lt fun same => same.1.ge)

/-! ### Drawing -/

/-- The weight of the possible ones of some candidates, of which the first is possible. -/
def possibleWeight (temperature : Single) (first : Candidate) (others : List Candidate) : Single :=
  Wheel.sumFrom (weight temperature first.score first.score)
    ((others.filter Candidate.isPossible).map fun d => weight temperature first.score d.score)

/-- A draw stays with the possible candidates: all candidates are possible, or the point of the draw is below the
weight of those that are. -/
def StaysPossible (temperature : Single) (word : UInt32) : Choice → Prop
  | .drawn wheel first others =>
    (∀ d ∈ others, d.isPossible = true) ∨ ¬ possibleWeight temperature first others ≤ wheel.point word
  | _ => True

/-- What is picked is possible exactly if the draw stays with the possible candidates. -/
theorem isPossible_pick_iff {wheel : Wheel} {first : Candidate} {others : List Candidate}
    (made : Wheel.ofWeights ((first :: others).map fun d => weight temperature first.score d.score) = .ok wheel)
    (closed : (first :: others).Pairwise fun a b => b.isPossible = true → a.isPossible = true)
    (possible : first.isPossible = true) (word : UInt32) :
    (Choice.pick wheel first others word).isPossible = true ↔
      StaysPossible temperature word (.drawn wheel first others) := by
  have within : wheel.index word < (first :: others).length := by
    simpa using Wheel.index_lt made word
  have picked : Choice.pick wheel first others word = (first :: others)[wheel.index word] := by
    rw [Choice.pick, List.getD_eq_getElem?_getD, List.getElem?_eq_getElem within, Option.getD_some]
  rw [picked, ← lt_countP_iff closed within, List.countP_cons_of_pos possible]
  by_cases all : ∀ d ∈ others, d.isPossible = true
  · rw [List.countP_eq_length.mpr all]
    exact iff_of_true within (.inl all)
  · have fewer : others.countP Candidate.isPossible < others.length :=
      lt_of_le_of_ne List.countP_le_length (mt List.countP_eq_length.mp all)
    have boundary := Wheel.lt_index_iff made word (i := others.countP Candidate.isPossible) (by simpa using fewer)
    rw [← List.map_take, ← filter_eq_take_countP (List.pairwise_cons.mp closed).2] at boundary
    rw [StaysPossible, or_iff_right all, possibleWeight, ← boundary]
    omega

/-- What a choice that starts with a possible candidate settles on is possible exactly if it stays with them. -/
theorem settle_possible_iff {first c : Candidate} {others : List Candidate}
    (closed : (first :: others).Pairwise fun a b => b.isPossible = true → a.isPossible = true)
    (possible : first.isPossible = true) {rng : Rng}
    (settled : ((chooseAmong temperature (first :: others)).settle rng).1 = .ok (some c)) :
    c.isPossible = true ↔ StaysPossible temperature rng.word (chooseAmong temperature (first :: others)) := by
  rcases others with _ | ⟨second, others⟩
  · cases settled
    exact iff_of_true possible trivial
  · rw [chooseAmong] at settled ⊢
    · rcases made : Wheel.ofWeights _ with ⟨⟨⟩⟩ | wheel <;> rw [made] at settled
      · cases settled
        exact iff_of_true possible trivial
      · cases settled
      · cases settled
        exact isPossible_pick_iff made closed possible rng.word
    all_goals exact List.cons_ne_nil second others

/-- **Sampling takes a possible token** exactly if the draw stays with the possible candidates, whenever an accepted
token is possible. It takes some token if the temperature is positive. -/
theorem sample_possible_iff (logit : ∀ l ∈ logits, l.IsLogit) {token : Token} {p : Single}
    (accepted : accept token = true) (listed : (softmax logits)[token]? = some p) (positive : zero < p)
    (selection : Selection) (k : Nat) (temperature : Single) (rng : Rng) :
    (temperature.IsFinite → zero < temperature →
      ∃ c, (sample selection logits k temperature accept rng).1 = .ok (some c)) ∧
    ∀ c, (sample selection logits k temperature accept rng).1 = .ok (some c) →
      (zero < c.score ↔ StaysPossible temperature rng.word (choose selection logits k temperature accept)) := by
  have weighable := weighable_of_positive logit (List.mem_of_getElem? listed) positive
  constructor
  · intro finite warm
    have below : token < logits.length := by
      rw [← length_softmax]
      exact (List.getElem?_eq_some_iff.mp listed).1
    exact exists_sample below accepted (weighable.not_overflows finite warm selection k accept) rng
  · intro c sampled
    have mem : (⟨token, p⟩ : Candidate) ∈ acceptedCandidates logits accept :=
      mem_acceptedCandidates.mpr ⟨accepted, listed⟩
    have closed := weighable.pairwise_possible selection k accept
    rw [sample_eq] at sampled
    rw [choose, ← acceptedCandidates]
    rcases lead : leading selection k (acceptedCandidates logits accept) with _ | ⟨first, others⟩
    · rw [leading_eq_nil_iff.mp lead] at mem
      cases mem
    · have listed : first ∈ acceptedCandidates logits accept := mem_of_mem_leading (lead ▸ List.mem_cons_self)
      have possible : first.isPossible = true :=
        weighable.possible_of_rank_le listed mem (rank_le_of_leading lead mem) (decide_eq_true positive)
      rw [lead] at closed sampled
      rw [← settle_possible_iff closed possible sampled, Candidate.isPossible, decide_eq_true_iff]

/-- Two logits of which one is masked. -/
def maskedLogits : List Single := [zero, negInfinity]

/-- The temperature 1000. -/
def hot : Single := ⟨0x447a0000⟩

theorem isLogit_of_mem_maskedLogits : ∀ l ∈ maskedLogits, l.IsLogit := by
  intro l mem
  rcases List.mem_cons.mp mem with rfl | mem
  · exact .inl (by decide)
  · exact .inr (List.mem_singleton.mp mem)

theorem softmax_maskedLogits : softmax maskedLogits = [one, zero] := by decide +kernel

/-- Both tokens lead at a high temperature, the masked one last. -/
theorem masked_sample_possible_iff :
    (∀ l ∈ maskedLogits, l.IsLogit) ∧ (softmax maskedLogits)[0]? = some one ∧ zero < one ∧
      ∃ c, (sample .earliest maskedLogits 2 hot (fun _ => true) Rng.fixed).1 = .ok (some c) ∧
        (zero < c.score ↔
          StaysPossible hot Rng.fixed.word (choose .earliest maskedLogits 2 hot fun _ => true)) := by
  have listed : (softmax maskedLogits)[0]? = some one := by rw [softmax_maskedLogits]; rfl
  let everyToken : Token → Bool := fun _ => true
  have accepted : everyToken 0 = true := rfl
  obtain ⟨samples, possible⟩ :=
    sample_possible_iff isLogit_of_mem_maskedLogits accepted listed (by decide) .earliest 2 hot Rng.fixed
  obtain ⟨c, sampled⟩ := samples (by decide) (by decide)
  exact ⟨isLogit_of_mem_maskedLogits, listed, by decide, c, sampled, possible c sampled⟩

/-- The masked token is sampled with the second word of the fixed stream. -/
theorem masked_sampled :
    (∀ l ∈ maskedLogits, l.IsLogit) ∧ (softmax maskedLogits)[0]? = some one ∧ zero < one ∧
      zero < hot ∧ hot.IsFinite ∧
      ∃ c, (sample .earliest maskedLogits 2 hot (fun _ => true) Rng.fixed.advance).1 = .ok (some c) ∧
        ¬ zero < c.score := by
  have listed : acceptedCandidates maskedLogits (fun _ => true) = [⟨0, one⟩, ⟨1, zero⟩] := by
    rw [acceptedCandidates, softmax_maskedLogits]
    rfl
  have inOrder : leading .earliest 2 [(⟨0, one⟩ : Candidate), ⟨1, zero⟩] = [⟨0, one⟩, ⟨1, zero⟩] := by
    simp [leading, List.mergeSort, show standsBefore ⟨0, one⟩ ⟨1, zero⟩ = true by decide]
  refine ⟨isLogit_of_mem_maskedLogits, by rw [softmax_maskedLogits]; rfl, by decide, by decide, by decide,
    ⟨1, zero⟩, ?_, by decide⟩
  rw [sample_eq, listed, inOrder]
  decide +kernel

end Sampling

end PromptLoop
