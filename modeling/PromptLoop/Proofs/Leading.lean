import Mathlib.Data.List.Basic
import Mathlib.Order.Lattice
import PromptLoop.Proofs.Candidates
import PromptLoop.Proofs.Wheels

/-!
# The likeliest tokens

What is sampled is one of the `k` likeliest tokens among the accepted ones. As probabilities may be equal, and even
be no numbers, this is said by counting: fewer than `k` accepted ids have a probability above that of the sampled
token, in the total order of all patterns. So a token sampled with `k` at most one has a greatest probability.

The likeliest candidates are selected and then put in order. Whatever a selection makes of equally likely candidates,
none that is left outranks one that is selected, so a candidate that leads is outranked by fewer than lead.

Sampling panics if the weights of the leading candidates are too large to be added up (`Overflows`), and always gives
a token in any other case, unless every id is rejected (`sample_leads_iff`). Weights become that large when a
probability that is no number comes first (`nanLogits_panics`).
-/

namespace PromptLoop

namespace Sampling

/-! ### The order of candidates -/

theorem standsBefore_iff {a b : Candidate} :
    standsBefore a b = true ↔
      b.score.rank < a.score.rank ∨ a.score.rank = b.score.rank ∧ a.token ≤ b.token := by
  simp [standsBefore]

theorem standsBefore_trans (a b c : Candidate) (h : standsBefore a b = true) (h' : standsBefore b c = true) :
    standsBefore a c = true := by
  rw [standsBefore_iff] at h h' ⊢
  rcases h with above | ⟨same, first⟩
  · rcases h' with above' | ⟨same', -⟩
    · exact .inl (above'.trans above)
    · exact .inl (same' ▸ above)
  · rcases h' with above' | ⟨same', first'⟩
    · exact .inl (same ▸ above')
    · exact .inr ⟨same.trans same', Nat.le_trans first first'⟩

theorem standsBefore_total (a b : Candidate) : (standsBefore a b || standsBefore b a) = true := by
  rw [Bool.or_eq_true, standsBefore_iff, standsBefore_iff]
  rcases lt_trichotomy a.score.rank b.score.rank with below | same | above
  · exact .inr (.inl below)
  · exact (Nat.le_total a.token b.token).imp (fun first => .inr ⟨same, first⟩) fun first => .inr ⟨same.symm, first⟩
  · exact .inl (.inl above)

section

variable {selection : Selection} {k : Nat} {cs rest : List Candidate} {c d : Candidate}

/-- The leading candidates are in order. -/
theorem pairwise_leading (selection : Selection) (k : Nat) (cs : List Candidate) :
    (leading selection k cs).Pairwise fun a b => standsBefore a b = true :=
  List.pairwise_mergeSort standsBefore_trans standsBefore_total _

/-- No candidate outranks the first of the leading ones. -/
theorem rank_le_of_leading (h : leading selection k cs = c :: rest) (mem : d ∈ cs) :
    d.score.rank ≤ c.score.rank := by
  obtain ⟨others, perm, -, less⟩ := exists_perm_leading selection k cs
  have inOrder := pairwise_leading selection k cs
  rw [h] at inOrder less perm
  rcases List.mem_append.mp (perm.mem_iff.mpr mem) with leads | left
  · rcases List.mem_cons.mp leads with rfl | behind
    · exact le_rfl
    · exact (standsBefore_iff.mp (List.rel_of_pairwise_cons inOrder behind)).elim le_of_lt fun same => same.1.ge
  · exact less c List.mem_cons_self d left

/-- Of candidates in the order of their ids, a single one that leads stands before every other. -/
theorem standsBefore_of_leading_one (ids : cs.Pairwise fun a b => a.token < b.token)
    (h : leading selection 1 cs = [c]) (mem : d ∈ cs) : standsBefore c d = true := by
  rw [standsBefore_iff]
  rcases (rank_le_of_leading h mem).lt_or_eq with below | same
  · exact .inl below
  refine .inr ⟨same.symm, ?_⟩
  rw [leading] at h
  split_ifs at h with more
  · obtain ⟨before, first, after, whole, selected, less⟩ := selection.first cs more
    rw [max_self, selected, List.mergeSort_singleton] at h
    obtain rfl := List.singleton_inj.mp h
    rw [whole] at mem ids
    rcases List.mem_append.mp mem with earlier | mem
    · exact absurd same (less d earlier).ne
    · rcases List.mem_cons.mp mem with rfl | later
      · exact le_rfl
      · exact (List.rel_of_pairwise_cons (List.pairwise_append.mp ids).2.1 later).le
  · have listed : d ∈ cs.mergeSort standsBefore := List.mem_mergeSort.mpr mem
    rw [h, List.mem_singleton] at listed
    exact listed ▸ le_rfl

end

/-! ### Outranking -/

/-- How many accepted ids have a probability above a given one. -/
def outranking (probabilities : List Single) (accept : Token → Bool) (p : Single) : Nat :=
  (List.range probabilities.length).countP fun token =>
    accept token && probabilities[token]?.any fun q => p.rank < q.rank

/-- Counting ids is counting candidates. -/
theorem outranking_softmax (logits : List Single) (accept : Token → Bool) (p : Single) :
    outranking (softmax logits) accept p =
      (acceptedCandidates logits accept).countP fun c => p.rank < c.score.rank := by
  rw [outranking, acceptedCandidates, ← map_token_candidates, List.countP_map, List.countP_filter]
  refine List.countP_congr fun c listed => ?_
  simp only [Function.comp, mem_candidates.mp listed, Option.any_some, Bool.and_comm]

/-- An id that is not outranked has a greatest probability among the accepted ones. -/
theorem rank_le_of_outranking_eq_zero {probabilities : List Single} {accept : Token → Bool} {p : Single}
    (h : outranking probabilities accept p = 0) {token : Token} {q : Single} (accepted : accept token = true)
    (listed : probabilities[token]? = some q) : q.rank ≤ p.rank := by
  have below : token ∈ List.range probabilities.length :=
    List.mem_range.mpr (List.getElem?_eq_some_iff.mp listed).1
  have not_above := List.countP_eq_zero.mp h token below
  simpa [accepted, listed] using not_above

/-- A candidate that leads is outranked by fewer than lead. -/
theorem countP_lt_of_mem_leading {selection : Selection} {k : Nat} {cs : List Candidate} {c : Candidate}
    (h : c ∈ leading selection k cs) : (cs.countP fun d => c.score.rank < d.score.rank) < max k 1 := by
  obtain ⟨others, perm, length, less⟩ := exists_perm_leading selection k cs
  have not_left : (others.countP fun d => c.score.rank < d.score.rank) = 0 :=
    List.countP_eq_zero.mpr fun d left => by simpa using less c h d left
  have not_itself : ((leading selection k cs).countP fun d => c.score.rank < d.score.rank) <
      (leading selection k cs).length := by
    refine lt_of_le_of_ne List.countP_le_length fun every => ?_
    simpa using List.countP_eq_length.mp every c h
  calc (cs.countP fun d => c.score.rank < d.score.rank)
      = (leading selection k cs).countP fun d => c.score.rank < d.score.rank := by
        rw [← perm.countP_eq, List.countP_append, not_left, Nat.add_zero]
    _ < (leading selection k cs).length := not_itself
    _ ≤ max k 1 := length ▸ min_le_left _ _

/-! ### Weights that are too large -/

/-- The weights of some candidates, relative to the first of them, are too large to be added up. A single candidate
is not weighed. -/
def Overflows (temperature : Single) (cs : List Candidate) : Prop :=
  ∃ first second others, cs = first :: second :: others ∧
    (∀ c ∈ cs, Single.zero ≤ weight temperature first.score c.score) ∧
    (Wheel.sumFrom (weight temperature first.score first.score)
      ((second :: others).map fun c => weight temperature first.score c.score)).isInfinite = true

theorem chooseAmong_eq_overflowing_iff {temperature : Single} {cs : List Candidate} :
    chooseAmong temperature cs = .overflowing ↔ Overflows temperature cs := by
  rcases cs with _ | ⟨first, _ | ⟨second, others⟩⟩
  · exact iff_of_false nofun fun ⟨_, _, _, same, _⟩ => by cases same
  · exact iff_of_false nofun fun ⟨_, _, _, same, _⟩ => by cases same
  · have made : Wheel.ofWeights ((first :: second :: others).map fun c => weight temperature first.score c.score) =
        .error .overflow ↔ _ := Wheel.ofWeights_eq_overflow_iff
    rw [← List.map_cons (f := fun c : Candidate => weight temperature first.score c.score),
      List.forall_mem_map] at made
    rw [chooseAmong]
    · constructor
      · intro overflowing
        refine ⟨first, second, others, rfl, made.mp ?_⟩
        generalize Wheel.ofWeights _ = wheel at overflowing ⊢
        rcases wheel with ⟨⟨⟩⟩ | wheel
        · cases overflowing
        · rfl
        · cases overflowing
      · rintro ⟨_, _, _, same, large⟩
        cases same
        rw [made.mpr large]
    · exact List.cons_ne_nil second others

/-! ### Sampling -/

section

variable {selection : Selection} {logits : List Single} {k : Nat} {temperature : Single} {accept : Token → Bool}
  {rng : Rng}

/-- What is sampled is among the leading candidates. -/
theorem mem_leading_of_sample {c : Candidate}
    (h : (sample selection logits k temperature accept rng).1 = .ok (some c)) :
    c ∈ leading selection k (acceptedCandidates logits accept) := by
  have settled := settle_sample selection logits k temperature accept rng
  rwa [h] at settled

/-- Sampling panics exactly if the weights of the leading candidates are too large. -/
theorem sample_eq_error_iff :
    (sample selection logits k temperature accept rng).1 = .error .infiniteTotal ↔
      Overflows temperature (leading selection k (acceptedCandidates logits accept)) := by
  rw [← chooseAmong_eq_overflowing_iff, sample_eq]
  rcases chooseAmong _ _ with _ | _ | _ | _
  · exact iff_of_false nofun nofun
  · exact iff_of_false nofun nofun
  · exact iff_of_false nofun nofun
  · exact iff_of_true rfl rfl

/-- Something is sampled if a token is accepted and the weights are not too large. -/
theorem exists_sample {token : Token} (below : token < logits.length) (accepted : accept token = true)
    (fits : ¬ Overflows temperature (leading selection k (acceptedCandidates logits accept))) (rng : Rng) :
    ∃ c, (sample selection logits k temperature accept rng).1 = .ok (some c) := by
  rcases sampled : (sample selection logits k temperature accept rng).1 with ⟨⟨⟩⟩ | _ | c
  · exact absurd (sample_eq_error_iff.mp sampled) fits
  · have rejected := sample_eq_none_iff.mp sampled token below
    rw [accepted] at rejected
    cases rejected
  · exact ⟨c, rfl⟩

end

/-- A candidate is among the `k` likeliest of the accepted ids. -/
structure Leads (logits : List Single) (k : Nat) (accept : Token → Bool) (c : Candidate) : Prop where
  /-- Its token is an id of the vocabulary. -/
  below : c.token < logits.length
  /-- Its token is accepted. -/
  accepted : accept c.token = true
  /-- Its score is the probability of the token among all tokens. -/
  score : (softmax logits)[c.token]? = some c.score
  /-- Fewer than `k` accepted ids are likelier. -/
  outranked : outranking (softmax logits) accept c.score < max k 1
  /-- A single one is the likeliest. -/
  greatest : k ≤ 1 → ∀ token q, accept token = true → (softmax logits)[token]? = some q → q.rank ≤ c.score.rank

variable {selection : Selection} {logits : List Single} {k : Nat} {temperature : Single} {accept : Token → Bool}
  {rng : Rng}

theorem leads_of_sample {c : Candidate} (h : (sample selection logits k temperature accept rng).1 = .ok (some c)) :
    Leads logits k accept c := by
  obtain ⟨accepted, listed⟩ := sample_eq_some h
  have outranked : outranking (softmax logits) accept c.score < max k 1 := by
    rw [outranking_softmax]
    exact countP_lt_of_mem_leading (mem_leading_of_sample h)
  refine ⟨?_, accepted, listed, outranked, fun single token q accepted listed => ?_⟩
  · rw [← length_softmax]
    exact (List.getElem?_eq_some_iff.mp listed).1
  · exact rank_le_of_outranking_eq_zero (by omega) accepted listed

/-- **Sampling stays within the likeliest tokens.** Nothing is sampled exactly if every id is rejected, and what is
sampled is an accepted id with its probability, among the `k` likeliest. If an id is accepted then one is sampled,
exactly if the weights of the leading candidates are not too large; else sampling panics. -/
theorem sample_leads_iff (selection : Selection) (logits : List Single) (k : Nat) (temperature : Single)
    (accept : Token → Bool) (rng : Rng) :
    ((sample selection logits k temperature accept rng).1 = .ok none ↔
        ∀ token < logits.length, accept token = false) ∧
      (∀ c, (sample selection logits k temperature accept rng).1 = .ok (some c) → Leads logits k accept c) ∧
      (((∃ token < logits.length, accept token = true) →
          ∃ c, (sample selection logits k temperature accept rng).1 = .ok (some c)) ↔
        ¬ Overflows temperature (leading selection k (acceptedCandidates logits accept))) ∧
      ((sample selection logits k temperature accept rng).1 = .error .infiniteTotal ↔
        Overflows temperature (leading selection k (acceptedCandidates logits accept))) := by
  refine ⟨sample_eq_none_iff, fun c => leads_of_sample, ⟨fun samples overflows => ?_, ?_⟩, sample_eq_error_iff⟩
  · have panics : (sample selection logits k temperature accept rng).1 = .error .infiniteTotal :=
      sample_eq_error_iff.mpr overflows
    obtain ⟨c, sampled⟩ := samples <| by
      by_contra! rejects
      rw [sample_eq_none_iff.mpr fun token below => Bool.eq_false_of_not_eq_true (rejects token below)] at panics
      cases panics
    rw [sampled] at panics
    cases panics
  · rintro fits ⟨token, below, accepted⟩
    exact exists_sample below accepted fits rng

/-- Two logits of which the first is no number. -/
def nanLogits : List Single := [Single.nan, Single.zero]

/-- The temperature one half. -/
def cool : Single := ⟨0x3f000000⟩

/-- The probability that is no number comes first, so the weight of the other token is a power of its inverse. -/
theorem nanLogits_panics :
    (∃ token < nanLogits.length, (fun _ : Token => true) token = true) ∧
      (sample .earliest nanLogits 2 cool (fun _ => true) Rng.fixed).1 = .error .infiniteTotal ∧
      ¬ ∃ c, (sample .earliest nanLogits 2 cool (fun _ => true) Rng.fixed).1 = .ok (some c) := by
  have probabilities : softmax nanLogits = [Single.nan, Single.one] := by decide +kernel
  have listed : acceptedCandidates nanLogits (fun _ => true) = [⟨0, Single.nan⟩, ⟨1, Single.one⟩] := by
    rw [acceptedCandidates, probabilities]
    rfl
  have inOrder : leading .earliest 2 [(⟨0, Single.nan⟩ : Candidate), ⟨1, Single.one⟩] =
      [⟨0, Single.nan⟩, ⟨1, Single.one⟩] := by
    simp [leading, List.mergeSort, show standsBefore ⟨0, Single.nan⟩ ⟨1, Single.one⟩ = true by decide]
  have panics : (sample .earliest nanLogits 2 cool (fun _ => true) Rng.fixed).1 = .error .infiniteTotal := by
    rw [sample_eq, listed, inOrder]
    decide +kernel
  refine ⟨⟨0, by decide, rfl⟩, panics, ?_⟩
  rintro ⟨c, sampled⟩
  rw [panics] at sampled
  cases sampled

end Sampling

end PromptLoop
