import Mathlib.Data.List.TakeWhile
import PromptLoop.Model.Variant

/-!
# Labels of model variants

Which texts name a variant. Reading cuts a label at its last hyphen and looks both parts up, while the label of a
variant is put together from its size and its training; the two agree (`ofLabel?_eq_some_iff`). As labels are made
of plain characters, it does not matter how the rest of Unicode is put into lower case: a text names a variant
exactly if, without the blanks around it and with the capitals of ASCII made small, it is the label
(`parse_reads`).

This is more than a matter of ASCII, since two characters outside of it have lower case forms that touch it: the
Kelvin sign with `k`, which no label has, and the dotted capital with `i` and a mark, which is not plain. Where
the capital sigma has its final form depends on the text around it, by a rule that is left open (`SigmaRule`).
-/

namespace PromptLoop

/-! ### Blanks around a text -/

/-- What is taken off a text are blanks at its two ends. -/
theorem exists_trimBlank (text : List Char) :
    ∃ before after, text = before ++ trimBlank text ++ after ∧ (∀ c ∈ before, isBlank c = true) ∧
      ∀ c ∈ after, isBlank c = true := by
  have front := List.takeWhile_append_dropWhile (p := isBlank) (l := text)
  have back := congrArg List.reverse
    (List.takeWhile_append_dropWhile (p := isBlank) (l := (text.dropWhile isBlank).reverse))
  rw [List.reverse_append, List.reverse_reverse] at back
  refine ⟨text.takeWhile isBlank, ((text.dropWhile isBlank).reverse.takeWhile isBlank).reverse, ?_, ?_, ?_⟩
  · rw [trimBlank, List.append_assoc, back, front]
  · intro c mem
    exact List.mem_takeWhile_imp mem
  · intro c mem
    exact List.mem_takeWhile_imp (List.mem_reverse.mp mem)

/-- Blanks around a text are taken off with those that it has. -/
theorem trimBlank_append {before after : List Char} (text : List Char) (blank : ∀ c ∈ before, isBlank c = true)
    (blank' : ∀ c ∈ after, isBlank c = true) : trimBlank (before ++ text ++ after) = trimBlank text := by
  unfold trimBlank
  rw [List.append_assoc, List.dropWhile_append_of_pos blank, List.dropWhile_append]
  split_ifs with allBlank
  · rw [List.isEmpty_iff.mp allBlank, List.dropWhile_eq_nil_iff.mpr blank']
  · rw [List.reverse_append, List.dropWhile_append_of_pos]
    intro c mem
    exact blank' c (List.mem_reverse.mp mem)

theorem trimBlank_of_shown {text : List Char} (shown : ∀ c ∈ text, isBlank c = false) : trimBlank text = text := by
  have unchanged (l : List Char) (shown : ∀ c ∈ l, isBlank c = false) : l.dropWhile isBlank = l := by
    rw [List.dropWhile_eq_self_iff]
    intro positive
    simp [shown _ (List.getElem_mem positive)]
  rw [trimBlank, unchanged text shown, unchanged text.reverse, List.reverse_reverse]
  intro c mem
  exact shown c (List.mem_reverse.mp mem)

/-! ### Lower case -/

namespace LetterCase

/-- Whether a character is plain: one of ASCII that is no lower case form of a character outside of it. -/
def isPlain (c : Char) : Bool := c.toNat < 128 && c != 'k'

theorem isPlain_iff {c : Char} : isPlain c = true ↔ c.toNat < 128 ∧ c ≠ 'k' := by
  simp [isPlain]

theorem not_isPlain {c : Char} (beyond : 128 ≤ c.toNat) : isPlain c = false := by
  simp [isPlain, not_lt.mpr beyond]

/-- Within ASCII, only capitals change. -/
theorem lower_of_ascii {c : Char} (ascii : c.toNat < 128) : lower c = [c.toLower] := by
  have all : ∀ n < 128, lower (Char.ofNat n) = [(Char.ofNat n).toLower] := by decide +kernel
  simpa using all c.toNat ascii

theorem toLower_of_not_ascii {c : Char} (beyond : 128 ≤ c.toNat) : c.toLower = c := by
  have large : ¬ c.val ≤ 'Z'.val := by
    intro small
    have : c.toNat ≤ 90 := UInt32.le_iff_toNat_le.mp small
    omega
  exact dif_neg fun capital => large capital.2

theorem isBlank_toLower (c : Char) : isBlank c.toLower = isBlank c := by
  by_cases ascii : c.toNat < 128
  · have all : ∀ n < 128, isBlank (Char.ofNat n).toLower = isBlank (Char.ofNat n) := by decide +kernel
    simpa using all c.toNat ascii
  · rw [toLower_of_not_ascii (not_lt.mp ascii)]

/-- Making capitals small leaves blanks where they are. -/
theorem map_toLower_trimBlank (text : List Char) :
    (trimBlank text).map Char.toLower = trimBlank (text.map Char.toLower) := by
  have same : isBlank ∘ Char.toLower = isBlank := funext isBlank_toLower
  simp only [trimBlank, List.dropWhile_map, ← List.map_reverse, same]

/-- Whether the lower case forms of a run lie outside of ASCII. -/
def Run.LandsBeyond (r : Run) : Prop :=
  128 ≤ r.first + r.distance ∧
    (r.last + r.distance < 0xd800 ∨ 0xdfff < r.first + r.distance ∧ r.last + r.distance < 0x110000)

instance (r : Run) : Decidable r.LandsBeyond := inferInstanceAs (Decidable (_ ∧ _))

/-- Of the capitals outside of ASCII, only the Kelvin sign has a lower case form in it. -/
theorem landsBeyond_of_mem : ∀ r ∈ runs, r.last < 128 ∨ r = ⟨0x212a, 0x212a, 1, -8383⟩ ∨ r.LandsBeyond := by
  decide +kernel

theorem Run.LandsBeyond.le_toNat {r : Run} (h : r.LandsBeyond) {code : Nat} (held : r.holds code = true) :
    128 ≤ (Char.ofNat ((code : Int) + r.distance).toNat).toNat := by
  obtain ⟨large, outside⟩ := h
  simp only [Run.holds, Bool.and_eq_true, decide_eq_true_eq] at held
  have valid : ((code : Int) + r.distance).toNat.isValidChar := by
    simp only [Nat.isValidChar]
    omega
  rw [Char.ofNat, dif_pos valid]
  show 128 ≤ ((code : Int) + r.distance).toNat
  omega

/-- The lower case form of a character outside of ASCII is not plain. -/
theorem exists_not_isPlain {c : Char} (beyond : 128 ≤ c.toNat) : ∃ d ∈ lower c, isPlain d = false := by
  unfold lower
  split_ifs with dotted
  · exact ⟨Char.ofNat 0x307, by simp, by decide⟩
  · cases found : runs.find? fun r => r.holds c.toNat with
    | none =>
      exact ⟨c, List.mem_singleton_self c, not_isPlain beyond⟩
    | some r =>
      have held : r.holds c.toNat = true := by simpa using List.find?_some found
      refine ⟨_, List.mem_singleton_self _, ?_⟩
      rcases landsBeyond_of_mem r (List.mem_of_find?_eq_some found) with ascii | rfl | lands
      · simp only [Run.holds, Bool.and_eq_true, decide_eq_true_eq] at held
        omega
      · have kelvin : c.toNat = 0x212a := by
          simp only [Run.holds, Bool.and_eq_true, decide_eq_true_eq] at held
          omega
        rw [kelvin]
        decide
      · exact not_isPlain (lands.le_toNat held)

/-- A rule that says which capitals sigma are put into their final form, given the text before and the text after
them. -/
abbrev SigmaRule := List Char → List Char → Bool

/-- The capital sigma. -/
def capitalSigma : Char := Char.ofNat 0x3a3

/-- The final form of the small sigma. -/
def finalSigma : Char := Char.ofNat 0x3c2

/-- The lower case form of a character between two texts. -/
def lowerBetween (isFinal : SigmaRule) (before : List Char) (c : Char) (after : List Char) : List Char :=
  if c = capitalSigma ∧ isFinal before after = true then [finalSigma] else lower c

/-- A text in lower case, by a rule for the final form of sigma and given the text before. -/
def lowercaseBy (isFinal : SigmaRule) : List Char → List Char → List Char
  | _, [] => []
  | before, c :: rest => lowerBetween isFinal before c rest ++ lowercaseBy isFinal (before ++ [c]) rest

/-- Lower case that does not tell the two forms apart follows the rule that no sigma is final. -/
theorem lowercaseBy_never (before text : List Char) : lowercaseBy (fun _ _ => false) before text = lowercase text := by
  induction text generalizing before with
  | nil => rfl
  | cons c rest ih => simp [lowercaseBy, lowerBetween, ih, lowercase]

theorem lowerBetween_of_ascii (isFinal : SigmaRule) (before after : List Char) {c : Char} (ascii : c.toNat < 128) :
    lowerBetween isFinal before c after = [c.toLower] := by
  rw [lowerBetween, if_neg, lower_of_ascii ascii]
  rintro ⟨rfl, -⟩
  exact absurd ascii (by decide)

theorem exists_not_isPlain_lowerBetween (isFinal : SigmaRule) (before after : List Char) {c : Char}
    (beyond : 128 ≤ c.toNat) : ∃ d ∈ lowerBetween isFinal before c after, isPlain d = false := by
  unfold lowerBetween
  split_ifs
  · exact ⟨finalSigma, List.mem_singleton_self _, by decide⟩
  · exact exists_not_isPlain beyond

/-- A text in lower case is a text of plain characters exactly if it is that text but for capitals of ASCII. -/
theorem lowercaseBy_eq_iff (isFinal : SigmaRule) (before : List Char) {text plain : List Char}
    (isPlain : ∀ c ∈ plain, isPlain c = true) :
    lowercaseBy isFinal before text = plain ↔ text.map Char.toLower = plain := by
  induction text generalizing before plain with
  | nil => rfl
  | cons c rest ih =>
    rw [lowercaseBy, List.map_cons]
    by_cases ascii : c.toNat < 128
    · rw [lowerBetween_of_ascii isFinal before rest ascii]
      cases plain with
      | nil => simp
      | cons d plain =>
        have plainRest : ∀ c ∈ plain, LetterCase.isPlain c = true := by
          intro c mem
          exact isPlain c (List.mem_cons_of_mem _ mem)
        simp [ih (before ++ [c]) plainRest]
    · -- Neither side is plain.
      have beyond := not_lt.mp ascii
      constructor
      · rintro rfl
        obtain ⟨d, mem, foreign⟩ := exists_not_isPlain_lowerBetween isFinal before rest beyond
        rw [isPlain d (List.mem_append_left _ mem)] at foreign
        cases foreign
      · rintro rfl
        have := (isPlain_iff.mp (isPlain c.toLower (List.mem_cons_self ..))).1
        rw [toLower_of_not_ascii beyond] at this
        omega

end LetterCase

/-! ### Labels -/

theorem ModelSize.ofLabel?_eq_some_iff {label : String} {s : ModelSize} :
    ofLabel? label = some s ↔ label = s.label := by
  constructor
  · intro found
    have same : s.label = label := by simpa using List.find?_some found
    exact same.symm
  · rintro rfl
    cases s <;> decide

theorem Training.ofLabel?_eq_some_iff {label : String} {t : Training} :
    ofLabel? label = some t ↔ label = t.label := by
  constructor
  · intro found
    have same : t.label = label := by simpa using List.find?_some found
    exact same.symm
  · rintro rfl
    cases t <;> decide

namespace ModelVariant

open LetterCase

theorem cutAtLastHyphen?_append (front : List Char) {back : List Char} (clear : '-' ∉ back) :
    cutAtLastHyphen? (front ++ '-' :: back) = some (front, back) := by
  have others : ∀ c ∈ back.reverse, decide (c ≠ '-') = true := by
    intro c mem
    simp only [decide_eq_true_eq]
    rintro rfl
    exact clear (List.mem_reverse.mp mem)
  have turned : (front ++ '-' :: back).reverse = back.reverse ++ '-' :: front.reverse := by simp
  rw [cutAtLastHyphen?, if_pos (by simp), turned]
  dsimp only
  rw [List.dropWhile_append_of_pos others, List.takeWhile_append_of_pos others]
  simp

/-- A text is cut at a hyphen that no other follows. -/
theorem cutAtLastHyphen?_eq_some_iff {text front back : List Char} :
    cutAtLastHyphen? text = some (front, back) ↔ text = front ++ '-' :: back ∧ '-' ∉ back := by
  constructor
  · intro cut
    have hyphen : '-' ∈ text.reverse := by
      unfold cutAtLastHyphen? at cut
      split_ifs at cut with contains
      simpa using contains
    obtain ⟨after, before, split, clear⟩ := List.eq_append_cons_of_mem hyphen
    have whole : text = before.reverse ++ '-' :: after.reverse := by
      rw [← List.reverse_reverse text, split]
      simp
    have clear' : '-' ∉ after.reverse := by simpa using clear
    rw [whole, cutAtLastHyphen?_append _ clear'] at cut
    cases cut
    exact ⟨whole, clear'⟩
  · rintro ⟨rfl, clear⟩
    exact cutAtLastHyphen?_append front clear

theorem toList_label (v : ModelVariant) :
    v.label.toList = v.size.label.toList ++ '-' :: v.training.label.toList := by
  simp [label]

theorem not_mem_training_label (t : Training) : '-' ∉ t.label.toList := by
  cases t <;> decide

/-- **The two ways of labels agree.** A text in lower case is taken for a variant exactly if it is its label. -/
theorem ofLabel?_eq_some_iff {text : List Char} {v : ModelVariant} :
    ofLabel? text = some v ↔ text = v.label.toList := by
  simp only [ofLabel?, Option.bind_eq_bind, Option.bind_eq_some_iff, Prod.exists]
  constructor
  · rintro ⟨front, back, cut, s, size, t, training, same⟩
    cases same
    rw [ModelSize.ofLabel?_eq_some_iff] at size
    rw [Training.ofLabel?_eq_some_iff] at training
    rw [(cutAtLastHyphen?_eq_some_iff.mp cut).1, toList_label, ← size, ← training]
    simp
  · rintro rfl
    refine ⟨v.size.label.toList, v.training.label.toList, ?_, v.size, ?_, v.training, ?_, rfl⟩
    · rw [toList_label]
      exact cutAtLastHyphen?_append _ (not_mem_training_label v.training)
    · simp [ModelSize.ofLabel?_eq_some_iff]
    · simp [Training.ofLabel?_eq_some_iff]

/-- Labels are plain and have no blanks. -/
theorem label_chars (v : ModelVariant) : ∀ c ∈ v.label.toList, isPlain c = true ∧ isBlank c = false := by
  have all : (v.label.toList.all fun c => isPlain c && !isBlank c) = true := by
    obtain ⟨size, training⟩ := v
    cases size <;> cases training <;> decide
  intro c mem
  simpa using List.all_eq_true.mp all c mem

theorem label_injective {v w : ModelVariant} (same : v.label.toList = w.label.toList) : v = w := by
  have read := ofLabel?_eq_some_iff.mpr same
  rw [ofLabel?_eq_some_iff.mpr rfl] at read
  exact Option.some.inj read

theorem parse_eq_ok {raw : String} {v : ModelVariant} :
    parse raw = .ok v ↔ ofLabel? (lowercase (trimBlank raw.toList)) = some v := by
  unfold parse
  cases ofLabel? (lowercase (trimBlank raw.toList)) <;> simp

/-- The only fault of a text is that it names no variant. -/
theorem parse_eq_error {raw : String} {e : ConfigError} :
    parse raw = .error e ↔ e = .unknownModel raw ∧ ∀ v, ¬ parse raw = .ok v := by
  simp only [parse_eq_ok]
  unfold parse
  cases ofLabel? (lowercase (trimBlank raw.toList)) <;> simp [eq_comm]

/-- A text names a variant if it is the label, but for blanks around it and capitals of ASCII. -/
theorem parse_eq_ok_iff {raw : String} {v : ModelVariant} :
    parse raw = .ok v ↔ (trimBlank raw.toList).map Char.toLower = v.label.toList := by
  rw [parse_eq_ok, ofLabel?_eq_some_iff, ← lowercaseBy_never []]
  exact lowercaseBy_eq_iff _ [] fun c mem => (label_chars v c mem).1

/-- A text spells the label of a variant: blanks, the label with letters in either case, and blanks. -/
def IsSpelling (v : ModelVariant) (raw : List Char) : Prop :=
  ∃ before spelled after, raw = before ++ spelled ++ after ∧ spelled.map Char.toLower = v.label.toList ∧
    (∀ c ∈ before, isBlank c = true) ∧ ∀ c ∈ after, isBlank c = true

theorem isSpelling_iff {v : ModelVariant} {raw : List Char} :
    v.IsSpelling raw ↔ (trimBlank raw).map Char.toLower = v.label.toList := by
  constructor
  · rintro ⟨before, spelled, after, rfl, same, blank, blank'⟩
    have shown : ∀ c ∈ spelled, isBlank c = false := by
      intro c mem
      rw [← isBlank_toLower]
      exact (label_chars v _ (same ▸ List.mem_map_of_mem mem)).2
    rw [trimBlank_append spelled blank blank', trimBlank_of_shown shown, same]
  · intro same
    obtain ⟨before, after, whole, blank, blank'⟩ := exists_trimBlank raw
    exact ⟨before, _, after, whole, same, blank, blank'⟩

/-- **Which texts name a variant.** A text names a variant exactly if it is the label, without the blanks around
it and in lower case, whatever rule the final form of sigma follows. So it spells the label, with letters of ASCII
in either case and blanks around them, and then no other; blanks around a text and the case of such letters never
matter. A text that names no variant is refused as it stands. -/
theorem parse_reads (raw : String) :
    (∀ isFinal v, parse raw = .ok v ↔ lowercaseBy isFinal [] (trimBlank raw.toList) = v.label.toList) ∧
    (∀ v, parse raw = .ok v ↔ v.IsSpelling raw.toList) ∧
    (∀ v w : ModelVariant, v.IsSpelling raw.toList → w.IsSpelling raw.toList → v = w) ∧
    (∀ before respelled after, (∀ c ∈ before, isBlank c = true) → (∀ c ∈ after, isBlank c = true) →
      respelled.map Char.toLower = raw.toList.map Char.toLower →
      ∀ v, parse (String.ofList (before ++ respelled ++ after)) = .ok v ↔ parse raw = .ok v) ∧
    ∀ e, parse raw = .error e ↔ e = .unknownModel raw ∧ ∀ v : ModelVariant, ¬ v.IsSpelling raw.toList := by
  refine ⟨fun isFinal v => ?_, fun v => ?_, fun v w spelling spelling' => ?_,
    fun before respelled after blank blank' same v => ?_, fun e => ?_⟩
  · rw [parse_eq_ok_iff, lowercaseBy_eq_iff isFinal [] fun c mem => (label_chars v c mem).1]
  · rw [parse_eq_ok_iff, isSpelling_iff]
  · rw [isSpelling_iff] at spelling spelling'
    exact label_injective (spelling.symm.trans spelling')
  · rw [parse_eq_ok_iff, parse_eq_ok_iff, String.toList_ofList, trimBlank_append respelled blank blank',
      map_toLower_trimBlank, same, map_toLower_trimBlank]
  · rw [parse_eq_error]
    simp only [parse_eq_ok_iff, isSpelling_iff]

example : parse " 27B-Pt\n" = .ok ⟨.gemma27B, .pretrained⟩ := by decide +kernel

end ModelVariant

end PromptLoop
