import Mathlib.Data.List.Basic
import PromptLoop.Proofs.Utf8

/-!
# The lines of two inputs

Where an input is empty or ends with a newline, what follows begins a new line: the lines of two inputs
that meet there are the lines of the first and then those of the second (`Line.lines_append`). A line
that is left out of an input leaves the other lines as they are (`Line.lines_without`). The newline byte is
part of no other character, so the lines of an input that is UTF-8 are all UTF-8
(`Line.text?_of_mem_lines`).
-/

namespace PromptLoop

namespace Line

theorem consByte_append {lines : List (List UInt8)} (nonempty : lines ≠ []) (b : UInt8)
    (more : List (List UInt8)) : consByte b (lines ++ more) = consByte b lines ++ more := by
  rcases lines with _ | ⟨line, rest⟩
  · exact absurd rfl nonempty
  · simp only [consByte, List.cons_append]
    split_ifs <;> rfl

theorem lines_ne_nil {input : List UInt8} (h : input ≠ []) : lines input ≠ [] := by
  intro none
  have whole := flatten_lines input
  rw [none] at whole
  exact h whole.symm

/-- The lines of two inputs that meet after a newline. -/
theorem lines_append {input : List UInt8} (meet : input = [] ∨ input.getLast? = some newline)
    (more : List UInt8) : lines (input ++ more) = lines input ++ lines more := by
  induction input with
  | nil => rfl
  | cons b rest ih =>
    rcases rest with _ | ⟨b', rest⟩
    · have last : b = newline := by simpa using meet
      show consByte b (lines more) = consByte b [] ++ lines more
      rw [last]
      rcases lines more with _ | ⟨line, others⟩
      · rfl
      · simp [consByte]
    · have meet' : b' :: rest = [] ∨ (b' :: rest).getLast? = some newline := by
        simpa [List.getLast?_cons_cons] using meet
      show consByte b (lines (b' :: rest ++ more)) = consByte b (lines (b' :: rest)) ++ lines more
      rw [ih meet', consByte_append (lines_ne_nil (List.cons_ne_nil _ _))]

/-- Bytes other than newlines go in front of the first line. -/
theorem foldr_consByte {bytes : List UInt8} (inside : newline ∉ bytes) (line : List UInt8)
    (rest : List (List UInt8)) :
    bytes.foldr consByte (line :: rest) = (bytes ++ line) :: rest := by
  induction bytes with
  | nil => rfl
  | cons b bytes ih =>
    obtain ⟨other, inside⟩ := not_or.mp (mt List.mem_cons.mpr inside)
    rw [List.foldr_cons, ih inside, consByte, if_neg (Ne.symm other)]
    rfl

theorem foldr_consByte_nil {bytes : List UInt8} (inside : newline ∉ bytes) (nonempty : bytes ≠ []) :
    bytes.foldr consByte [] = [bytes] := by
  obtain ⟨front, last, rfl⟩ := (List.eq_nil_or_concat bytes).resolve_left nonempty
  rw [List.concat_eq_append] at inside ⊢
  rw [List.foldr_append]
  exact foldr_consByte (fun mem => inside (List.mem_append_left _ mem)) [last] []

/-! ### Leaving out a line -/

/-- A line that ends with its newline. -/
def Closed (line : List UInt8) : Prop := ∃ bytes, line = bytes ++ [newline] ∧ newline ∉ bytes

/-- A line that ends with its newline is the first line, whatever follows. -/
theorem lines_closed_append {line : List UInt8} (closed : Closed line) (more : List UInt8) :
    lines (line ++ more) = line :: lines more := by
  obtain ⟨bytes, rfl, inside⟩ := closed
  have first : lines ([newline] ++ more) = [newline] :: lines more :=
    lines_append (.inr rfl) more
  rw [List.append_assoc, lines, List.foldr_append, ← lines, first, foldr_consByte inside]

/-- The first line of an input ends with its newline, and the others are the lines of the rest; or there is
no other line. -/
theorem lines_eq_cons {input line : List UInt8} {rest : List (List UInt8)} (h : lines input = line :: rest) :
    (Closed line ∧ ∃ more, lines more = rest) ∨ rest = [] := by
  induction input generalizing line rest with
  | nil => cases h
  | cons b bytes ih =>
    have h : consByte b (lines bytes) = line :: rest := h
    rcases hl : lines bytes with _ | ⟨first, others⟩ <;> rw [hl, consByte] at h
    · exact .inr (List.cons.inj h).2.symm
    · split_ifs at h with ends
      · obtain ⟨rfl, rfl⟩ := List.cons.inj h
        exact .inl ⟨⟨[], by rw [ends, List.nil_append], List.not_mem_nil⟩, bytes, hl⟩
      · obtain ⟨rfl, rfl⟩ := List.cons.inj h
        refine (ih hl).imp_left ?_
        rintro ⟨⟨inner, rfl, inside⟩, more⟩
        refine ⟨⟨b :: inner, rfl, ?_⟩, more⟩
        rw [List.mem_cons, not_or]
        exact ⟨Ne.symm ends, inside⟩

/-- The lines of an input without one of its lines are the other lines. -/
theorem lines_without {input line : List UInt8} {before after : List (List UInt8)}
    (h : lines input = before ++ line :: after) :
    lines (before.flatten ++ after.flatten) = before ++ after := by
  induction before generalizing input with
  | nil =>
    rcases lines_eq_cons h with ⟨-, more, rfl⟩ | rfl
    · rw [List.flatten_nil, List.nil_append, List.nil_append, flatten_lines]
    · rfl
  | cons first before ih =>
    obtain ⟨closed, more, rest⟩ : Closed first ∧ ∃ more, lines more = before ++ line :: after :=
      (lines_eq_cons h).resolve_right (List.append_ne_nil_of_right_ne_nil _ (List.cons_ne_nil _ _))
    rw [List.flatten_cons, List.append_assoc, lines_closed_append closed, ih rest]
    rfl

/-! ### Lines of a text -/

/-- A newline is a character by itself. -/
theorem eq_newline_of_mem {c : Char} (h : newline ∈ String.utf8EncodeChar c) : c = '\n' := by
  obtain ⟨i, bound, at_i⟩ := List.getElem_of_mem h
  have first : (String.utf8EncodeChar c)[i].IsUTF8FirstByte := by
    rw [at_i]
    decide
  rw [UInt8.isUTF8FirstByte_getElem_utf8EncodeChar] at first
  subst first
  have begins : utf8 ['\n'] ++ (String.utf8EncodeChar c).tail = utf8 [c] := by
    rcases encoded : String.utf8EncodeChar c with _ | ⟨b, bytes⟩
    · rw [encoded] at bound
      cases bound
    · simp only [encoded, List.getElem_cons_zero] at at_i
      rw [utf8_cons c, utf8_nil, List.append_nil, encoded, at_i]
      rfl
  obtain ⟨more, same, -⟩ := utf8_append_eq begins
  rw [List.singleton_append] at same
  exact (List.cons.inj same).1

/-- Every line of a text is a text. -/
theorem text?_of_mem_lines {input line : List UInt8} {text : String} (isText : text? input = some text)
    (mem : line ∈ lines input) : ∃ text, text? line = some text := by
  have wellFormed : ∀ cs : List Char, ∀ line ∈ lines (utf8 cs), WellFormed line := by
    intro cs
    induction cs with
    | nil => exact List.forall_mem_nil _
    | cons c cs ih =>
      have split : lines (utf8 (c :: cs)) = (String.utf8EncodeChar c).foldr consByte (lines (utf8 cs)) := by
        rw [utf8_cons, lines, List.foldr_append]
        rfl
      have alone : WellFormed (String.utf8EncodeChar c) := ⟨[c], by rw [utf8_cons, utf8_nil, List.append_nil]⟩
      rw [split]
      by_cases ends : newline ∈ String.utf8EncodeChar c
      · obtain rfl := eq_newline_of_mem ends
        show ∀ line ∈ consByte newline (lines (utf8 cs)), WellFormed line
        rcases hl : lines (utf8 cs) with _ | ⟨first, rest⟩
        · exact List.forall_mem_singleton.mpr alone
        · rw [hl] at ih
          exact List.forall_mem_cons.mpr ⟨alone, ih⟩
      · rcases hl : lines (utf8 cs) with _ | ⟨first, rest⟩
        · have nonempty : String.utf8EncodeChar c ≠ [] := by
            intro none
            have size := String.length_utf8EncodeChar c
            rw [none, List.length_nil] at size
            exact absurd size.symm (Nat.ne_of_gt c.utf8Size_pos)
          rw [foldr_consByte_nil ends nonempty]
          exact List.forall_mem_singleton.mpr alone
        · rw [hl] at ih
          obtain ⟨⟨ds, rfl⟩, others⟩ := List.forall_mem_cons.mp ih
          rw [foldr_consByte ends]
          exact List.forall_mem_cons.mpr ⟨⟨c :: ds, utf8_cons c ds⟩, others⟩
  rw [text?_eq_some_iff] at isText
  rw [← isText] at mem
  obtain ⟨cs, rfl⟩ := wellFormed _ line mem
  exact ⟨_, text?_utf8 cs⟩

end Line

end PromptLoop
