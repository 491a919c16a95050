import PromptLoop.Tokenizer.Rendering

/-!
# Bytes of characters

Facts about UTF-8 that decoding token by token rests on. The encoding of characters can be taken apart
only between characters, and a byte that continues a character begins nothing. So bytes after well-formed
bytes are well-formed on their own or not at all (`wellFormed_append_iff`), and bytes that follow a byte
which is no character by itself, and complete one, are themselves never well-formed
(`not_wellFormed_of_cons`).
-/

namespace PromptLoop

/-- The bytes of characters. -/
def utf8 (cs : List Char) : List UInt8 := cs.flatMap String.utf8EncodeChar

/-- Bytes of some characters. -/
def WellFormed (bytes : List UInt8) : Prop := ∃ cs, utf8 cs = bytes

@[simp] theorem utf8_nil : utf8 [] = [] := rfl

theorem utf8_cons (c : Char) (cs : List Char) : utf8 (c :: cs) = String.utf8EncodeChar c ++ utf8 cs := rfl

@[simp] theorem utf8_append (cs ds : List Char) : utf8 (cs ++ ds) = utf8 cs ++ utf8 ds :=
  List.flatMap_append

theorem utf8Encode_eq (cs : List Char) : cs.utf8Encode = (utf8 cs).toByteArray := rfl

theorem bytes_eq_utf8 (s : String) : Line.bytes s = utf8 s.toList := by
  show s.toByteArray.data.toList = _
  rw [← String.utf8Encode_toList, utf8Encode_eq, List.toList_data_toByteArray]

theorem text?_eq_some_iff {bytes : List UInt8} {s : String} :
    Line.text? bytes = some s ↔ utf8 s.toList = bytes := by
  constructor
  · intro h
    unfold Line.text? String.fromUTF8? at h
    split at h
    · obtain rfl := Option.some.inj h
      rw [← bytes_eq_utf8]
      rfl
    · cases h
  · rintro rfl
    rw [← bytes_eq_utf8, Line.text?_bytes]

theorem text?_utf8 (cs : List Char) : Line.text? (utf8 cs) = some (String.ofList cs) := by
  rw [text?_eq_some_iff, String.toList_ofList]

theorem text?_eq_none {bytes : List UInt8} (h : ¬ WellFormed bytes) : Line.text? bytes = none := by
  rcases hs : Line.text? bytes with _ | s
  · rfl
  · exact absurd ⟨_, text?_eq_some_iff.mp hs⟩ h

theorem length_utf8 (cs : List Char) : (utf8 cs).length = cs.foldr (fun c n => c.utf8Size + n) 0 := by
  induction cs with
  | nil => rfl
  | cons c cs ih =>
    rw [utf8_cons, List.length_append, String.length_utf8EncodeChar, ih, List.foldr_cons]

theorem length_le_length_utf8 (cs : List Char) : cs.length ≤ (utf8 cs).length := by
  induction cs with
  | nil => exact Nat.le_refl 0
  | cons c cs ih =>
    rw [utf8_cons, List.length_append, String.length_utf8EncodeChar, List.length_cons]
    have := c.utf8Size_pos
    omega

theorem utf8_eq_nil {cs : List Char} (h : utf8 cs = []) : cs = [] := by
  have := length_le_length_utf8 cs
  rw [h] at this
  exact List.eq_nil_of_length_eq_zero (Nat.le_zero.mp this)

/-! ### Taking encodings apart -/

/-- What the encoding of characters begins with, if it is itself an encoding, is that of the first of
them. -/
theorem utf8_append_eq {cs ds : List Char} {bytes : List UInt8} (h : utf8 cs ++ bytes = utf8 ds) :
    ∃ es, ds = cs ++ es ∧ bytes = utf8 es := by
  have encodings : cs.utf8Encode ++ bytes.toByteArray = ds.utf8Encode := by
    rw [utf8Encode_eq, utf8Encode_eq, ← h, List.toByteArray_append]
  obtain ⟨es, rfl⟩ := List.isPrefix_of_utf8Encode_append_eq_utf8Encode _ encodings
  rw [utf8_append] at h
  exact ⟨es, rfl, List.append_cancel_left h⟩

theorem utf8_inj {cs ds : List Char} (h : utf8 cs = utf8 ds) : cs = ds := by
  obtain ⟨es, rfl, nil⟩ := utf8_append_eq ((List.append_nil _).trans h)
  rw [utf8_eq_nil nil.symm, List.append_nil]

theorem wellFormed_utf8 (cs : List Char) : WellFormed (utf8 cs) := ⟨cs, rfl⟩

/-- Bytes after those of characters are well-formed or not on their own. -/
theorem wellFormed_append_iff (cs : List Char) (bytes : List UInt8) :
    WellFormed (utf8 cs ++ bytes) ↔ WellFormed bytes := by
  constructor
  · rintro ⟨ds, h⟩
    obtain ⟨es, -, rfl⟩ := utf8_append_eq h.symm
    exact wellFormed_utf8 es
  · rintro ⟨ds, rfl⟩
    rw [← utf8_append]
    exact wellFormed_utf8 _

/-! ### Bytes that are no characters -/

theorem isUTF8FirstByte_of_wellFormed {b : UInt8} {bytes : List UInt8} (h : WellFormed (b :: bytes)) :
    b.IsUTF8FirstByte := by
  obtain ⟨_ | ⟨c, cs⟩, h⟩ := h
  · cases h
  · have size : 0 < (String.utf8EncodeChar c).length := by
      rw [String.length_utf8EncodeChar]
      exact c.utf8Size_pos
    have first : (String.utf8EncodeChar c)[0] = b := by
      have : (utf8 (c :: cs))[0]? = some b := by rw [h]; rfl
      rw [utf8_cons, List.getElem?_append_left size] at this
      exact (List.getElem?_eq_some_iff.mp this).2
    rw [← first]
    exact UInt8.isUTF8FirstByte_getElem_zero_utf8EncodeChar

/-- The first character of well-formed bytes takes more than one byte if the first byte is no character. -/
theorem one_lt_utf8Size {b : UInt8} {bytes : List UInt8} {c : Char} {cs : List Char}
    (alone : ¬ WellFormed [b]) (h : utf8 (c :: cs) = b :: bytes) : 1 < c.utf8Size := by
  have pos := c.utf8Size_pos
  refine Nat.lt_of_le_of_ne pos fun one => alone ⟨[c], ?_⟩
  have length : (String.utf8EncodeChar c).length = 1 := (String.length_utf8EncodeChar c).trans one.symm
  obtain ⟨a, ha⟩ := List.length_eq_one_iff.mp length
  rw [utf8_cons, ha] at h ⊢
  rw [utf8_nil, List.append_nil, (List.cons.inj h).1]

/-- Bytes that complete a character are not well-formed on their own, however they go on. -/
theorem not_wellFormed_of_cons {b x : UInt8} {bytes rest : List UInt8} (alone : ¬ WellFormed [b])
    (h : WellFormed (b :: x :: bytes)) : ¬ WellFormed (x :: rest) := by
  intro begins
  have first := isUTF8FirstByte_of_wellFormed begins
  obtain ⟨_ | ⟨c, cs⟩, h⟩ := h
  · cases h
  · have size := one_lt_utf8Size alone h
    rw [← String.length_utf8EncodeChar] at size
    have second : (String.utf8EncodeChar c)[1] = x := by
      have : (utf8 (c :: cs))[1]? = some x := by rw [h]; rfl
      rw [utf8_cons, List.getElem?_append_left size] at this
      exact (List.getElem?_eq_some_iff.mp this).2
    rw [← second, UInt8.isUTF8FirstByte_getElem_utf8EncodeChar] at first
    exact absurd first Nat.one_ne_zero

/-- The first byte after one that begins a character begins none, however the bytes go on. -/
theorem exists_not_wellFormed {b : UInt8} {bytes : List UInt8} (alone : ¬ WellFormed [b])
    (wf : WellFormed (b :: bytes)) : ∃ x rest, bytes = x :: rest ∧ ∀ rest', ¬ WellFormed (x :: rest') := by
  rcases bytes with _ | ⟨x, rest⟩
  · exact absurd wf alone
  · exact ⟨x, rest, rfl, fun _ => not_wellFormed_of_cons alone wf⟩

end PromptLoop
