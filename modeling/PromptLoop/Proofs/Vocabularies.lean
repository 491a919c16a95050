import PromptLoop.Proofs.Spelling

/-!
# Tokens of vocabularies

The tokenizer of a vocabulary encodes what its special pieces leave of a text character by character. So the
token of a piece of several characters, unless it is a piece for a byte, comes from the piece only
(`Vocabulary.confines`), and only if the piece is special: the text of any other piece is not encoded as its
token, though it has one (`Vocabulary.encode_piece_iff`).
-/

namespace PromptLoop

/-! ### Tables -/

namespace PieceTable

variable {pieces : List String} {piece : String} {token : Token}

/-- The token of a piece is one of its places. -/
theorem place_of_token? (h : (ofPieces pieces).token? piece = some token) : pieces[token]? = some piece := by
  obtain ⟨before, after, all, -⟩ := List.lookup_eq_some_iff.mp h
  have mem : (piece, token) ∈ pieces.zipIdx := by
    rw [← List.mem_reverse, show pieces.zipIdx.reverse = _ from all]
    exact List.mem_append_right _ List.mem_cons_self
  exact List.mem_zipIdx_iff_getElem?.mp mem

theorem exists_token? (h : piece ∈ pieces) : ∃ token, (ofPieces pieces).token? piece = some token := by
  obtain ⟨i, bound, rfl⟩ := List.getElem_of_mem h
  refine Option.isSome_iff_exists.mp (List.lookup_isSome_iff.mpr ⟨(pieces[i], i), ?_, beq_self_eq_true _⟩)
  exact List.mem_reverse.mpr (List.mem_zipIdx_iff_getElem?.mpr (List.getElem?_eq_getElem bound))

/-- Pieces of one token are the same. -/
theorem eq_of_token? {piece' : String} (h : (ofPieces pieces).token? piece = some token)
    (h' : (ofPieces pieces).token? piece' = some token) : piece = piece' :=
  Option.some.inj ((place_of_token? h).symm.trans (place_of_token? h'))

/-- A piece for a byte has six characters. -/
theorem ne_bytePiece (h : piece.toList.length ≠ 6) (b : UInt8) : piece ≠ bytePiece b := by
  rintro rfl
  exact h (by rw [bytePiece, String.toList_ofList]; rfl)

end PieceTable

/-! ### Words -/

namespace Merging

variable {table : PieceTable} {token : Token} {tokens : List Token}

theorem marked_plain (table : PieceTable) (isFirst : Bool) (word : List Char) :
    (plain table).marked isFirst word = word.map ([·]) := by
  induction word generalizing isFirst with
  | nil => rfl
  | cons c rest ih =>
    cases rest with
    | nil => cases isFirst <;> rfl
    | cons d rest =>
      rw [marked, ih false]
      cases isFirst <;> rfl

/-- The tokens of bytes. -/
theorem byteTokens?_eq_some {unit : List Char} (h : table.byteTokens? unit = some tokens)
    (mem : token ∈ tokens) : ∃ b, table.token? (PieceTable.bytePiece b) = some token := by
  unfold PieceTable.byteTokens? at h
  generalize Line.bytes (String.ofList unit) = bytes at h
  induction bytes generalizing tokens with
  | nil =>
    obtain rfl := Option.some.inj h
    cases mem
  | cons b bytes ih =>
    simp only [List.mapM_cons, Option.bind_eq_bind, Option.bind_eq_some_iff, Option.pure_def,
      Option.some.injEq] at h
    obtain ⟨first, known, rest, others, rfl⟩ := h
    rcases List.mem_cons.mp mem with rfl | mem
    · exact ⟨b, known⟩
    · exact ih mem others

theorem encodeUnits_plain {units : List (List Char)} (h : (plain table).encodeUnits none units = .ok tokens)
    (mem : token ∈ tokens) : (∃ unit ∈ units, table.token? (String.ofList unit) = some token) ∨
      ∃ b, table.token? (PieceTable.bytePiece b) = some token := by
  induction units generalizing tokens with
  | nil =>
    obtain rfl := Except.ok.inj h
    cases mem
  | cons unit units ih =>
    have later : ∀ {rest}, (plain table).encodeUnits none units = .ok rest → token ∈ rest →
        (∃ unit' ∈ unit :: units, table.token? (String.ofList unit') = some token) ∨
          ∃ b, table.token? (PieceTable.bytePiece b) = some token := by
      intro rest others mem
      exact (ih others mem).imp_left fun ⟨unit', mem, known⟩ => ⟨unit', .tail _ mem, known⟩
    rw [encodeUnits] at h
    rcases known : (plain table).table.token? (String.ofList unit) with _ | first <;> rw [known] at h
    · rcases spelt : (plain table).byteTokens? unit with _ | bytes <;> rw [spelt] at h
      · exact later h mem
      · obtain ⟨rest, others, rfl⟩ := exists_of_map h
        rcases List.mem_append.mp mem with mem | mem
        · exact .inr (byteTokens?_eq_some spelt mem)
        · exact later others mem
    · obtain ⟨rest, others, rfl⟩ := exists_of_map h
      rcases List.mem_cons.mp mem with rfl | mem
      · exact .inl ⟨unit, List.mem_cons_self, known⟩
      · exact later others mem

/-- Without merges and marks, the tokens of a word are those of characters and of bytes. -/
theorem encode_plain {word : List Char} (h : (plain table).encode word = .ok tokens) (mem : token ∈ tokens) :
    (∃ c ∈ word, table.token? (String.ofList [c]) = some token) ∨
      ∃ b, table.token? (PieceTable.bytePiece b) = some token := by
  have h : ((plain table).encodeUnits none ((plain table).marked true word)).map
      (fun tokens => mergeTokens [] tokens.length tokens) = .ok tokens := h
  obtain ⟨rest, units, rfl⟩ := exists_of_map h
  rw [mergeTokens_nil] at mem
  refine (encodeUnits_plain units mem).imp_left fun ⟨unit, inside, known⟩ => ?_
  rw [marked_plain] at inside
  obtain ⟨c, mem, rfl⟩ := List.mem_map.mp inside
  exact ⟨c, mem, known⟩

end Merging

/-! ### Vocabularies -/

namespace Vocabulary

variable {v : Vocabulary} {piece : String} {token : Token}

theorem isAssembled (v : Vocabulary) : v.trained.IsAssembled := ⟨_, rfl⟩

theorem keepsAll (v : Vocabulary) : v.trained.KeepsAll := ⟨rfl, Nat.one_pos⟩

theorem resize_eq (v : Vocabulary) (tokens : List Token) : v.trained.resize tokens = .ok tokens := by
  show (.ok (List.replicate 1 tokens).flatten : Except EncodeFault (List Token)) = .ok tokens
  rw [List.replicate_one, List.flatten_singleton]

theorem mem_special_of_wanted {p : AddedPiece} (h : p ∈ v.trained.added.wanted) :
    ∃ s ∈ v.special, p = .ofSpecial s := by
  obtain ⟨s, mem, same⟩ := List.mem_map.mp (AddedPieces.mem_of_wanted h).1
  exact ⟨s, mem, same.symm⟩

/-- The special pieces are looked for, and no others. -/
theorem looksFor_iff (nonempty : piece ≠ "") : v.trained.LooksFor piece ↔ piece ∈ v.special := by
  constructor
  · rintro ⟨p, wanted, rfl, -⟩
    obtain ⟨s, mem, rfl⟩ := mem_special_of_wanted wanted
    exact mem
  · intro mem
    have added : AddedPiece.ofSpecial piece ∈ v.special.map .ofSpecial := List.mem_map.mpr ⟨piece, mem, rfl⟩
    obtain ⟨p, wanted, same⟩ := AddedPieces.wanted_of_mem v.trained.model added nonempty
    obtain ⟨s, -, rfl⟩ := mem_special_of_wanted (v := v) wanted
    exact ⟨_, wanted, same, rfl⟩

/-- A special piece that no other gets in the way of is found wherever it stands. -/
theorem finds (special : piece ∈ v.special) (shown : ∃ c, piece.toList.head? = some c ∧ isBlank c = false)
    (clear : AddedPieces.StandsClear piece.toList v.trained.early) : v.trained.Finds piece := by
  have nonempty : piece ≠ "" := by
    rintro rfl
    obtain ⟨c, starts, -⟩ := shown
    cases starts
  refine ⟨(looksFor_iff nonempty).mpr special, shown, clear, ?_⟩
  intro token p _ found
  obtain ⟨⟨q, token'⟩, entry, rfl⟩ := Option.map_eq_some_iff.mp found
  have entry := List.mem_reverse.mp (List.mem_of_find?_eq_some entry)
  have mem := ((AddedPieces.ofList_adds v.trained.model _).only _ entry).resolve_left List.not_mem_nil
  obtain ⟨s, -, rfl⟩ := List.mem_map.mp mem
  rfl

/-- The token of a piece of several characters comes from the piece only. -/
theorem confines (known : ∀ s ∈ v.special, s ∈ v.pieces) (mem : piece ∈ v.pieces)
    (token? : v.trained.token? piece = some token) (several : 1 < piece.toList.length)
    (noByte : ∀ b, piece ≠ PieceTable.bytePiece b) : v.trained.Confines piece token := by
  -- A piece of the vocabulary has its place as its token, whether it is special or not.
  have table : ∀ s ∈ v.pieces, ∀ token, v.trained.token? s = some token →
      (PieceTable.ofPieces v.pieces).token? s = some token := by
    intro s mem token given
    obtain ⟨place, there⟩ := PieceTable.exists_token? mem
    have agrees := AddedPieces.ofList_agrees v.trained.model (v.special.map .ofSpecial) s place there
    rw [there, ← agrees, ← given]
    rfl
  have here := table piece mem token token?
  constructor
  · intro q mem same
    obtain ⟨p, wanted, -, -, given, text⟩ := TrainedTokenizer.mem_early.mp mem
    obtain ⟨s, special, rfl⟩ := mem_special_of_wanted wanted
    rw [same] at given
    rw [← text, PieceTable.eq_of_token? (table s (known s special) token given) here]
    rfl
  · intro q mem
    obtain ⟨p, wanted, -⟩ := List.mem_filterMap.mp mem
    obtain ⟨wanted, late⟩ := List.mem_filter.mp wanted
    obtain ⟨s, -, rfl⟩ := mem_special_of_wanted wanted
    cases late
  · intro word tokens encoded inside
    rcases Merging.encode_plain encoded inside with ⟨c, -, given⟩ | ⟨b, given⟩
    · rw [← PieceTable.eq_of_token? given here] at several
      simp at several
    · exact noByte b (PieceTable.eq_of_token? here given)
  · exact fun _ => nofun

/-- **A piece of several characters** is encoded as its token exactly if it is special. -/
theorem encode_piece_iff (known : ∀ s ∈ v.special, s ∈ v.pieces) (mem : piece ∈ v.pieces)
    (token? : v.trained.token? piece = some token) (several : 1 < piece.toList.length)
    (noByte : ∀ b, piece ≠ PieceTable.bytePiece b) :
    v.trained.encode piece = .ok [token] ↔ piece ∈ v.special := by
  have nonempty : piece ≠ "" := by
    rintro rfl
    cases several
  rw [← looksFor_iff nonempty]
  constructor
  · intro encoded
    exact ((confines known mem token? several noByte).stands encoded (List.mem_singleton_self token)).1
  · intro looks
    rw [TrainedTokenizer.encode_piece looks v.isAssembled nonempty token?, resize_eq]

end Vocabulary

end PromptLoop
