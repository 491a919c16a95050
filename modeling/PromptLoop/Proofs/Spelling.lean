import PromptLoop.Proofs.Finding
import PromptLoop.Tokenizer.File

/-!
# Tokens of pieces in a text

Whether the token of an added piece is among the tokens of a text is a matter of how the text is cut. A piece
that is looked for in texts as they are (`TrainedTokenizer.LooksFor`) has its token when it is a text by
itself, before tokens are cut off and filled up (`TrainedTokenizer.encode_piece`). When it is a part of a text
it has to be found first (`TrainedTokenizer.Finds`): then its token is among those of the text, whatever is
around the piece (`TrainedTokenizer.Finds.mem_of_stands`).

Conversely, a token may come from elsewhere: from a piece that is looked for only after a text has been
respelled, from the piece model, or from filling up. If it does not (`TrainedTokenizer.Confines`), it is among
the tokens of a text only if its piece stands there (`TrainedTokenizer.Confines.stands`).
-/

namespace PromptLoop

namespace AddedPieces

/-! ### Adding -/

/-- Entries of one text have one token, the one that is looked up. -/
def Coherent (model : PieceModel) (a : AddedPieces) : Prop :=
  ∀ e ∈ a.entries, a.token? model e.1.text = some e.2

/-- A piece that the model has keeps its token. -/
def Agrees (model : PieceModel) (a : AddedPieces) : Prop :=
  ∀ text token, model.token? text = some token → a.token? model text = some token

/-- What adding pieces comes to. -/
structure Adds (model : PieceModel) (a a' : AddedPieces) (pieces : List AddedPiece) : Prop where
  special : a'.special = a.special
  kept : ∀ e ∈ a.entries, e ∈ a'.entries
  all : ∀ p ∈ pieces, p.text ≠ "" → ∃ token, (p, token) ∈ a'.entries
  only : ∀ e ∈ a'.entries, e ∈ a.entries ∨ e.1 ∈ pieces
  coherent : Coherent model a → Coherent model a'
  agrees : Agrees model a → Agrees model a'

theorem token?_append (model : PieceModel) (a : AddedPieces) (p : AddedPiece) (new : Token) (text : String) :
    ({ a with entries := a.entries ++ [(p, new)] } : AddedPieces).token? model text =
      match a.added? text with
      | some token => some token
      | none => if p.text = text then some new else model.token? text := by
  unfold token? added?
  dsimp only
  rw [List.find?_append]
  generalize List.find? _ a.entries = found
  rcases found with _ | e
  · by_cases same : p.text = text <;> simp [same]
  · rfl

theorem Coherent.append {model : PieceModel} {a : AddedPieces} (h : Coherent model a) {p : AddedPiece}
    {new : Token} (known : ∀ token, a.token? model p.text = some token → token = new) :
    Coherent model { a with entries := a.entries ++ [(p, new)] } := by
  intro e mem
  rw [token?_append]
  rcases List.mem_append.mp mem with mem | mem
  · have before := h e mem
    unfold token? at before
    rcases added : a.added? e.1.text with _ | token <;> rw [added] at before
    · -- The entry itself would have been found.
      rw [added?, Option.map_eq_none_iff, List.find?_eq_none] at added
      exact absurd (beq_self_eq_true _) (added e mem)
    · exact before
  · obtain rfl := List.mem_singleton.mp mem
    rcases added : a.added? p.text with _ | token
    · exact if_pos rfl
    · exact congrArg some (known token (by rw [token?, added]))

theorem Agrees.append {model : PieceModel} {a : AddedPieces} (h : Agrees model a) {p : AddedPiece} {new : Token}
    (known : ∀ token, a.token? model p.text = some token → token = new) :
    Agrees model { a with entries := a.entries ++ [(p, new)] } := by
  intro text token given
  have before := h text token given
  rw [token?_append]
  rcases added : a.added? text with _ | token'
  · by_cases same : p.text = text
    · rw [if_pos same, known token (same ▸ before)]
    · rwa [if_neg same]
  · rwa [token?, added] at before

theorem insert_adds (model : PieceModel) (a : AddedPieces) (next : Token) (p : AddedPiece) :
    Adds model a (insert model (a, next) p).1 [p] := by
  have appended : ∀ new, (∀ token, a.token? model p.text = some token → token = new) →
      Adds model a { a with entries := a.entries ++ [(p, new)] } [p] := by
    intro new known
    refine ⟨rfl, fun e mem => List.mem_append_left _ mem, ?_, fun e mem => ?_, fun h => h.append known,
      fun h => h.append known⟩
    · rw [List.forall_mem_singleton]
      exact fun _ => ⟨new, List.mem_append_right _ (List.mem_singleton_self _)⟩
    · refine (List.mem_append.mp mem).imp_right fun last => ?_
      rw [List.mem_singleton.mp last]
      exact List.mem_singleton_self p
  unfold insert
  dsimp only
  split_ifs with there
  · refine ⟨rfl, fun e mem => mem, ?_, fun e mem => .inl mem, id, id⟩
    rw [List.forall_mem_singleton]
    intro nonempty
    rw [Bool.or_eq_true, String.isEmpty_iff, List.any_eq_true] at there
    obtain ⟨⟨q, token⟩, mem, same⟩ := there.resolve_left nonempty
    obtain rfl := eq_of_beq same
    exact ⟨token, mem⟩
  · rcases known : a.token? model p.text with _ | token <;> rw [known] at appended
    · exact appended next fun _ => nofun
    · exact appended token fun _ same => (Option.some.inj same).symm

theorem foldl_insert_adds (model : PieceModel) (pieces : List AddedPiece) (s : AddedPieces × Token) :
    Adds model s.1 (pieces.foldl (insert model) s).1 pieces := by
  induction pieces generalizing s with
  | nil => exact ⟨rfl, fun _ mem => mem, List.forall_mem_nil _, fun _ mem => .inl mem, id, id⟩
  | cons p pieces ih =>
    have first := insert_adds model s.1 s.2 p
    have rest := ih (insert model s p)
    rw [List.foldl_cons]
    refine ⟨rest.special.trans first.special, fun e mem => rest.kept e (first.kept e mem), ?_, fun e mem => ?_,
      fun h => rest.coherent (first.coherent h), fun h => rest.agrees (first.agrees h)⟩
    · rw [List.forall_mem_cons]
      refine ⟨fun nonempty => ?_, rest.all⟩
      obtain ⟨token, mem⟩ := first.all p (List.mem_singleton_self p) nonempty
      exact ⟨token, rest.kept _ mem⟩
    · rcases rest.only e mem with mem | mem
      · refine (first.only e mem).imp_right fun mem => ?_
        rw [List.mem_singleton.mp mem]
        exact List.mem_cons_self
      · exact .inr (.tail _ mem)

/-- The special pieces are some of the pieces that are added. -/
theorem mem_of_special {pieces before : List AddedPiece} {p : AddedPiece}
    (h : p ∈ pieces.foldl insertSpecial before) : p ∈ before ∨ p ∈ pieces ∧ p.text ≠ "" := by
  induction pieces generalizing before with
  | nil => exact .inl h
  | cons q pieces ih =>
    rcases ih h with mem | ⟨mem, nonempty⟩
    · unfold insertSpecial at mem
      split_ifs at mem with new
      · refine (List.mem_append.mp mem).imp_right fun last => ?_
        obtain rfl := List.mem_singleton.mp last
        simp only [Bool.and_eq_true, Bool.not_eq_true', String.isEmpty_eq_false_iff] at new
        exact ⟨List.mem_cons_self, new.1.2⟩
      · exact .inl mem
    · exact .inr ⟨.tail _ mem, nonempty⟩

variable {model : PieceModel} {pieces : List AddedPiece}

theorem ofList_adds (model : PieceModel) (pieces : List AddedPiece) :
    Adds model ⟨pieces.foldl insertSpecial [], []⟩ (ofList model pieces) pieces :=
  foldl_insert_adds model pieces (⟨pieces.foldl insertSpecial [], []⟩, model.size)

theorem ofList_coherent (model : PieceModel) (pieces : List AddedPiece) :
    Coherent model (ofList model pieces) :=
  (ofList_adds model pieces).coherent (List.forall_mem_nil _)

theorem ofList_agrees (model : PieceModel) (pieces : List AddedPiece) : Agrees model (ofList model pieces) :=
  (ofList_adds model pieces).agrees fun _ _ given => given

/-- The pieces that are looked for have been added. -/
theorem mem_of_wanted {p : AddedPiece} (h : p ∈ (ofList model pieces).wanted) :
    p ∈ pieces ∧ ∃ token, (p, token) ∈ (ofList model pieces).entries := by
  have adds := ofList_adds model pieces
  rcases List.mem_append.mp h with special | entry
  · rw [adds.special] at special
    obtain ⟨mem, nonempty⟩ := (mem_of_special special).resolve_left List.not_mem_nil
    exact ⟨mem, adds.all p mem nonempty⟩
  · obtain ⟨⟨q, token⟩, mem, rfl⟩ := List.mem_map.mp (List.mem_filter.mp entry).1
    exact ⟨(adds.only _ mem).resolve_left List.not_mem_nil, token, mem⟩

/-- Of each text that is added a piece is looked for. -/
theorem wanted_of_mem (model : PieceModel) {p : AddedPiece} (mem : p ∈ pieces) (nonempty : p.text ≠ "") :
    ∃ q ∈ (ofList model pieces).wanted, q.text = p.text := by
  have adds := ofList_adds model pieces
  obtain ⟨token, entry⟩ := adds.all p mem nonempty
  by_cases special : (ofList model pieces).isSpecial p.text = true
  · obtain ⟨q, mem, same⟩ := List.any_eq_true.mp special
    exact ⟨q, List.mem_append_left _ mem, eq_of_beq same⟩
  · refine ⟨p, List.mem_append_right _ (List.mem_filter.mpr ⟨List.mem_map.mpr ⟨_, entry, rfl⟩, ?_⟩), rfl⟩
    rw [Bool.not_eq_true] at special
    rw [special]
    rfl

end AddedPieces

/-! ### Tokens of parts -/

section Steps

variable {ε α β : Type} {x : Except ε α} {b : β}

/-- Steps that succeed together succeed one by one. -/
theorem exists_of_bind {f : α → Except ε β} (h : x >>= f = .ok b) : ∃ a, x = .ok a ∧ f a = .ok b := by
  cases x with
  | error => cases h
  | ok a => exact ⟨a, rfl, h⟩

theorem exists_of_map {f : α → β} (h : x.map f = .ok b) : ∃ a, x = .ok a ∧ f a = b := by
  cases x with
  | error => cases h
  | ok a => exact ⟨a, rfl, Except.ok.inj h⟩

end Steps

/-- What something becomes in a list of things that all become something. -/
theorem mem_of_mapM {ε α β : Type} {f : α → Except ε β} {xs : List α} {ys : List β} (h : xs.mapM f = .ok ys) :
    (∀ x ∈ xs, ∃ y ∈ ys, f x = .ok y) ∧ ∀ y ∈ ys, ∃ x ∈ xs, f x = .ok y := by
  induction xs generalizing ys with
  | nil =>
    obtain rfl := Except.ok.inj h
    exact ⟨List.forall_mem_nil _, List.forall_mem_nil _⟩
  | cons x xs ih =>
    rw [List.mapM_cons] at h
    obtain ⟨y, first, h⟩ := exists_of_bind h
    obtain ⟨ys', rest, h⟩ := exists_of_bind h
    obtain rfl := Except.ok.inj h
    obtain ⟨left, right⟩ := ih rest
    rw [List.forall_mem_cons, List.forall_mem_cons]
    refine ⟨⟨⟨y, List.mem_cons_self, first⟩, fun x mem => ?_⟩, ⟨x, List.mem_cons_self, first⟩, fun y mem => ?_⟩
    · obtain ⟨y, mem, same⟩ := left x mem
      exact ⟨y, .tail _ mem, same⟩
    · obtain ⟨x, mem, same⟩ := right y mem
      exact ⟨x, .tail _ mem, same⟩

/-- The tokens of parts put together. -/
theorem mem_flatten_mapM {α : Type} {f : α → Except EncodeFault (List Token)} {xs : List α}
    {tokens : List Token} (h : (xs.mapM f).map List.flatten = .ok tokens) (token : Token) :
    token ∈ tokens ↔ ∃ x ∈ xs, ∃ part, f x = .ok part ∧ token ∈ part := by
  obtain ⟨ys, parts, rfl⟩ := exists_of_map h
  obtain ⟨left, right⟩ := mem_of_mapM parts
  rw [List.mem_flatten]
  constructor
  · rintro ⟨part, mem, inside⟩
    obtain ⟨x, mem, same⟩ := right part mem
    exact ⟨x, mem, part, same, inside⟩
  · rintro ⟨x, mem, part, same, inside⟩
    obtain ⟨y, mem, same'⟩ := left x mem
    obtain rfl := Except.ok.inj (same.symm.trans same')
    exact ⟨part, mem, inside⟩

namespace TrainedTokenizer

variable {t : TrainedTokenizer} {piece text : String} {token : Token} {tokens : List Token}

theorem allTokens_eq (t : TrainedTokenizer) (text : String) :
    t.allTokens text = ((t.segments text.toList).mapM t.encodeSegment).map List.flatten := by
  unfold allTokens
  rcases (t.segments text.toList).mapM t.encodeSegment with fault | parts <;> rfl

theorem encodeSegment_plain (t : TrainedTokenizer) (p : Passage) :
    t.encodeSegment (.plain p) =
      ((t.boundaries.cut p).mapM fun word => t.model.encode word.chars).map List.flatten := by
  unfold encodeSegment
  dsimp only
  rcases (t.boundaries.cut p).mapM fun word => t.model.encode word.chars with fault | parts <;> rfl

theorem tokenizer_encode_eq_ok : t.tokenizer.encode text = .ok tokens ↔ t.encode text = .ok tokens := by
  show (t.encode text).mapError (fun fault => SessionError.encode fault.message) = .ok tokens ↔ _
  rcases t.encode text with fault | tokens'
  · exact ⟨nofun, nofun⟩
  · exact ⟨fun same => congrArg _ (Except.ok.inj same), fun same => congrArg _ (Except.ok.inj same)⟩

/-! ### The number of tokens -/

/-- Tokens repeated and filled up. -/
def filled (t : TrainedTokenizer) (tokens : List Token) : List Token :=
  match t.filling with
  | some filling => filling.apply (List.replicate t.copies tokens).flatten
  | none => (List.replicate t.copies tokens).flatten

/-- What happens to the tokens of a text in the end: they are cut to a number, repeated and filled up. -/
def resize (t : TrainedTokenizer) (tokens : List Token) : Except EncodeFault (List Token) :=
  match t.cutting with
  | some cutting => (cutting.apply tokens).map t.filled
  | none => .ok (t.filled tokens)

theorem encode_eq (t : TrainedTokenizer) (text : String) :
    t.encode text = (t.allTokens text).bind t.resize := by
  have fill : ∀ tokens, (pure (match t.filling with
      | some filling => filling.apply (List.replicate t.copies tokens).flatten
      | none => (List.replicate t.copies tokens).flatten) : Except EncodeFault (List Token)) =
      .ok (t.filled tokens) := by
    intro tokens
    unfold filled
    cases t.filling <;> rfl
  unfold encode resize
  rcases t.allTokens text with fault | tokens
  · rfl
  rcases t.cutting with _ | cutting
  · exact fill tokens
  · show (cutting.apply tokens).bind _ = (cutting.apply tokens).map t.filled
    rcases cutting.apply tokens with fault | kept
    · rfl
    · exact fill kept

/-- All tokens of a text are there in the end. -/
def KeepsAll (t : TrainedTokenizer) : Prop := t.cutting = none ∧ 0 < t.copies

theorem KeepsAll.mem_resize (keeps : t.KeepsAll) {resized : List Token} (h : t.resize tokens = .ok resized)
    (mem : token ∈ tokens) : token ∈ resized := by
  obtain ⟨uncut, copies⟩ := keeps
  have copied : token ∈ (List.replicate t.copies tokens).flatten :=
    List.mem_flatten.mpr ⟨tokens, List.mem_replicate.mpr ⟨Nat.ne_of_gt copies, rfl⟩, mem⟩
  rw [resize, uncut] at h
  obtain rfl := Except.ok.inj h
  unfold filled
  split
  · unfold Filling.apply
    dsimp only
    split
    · exact List.mem_append_right _ copied
    · exact List.mem_append_left _ copied
  · exact copied

theorem of_mem_filled (mem : token ∈ t.filled tokens) :
    token ∈ tokens ∨ ∃ f, t.filling = some f ∧ token = f.token := by
  have of_copied : token ∈ (List.replicate t.copies tokens).flatten → token ∈ tokens := by
    intro copied
    obtain ⟨copy, mem, inside⟩ := List.mem_flatten.mp copied
    rwa [List.eq_of_mem_replicate mem] at inside
  unfold filled at mem
  split at mem
  · next f filling =>
    have more : ∀ {n}, token ∈ List.replicate n f.token → ∃ f, t.filling = some f ∧ token = f.token :=
      fun mem => ⟨f, filling, List.eq_of_mem_replicate mem⟩
    unfold Filling.apply at mem
    dsimp only at mem
    split at mem
    · exact (List.mem_append.mp mem).symm.imp of_copied more
    · exact (List.mem_append.mp mem).imp of_copied more
  · exact .inl (of_copied mem)

/-- A token that is there in the end was there before or fills up. -/
theorem of_mem_resize {resized : List Token} (h : t.resize tokens = .ok resized) (mem : token ∈ resized) :
    token ∈ tokens ∨ ∃ f, t.filling = some f ∧ token = f.token := by
  unfold resize at h
  split at h
  · next cutting _ =>
    unfold Cutting.apply at h
    split_ifs at h
    · cases h
    · obtain rfl := Except.ok.inj h
      refine (of_mem_filled mem).imp_left fun mem => ?_
      unfold Cutting.keep at mem
      split at mem
      · exact List.mem_of_mem_drop mem
      · exact List.mem_of_mem_take mem
  · obtain rfl := Except.ok.inj h
    exact of_mem_filled mem

/-! ### Pieces that are looked for -/

/-- The pieces that are looked for in texts as they are. -/
def early (t : TrainedTokenizer) : List (List Char × Token) := t.added.patterns t.model false id

/-- The pieces that are looked for in what the early ones leave of a text, after that has been respelled. -/
def late (t : TrainedTokenizer) : List (List Char × Token) := t.added.patterns t.model true t.respelling.text

/-- A piece is looked for in texts as they are. -/
def LooksFor (t : TrainedTokenizer) (piece : String) : Prop :=
  ∃ p ∈ t.added.wanted, p.text = piece ∧ p.late = false

/-- The added pieces have been added to those of the model. -/
def IsAssembled (t : TrainedTokenizer) : Prop := ∃ pieces, t.added = .ofList t.model pieces

theorem mem_early {q : List Char × Token} :
    q ∈ t.early ↔ ∃ p ∈ t.added.wanted, p.late = false ∧ p.text ≠ "" ∧ t.token? p.text = some q.2 ∧
      p.text.toList = q.1 := by
  unfold early AddedPieces.patterns
  simp only [List.mem_filterMap, List.mem_filter, decide_eq_true_eq, id_eq, and_assoc]
  refine exists_congr fun p => and_congr_right fun _ => and_congr_right fun _ => ?_
  by_cases empty : p.text = ""
  · simp [empty]
  · have shown : p.text.toList.isEmpty = false := by
      rw [List.isEmpty_eq_false_iff, ne_eq, String.toList_eq_nil_iff]
      exact empty
    rw [shown, if_neg Bool.false_ne_true, Option.map_eq_some_iff]
    obtain ⟨cs, token⟩ := q
    constructor
    · rintro ⟨token', known, same⟩
      obtain ⟨rfl, rfl⟩ := Prod.mk.inj same
      exact ⟨empty, known, rfl⟩
    · rintro ⟨-, known, rfl⟩
      exact ⟨token, known, rfl⟩

/-- A pattern of a piece has the token of the piece. -/
theorem sole_of_token? (known : t.token? piece = some token) :
    ∀ q ∈ t.early, q.1 = piece.toList → q.2 = token := by
  intro q mem same
  obtain ⟨p, -, -, -, known', text⟩ := mem_early.mp mem
  rw [String.toList_inj.mp (text.trans same), known] at known'
  exact (Option.some.inj known').symm

theorem looksFor_of_early {q : List Char × Token} (mem : q ∈ t.early) (same : q.1 = piece.toList) :
    t.LooksFor piece := by
  obtain ⟨p, wanted, early, -, -, text⟩ := mem_early.mp mem
  exact ⟨p, wanted, String.toList_inj.mp (text.trans same), early⟩

/-- A piece that is looked for has a token, and is a pattern with that token. -/
theorem LooksFor.pattern (looks : t.LooksFor piece) (assembled : t.IsAssembled) (nonempty : piece ≠ "") :
    ∃ token, t.token? piece = some token ∧ (piece.toList, token) ∈ t.early ∧
      ∃ p, t.added.piece? token = some p := by
  obtain ⟨p, wanted, rfl, early⟩ := looks
  obtain ⟨pieces, added⟩ := assembled
  obtain ⟨-, token, entry⟩ := AddedPieces.mem_of_wanted (added ▸ wanted)
  rw [← added] at entry
  have coherent : AddedPieces.Coherent t.model t.added := by
    rw [added]
    exact AddedPieces.ofList_coherent t.model pieces
  have known : t.token? p.text = some token := coherent _ entry
  refine ⟨token, known, mem_early.mpr ⟨p, wanted, early, nonempty, known, rfl⟩, ?_⟩
  unfold AddedPieces.piece?
  generalize found : List.find? _ t.added.entries.reverse = e
  rcases e with _ | e
  · rw [List.find?_eq_none] at found
    exact absurd (beq_self_eq_true _) (found _ (List.mem_reverse.mpr entry))
  · exact ⟨e.1, rfl⟩

/-! ### A piece by itself -/

theorem segments_piece (looks : t.LooksFor piece) (assembled : t.IsAssembled) (nonempty : piece ≠ "")
    (known : t.token? piece = some token) : t.segments piece.toList = [.piece token] := by
  obtain ⟨token', known', pattern, p, added⟩ := looks.pattern assembled nonempty
  obtain rfl := Option.some.inj (known.symm.trans known')
  have whole : (Passage.ofText piece.toList).chars = piece.toList := Passage.chars_ofText _
  have cut : t.added.cut t.early (Passage.ofText piece.toList) = [.piece token] := by
    refine AddedPieces.cut_self ?_ ?_ ?_ added <;> rw [whole]
    · exact pattern
    · exact sole_of_token? known
    · exact fun none => nonempty (String.toList_eq_nil_iff.mp none)
  unfold segments
  rw [show t.added.cut (t.added.patterns t.model false id) _ = _ from cut]
  rfl

/-- **The tokens of a piece** that is looked for are its token, before tokens are cut off and filled up. -/
theorem encode_piece (looks : t.LooksFor piece) (assembled : t.IsAssembled) (nonempty : piece ≠ "")
    (known : t.token? piece = some token) : t.encode piece = t.resize [token] := by
  rw [encode_eq, allTokens_eq, segments_piece looks assembled nonempty known]
  rfl

/-! ### A piece in a text -/

theorem exists_allTokens (h : t.encode text = .ok tokens) :
    ∃ all, t.allTokens text = .ok all ∧ t.resize all = .ok tokens := by
  rw [encode_eq] at h
  exact exists_of_bind h

/-- A piece is found wherever it stands in a text. -/
structure Finds (t : TrainedTokenizer) (piece : String) : Prop where
  /-- It is looked for in texts as they are. -/
  looksFor : t.LooksFor piece
  /-- It does not start with a blank, which a piece before it could take. -/
  shown : ∃ c, piece.toList.head? = some c ∧ isBlank c = false
  /-- No other piece gets in the way. -/
  clear : AddedPieces.StandsClear piece.toList t.early
  /-- It need not be a word of its own. -/
  anywhere : ∀ token p, t.token? piece = some token → t.added.piece? token = some p → p.asWord = false

theorem Finds.piece_mem_segments (finds : t.Finds piece) (assembled : t.IsAssembled)
    (known : t.token? piece = some token) {cs : List Char} (stands : piece.toList <:+: cs) :
    AddedPieces.Segment.piece token ∈ t.segments cs := by
  obtain ⟨c, starts, shown⟩ := finds.shown
  have nonempty : piece.toList ≠ [] := by
    intro none
    rw [none] at starts
    cases starts
  obtain ⟨token', known', pattern, p, added⟩ := finds.looksFor.pattern assembled
    (fun none => nonempty (String.toList_eq_nil_iff.mpr none))
  obtain rfl := Option.some.inj (known.symm.trans known')
  obtain ⟨l, r, rfl⟩ := stands
  rw [List.append_assoc]
  obtain ⟨before, after, found, stops⟩ := AddedPieces.find_clear finds.clear pattern (sole_of_token? known)
    nonempty l r 0 (Nat.zero_le _)
  have here : (l ++ (piece.toList ++ r))[0 + l.length]? = some c := by
    rw [Nat.zero_add, List.getElem?_append_right le_rfl, Nat.sub_self, List.getElem?_append_left
      (List.length_pos_iff.mpr nonempty), ← List.head?_eq_getElem?, starts]
  have whole : (Passage.ofText (l ++ (piece.toList ++ r))).chars = l ++ (piece.toList ++ r) :=
    Passage.chars_ofText _
  have mem : AddedPieces.Segment.piece token ∈
      t.added.cut t.early (Passage.ofText (l ++ (piece.toList ++ r))) := by
    rw [AddedPieces.cut, whole, found]
    refine AddedPieces.piece_mem_cutFrom (f := ⟨0 + l.length, 0 + l.length + piece.toList.length, token⟩) added
      ?_ ?_ ?_ shown stops after (Nat.zero_le _)
    · simp [AddedPieces.isRecognised, finds.anywhere token p known added]
    · exact Nat.lt_add_of_pos_right (List.length_pos_iff.mpr nonempty)
    · rw [whole]
      exact here
  exact List.mem_flatMap.mpr ⟨_, mem, List.mem_singleton_self _⟩

/-- **A piece that is found wherever it stands** in a text has its token among those of the text. -/
theorem Finds.mem_of_stands (finds : t.Finds piece) (assembled : t.IsAssembled) (keeps : t.KeepsAll)
    (known : t.token? piece = some token) (encoded : t.encode text = .ok tokens)
    (stands : piece.toList <:+: text.toList) : token ∈ tokens := by
  obtain ⟨all, allTokens, resized⟩ := exists_allTokens encoded
  rw [allTokens_eq] at allTokens
  refine keeps.mem_resize resized ((mem_flatten_mapM allTokens token).mpr ⟨.piece token, ?_, [token], rfl, ?_⟩)
  · exact finds.piece_mem_segments assembled known stands
  · exact List.mem_singleton_self token

/-! ### A token of a piece only -/

/-- A token is that of a piece and comes from nothing else. -/
structure Confines (t : TrainedTokenizer) (piece : String) (token : Token) : Prop where
  /-- No other early piece has it. -/
  early : ∀ q ∈ t.early, q.2 = token → q.1 = piece.toList
  /-- No late piece has it. -/
  late : ∀ q ∈ t.late, q.2 ≠ token
  /-- The piece model never gives it. -/
  model : ∀ word tokens, t.model.encode word = .ok tokens → token ∉ tokens
  /-- It does not fill up. -/
  filling : ∀ f, t.filling = some f → f.token ≠ token

/-- **A token that comes from its piece only** is among the tokens of a text only if the piece is looked for
and stands in the text. -/
theorem Confines.stands (confines : t.Confines piece token) (encoded : t.encode text = .ok tokens)
    (mem : token ∈ tokens) : t.LooksFor piece ∧ piece.toList <:+: text.toList := by
  obtain ⟨all, allTokens, resized⟩ := exists_allTokens encoded
  have mem : token ∈ all := (of_mem_resize resized mem).resolve_right fun ⟨f, filling, same⟩ =>
    confines.filling f filling same.symm
  rw [allTokens_eq] at allTokens
  obtain ⟨segment, here, part, tokens', inside⟩ := (mem_flatten_mapM allTokens token).mp mem
  rcases segment with token' | p
  · -- The token is that of a piece that the text has been cut at, early or late.
    obtain rfl := Except.ok.inj tokens'
    obtain rfl := List.mem_singleton.mp inside
    obtain ⟨before, cut, refined⟩ := List.mem_flatMap.mp here
    rcases before with token' | p
    · obtain rfl := AddedPieces.Segment.piece.inj (List.mem_singleton.mp refined)
      obtain ⟨q, mem, same, stands⟩ := AddedPieces.stands_of_mem_cut cut
      have piece_eq := confines.early q mem same
      rw [Passage.chars_ofText, piece_eq] at stands
      exact ⟨looksFor_of_early mem piece_eq, stands⟩
    · obtain ⟨q, mem, same, -⟩ := AddedPieces.stands_of_mem_cut refined
      exact absurd same (confines.late q mem)
  · -- The piece model does not give the token.
    rw [encodeSegment_plain] at tokens'
    obtain ⟨word, -, part', encoded', inside⟩ := (mem_flatten_mapM tokens' token).mp inside
    exact absurd inside (confines.model _ _ encoded')

/-- A token is reserved for a piece: it is among the tokens of a text where the piece stands, and nowhere
else. -/
structure Reserves (t : TrainedTokenizer) (piece : String) (token : Token) : Prop where
  finds : t.Finds piece
  keepsAll : t.KeepsAll
  confines : t.Confines piece token

theorem Reserves.mem_iff (reserves : t.Reserves piece token) (assembled : t.IsAssembled)
    (known : t.token? piece = some token) (encoded : t.encode text = .ok tokens) :
    token ∈ tokens ↔ piece.toList <:+: text.toList :=
  ⟨fun mem => (reserves.confines.stands encoded mem).2,
    reserves.finds.mem_of_stands assembled reserves.keepsAll known encoded⟩

end TrainedTokenizer

end PromptLoop
