import Mathlib.Data.List.Infix
import Mathlib.Data.List.TakeWhile
import PromptLoop.Tokenizer.AddedPieces

/-!
# Finding pieces in a text

Patterns are looked for from left to right, and of several that start at one place the longest is found. All
that is found are patterns that stand there (`AddedPieces.stands_of_mem_find`). A pattern that stands in a text
need not be found: another one may have started before it and taken some of its characters, or may start with
it and go on. A pattern that no other can get in the way of (`AddedPieces.StandsClear`) is found wherever it
stands (`AddedPieces.find_clear`), whatever is around it.

A passage is cut at the pieces that are found and recognised. A piece that starts with a blank may have been
taken by a piece before it; any other is a segment of the passage (`AddedPieces.piece_mem_cutFrom`).
-/

namespace PromptLoop

namespace AddedPieces

variable {patterns : List (List Char × Token)} {m text : List Char} {token : Token}

/-! ### At one place -/

/-- The longest pattern that a text starts with. -/
structure IsLongest (patterns : List (List Char × Token)) (text : List Char) (q : List Char × Token) :
    Prop where
  mem : q ∈ patterns
  starts : q.1 <+: text
  longest : ∀ p ∈ patterns, p.1 <+: text → p.1.length ≤ q.1.length

theorem longer_cases (a b : List Char × Token) :
    longer a b = b ∧ a.1.length < b.1.length ∨ longer a b = a ∧ b.1.length ≤ a.1.length := by
  unfold longer
  by_cases less : a.1.length < b.1.length
  · rw [if_pos less]
    exact .inl ⟨rfl, less⟩
  · rw [if_neg less]
    exact .inr ⟨rfl, Nat.le_of_not_lt less⟩

theorem foldl_longer (q : List Char × Token) (ps : List (List Char × Token)) :
    ps.foldl longer q ∈ q :: ps ∧ ∀ p ∈ q :: ps, p.1.length ≤ (ps.foldl longer q).1.length := by
  induction ps generalizing q with
  | nil => exact ⟨List.mem_singleton_self q, List.forall_mem_singleton.mpr le_rfl⟩
  | cons p ps ih =>
    obtain ⟨mem, longest⟩ := ih (longer q p)
    rw [List.foldl_cons]
    obtain ⟨best, more⟩ := List.forall_mem_cons.mp longest
    rw [List.forall_mem_cons, List.forall_mem_cons]
    rcases longer_cases q p with ⟨same, less⟩ | ⟨same, le⟩ <;> rw [same] at mem best more ⊢
    · exact ⟨.tail _ mem, less.le.trans best, best, more⟩
    · refine ⟨?_, best, le.trans best, more⟩
      rcases List.mem_cons.mp mem with first | mem
      · rw [first]
        exact List.mem_cons_self
      · exact .tail _ (.tail _ mem)

theorem isLongest_of_matchAt? {q : List Char × Token} (h : matchAt? patterns text = some q) :
    IsLongest patterns text q := by
  have mem_filter : ∀ {p}, p ∈ patterns.filter (fun p => p.1.isPrefixOf text) ↔
      p ∈ patterns ∧ p.1 <+: text := by
    intro p
    rw [List.mem_filter, List.isPrefixOf_iff_prefix]
  unfold matchAt? at h
  split at h
  · cases h
  · next p ps found =>
    obtain rfl := Option.some.inj h
    obtain ⟨mem, longest⟩ := foldl_longer p ps
    rw [← found] at mem longest
    exact ⟨(mem_filter.mp mem).1, (mem_filter.mp mem).2,
      fun p mem starts => longest p (mem_filter.mpr ⟨mem, starts⟩)⟩

theorem exists_matchAt? (mem : (m, token) ∈ patterns) (starts : m <+: text) :
    ∃ q, matchAt? patterns text = some q := by
  unfold matchAt?
  split
  · next none =>
    rw [List.filter_eq_nil_iff] at none
    exact absurd (List.isPrefixOf_iff_prefix.mpr starts) (none _ mem)
  · exact ⟨_, rfl⟩

/-! ### In a text -/

/-- What is found are patterns that stand there. -/
theorem stands_of_mem_find {place skip : Nat} {f : Found} (h : f ∈ find patterns place skip text) :
    ∃ q ∈ patterns, q.2 = f.token ∧ q.1 <:+: text := by
  induction text generalizing place skip with
  | nil =>
    rw [find] at h
    cases h
  | cons c rest ih =>
    have later : ∀ {skip}, f ∈ find patterns (place + 1) skip rest →
        ∃ q ∈ patterns, q.2 = f.token ∧ q.1 <:+: c :: rest := by
      intro skip mem
      obtain ⟨q, mem, token, stands⟩ := ih mem
      exact ⟨q, mem, token, stands.trans (List.suffix_cons c rest).isInfix⟩
    cases skip with
    | succ skip =>
      rw [find] at h
      exact later h
    | zero =>
      rw [find] at h
      rcases found : matchAt? patterns (c :: rest) with _ | q <;> rw [found] at h
      · exact later h
      · have longest := isLongest_of_matchAt? found
        rcases List.mem_cons.mp h with rfl | mem
        · exact ⟨q, longest.mem, rfl, longest.starts.isInfix⟩
        · exact later mem

/-- Characters of a piece that has been found are not looked at. -/
theorem find_skipped {place skip : Nat} (h : text.length ≤ skip) : find patterns place skip text = [] := by
  induction text generalizing place skip with
  | nil => rw [find]
  | cons c rest ih =>
    cases skip with
    | zero => cases h
    | succ skip =>
      rw [find]
      exact ih (Nat.le_of_succ_le_succ h)

/-- A pattern is found in itself. -/
theorem find_self (mem : (m, token) ∈ patterns) (sole : ∀ q ∈ patterns, q.1 = m → q.2 = token)
    (nonempty : m ≠ []) : find patterns 0 0 m = [⟨0, m.length, token⟩] := by
  obtain ⟨q, found⟩ := exists_matchAt? mem List.prefix_rfl
  have longest := isLongest_of_matchAt? found
  have same : q.1 = m := longest.starts.eq_of_length_le (longest.longest _ mem List.prefix_rfl)
  obtain ⟨c, rest, rfl⟩ := List.exists_cons_of_ne_nil nonempty
  have no_more : find patterns (0 + 1) ((c :: rest).length - 1) rest = [] := find_skipped le_rfl
  rw [find, found]
  dsimp only
  rw [same, sole q longest.mem same, no_more, Nat.zero_add]

/-- No pattern gets in the way of a text: none that starts before it, in whatever is there, reaches into it or
around it, and none starts with it and goes on. -/
def StandsClear (m : List Char) (patterns : List (List Char × Token)) : Prop :=
  ∀ p ∈ patterns, (m <+: p.1 → p.1 = m) ∧
    ∀ i < p.1.length, 0 < i → ¬ p.1.drop i <+: m ∧ ¬ m <+: p.1.drop i

instance (m : List Char) (patterns : List (List Char × Token)) : Decidable (StandsClear m patterns) :=
  inferInstanceAs (Decidable (∀ p ∈ patterns, (m <+: p.1 → p.1 = m) ∧
    ∀ i < p.1.length, 0 < i → ¬ p.1.drop i <+: m ∧ ¬ m <+: p.1.drop i))

/-- A pattern that starts before a text that stands clear stops before it. -/
theorem StandsClear.length_le (clear : StandsClear m patterns) {q : List Char × Token} (mem : q ∈ patterns)
    {l r : List Char} (starts : q.1 <+: l ++ (m ++ r)) (before : l ≠ []) : q.1.length ≤ l.length := by
  by_contra longer
  have across := (clear q mem).2 l.length (Nat.lt_of_not_le longer) (List.length_pos_iff.mpr before)
  obtain ⟨more, all⟩ := starts
  have rest : q.1.drop l.length ++ more = m ++ r := by
    rw [← List.drop_append_of_le_length (Nat.le_of_not_le longer), all, List.drop_left]
  -- What reaches into the text and the text are both at the front of what is there.
  rcases List.prefix_or_prefix_of_prefix (⟨more, rest⟩ : q.1.drop l.length <+: m ++ r)
    (List.prefix_append m r) with inside | around
  · exact across.1 inside
  · exact across.2 around

/-- **A pattern that stands clear is found** wherever it stands, and what is found before it stops before it. -/
theorem find_clear (clear : StandsClear m patterns) (mem : (m, token) ∈ patterns)
    (sole : ∀ q ∈ patterns, q.1 = m → q.2 = token) (nonempty : m ≠ []) (l r : List Char) (place : Nat)
    {skip : Nat} (free : skip ≤ l.length) :
    ∃ before after, find patterns place skip (l ++ (m ++ r)) =
        before ++ ⟨place + l.length, place + l.length + m.length, token⟩ :: after ∧
      ∀ f ∈ before, f.stop ≤ place + l.length := by
  induction l generalizing place skip with
  | nil =>
    obtain rfl : skip = 0 := Nat.le_zero.mp free
    obtain ⟨q, found⟩ := exists_matchAt? mem (List.prefix_append m r)
    have longest := isLongest_of_matchAt? found
    -- The longest pattern here starts with the one that stands here, and so is that one.
    have same : q.1 = m := (clear q longest.mem).1
      (List.prefix_of_prefix_length_le (List.prefix_append m r) longest.starts
        (longest.longest _ mem (List.prefix_append m r)))
    obtain ⟨c, rest, rfl⟩ := List.exists_cons_of_ne_nil nonempty
    rw [List.nil_append, List.cons_append, find, ← List.cons_append, found]
    dsimp only
    rw [same, sole q longest.mem same]
    exact ⟨[], _, rfl, List.forall_mem_nil _⟩
  | cons c l ih =>
    have later : ∀ {skip}, skip ≤ l.length → ∃ before after, find patterns (place + 1) skip (l ++ (m ++ r)) =
        before ++ ⟨place + (c :: l).length, place + (c :: l).length + m.length, token⟩ :: after ∧
        ∀ f ∈ before, f.stop ≤ place + (c :: l).length := by
      intro skip free
      have found := ih (place + 1) free
      rwa [Nat.add_assoc place 1, Nat.add_comm 1] at found
    rw [List.cons_append]
    cases skip with
    | succ skip =>
      rw [find]
      exact later (Nat.le_of_succ_le_succ free)
    | zero =>
      rw [find]
      rcases found : matchAt? patterns (c :: (l ++ (m ++ r))) with _ | q
      · exact later (Nat.zero_le _)
      · have longest := isLongest_of_matchAt? found
        have short : q.1.length ≤ (c :: l).length :=
          clear.length_le longest.mem longest.starts (List.cons_ne_nil c l)
        obtain ⟨before, after, rest, stops⟩ := later (Nat.sub_le_of_le_add short)
        refine ⟨⟨place, place + q.1.length, q.2⟩ :: before, after, ?_, ?_⟩
        · dsimp only
          rw [rest, List.cons_append]
        · rw [List.forall_mem_cons]
          exact ⟨Nat.add_le_add_left short place, stops⟩

/-! ### Cutting -/

variable {a : AddedPieces} {p : Passage}

theorem piece_not_mem_plainPart (p : Passage) (start stop : Nat) (token : Token) :
    Segment.piece token ∉ plainPart p start stop := by
  unfold plainPart
  split_ifs <;> simp

theorem piece_of_mem_cutFrom {place : Nat} {found : List Found}
    (h : Segment.piece token ∈ a.cutFrom p place found) : ∃ f ∈ found, f.token = token := by
  induction found generalizing place with
  | nil =>
    rw [cutFrom] at h
    exact (piece_not_mem_plainPart _ _ _ _ h).elim
  | cons f found ih =>
    have later : ∀ {place}, Segment.piece token ∈ a.cutFrom p place found →
        ∃ f' ∈ f :: found, f'.token = token := by
      intro place mem
      obtain ⟨f', mem, same⟩ := ih mem
      exact ⟨f', .tail _ mem, same⟩
    rw [cutFrom] at h
    split at h
    · exact later h
    · split_ifs at h
      · rcases List.mem_append.mp h with h | mem
        · rcases List.mem_append.mp h with mem | mem
          · exact (piece_not_mem_plainPart _ _ _ _ mem).elim
          · unfold piecePart at mem
            split_ifs at mem
            · exact ⟨f, List.mem_cons_self, (Segment.piece.inj (List.mem_singleton.mp mem)).symm⟩
            · cases mem
        · exact later mem
      · exact later h

/-- A piece that a passage is cut at is a pattern that stands there. -/
theorem stands_of_mem_cut {patterns : List (List Char × Token)} (h : Segment.piece token ∈ a.cut patterns p) :
    ∃ q ∈ patterns, q.2 = token ∧ q.1 <:+: p.chars := by
  obtain ⟨f, mem, rfl⟩ := piece_of_mem_cutFrom h
  exact stands_of_mem_find mem

theorem length_takeWhile_le {text : List Char} {place : Nat} {c : Char} (stands : text[place]? = some c)
    (shown : isBlank c = false) : (text.takeWhile isBlank).length ≤ place := by
  by_contra more
  rw [← List.takeWhile_append_dropWhile (p := isBlank) (l := text),
    List.getElem?_append_left (Nat.lt_of_not_le more)] at stands
  rw [List.mem_takeWhile_imp (List.mem_of_getElem? stands)] at shown
  cases shown

/-- A piece that stops before a character that is not blank stops there with the blanks that it takes, too. -/
theorem stopOf_le {piece : AddedPiece} {text : List Char} {f : Found} {place : Nat} {c : Char}
    (stop : f.stop ≤ place) (stands : text[place]? = some c) (shown : isBlank c = false) :
    stopOf piece text f ≤ place := by
  unfold stopOf
  split_ifs
  · have ahead : (text.drop f.stop)[place - f.stop]? = some c := by
      rw [List.getElem?_drop, Nat.add_sub_cancel' stop, stands]
    exact Nat.add_le_of_le_sub' stop (length_takeWhile_le ahead shown)
  · exact stop

theorem le_stopOf (piece : AddedPiece) (text : List Char) (f : Found) : f.stop ≤ stopOf piece text f := by
  unfold stopOf
  split_ifs
  · exact Nat.le_add_right _ _
  · exact le_rfl

theorem startOf_le (piece : AddedPiece) (text : List Char) {f : Found} {place : Nat} (h : place ≤ f.start) :
    startOf piece text f place ≤ f.start := by
  unfold startOf
  split_ifs
  · exact max_le (Nat.sub_le _ _) h
  · exact le_rfl

/-- A piece that has been found and is recognised is a segment, if it does not start with a blank: then no
piece before it takes its characters. -/
theorem piece_mem_cutFrom {piece : AddedPiece} {f : Found} {c : Char} (known : a.piece? f.token = some piece)
    (recognised : isRecognised piece p.chars f = true) (size : f.start < f.stop)
    (stands : p.chars[f.start]? = some c) (shown : isBlank c = false) {before : List Found}
    (stops : ∀ f' ∈ before, f'.stop ≤ f.start) (after : List Found) {place : Nat} (from_ : place ≤ f.start) :
    Segment.piece f.token ∈ a.cutFrom p place (before ++ f :: after) := by
  induction before generalizing place with
  | nil =>
    have inside : startOf piece p.chars f place < stopOf piece p.chars f :=
      (startOf_le piece p.chars from_).trans_lt (size.trans_le (le_stopOf piece p.chars f))
    rw [List.nil_append, cutFrom, known]
    dsimp only
    rw [if_pos recognised, piecePart, if_pos inside]
    exact List.mem_append_left _ (List.mem_append_right _ (List.mem_singleton_self _))
  | cons f' before ih =>
    obtain ⟨stop, stops⟩ := List.forall_mem_cons.mp stops
    rw [List.cons_append, cutFrom]
    split
    · exact ih stops from_
    · split_ifs
      · exact List.mem_append_right _ (ih stops (stopOf_le stop stands shown))
      · exact ih stops from_

/-- A passage that is a piece is cut into that piece. -/
theorem cut_self {patterns : List (List Char × Token)} (mem : (p.chars, token) ∈ patterns)
    (sole : ∀ q ∈ patterns, q.1 = p.chars → q.2 = token) (nonempty : p.chars ≠ []) {piece : AddedPiece}
    (known : a.piece? token = some piece) : a.cut patterns p = [.piece token] := by
  have size : 0 < p.chars.length := List.length_pos_iff.mpr nonempty
  have length : p.length = p.chars.length := (List.length_map _).symm
  have recognised : isRecognised piece p.chars ⟨0, p.chars.length, token⟩ = true := by
    simp [isRecognised, isFree]
  have start : startOf piece p.chars ⟨0, p.chars.length, token⟩ 0 = 0 :=
    Nat.le_zero.mp (startOf_le piece p.chars (f := ⟨0, p.chars.length, token⟩) le_rfl)
  have stop : stopOf piece p.chars ⟨0, p.chars.length, token⟩ = p.chars.length := by
    simp [stopOf]
  rw [cut, find_self mem sole nonempty, cutFrom, known]
  dsimp only
  rw [if_pos recognised, start, stop, cutFrom, piecePart, if_pos size, plainPart, if_neg (Nat.lt_irrefl 0),
    plainPart, length, if_neg (Nat.lt_irrefl _)]
  rfl

end AddedPieces

end PromptLoop
