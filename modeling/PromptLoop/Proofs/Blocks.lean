import PromptLoop.Proofs.Fragments
import PromptLoop.Tokenizer.Trained

/-!
# Decoding in blocks

A tokenizer whose rendering has byte fallback decodes a stream of tokens in blocks. Tokens wait until they
have a text and their text is closed; then the text is shown, and a new block begins. The tokens of a
block are decoded without those before them: all that is left of these is whether they end with bytes
(`TrainedTokenizer.Reads`).

The decoder itself decodes a whole window of tokens each time, those of the block before included.
`Holds` says what its state has to do with the block that is waiting, and `Holds.step` that it does what
is said here.
-/

namespace PromptLoop

open Fragment StreamDecoder

/-! ### Renderings with byte fallback -/

namespace Rendering

/-- Patterns are replaced in each piece, then runs of pieces for bytes become the text of the bytes, and
then the pieces may become one. -/
def HasByteFallback (r : Rendering) : Prop :=
  ∃ (changes : List (Pattern × List Char)) (fuses : Nat),
    r = some (changes.map (fun change => .replace change.1 change.2) ++
      .byteFallback :: List.replicate fuses .fuse)

/-- A piece after patterns have been replaced in it. -/
def changed (r : Rendering) (piece : List Char) : List Char :=
  (r.getD []).foldl
    (fun cs step =>
      match step with
      | .replace pattern content => pattern.replace content cs
      | _ => cs) piece

theorem hasByteFallback_byteFallback : byteFallback.HasByteFallback :=
  ⟨[(.text [spaceMark], [' '])], 1, rfl⟩

theorem foldl_fuse (fuses : Nat) (pieces : List (List Char)) :
    ((List.replicate fuses RenderingStep.fuse).foldl (fun pieces step => step.apply pieces) pieces).flatten =
      pieces.flatten := by
  induction fuses generalizing pieces with
  | zero => rfl
  | succ fuses ih =>
    rw [List.replicate_succ, List.foldl_cons, ih]
    exact List.append_nil _

theorem foldl_replace (changes : List (Pattern × List Char)) (pieces : List (List Char)) :
    (changes.map fun change => RenderingStep.replace change.1 change.2).foldl
        (fun pieces step => step.apply pieces) pieces =
      pieces.map fun piece => changes.foldl (fun cs change => change.1.replace change.2 cs) piece := by
  induction changes generalizing pieces with
  | nil => exact (List.map_id _).symm
  | cons change changes ih =>
    rw [List.map_cons, List.foldl_cons, ih, RenderingStep.apply, List.map_map]
    rfl

theorem changed_eq (changes : List (Pattern × List Char)) (fuses : Nat) (piece : List Char) :
    changed (some (changes.map (fun change => .replace change.1 change.2) ++
        .byteFallback :: List.replicate fuses .fuse)) piece =
      changes.foldl (fun cs change => change.1.replace change.2 cs) piece := by
  have idle : ∀ (fuses : Nat) (cs : List Char),
      changed (some (List.replicate fuses .fuse)) cs = cs := by
    intro fuses cs
    induction fuses with
    | zero => rfl
    | succ fuses ih => exact ih
  rw [changed, Option.getD_some, List.foldl_append, List.foldl_map, List.foldl_cons]
  exact idle fuses _

/-- Pieces are shown as what each of them contributes. -/
theorem text_eq {r : Rendering} (h : r.HasByteFallback) (pieces : List String) :
    r.text pieces = render (pieces.map fun piece => .ofChars (r.changed piece.toList)) := by
  obtain ⟨changes, fuses, rfl⟩ := h
  simp only [text, changed_eq]
  rw [List.foldl_append, foldl_replace, List.foldl_cons, foldl_fuse, RenderingStep.apply, List.map_map,
    List.map_map]
  rfl

end Rendering

/-! ### Blocks -/

/-- Fragments are complete if they have a text and it is closed. -/
def Fragment.Complete (fs : List Fragment) : Prop := render fs ≠ [] ∧ Closed fs

/-- Closed fragments and a complete block after them are closed. -/
theorem Fragment.Closed.append_complete {fs gs : List Fragment} (h : Closed fs) (complete : Complete gs) :
    Closed (fs ++ gs) := (h.endsOpen_append complete.1).trans complete.2

theorem Fragment.Complete.ne_nil {fs : List Fragment} (h : Complete fs) : fs ≠ [] := by
  rintro rfl
  exact h.1 rfl

/-- Whether there are bytes before what follows a complete block. -/
theorem Fragment.Complete.ends {fs gs : List Fragment} (h : Complete gs) :
    (!(lastRun [] gs).isEmpty) = true ↔ lastRun [] (fs ++ gs) ≠ [] := by
  rw [Bool.not_eq_true', List.isEmpty_eq_false_iff, Ne, Ne, lastRun_append_eq_nil h.ne_nil]

namespace TrainedTokenizer

variable (t : TrainedTokenizer)

/-- What a token contributes to a text, if its piece is shown. -/
def fragment? (token : Token) : Option Fragment :=
  (t.visible? token).map fun piece => .ofChars (t.rendering.changed piece.toList)

/-- What tokens contribute to a text. -/
def fragments (tokens : List Token) : List Fragment := tokens.filterMap t.fragment?

@[simp] theorem fragments_nil : t.fragments [] = [] := rfl

theorem fragments_append (tokens tokens' : List Token) :
    t.fragments (tokens ++ tokens') = t.fragments tokens ++ t.fragments tokens' :=
  List.filterMap_append

variable {t}

theorem decode_eq (fallback : t.rendering.HasByteFallback) (tokens : List Token) :
    t.decode tokens = render (t.fragments tokens) := by
  rw [decode, t.rendering.text_eq fallback, fragments, List.map_filterMap]
  rfl

variable (t)

/-- The chunks of text that tokens complete one after the other, given whether the block before ends with
bytes and the tokens that are waiting. -/
inductive Reads : Bool → List Token → List Token → List (Option (List Char)) → Prop
  | nil {afterBytes : Bool} {waiting : List Token} : Reads afterBytes waiting [] []
  /-- The block is not complete yet. -/
  | waits {afterBytes : Bool} {waiting tokens : List Token} {token : Token}
      {chunks : List (Option (List Char))} (incomplete : ¬ Complete (t.fragments (waiting ++ [token])))
      (rest : Reads afterBytes (waiting ++ [token]) tokens chunks) :
      Reads afterBytes waiting (token :: tokens) (none :: chunks)
  /-- The block is complete. -/
  | shows {afterBytes : Bool} {waiting tokens : List Token} {token : Token}
      {chunks : List (Option (List Char))} (complete : Complete (t.fragments (waiting ++ [token])))
      (good : afterBytes = true → WellFormed (lead (t.fragments (waiting ++ [token]))))
      (rest : Reads (!(lastRun [] (t.fragments (waiting ++ [token]))).isEmpty) [] tokens chunks) :
      Reads afterBytes waiting (token :: tokens)
        (some (render (t.fragments (waiting ++ [token]))) :: chunks)

/-- What the state of the decoder has to do with the block that is waiting. Tokens without a text may have
been taken for shown already. -/
structure Holds (d : StreamDecoder) (afterBytes : Bool) (before silent waiting : List Token) : Prop where
  window : d.window = before ++ waiting
  settled : d.settled = before.length
  shown : d.shown = render (t.fragments before)
  closed : Closed (t.fragments before)
  ends : afterBytes = true ↔ lastRun [] (t.fragments before) ≠ []
  noText : render (t.fragments silent) = []
  noneSilent : afterBytes = true → silent = []
  incomplete : ¬ Complete (t.fragments (silent ++ waiting))

theorem holds_fresh : t.Holds .fresh false [] [] [] :=
  ⟨rfl, rfl, rfl, closed_nil, by simp [lastRun], rfl, nofun, fun h => h.1 rfl⟩

variable {t} {d : StreamDecoder} {afterBytes : Bool} {before silent waiting : List Token}

theorem Holds.settle (fallback : t.rendering.HasByteFallback)
    (h : t.Holds d afterBytes before silent waiting) :
    ∃ before' silent' waiting', silent' ++ waiting' = silent ++ waiting ∧
      t.Holds (d.settle t.decode) afterBytes before' silent' waiting' := by
  unfold StreamDecoder.settle
  dsimp only
  split_ifs with settles
  · simp only [Bool.and_eq_true, Bool.not_eq_true', List.isEmpty_iff] at settles
    obtain ⟨⟨nothing, -⟩, closed⟩ := settles
    rw [decode_eq fallback, h.window, fragments_append] at closed ⊢
    rw [h.shown] at nothing
    have no_text : render (t.fragments waiting) = [] := by
      by_contra text
      refine h.incomplete ?_
      rw [fragments_append, Complete, Closed, render_silent_append h.noText]
      rw [render_silent_append nothing] at closed
      exact ⟨text, closed⟩
    have all : render (t.fragments before ++ t.fragments waiting) = [] := by
      rw [render_append_silent no_text, nothing]
    have no_run : ∀ {tokens}, render (t.fragments tokens) = [] → lastRun [] (t.fragments tokens) = [] := by
      intro tokens silent
      rcases lastRun_silent silent [] with h | h
      · exact h
      · rw [h]
        rfl
    have not_after : afterBytes = false := by
      rcases hb : afterBytes with _ | _
      · rfl
      · exact absurd (no_run nothing) (h.ends.mp hb)
    refine ⟨before ++ waiting, silent ++ waiting, [], List.append_nil _, ?_, ?_, ?_, ?_, ?_, ?_, ?_, ?_⟩
    · exact (List.append_nil _).symm
    · rfl
    · rw [fragments_append, all]
    · rw [fragments_append, Closed, all]
      rfl
    · rw [not_after, no_run (by rw [fragments_append, all])]
      simp
    · rw [fragments_append, render_silent_append h.noText, no_text]
    · rw [not_after]
      exact fun after => absurd after Bool.false_ne_true
    · rw [List.append_nil]
      exact h.incomplete
  · exact ⟨before, silent, waiting, rfl, h⟩

/-- What a token comes to once it is put into the window. -/
theorem Holds.step_complete_iff (h : t.Holds d afterBytes before silent waiting) (token : Token) :
    (byteLength d.shown < byteLength (render (t.fragments (before ++ (waiting ++ [token])))) ∧
        endsOpen (render (t.fragments (before ++ (waiting ++ [token])))) = false) ↔
      Complete (t.fragments (silent ++ waiting ++ [token])) := by
  rw [h.shown, fragments_append, List.append_assoc, fragments_append t silent, Complete, Closed,
    render_silent_append h.noText]
  by_cases text : render (t.fragments (waiting ++ [token])) = []
  · rw [render_append_silent text, text]
    simp
  · rw [h.closed.endsOpen_append text]
    exact ⟨fun both => ⟨text, both.2⟩, fun both => ⟨h.closed.byteLength_lt text, both.2⟩⟩

/-- The text of a block does not depend on tokens without a text that were taken for shown. -/
theorem Holds.render_block (h : t.Holds d afterBytes before silent waiting) (token : Token) :
    render (t.fragments (silent ++ waiting ++ [token])) = render (t.fragments (waiting ++ [token])) := by
  rw [List.append_assoc, fragments_append, render_silent_append h.noText]

theorem Holds.window_text (h : t.Holds d afterBytes before silent waiting) {token : Token}
    (good : afterBytes = true → WellFormed (lead (t.fragments (silent ++ waiting ++ [token])))) :
    render (t.fragments (before ++ (waiting ++ [token]))) =
      d.shown ++ render (t.fragments (silent ++ waiting ++ [token])) := by
  rw [h.render_block, h.shown, fragments_append]
  refine h.closed.render_append fun run => ?_
  have after := h.ends.mpr run
  have good := good after
  rwa [h.noneSilent after, List.nil_append] at good

theorem Holds.not_prefix (h : t.Holds d afterBytes before silent waiting) {token : Token}
    (after : afterBytes = true)
    (bad : ¬ WellFormed (lead (t.fragments (silent ++ waiting ++ [token])))) :
    ¬ d.shown <+: render (t.fragments (before ++ (waiting ++ [token]))) := by
  rw [h.noneSilent after, List.nil_append] at bad
  rw [h.shown, fragments_append]
  exact h.closed.not_prefix (h.ends.mp after) bad

/-- After a complete block nothing is waiting. -/
theorem Holds.moveOn (fallback : t.rendering.HasByteFallback)
    (h : t.Holds d afterBytes before silent waiting) {token : Token}
    (complete : Complete (t.fragments (silent ++ waiting ++ [token]))) :
    t.Holds (StreamDecoder.moveOn t.decode { d with window := d.window ++ [token] })
      (!(lastRun [] (t.fragments (silent ++ waiting ++ [token]))).isEmpty) (waiting ++ [token]) [] [] := by
  obtain ⟨text, closed⟩ := complete
  rw [Closed, h.render_block] at closed
  rw [h.render_block] at text
  have window : (d.window ++ [token]).drop d.settled = waiting ++ [token] := by
    rw [h.window, h.settled, List.append_assoc, List.drop_left]
  refine ⟨?_, ?_, ?_, closed, ?_, rfl, fun _ => rfl, fun h => h.1 rfl⟩
  · exact window.trans (List.append_nil _).symm
  · show (d.window ++ [token]).length - d.settled = (waiting ++ [token]).length
    rw [← window, List.length_drop]
  · show t.decode ((d.window ++ [token]).drop d.settled) = _
    rw [window, decode_eq fallback]
  · have nonempty : t.fragments (waiting ++ [token]) ≠ [] := by
      intro none
      rw [none] at text
      exact text rfl
    rw [Bool.not_eq_true', List.isEmpty_eq_false_iff, List.append_assoc, fragments_append, Ne,
      lastRun_append_eq_nil nonempty]

theorem Holds.push (h : t.Holds d afterBytes before silent waiting) {token : Token}
    (incomplete : ¬ Complete (t.fragments (silent ++ waiting ++ [token]))) :
    t.Holds { d with window := d.window ++ [token] } afterBytes before silent (waiting ++ [token]) := by
  refine ⟨?_, h.settled, h.shown, h.closed, h.ends, h.noText, h.noneSilent, ?_⟩
  · rw [h.window, List.append_assoc]
  · rwa [← List.append_assoc]

/-- What a token comes to, given the block that it belongs to. -/
inductive Step (t : TrainedTokenizer) (d : StreamDecoder) (afterBytes : Bool) (token : Token)
    (block : List Token) : Prop
  /-- The block is complete and its text is shown. -/
  | shows {before' : List Token} (complete : Complete (t.fragments block))
      (good : afterBytes = true → WellFormed (lead (t.fragments block)))
      (result : (d.step t.decode token).1 = .ok (some (render (t.fragments block))))
      (holds : t.Holds (d.step t.decode token).2 (!(lastRun [] (t.fragments block)).isEmpty) before' [] [])
  /-- The block is complete, but its bytes make those before it lose their text. -/
  | fails {error : SessionError} (complete : Complete (t.fragments block)) (after : afterBytes = true)
      (bad : ¬ WellFormed (lead (t.fragments block)))
      (result : (d.step t.decode token).1 = .error error)
  /-- The block waits. -/
  | waits {before' silent' waiting' : List Token} (incomplete : ¬ Complete (t.fragments block))
      (result : (d.step t.decode token).1 = .ok none) (same : silent' ++ waiting' = block)
      (holds : t.Holds (d.step t.decode token).2 afterBytes before' silent' waiting')

/-- **One token** shows its block, or makes the decoder fail, or waits. -/
theorem Holds.step (fallback : t.rendering.HasByteFallback)
    (h : t.Holds d afterBytes before silent waiting) (token : Token) :
    Step t d afterBytes token (silent ++ waiting ++ [token]) := by
  obtain ⟨before, silent', waiting', same, h⟩ := h.settle fallback
  rw [← same]
  have iff := h.step_complete_iff token
  have step : d.step t.decode token =
      if byteLength (d.settle t.decode).shown <
            byteLength (render (t.fragments (before ++ (waiting' ++ [token])))) &&
          !endsOpen (render (t.fragments (before ++ (waiting' ++ [token])))) then
        if (d.settle t.decode).shown.isPrefixOf (render (t.fragments (before ++ (waiting' ++ [token])))) then
          (.ok (some ((render (t.fragments (before ++ (waiting' ++ [token])))).drop
              (d.settle t.decode).shown.length)),
            StreamDecoder.moveOn t.decode
              { d.settle t.decode with window := (d.settle t.decode).window ++ [token] })
        else
          (.error (invalidContinuation token (d.settle t.decode).shown
              (render (t.fragments (before ++ (waiting' ++ [token]))))),
            { d.settle t.decode with window := (d.settle t.decode).window ++ [token] })
      else (.ok none, { d.settle t.decode with window := (d.settle t.decode).window ++ [token] }) := by
    rw [← List.append_assoc before, ← h.window, ← decode_eq fallback]
    rfl
  by_cases complete : Complete (t.fragments (silent' ++ waiting' ++ [token]))
  · obtain ⟨longer, closed⟩ := iff.mpr complete
    rw [if_pos (by simp [longer, closed])] at step
    by_cases good : afterBytes = true → WellFormed (lead (t.fragments (silent' ++ waiting' ++ [token])))
    · rw [h.window_text good, if_pos (List.isPrefixOf_iff_prefix.mpr (List.prefix_append _ _)),
        List.drop_left] at step
      have holds := h.moveOn fallback complete
      exact .shows complete good (by rw [step]) (by rw [step]; exact holds)
    · obtain ⟨after, bad⟩ := Classical.not_imp.mp good
      rw [if_neg fun extends_ => h.not_prefix after bad (List.isPrefixOf_iff_prefix.mp extends_)] at step
      exact .fails complete after bad (by rw [step])
  · have stays : ¬ (byteLength (d.settle t.decode).shown <
        byteLength (render (t.fragments (before ++ (waiting' ++ [token])))) &&
          !endsOpen (render (t.fragments (before ++ (waiting' ++ [token]))))) = true := by
      intro both
      simp only [Bool.and_eq_true, decide_eq_true_eq, Bool.not_eq_true'] at both
      exact complete (iff.mp both)
    rw [if_neg stays] at step
    have holds := h.push complete
    exact .waits complete (by rw [step]) (List.append_assoc _ _ _).symm (by rw [step]; exact holds)

/-! ### Streams of tokens -/

/-- A decoder that does not fail yields the texts of blocks. -/
theorem Holds.reads_of_steps (fallback : t.rendering.HasByteFallback) {tokens : List Token}
    {chunks : List (Option String)} (h : t.Holds d afterBytes before silent waiting)
    (steps : t.tokenizer.steps d tokens = chunks.map .ok) :
    ∃ texts, t.Reads afterBytes (silent ++ waiting) tokens texts ∧
      chunks = texts.map (Option.map String.ofList) := by
  induction tokens generalizing d afterBytes before silent waiting chunks with
  | nil =>
    rw [List.map_eq_nil_iff.mp steps.symm]
    exact ⟨[], .nil, rfl⟩
  | cons token tokens ih =>
    rcases chunks with _ | ⟨chunk, chunks⟩
    · cases steps
    obtain ⟨first, rest⟩ := List.cons.inj steps
    replace first : (d.step t.decode token).1.map (Option.map String.ofList) = .ok chunk := first
    cases h.step fallback token with
    | shows complete good result holds =>
      obtain ⟨texts, reads, same⟩ := ih holds rest
      rw [result] at first
      rw [← Except.ok.inj first, same]
      exact ⟨_, .shows complete good reads, rfl⟩
    | fails _ _ _ result => rw [result] at first; cases first
    | waits incomplete result same holds =>
      obtain ⟨texts, reads, chunks_eq⟩ := ih holds rest
      rw [result] at first
      rw [← Except.ok.inj first, chunks_eq]
      rw [same] at reads
      exact ⟨_, .waits incomplete reads, rfl⟩

/-- The texts of blocks are what the decoder yields. -/
theorem Holds.steps_of_reads (fallback : t.rendering.HasByteFallback) {tokens : List Token}
    {texts : List (Option (List Char))} (h : t.Holds d afterBytes before silent waiting)
    (reads : t.Reads afterBytes (silent ++ waiting) tokens texts) :
    t.tokenizer.steps d tokens = (texts.map (Option.map String.ofList)).map .ok := by
  induction tokens generalizing d afterBytes before silent waiting texts with
  | nil =>
    cases reads
    rfl
  | cons token tokens ih =>
    show (d.step t.decode token).1.map (Option.map String.ofList) :: t.tokenizer.steps _ tokens = _
    cases reads with
    | waits incomplete rest =>
      cases h.step fallback token with
      | shows complete => exact absurd complete incomplete
      | fails complete => exact absurd complete incomplete
      | waits _ result same holds =>
        rw [← same] at rest
        rw [result]
        exact congrArg (_ :: ·) (ih holds rest)
    | shows complete good rest =>
      cases h.step fallback token with
      | shows _ _ result holds =>
        rw [result]
        exact congrArg (_ :: ·) (ih holds rest)
      | fails _ after bad => exact absurd (good after) bad
      | waits incomplete => exact absurd complete incomplete

end TrainedTokenizer

end PromptLoop
