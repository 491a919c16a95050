import PromptLoop.Proofs.Blocks

/-!
# Text that is lost

A decoder can only fail at text that it has yielded already. If the text ends with a run of bytes, then
bytes that come later make one run with them, and a run that is not well-formed is shown without any of
the characters that were there before. `TrainedTokenizer.LosesText` says so of a list of tokens, without
the decoder, and `TrainedTokenizer.steps_ok_iff` that the decoder fails at no other tokens. Whether the
tokens are in the vocabulary plays no part: what is not shown is left out.
-/

namespace PromptLoop

open Fragment StreamDecoder

namespace Fragment

variable {fs gs : List Fragment}

/-! ### Runs at the start of fragments -/

@[simp] theorem lead_bytes_append (bytes : List UInt8) (gs : List Fragment) :
    lead (bytes.map .byte ++ gs) = bytes ++ lead gs := by
  induction bytes with
  | nil => rfl
  | cons b bytes ih => simp only [List.map_cons, List.cons_append, lead, ih]

@[simp] theorem lastRun_bytes (run bytes : List UInt8) : lastRun run (bytes.map .byte) = run ++ bytes := by
  induction bytes generalizing run with
  | nil => exact (List.append_nil _).symm
  | cons b bytes ih => simp only [List.map_cons, lastRun, ih, List.append_assoc, List.singleton_append]

/-- The run of bytes at the start of fragments ends among them, unless they are all bytes. -/
theorem lead_append (fs gs : List Fragment) :
    lead (fs ++ gs) = lead fs ∨ fs = (lead fs).map .byte := by
  induction fs with
  | nil => exact .inr rfl
  | cons f fs ih =>
    cases f with
    | byte b => simpa only [List.cons_append, lead, List.map_cons, List.cons.injEq, true_and] using ih
    | text cs => exact .inl rfl

/-- Well-formed bytes at the start of a block are still well-formed when the block is continued. -/
theorem Complete.wellFormed_lead (h : Complete fs) (wf : WellFormed (lead fs))
    (whole : Complete (fs ++ gs)) (good : lastRun [] fs ≠ [] → Complete gs → WellFormed (lead gs)) :
    WellFormed (lead (fs ++ gs)) := by
  by_contra bad
  rcases lead_append fs gs with same | bytes
  · rw [same] at bad
    exact bad wf
  have ends : lastRun [] fs ≠ [] := by
    rw [bytes, lastRun_bytes, List.nil_append]
    intro none
    rw [none] at bytes
    exact h.1 (by rw [bytes]; rfl)
  have split : lead (fs ++ gs) = lead fs ++ lead gs := by
    conv_lhs => rw [bytes]
    rw [lead_bytes_append]
  have bad' : ¬ WellFormed (lead gs) := by
    obtain ⟨cs, hcs⟩ := wf
    rwa [split, ← hcs, wellFormed_append_iff] at bad
  have text : render gs ≠ [] := by
    intro silent
    rw [lead_of_silent silent] at bad'
    exact bad' ⟨[], rfl⟩
  exact bad' (good ends ⟨text, (h.2.endsOpen_append text).symm.trans whole.2⟩)

end Fragment

namespace TrainedTokenizer

variable (t : TrainedTokenizer)

/-- Some tokens make text be lost: after tokens whose text is closed and which end with bytes, there are
tokens that are complete and begin with bytes that are not well-formed. -/
def LosesText (tokens : List Token) : Prop :=
  ∃ before block, before ++ block <+: tokens ∧ Closed (t.fragments before) ∧
    lastRun [] (t.fragments before) ≠ [] ∧ Complete (t.fragments block) ∧
    ¬ WellFormed (lead (t.fragments block))

variable {t} {afterBytes : Bool} {waiting tokens : List Token} {texts : List (Option (List Char))}

/-- Text that is lost is not found again. -/
theorem LosesText.of_prefix {more : List Token} (h : t.LosesText tokens) (within : tokens <+: more) :
    t.LosesText more := by
  obtain ⟨before, block, first, rest⟩ := h
  exact ⟨before, block, first.trans within, rest⟩

/-! ### Blocks that are read -/

/-- After bytes, a block that is read begins with well-formed bytes, however far it is continued. -/
theorem Reads.wellFormed_lead (reads : t.Reads afterBytes waiting tokens texts) (after : afterBytes = true)
    (incomplete : ¬ Complete (t.fragments waiting)) {more : List Token} (within : more <+: tokens)
    (complete : Complete (t.fragments (waiting ++ more))) :
    WellFormed (lead (t.fragments (waiting ++ more))) := by
  induction reads generalizing more with
  | nil =>
    rw [List.prefix_nil.mp within, List.append_nil] at complete
    exact absurd complete incomplete
  | @waits _ waiting tokens token _ stays _ ih =>
    rcases more with _ | ⟨token', more⟩
    · rw [List.append_nil] at complete
      exact absurd complete incomplete
    · obtain ⟨rfl, within'⟩ := List.cons_prefix_cons.mp within
      rw [List.append_cons] at complete ⊢
      exact ih after stays within' complete
  | @shows _ waiting tokens token _ whole good _ ih =>
    rcases more with _ | ⟨token', more⟩
    · rw [List.append_nil] at complete
      exact absurd complete incomplete
    · obtain ⟨rfl, within'⟩ := List.cons_prefix_cons.mp within
      rw [List.append_cons, fragments_append] at complete ⊢
      refine whole.wellFormed_lead (good after) complete fun ends again => ?_
      exact ih (by simpa using ends) (fun none => none.1 rfl) within' again

/-- Blocks that are read lose no text, whatever was read before them. -/
theorem Reads.keepsText (reads : t.Reads afterBytes waiting tokens texts) {read : List Fragment}
    (closed : Closed read) (ends : afterBytes = true ↔ lastRun [] read ≠ [])
    (incomplete : ¬ Complete (t.fragments waiting)) {before block : List Token}
    (within : before ++ block <+: tokens) (closed' : Closed (read ++ t.fragments (waiting ++ before)))
    (bytes : lastRun [] (read ++ t.fragments (waiting ++ before)) ≠ [])
    (complete : Complete (t.fragments block)) : WellFormed (lead (t.fragments block)) := by
  induction before generalizing afterBytes waiting tokens texts read with
  | nil =>
    rw [List.append_nil] at closed' bytes
    -- A block that waits after bytes, and whose text would be closed, has no fragments at all.
    have silent : render (t.fragments waiting) = [] := by
      by_contra text
      exact incomplete ⟨text, (closed.endsOpen_append text).symm.trans closed'⟩
    have empty : t.fragments waiting = [] := by
      rw [lastRun_append] at bytes
      exact (lastRun_silent silent _).resolve_left bytes
    rw [empty, List.append_nil] at bytes
    have block_eq : t.fragments (waiting ++ block) = t.fragments block := by
      rw [fragments_append, empty, List.nil_append]
    rw [← block_eq] at complete ⊢
    exact reads.wellFormed_lead (ends.mpr bytes) incomplete within complete
  | cons token before ih =>
    rw [List.append_cons] at closed' bytes
    cases reads with
    | nil => exact absurd (List.prefix_nil.mp within) (List.cons_ne_nil _ _)
    | waits stays rest =>
      obtain ⟨rfl, within'⟩ := List.cons_prefix_cons.mp within
      exact ih rest closed ends stays within' closed' bytes
    | shows whole _ rest =>
      obtain ⟨rfl, within'⟩ := List.cons_prefix_cons.mp within
      rw [fragments_append, ← List.append_assoc] at closed' bytes
      exact ih rest (closed.append_complete whole) whole.ends (fun none => none.1 rfl) within' closed' bytes

/-- Tokens are read in blocks or lose text. -/
theorem reads_or_losesText {read : List Token} (closed : Closed (t.fragments read))
    (ends : afterBytes = true ↔ lastRun [] (t.fragments read) ≠ []) (waiting tokens : List Token) :
    (∃ texts, t.Reads afterBytes waiting tokens texts) ∨ t.LosesText (read ++ waiting ++ tokens) := by
  induction tokens generalizing afterBytes read waiting with
  | nil => exact .inl ⟨[], .nil⟩
  | cons token tokens ih =>
    by_cases complete : Complete (t.fragments (waiting ++ [token]))
    · by_cases good : afterBytes = true → WellFormed (lead (t.fragments (waiting ++ [token])))
      · have closed' : Closed (t.fragments (read ++ (waiting ++ [token]))) := by
          rw [fragments_append t read]
          exact closed.append_complete complete
        have ends' : (!(lastRun [] (t.fragments (waiting ++ [token]))).isEmpty) = true ↔
            lastRun [] (t.fragments (read ++ (waiting ++ [token]))) ≠ [] := by
          rw [fragments_append t read]
          exact complete.ends
        rcases ih closed' ends' [] with ⟨texts, reads⟩ | loses
        · exact .inl ⟨_, .shows complete good reads⟩
        · right
          simpa using loses
      · obtain ⟨after, bad⟩ := Classical.not_imp.mp good
        refine .inr ⟨read, waiting ++ [token], ⟨tokens, by simp⟩, closed, ends.mp after, complete, bad⟩
    · rcases ih closed ends (waiting ++ [token]) with ⟨texts, reads⟩ | loses
      · exact .inl ⟨_, .waits complete reads⟩
      · right
        simpa using loses

/-! ### The decoder -/

/-- **When a decoder fails**: it goes through tokens without an error if and only if they lose no text. -/
theorem steps_ok_iff (fallback : t.rendering.HasByteFallback) (tokens : List Token) :
    (∃ chunks : List (Option String), t.tokenizer.steps .fresh tokens = chunks.map .ok) ↔
      ¬ t.LosesText tokens := by
  have no_bytes : false = true ↔ lastRun [] [] ≠ [] := by simp [lastRun]
  constructor
  · rintro ⟨chunks, steps⟩ ⟨before, block, within, closed, bytes, complete, bad⟩
    obtain ⟨texts, reads, -⟩ := t.holds_fresh.reads_of_steps fallback steps
    exact bad (reads.keepsText closed_nil no_bytes (fun none => none.1 rfl) within closed bytes complete)
  · intro keeps
    have closed : Closed (t.fragments []) := closed_nil
    obtain ⟨texts, reads⟩ := (reads_or_losesText closed no_bytes [] tokens).resolve_right keeps
    exact ⟨_, t.holds_fresh.steps_of_reads fallback reads⟩

/-- The only error of the decoder is that it cannot decode a token. -/
theorem step_error {d : StreamDecoder} {token : Token} {error : SessionError}
    (h : (t.tokenizer.step d token).1 = .error error) : ∃ detail, error = .decode token detail := by
  have failed : ((d.step t.decode token).1.map (Option.map String.ofList)) = .error error := h
  unfold StreamDecoder.step at failed
  dsimp only at failed
  split_ifs at failed
  · cases failed
  · exact ⟨_, (Except.error.inj failed).symm⟩
  · cases failed

/-- The only error of the encoder is that it cannot encode a text. -/
theorem encode_error {text : String} {error : SessionError}
    (h : t.tokenizer.encode text = .error error) : ∃ detail, error = .encode detail := by
  have failed : (t.encode text).mapError (fun fault => SessionError.encode fault.message) = .error error := h
  rcases encoded : t.encode text with fault | tokens <;> rw [encoded] at failed
  · exact ⟨_, (Except.error.inj failed).symm⟩
  · cases failed

end TrainedTokenizer

end PromptLoop
