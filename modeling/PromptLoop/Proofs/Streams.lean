import PromptLoop.Proofs.Blocks

/-!
# Streams after a token

A stream of tokens is decoded after one token more. If the text of that token is closed, the stream is
decoded as a new decoder would decode it (`reads_after_closed`). If it is not, the token waits, and what
it has to show comes with the first text of the stream. Then the text of the stream is unlike the text that
a new decoder yields, unless there is none (`unlike_of_open`).
-/

namespace PromptLoop

open Fragment StreamDecoder

/-! ### Blocks after a token -/

namespace TrainedTokenizer

variable {t : TrainedTokenizer} {afterBytes : Bool} {waiting tokens : List Token}
  {texts : List (Option (List Char))}

/-- Without tokens before them, tokens are decoded in the same blocks. -/
theorem Reads.fresh (h : t.Reads afterBytes waiting tokens texts) : t.Reads false waiting tokens texts := by
  induction h with
  | nil => exact .nil
  | waits incomplete _ ih => exact .waits incomplete ih
  | shows complete _ rest _ => exact .shows complete (fun after => absurd after Bool.false_ne_true) rest

/-- Tokens without a text may be left out of the block that is waiting. -/
theorem Reads.of_silent {silent : List Token} (h : render (t.fragments silent) = [])
    (reads : t.Reads false (silent ++ waiting) tokens texts) : t.Reads false waiting tokens texts := by
  have block : ∀ token, render (t.fragments (silent ++ waiting ++ [token])) =
      render (t.fragments (waiting ++ [token])) := by
    intro token
    rw [List.append_assoc, fragments_append, render_silent_append h]
  induction tokens generalizing waiting texts with
  | nil =>
    cases reads
    exact .nil
  | cons token tokens ih =>
    cases reads with
    | waits incomplete rest =>
      rw [Complete, Closed, block] at incomplete
      rw [List.append_assoc] at rest
      refine .waits incomplete (ih rest fun token' => ?_)
      rw [List.append_assoc, fragments_append, render_silent_append h]
    | shows complete good rest =>
      rw [block]
      rw [Complete, Closed, block] at complete
      have nonempty : t.fragments (waiting ++ [token]) ≠ [] := by
        intro none
        rw [none] at complete
        exact complete.1 rfl
      have ends : (lastRun [] (t.fragments (silent ++ waiting ++ [token]))).isEmpty =
          (lastRun [] (t.fragments (waiting ++ [token]))).isEmpty := by
        rw [Bool.eq_iff_iff, List.isEmpty_iff, List.isEmpty_iff, List.append_assoc, fragments_append,
          lastRun_append_eq_nil nonempty]
      rw [ends] at rest
      exact .shows complete (fun after => absurd after Bool.false_ne_true) rest

/-- After a token whose text is closed, tokens are decoded as without it. -/
theorem reads_after_closed (fallback : t.rendering.HasByteFallback) {last : Token}
    {chunks : List (Option String)} (closed : endsOpen (t.decode [last]) = false)
    (ok : ∃ chunk, (t.tokenizer.step .fresh last).1 = .ok chunk)
    (steps : t.tokenizer.steps (t.tokenizer.step .fresh last).2 tokens = chunks.map .ok) :
    ∃ texts, t.Reads false [] tokens texts ∧ chunks = texts.map (Option.map String.ofList) := by
  obtain ⟨chunk, ok⟩ := ok
  rw [decode_eq fallback] at closed
  cases t.holds_fresh.step fallback last with
  | shows _ _ _ holds =>
    obtain ⟨texts, reads, same⟩ := holds.reads_of_steps fallback steps
    exact ⟨texts, reads.fresh, same⟩
  | fails _ _ _ result =>
    have failed : ((StreamDecoder.fresh.step t.decode last).1.map (Option.map String.ofList)) = .ok chunk := ok
    rw [result] at failed
    cases failed
  | waits incomplete _ same holds =>
    obtain ⟨texts, reads, chunks_eq⟩ := holds.reads_of_steps fallback steps
    rw [same] at reads
    have silent : render (t.fragments [last]) = [] := by
      by_contra text
      exact incomplete ⟨text, closed⟩
    exact ⟨texts, reads.of_silent silent, chunks_eq⟩

/-- After a token whose text is open, the token is waiting. -/
theorem reads_after_open (fallback : t.rendering.HasByteFallback) {last : Token}
    {chunks : List (Option String)} (is_open : endsOpen (t.decode [last]) = true)
    (steps : t.tokenizer.steps (t.tokenizer.step .fresh last).2 tokens = chunks.map .ok) :
    ∃ texts, t.Reads false [last] tokens texts ∧ chunks = texts.map (Option.map String.ofList) := by
  rw [decode_eq fallback] at is_open
  have incomplete : ¬ Complete (t.fragments [last]) := by
    intro complete
    have closed : endsOpen (render (t.fragments [last])) = false := complete.2
    rw [is_open] at closed
    cases closed
  cases t.holds_fresh.step fallback last with
  | shows complete => exact absurd complete incomplete
  | fails complete => exact absurd complete incomplete
  | waits _ _ same holds =>
    obtain ⟨texts, reads, chunks_eq⟩ := holds.reads_of_steps fallback steps
    rw [same] at reads
    exact ⟨texts, reads, chunks_eq⟩

/-! ### All the text of a stream -/

/-- The text of chunks. -/
def allText (texts : List (Option (List Char))) : List Char := texts.flatMap (·.getD [])

/-- Tokens at the start of others that are closed after some fragments, and after which no tokens are a
complete block. -/
structure Settles (t : TrainedTokenizer) (before : List Fragment) (tokens settled : List Token) : Prop where
  closed : Closed (before ++ t.fragments settled)
  rest : ∃ rest, tokens = settled ++ rest ∧ ∀ some, some <+: rest → ¬ Complete (t.fragments some)

/-- All the text of a stream is that of the tokens which settle it. -/
theorem Reads.allText (reads : t.Reads afterBytes waiting tokens texts) {before : List Fragment}
    (closed : Closed before) (ends : afterBytes = true ↔ lastRun [] before ≠ [])
    (incomplete : ∀ some, some <+: waiting → ¬ Complete (t.fragments some)) :
    ∃ settled, t.Settles before (waiting ++ tokens) settled ∧
      render (before ++ t.fragments settled) = render before ++ TrainedTokenizer.allText texts := by
  induction reads generalizing before with
  | @nil _ waiting =>
    refine ⟨[], ⟨?_, waiting, List.append_nil _, incomplete⟩, ?_⟩
    · rwa [fragments_nil, List.append_nil]
    · rw [fragments_nil, List.append_nil]
      exact (List.append_nil _).symm
  | @waits _ waiting tokens token _ stays _ ih =>
    rw [show waiting ++ token :: tokens = waiting ++ [token] ++ tokens by simp]
    refine ih closed ends fun some is_prefix => ?_
    rcases List.prefix_concat_iff.mp is_prefix with rfl | is_prefix
    · exact stays
    · exact incomplete some is_prefix
  | @shows _ waiting tokens token _ complete good _ ih =>
    have added : render (before ++ t.fragments (waiting ++ [token])) =
        render before ++ render (t.fragments (waiting ++ [token])) :=
      closed.render_append fun run => good (ends.mpr run)
    obtain ⟨settled, ⟨closed', rest, split, incomplete'⟩, text⟩ :=
      ih (closed.append_complete complete) complete.ends (fun some is_prefix => by
        rw [List.prefix_nil.mp is_prefix]
        exact fun complete => complete.1 rfl)
    refine ⟨waiting ++ [token] ++ settled, ⟨?_, rest, ?_, incomplete'⟩, ?_⟩
    · rw [fragments_append, ← List.append_assoc]
      exact closed'
    · rw [List.append_assoc _ settled, ← split]
      simp
    · rw [fragments_append, ← List.append_assoc, text, added, List.append_assoc]
      rfl

/-- Between tokens that settle a stream and more tokens that are closed there is no text. -/
theorem Settles.render_append {before : List Fragment} {settled more : List Token}
    (h : t.Settles before tokens settled) (within : settled ++ more <+: tokens)
    (closed : Closed (before ++ t.fragments (settled ++ more))) :
    render (t.fragments (settled ++ more)) = render (t.fragments settled) := by
  obtain ⟨rest, rfl, incomplete⟩ := h.rest
  rw [fragments_append]
  refine render_append_silent ?_
  by_contra text
  refine incomplete more ((List.prefix_append_right_inj _).mp within) ⟨text, ?_⟩
  rw [fragments_append, ← List.append_assoc, Closed, h.closed.endsOpen_append text] at closed
  exact closed

theorem Settles.within {before : List Fragment} {settled : List Token}
    (h : t.Settles before tokens settled) : settled <+: tokens := by
  obtain ⟨rest, rfl, -⟩ := h.rest
  exact List.prefix_append _ _

/-- All tokens that settle a stream have the same text. -/
theorem Settles.render_eq {before : List Fragment} {settled settled' : List Token}
    (h : t.Settles before tokens settled) (h' : t.Settles before tokens settled') :
    render (t.fragments settled) = render (t.fragments settled') := by
  rcases List.prefix_or_prefix_of_prefix h.within h'.within with ⟨more, rfl⟩ | ⟨more, rfl⟩
  · exact (h.render_append h'.within h'.closed).symm
  · exact h'.render_append h.within h.closed

/-! ### Texts that are unlike -/

/-- Texts that stay different when characters of one byte are left out at their beginning: one has a
character of more bytes and, after it, is at least as long as the other, or both begin with such characters
and are not the same. -/
inductive Unlike (text text' : List Char) : Prop
  | longer {before after : List Char} {c : Char} (split : text = before ++ c :: after)
      (wide : 1 < c.utf8Size) (short : text'.length ≤ after.length)
  | other {c c' : Char} {cs cs' : List Char} (starts : text = c :: cs) (wide : 1 < c.utf8Size)
      (starts' : text' = c' :: cs') (wide' : 1 < c'.utf8Size) (ne : text ≠ text')

theorem wide_replacementChar : 1 < replacementChar.utf8Size := by decide

/-- A text that is open comes before all that a new decoder yields. -/
theorem unlike_of_text {cs : List Char} (is_open : endsOpen cs = true) {settled settled' : List Token}
    (h : t.Settles [.text cs] tokens settled) (h' : t.Settles [] tokens settled') :
    Unlike (render (.text cs :: t.fragments settled)) (render (t.fragments settled')) := by
  have closed : endsOpen (cs ++ render (t.fragments settled)) = false := by
    rw [← render_text]
    exact h.closed
  have text : render (t.fragments settled) ≠ [] := by
    intro none
    rw [none, List.append_nil, is_open] at closed
    cases closed
  rw [endsOpen_append _ text] at closed
  have fresh : t.Settles [] tokens settled := ⟨closed, h.rest⟩
  rw [render_text, ← fresh.render_eq h']
  obtain ⟨before, rfl⟩ := getLast_of_endsOpen is_open
  exact .longer (List.append_assoc _ _ _) wide_replacementChar (Nat.le_refl _)

/-- If a byte and the bytes after it are all the text of a stream, a new decoder yields nothing. -/
theorem Settles.silent_of_byte {b : UInt8} (alone : ¬ WellFormed [b]) {settled settled' : List Token}
    (h : t.Settles [.byte b] tokens settled) (h' : t.Settles [] tokens settled')
    (wf : WellFormed (b :: lead (t.fragments settled))) (none : tail (t.fragments settled) = []) :
    render (t.fragments settled') = [] := by
  obtain ⟨x, rest, leads, bad⟩ := exists_not_wellFormed alone wf
  have closed : endsOpen (render (t.fragments settled')) = false := h'.closed
  by_cases more : tail (t.fragments settled') = []
  · rw [Fragment.render_eq, more, List.append_nil] at closed ⊢
    have begins : lead (t.fragments settled') = [] ∨ ∃ rest', lead (t.fragments settled') = x :: rest' := by
      rcases List.prefix_or_prefix_of_prefix h.within h'.within with ⟨others, rfl⟩ | ⟨others, rfl⟩
      · obtain ⟨rest', leads'⟩ := lead_prefix (t.fragments settled) (t.fragments others)
        rw [← fragments_append, leads] at leads'
        exact .inr ⟨_, leads'.symm⟩
      · have leads' := lead_prefix (t.fragments settled') (t.fragments others)
        rw [← fragments_append, leads, List.prefix_cons_iff] at leads'
        exact leads'.imp_right fun ⟨rest', same, _⟩ => ⟨rest', same⟩
    rcases begins with empty | ⟨rest', begins⟩
    · rw [empty, runText_nil]
    · rw [begins, endsOpen_runText (bad rest')] at closed
      cases closed
  · -- The text after the bytes settles the stream after the byte, too.
    have after : t.Settles [.byte b] tokens settled' := by
      refine ⟨?_, h'.rest⟩
      rw [Fragment.render_eq, endsOpen_append _ more] at closed
      rwa [Closed, List.singleton_append, render_byte, endsOpen_append _ more]
    rw [← h.render_eq after, Fragment.render_eq, none, List.append_nil, leads,
      endsOpen_runText (bad rest)] at closed
    cases closed

/-- A byte that is no character completes a character, or is shown as a replacement character. -/
theorem unlike_of_byte {b : UInt8} (alone : ¬ WellFormed [b]) {settled settled' : List Token}
    (h : t.Settles [.byte b] tokens settled) (h' : t.Settles [] tokens settled') :
    Unlike (render (.byte b :: t.fragments settled)) (render (t.fragments settled')) := by
  have closed := h.closed
  rw [Closed, List.singleton_append, render_byte] at closed
  rw [render_byte]
  by_cases none : tail (t.fragments settled) = []
  · have wf : WellFormed (b :: lead (t.fragments settled)) := by
      by_contra wf
      rw [none, List.append_nil, endsOpen_runText wf] at closed
      cases closed
    rw [h.silent_of_byte alone h' wf none]
    obtain ⟨_ | ⟨c, cs⟩, bytes⟩ := wf
    · cases bytes
    · rw [← bytes, runText_utf8, none, List.append_nil]
      exact .longer (List.nil_append _).symm (one_lt_utf8Size alone bytes) (Nat.zero_le _)
  · rw [endsOpen_append _ none] at closed
    have fresh : t.Settles [] tokens settled := by
      refine ⟨?_, h.rest⟩
      rwa [Closed, List.nil_append, Fragment.render_eq, endsOpen_append _ none]
    rw [← fresh.render_eq h', Fragment.render_eq (t.fragments settled)]
    by_cases wf : WellFormed (b :: lead (t.fragments settled))
    · obtain ⟨x, rest, leads, bad⟩ := exists_not_wellFormed alone wf
      obtain ⟨_ | ⟨c, cs⟩, bytes⟩ := wf
      · cases bytes
      have lost := runText_of_not_wellFormed (bad rest)
      rw [← bytes, runText_utf8, leads, lost, List.length_cons, List.replicate_succ]
      refine .other rfl (one_lt_utf8Size alone bytes) rfl wide_replacementChar fun same => ?_
      -- Each byte that is lost leaves a character of three bytes.
      have count : (utf8 (c :: cs)).length = 3 * (rest.length + 1) := by
        rw [List.append_cancel_right same, ← List.replicate_succ, ← byteLength_replicate]
        exact length_utf8 _
      rw [bytes, leads, List.length_cons, List.length_cons] at count
      omega
    · rw [runText_of_not_wellFormed wf, List.length_cons, List.replicate_succ, List.cons_append]
      refine .longer (List.nil_append _).symm wide_replacementChar ?_
      have := length_runText_le (lead (t.fragments settled))
      rw [List.length_append, List.length_append, List.length_replicate]
      omega

/-- **A token whose text is open** makes the text of the stream unlike what a new decoder yields, unless
there is no text. -/
theorem unlike_of_open {last : Token} {fresh : List (Option (List Char))}
    (is_open : endsOpen (render (t.fragments [last])) = true) (after : t.Reads false [last] tokens texts)
    (alone : t.Reads false [] tokens fresh) :
    allText texts = [] ∨ Unlike (allText texts) (allText fresh) := by
  have no_bytes : false = true ↔ lastRun [] [] ≠ [] := by simp [lastRun]
  have incomplete : ∀ some, some <+: [last] → ¬ Complete (t.fragments some) := by
    intro some is_prefix complete
    rw [← List.nil_append [last], List.prefix_concat_iff] at is_prefix
    rcases is_prefix with rfl | is_prefix
    · exact Bool.false_ne_true (complete.2.symm.trans is_open)
    · rw [List.prefix_nil.mp is_prefix] at complete
      exact complete.1 rfl
  obtain ⟨settled, h, text⟩ := after.allText closed_nil no_bytes incomplete
  obtain ⟨settled', h', text'⟩ := alone.allText closed_nil no_bytes fun some is_prefix complete => by
    rw [List.prefix_nil.mp is_prefix] at complete
    exact complete.1 rfl
  rw [List.nil_append, render_nil, List.nil_append] at text text'
  rw [← text, ← text']
  rcases settled with _ | ⟨token, settled⟩
  · exact .inl rfl
  obtain ⟨rest, whole, waits⟩ := h.rest
  obtain ⟨rfl, split⟩ := List.cons.inj whole
  rcases piece : t.fragment? last with _ | fragment
  · rw [show t.fragments [last] = [] from List.filterMap_cons_none piece] at is_open
    cases is_open
  have fragments_cons : ∀ more, t.fragments (last :: more) = fragment :: t.fragments more :=
    fun _ => List.filterMap_cons_some piece
  rw [fragments_cons, fragments_nil] at is_open
  have settles : t.Settles [fragment] tokens settled := by
    refine ⟨?_, rest, split, waits⟩
    have closed := h.closed
    rwa [List.nil_append, fragments_cons] at closed
  rw [fragments_cons]
  right
  cases fragment with
  | byte b =>
    rw [render_byte, lead, tail, List.append_nil] at is_open
    exact unlike_of_byte (not_wellFormed_of_endsOpen is_open) settles h'
  | text cs =>
    rw [render_text, render_nil, List.append_nil] at is_open
    exact unlike_of_text is_open settles h'

end TrainedTokenizer

end PromptLoop
