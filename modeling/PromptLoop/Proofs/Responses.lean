import PromptLoop.Proofs.Answers
import PromptLoop.Proofs.Streams

/-!
# The text of a response

The last token of a prompt is put into the decoder that the response is decoded with. If its text is
closed, the response is shown as a new decoder would decode it. If it is not, the token waits, and what it
has to show comes with the first text of the response: then the response is never shown as a new decoder
would decode it, unless nothing of it is shown at all (`Turn.response_text`).
-/

namespace PromptLoop

/-! ### What is shown of a text -/

theorem visible_of_wide {c : Char} (wide : 1 < c.utf8Size) : Turn.isLeadingBlank c = false := by
  rw [Bool.eq_false_iff]
  intro blank
  simp only [Turn.isLeadingBlank, Bool.or_eq_true, decide_eq_true_eq] at blank
  obtain (rfl | rfl) | rfl := blank <;> exact absurd wide (by decide)

theorem length_lt_dropWhile {c : Char} (visible : Turn.isLeadingBlank c = false) (before after : List Char) :
    after.length < ((before ++ c :: after).dropWhile Turn.isLeadingBlank).length := by
  induction before with
  | nil =>
    rw [List.nil_append, List.dropWhile_cons_of_neg (by rw [visible]; exact Bool.false_ne_true)]
    exact Nat.lt_succ_self _
  | cons b before ih =>
    rw [List.cons_append, List.dropWhile_cons]
    split_ifs
    · exact ih
    · rw [List.length_cons, List.length_append, List.length_cons]
      omega

/-- A text without some of the blanks at its beginning. -/
def Trimmed (text shown : List Char) : Prop :=
  ∃ cs ds, text = cs ++ ds ∧ shown = cs.dropWhile Turn.isLeadingBlank ++ ds

namespace Trimmed

variable {text shown : List Char}

theorem length_le (h : Trimmed text shown) : shown.length ≤ text.length := by
  obtain ⟨cs, ds, rfl, rfl⟩ := h
  have := (List.dropWhile_suffix Turn.isLeadingBlank (l := cs)).length_le
  rw [List.length_append, List.length_append]
  omega

/-- A text that does not begin with a blank is shown as it is. -/
theorem eq_of_head {c : Char} (h : Trimmed (c :: text) shown) (head : Turn.isLeadingBlank c = false) :
    shown = c :: text := by
  obtain ⟨_ | ⟨c', cs⟩, ds, split, rfl⟩ := h
  · exact split.symm
  · obtain ⟨rfl, rfl⟩ := List.cons.inj split
    rw [List.dropWhile_cons_of_neg (by rw [head]; exact Bool.false_ne_true)]
    rfl

/-- From a character on that is no blank, all of a text is shown. -/
theorem length_lt {c : Char} {before after : List Char} (h : Trimmed (before ++ c :: after) shown)
    (visible : Turn.isLeadingBlank c = false) : after.length < shown.length := by
  obtain ⟨cs, ds, split, rfl⟩ := h
  rw [List.length_append]
  rcases List.append_eq_append_iff.mp split with ⟨_ | ⟨c', mid⟩, rfl, rest⟩ | ⟨mid, rfl, rfl⟩
  · have := congrArg List.length rest
    rw [List.nil_append, List.length_cons] at this
    omega
  · obtain ⟨rfl, rfl⟩ := List.cons.inj rest
    have := length_lt_dropWhile visible before mid
    rw [List.append_eq, List.length_append]
    omega
  · rw [List.length_append, List.length_cons]
    omega

end Trimmed

theorem shownOf_nil : Turn.shownOf true (some (String.ofList [])) = (String.ofList [], true) := by
  unfold Turn.shownOf
  rfl

theorem shownOf_cons (c : Char) (cs : List Char) : Turn.shownOf true (some (String.ofList (c :: cs))) =
    (String.ofList ((c :: cs).dropWhile Turn.isLeadingBlank), false) := by
  have nonempty : (String.ofList (c :: cs)).isEmpty = false := by simp
  unfold Turn.shownOf Turn.trimLeading
  simp only [nonempty, Bool.not_false, Bool.and_true, if_true, String.toList_ofList]

/-- Once the blanks at the beginning are left out, all the text of chunks is shown. -/
theorem toList_shownText (texts : List (Option (List Char))) :
    (Turn.shownText false (texts.map (Option.map String.ofList))).toList =
      TrainedTokenizer.allText texts := by
  induction texts with
  | nil => rfl
  | cons text texts ih =>
    rw [List.map_cons, Turn.shownText, String.toList_append, TrainedTokenizer.allText, List.flatMap_cons]
    rcases text with _ | text
    · exact ih
    · show (String.ofList text).toList ++ _ = text ++ _
      rw [String.toList_ofList]
      exact congrArg _ ih

/-- What a turn shows of chunks is their text without some of the blanks at its beginning. -/
theorem trimmed_shownText (texts : List (Option (List Char))) :
    Trimmed (TrainedTokenizer.allText texts)
      (Turn.shownText true (texts.map (Option.map String.ofList))).toList := by
  induction texts with
  | nil => exact ⟨[], [], rfl, rfl⟩
  | cons text texts ih =>
    rw [List.map_cons, Turn.shownText, String.toList_append, TrainedTokenizer.allText, List.flatMap_cons]
    rcases text with _ | _ | ⟨c, cs⟩
    · exact ih
    · rw [Option.map_some, shownOf_nil, String.toList_ofList]
      exact ih
    · refine ⟨c :: cs, TrainedTokenizer.allText texts, rfl, ?_⟩
      rw [Option.map_some, shownOf_cons, toList_shownText, String.toList_ofList]

/-- Texts that are unlike do not become the same when blanks at their beginning are left out. -/
theorem TrainedTokenizer.Unlike.ne {text text' shown shown' : List Char}
    (unlike : TrainedTokenizer.Unlike text text') (h : Trimmed text shown) (h' : Trimmed text' shown') :
    shown ≠ shown' := by
  rintro rfl
  cases unlike with
  | longer split wide short =>
    rw [split] at h
    have := h.length_lt (visible_of_wide wide)
    have := h'.length_le
    omega
  | other starts wide starts' wide' ne =>
    rw [starts] at h
    rw [starts'] at h'
    rw [starts, starts'] at ne
    have same := h.eq_of_head (visible_of_wide wide)
    rw [h'.eq_of_head (visible_of_wide wide')] at same
    exact ne same.symm

/-! ### Responses -/

/-- What is written for tokens is what a new decoder yields for them, without the blanks at the beginning
of its first text. -/
def ShowsAsFresh (t : TrainedTokenizer) (tokens : List Token) (before after : List UInt8) : Prop :=
  ∃ chunks, t.tokenizer.steps .fresh tokens = chunks.map .ok ∧
    after = before ++ Line.bytes (Turn.shownText true chunks)

/-- After a token whose text is open, chunks are shown like those of a new decoder only if nothing of them
is shown. -/
theorem TrainedTokenizer.shownText_of_open {t : TrainedTokenizer} {last : Token} {tokens : List Token}
    {texts fresh : List (Option (List Char))}
    (is_open : StreamDecoder.endsOpen (Fragment.render (t.fragments [last])) = true)
    (after : t.Reads false [last] tokens texts) (alone : t.Reads false [] tokens fresh)
    (same : Turn.shownText true (texts.map (Option.map String.ofList)) =
      Turn.shownText true (fresh.map (Option.map String.ofList))) :
    Turn.shownText true (texts.map (Option.map String.ofList)) = "" := by
  have shown := trimmed_shownText texts
  rcases unlike_of_open is_open after alone with none | unlike
  · have short := shown.length_le
    rw [none] at short
    exact String.toList_eq_nil_iff.mp (List.eq_nil_of_length_eq_zero (Nat.le_zero.mp short))
  · exact absurd (congrArg String.toList same) (unlike.ne shown (trimmed_shownText fresh))

/-- **What is shown of a response.** A turn receives a prompt and then tokens none of which is the end of a
sequence. It shows these as a new decoder would decode them if and only if the last token of the prompt is
the end of a sequence, or the text of that token is closed, or nothing is shown either way. -/
theorem Turn.response_text {π : Type} {t : TrainedTokenizer} (fallback : t.rendering.HasByteFallback)
    {eos : Token} {policy : Policy π} {s : Session} {phase : Phase} {console : Console} {state : π}
    {prompt : List Token} {last : Token} {response : List Event} {t₁ t₂ : Turn StreamDecoder π}
    (reads : Receives ⟨t.tokenizer, eos, 0, policy⟩
      (start ⟨t.tokenizer, eos, 0, policy⟩ (s.beginTurn (prompt.length + 1)) phase console state)
      ((prompt ++ [last]).map .echo) t₁)
    (answers : Receives ⟨t.tokenizer, eos, 0, policy⟩ t₁ response t₂)
    (notEnd : ∀ event ∈ response, event.token ≠ eos) :
    ShowsAsFresh t (response.map (·.token)) t₁.console.out.written t₂.console.out.written ↔
      last = eos ∨ StreamDecoder.endsOpen (t.decode [last]) = false ∨
        t₂.console.out.written = t₁.console.out.written ∧ ShowsAsFresh t (response.map (·.token)) [] [] := by
  obtain ⟨counted, atEnd, notAtEnd⟩ := reads.echoed (Nat.zero_add _)
  obtain ⟨chunks, steps, written⟩ := answers.answered rfl (Nat.le_of_eq counted.symm) notEnd
  have trims : t₁.trims = true := by
    rw [Turn.trims, Bool.or_eq_true]
    exact .inr (decide_eq_true (congrArg (· + 1) counted))
  rw [trims] at written
  constructor
  · rintro ⟨fresh, steps', written'⟩
    by_cases is_end : last = eos
    · exact .inl is_end
    rcases is_open : StreamDecoder.endsOpen (t.decode [last]) with _ | _
    · exact .inr (.inl rfl)
    -- The token is waiting when the response begins.
    rw [(notAtEnd is_end).1] at steps
    obtain ⟨texts, after, rfl⟩ := TrainedTokenizer.reads_after_open fallback is_open steps
    obtain ⟨texts', alone, rfl⟩ := t.holds_fresh.reads_of_steps fallback steps'
    have same : Turn.shownText true (texts.map (Option.map String.ofList)) =
        Turn.shownText true (texts'.map (Option.map String.ofList)) := by
      rw [written, List.append_cancel_left_eq, bytes_eq_utf8, bytes_eq_utf8] at written'
      exact String.toList_inj.mp (utf8_inj written')
    rw [TrainedTokenizer.decode_eq fallback] at is_open
    have nothing := TrainedTokenizer.shownText_of_open is_open after alone same
    refine .inr (.inr ⟨?_, _, steps', ?_⟩)
    · rw [written, nothing]
      exact List.append_nil _
    · rw [← same, nothing]
      rfl
  · rintro (is_end | closed | ⟨unchanged, fresh, steps', nothing⟩)
    · rw [atEnd is_end] at steps
      exact ⟨chunks, steps, written⟩
    · by_cases is_end : last = eos
      · rw [atEnd is_end] at steps
        exact ⟨chunks, steps, written⟩
      · obtain ⟨decoder, ok⟩ := notAtEnd is_end
        rw [decoder] at steps
        obtain ⟨texts, reads, rfl⟩ := TrainedTokenizer.reads_after_closed fallback closed ok steps
        exact ⟨_, t.holds_fresh.steps_of_reads fallback reads, written⟩
    · refine ⟨fresh, steps', ?_⟩
      rw [List.nil_append] at nothing
      rw [← nothing, List.append_nil, unchanged]

/-- The bytes of a character, a letter and the mark for a space. -/
def Vocabulary.euro : Vocabulary := ⟨["<0xE2>", "<0x82>", "<0xAC>", "a", "▁"], []⟩

namespace Turn

/-- How turns with that vocabulary are set up. -/
def euroSetup : TurnSetup StreamDecoder Unit := ⟨Vocabulary.euro.trained.tokenizer, 99, 0, .always⟩

/-- A turn with that vocabulary, before a prompt of one token more than given. -/
def euro (prompt : List Token) : Turn StreamDecoder Unit :=
  start euroSetup ((Session.start false false).beginTurn (prompt.length + 1)) .awaitingInput
    (Console.fresh none none) ()

/-- The turn after the prompt. -/
def euroPrompted (prompt : List Token) (last : Token) : Turn StreamDecoder Unit :=
  ((Turn.sink euroSetup).feed ((prompt ++ [last]).map .echo) Rng.fixed (euro prompt)).2.2

/-- The turn after a response. -/
def euroAnswered (prompt : List Token) (last : Token) (response : List Token) : Turn StreamDecoder Unit :=
  ((Turn.sink euroSetup).feed (response.map .echo) Rng.fixed (euroPrompted prompt last)).2.2

/-- After a letter, a space and a letter are shown as the letter. -/
theorem euro_response_text :
    Vocabulary.euro.trained.rendering.HasByteFallback ∧
      Receives euroSetup (euro [4]) (([4] ++ [3]).map .echo) (euroPrompted [4] 3) ∧
      Receives euroSetup (euroPrompted [4] 3) ([4, 3].map .echo) (euroAnswered [4] 3 [4, 3]) ∧
      (∀ event ∈ [4, 3].map Event.echo, event.token ≠ 99) ∧
      ShowsAsFresh Vocabulary.euro.trained (([4, 3].map Event.echo).map (·.token))
        (euroPrompted [4] 3).console.out.written (euroAnswered [4] 3 [4, 3]).console.out.written := by
  have fallback : Vocabulary.euro.trained.rendering.HasByteFallback :=
    Rendering.hasByteFallback_byteFallback
  have reads : Receives euroSetup (euro [4]) (([4] ++ [3]).map .echo) (euroPrompted [4] 3) :=
    receives_of_feed (Prod.ext (by decide +kernel) rfl)
  have answers : Receives euroSetup (euroPrompted [4] 3) ([4, 3].map .echo) (euroAnswered [4] 3 [4, 3]) :=
    receives_of_feed (Prod.ext (by decide +kernel) rfl)
  have notEnd : ∀ event ∈ [4, 3].map Event.echo, event.token ≠ 99 := by decide
  exact ⟨fallback, reads, answers, notEnd,
    (response_text fallback reads answers notEnd).mpr (.inr (.inl (by decide +kernel)))⟩

/-- After the bytes of a character, a replacement character is shown before the letter. -/
theorem euro_not_showsAsFresh :
    Receives euroSetup (euro [0, 1]) (([0, 1] ++ [2]).map .echo) (euroPrompted [0, 1] 2) ∧
      Receives euroSetup (euroPrompted [0, 1] 2) ([3].map .echo) (euroAnswered [0, 1] 2 [3]) ∧
      ¬ ShowsAsFresh Vocabulary.euro.trained [3] (euroPrompted [0, 1] 2).console.out.written
        (euroAnswered [0, 1] 2 [3]).console.out.written := by
  refine ⟨receives_of_feed (Prod.ext (by decide +kernel) rfl),
    receives_of_feed (Prod.ext (by decide +kernel) rfl), ?_⟩
  rintro ⟨chunks, steps, written⟩
  have alone : Vocabulary.euro.trained.tokenizer.steps .fresh [3] = [.ok (some "a")] := by decide +kernel
  rw [alone] at steps
  rcases chunks with _ | ⟨chunk, _ | _⟩
  · cases steps
  · obtain rfl := Except.ok.inj (List.cons.inj steps).1
    revert written
    decide +kernel
  · cases (List.cons.inj steps).2

end Turn

end PromptLoop
