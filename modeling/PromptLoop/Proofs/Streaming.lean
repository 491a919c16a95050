import PromptLoop.Proofs.Hearing
import PromptLoop.Proofs.Responses

/-!
# Streaming agrees with decoding at once

The decoder forgets tokens and shows text in chunks. Still, whenever it yields a chunk, all the text that
it has yielded is the text of all the tokens so far, decoded at once
(`TrainedTokenizer.joined_eq_decode`). What a turn has written at any point of its answer is that text,
but for blanks at the beginning of the answer (`Turn.streams_whole_text`).

This is so if nothing more is done to the text of the bytes. A rendering that goes on to take a space off the start
of a text takes off a space in the middle of it, too, once the tokens before are forgotten; then the chunks can hold a
space that the text decoded at once does not have (`Turn.stripped_not_streams_whole_text`).
-/

namespace PromptLoop

open Fragment StreamDecoder

/-! ### Chunks -/

namespace Turn

/-- The text of chunks. -/
def joined : List (Option String) → String
  | [] => ""
  | chunk :: chunks => chunk.getD "" ++ joined chunks

@[simp] theorem joined_nil : joined [] = "" := rfl

@[simp] theorem joined_cons (chunk : Option String) (chunks : List (Option String)) :
    joined (chunk :: chunks) = chunk.getD "" ++ joined chunks := rfl

theorem toList_joined (texts : List (Option (List Char))) :
    (joined (texts.map (Option.map String.ofList))).toList = TrainedTokenizer.allText texts := by
  induction texts with
  | nil => rfl
  | cons text texts ih =>
    rw [List.map_cons, joined_cons, String.toList_append, ih, TrainedTokenizer.allText,
      TrainedTokenizer.allText, List.flatMap_cons]
    cases text <;> simp

theorem shownText_false (chunks : List (Option String)) : shownText false chunks = joined chunks := by
  induction chunks with
  | nil => rfl
  | cons chunk chunks ih =>
    cases chunk with
    | none => simpa [shownText, shownOf] using ih
    | some text => simpa [shownText, shownOf] using ih

/-- Chunks are shown without the blanks at the beginning of the first of them that has a text, and with
nothing else left out. -/
inductive LeavesOutBlanks : List (Option String) → String → Prop
  /-- No chunk has a text. -/
  | silent {chunks : List (Option String)} (silent : joined chunks = "") : LeavesOutBlanks chunks ""
  /-- The first text comes after some chunks. -/
  | first {before after : List (Option String)} {text : String} (silent : joined before = "")
      (nonempty : text ≠ "") :
      LeavesOutBlanks (before ++ some text :: after) (trimLeading text ++ joined after)

theorem LeavesOutBlanks.cons {chunk : Option String} {chunks : List (Option String)} {shown : String}
    (h : LeavesOutBlanks chunks shown) (none : chunk.getD "" = "") :
    LeavesOutBlanks (chunk :: chunks) shown := by
  cases h with
  | silent silent =>
    refine .silent ?_
    rw [joined_cons, none, silent]
    rfl
  | @first before after text silent nonempty =>
    have silent' : joined (chunk :: before) = "" := by
      rw [joined_cons, none, silent]
      rfl
    exact .first silent' nonempty

/-- What is shown of chunks while blanks are left out. -/
theorem leavesOutBlanks_shownText (chunks : List (Option String)) :
    LeavesOutBlanks chunks (shownText true chunks) := by
  induction chunks with
  | nil => exact .silent rfl
  | cons chunk chunks ih =>
    rcases chunk with _ | text
    · rw [show shownText true (none :: chunks) = shownText true chunks from String.empty_append]
      exact ih.cons rfl
    · by_cases empty : text = ""
      · subst empty
        rw [show shownText true (some "" :: chunks) = shownText true chunks from String.empty_append]
        exact ih.cons rfl
      · have shown : shownOf true (some text) = (trimLeading text, false) := by simp [shownOf, empty]
        rw [shownText, shown, shownText_false]
        exact .first joined_nil empty

end Turn

/-! ### The text so far -/

namespace TrainedTokenizer

variable {t : TrainedTokenizer} {afterBytes : Bool} {waiting tokens : List Token}
  {texts : List (Option (List Char))}

/-- When a block is shown, all the text that was shown is that of all tokens so far. -/
theorem Reads.render_take (reads : t.Reads afterBytes waiting tokens texts) {read : List Fragment}
    (closed : Closed read) (ends : afterBytes = true ↔ lastRun [] read ≠ [])
    {before after : List (Option (List Char))} {text : List Char}
    (split : texts = before ++ some text :: after) :
    render (read ++ t.fragments (waiting ++ tokens.take (before.length + 1))) =
        render read ++ TrainedTokenizer.allText (before ++ [some text]) ∧
      endsOpen text = false := by
  induction reads generalizing read before with
  | nil => simp at split
  | @waits _ waiting tokens token chunks _ _ ih =>
    rcases before with _ | ⟨chunk, before⟩
    · cases split
    · obtain ⟨rfl, split'⟩ := List.cons.inj split
      have sofar := ih closed ends split'
      rw [List.append_assoc, List.singleton_append] at sofar
      exact sofar
  | @shows _ waiting tokens token chunks complete good _ ih =>
    have added : render (read ++ t.fragments (waiting ++ [token])) =
        render read ++ render (t.fragments (waiting ++ [token])) :=
      closed.render_append fun run => good (ends.mpr run)
    rcases before with _ | ⟨chunk, before⟩
    · obtain ⟨same, -⟩ := List.cons.inj split
      obtain rfl := Option.some.inj same
      refine ⟨added.trans ?_, complete.2⟩
      simp [TrainedTokenizer.allText]
    · obtain ⟨rfl, split'⟩ := List.cons.inj split
      obtain ⟨sofar, text_closed⟩ := ih (closed.append_complete complete) complete.ends split'
      refine ⟨?_, text_closed⟩
      rw [List.nil_append, List.append_assoc, ← fragments_append, List.append_assoc, List.singleton_append,
        added, List.append_assoc] at sofar
      exact sofar

/-- **Chunks are the whole text**: when the decoder yields a chunk, the chunks so far are the text of the
tokens so far, and the chunk does not end with a replacement character. -/
theorem joined_eq_decode (fallback : t.rendering.HasByteFallback) {chunks before after : List (Option String)}
    {text : String} (steps : t.tokenizer.steps .fresh tokens = chunks.map .ok)
    (split : chunks = before ++ some text :: after) :
    (Turn.joined (before ++ [some text])).toList = t.decode (tokens.take (before.length + 1)) ∧
      endsOpen text.toList = false := by
  obtain ⟨texts, reads, rfl⟩ := t.holds_fresh.reads_of_steps fallback steps
  obtain ⟨before', rest, rfl, rfl, rest_eq⟩ := List.map_eq_append_iff.mp split
  obtain ⟨chunk, after', rfl, chunk_eq, rfl⟩ := List.map_eq_cons_iff.mp rest_eq
  obtain ⟨text', rfl, rfl⟩ := Option.map_eq_some_iff.mp chunk_eq
  have no_bytes : false = true ↔ lastRun [] [] ≠ [] := by simp [lastRun]
  obtain ⟨sofar, text_closed⟩ := reads.render_take closed_nil no_bytes rfl
  rw [decode_eq fallback, List.length_map, String.toList_ofList]
  refine ⟨?_, text_closed⟩
  have chunks_eq : before'.map (Option.map String.ofList) ++ [some (String.ofList text')] =
      (before' ++ [some text']).map (Option.map String.ofList) := by simp
  rw [chunks_eq, Turn.toList_joined]
  simpa using sofar.symm

end TrainedTokenizer

/-! ### What a turn writes -/

namespace Turn

variable {δ π : Type} {setup : TurnSetup δ π} {t t' : Turn δ π}

/-- From the last token of the prompt on, the chunks that the decoder yields are written: the first as it
is, and those of the answer without the blanks at its beginning. -/
theorem Receives.written (quiet : setup.verbosity = 0) {last : Event} {response : List Event}
    (h : Receives setup t (last :: response) t') (atLast : t.session.turnPos + 1 = t.session.promptSize)
    (untrimmed : t.trimPending = false) (notEnd : ∀ event ∈ last :: response, event.token ≠ setup.eos) :
    ∃ chunks : List (Option String),
      setup.tokenizer.steps t.decoder ((last :: response).map (·.token)) = chunks.map .ok ∧
        ∃ shown, LeavesOutBlanks (chunks.drop 1) shown ∧
          t'.console.out.written = t.console.out.written ++ Line.bytes (joined (chunks.take 1) ++ shown) := by
  rw [List.forall_mem_cons] at notEnd
  cases h with
  | @cons _ t₁ _ _ _ _ _ _ first rest =>
    obtain ⟨chunk, stepped, decoder, session, wrote, trim⟩ :=
      shown_event first (Nat.le_of_eq atLast.symm) notEnd.1
    have written := wrote.out
    rw [quiet, leadOf_zero, String.empty_append] at written
    have notFirst : t.trims = false := by
      rw [trims, untrimmed, Bool.false_or]
      refine decide_eq_false ?_
      show t.session.turnPos + 1 ≠ t.session.promptSize + 1
      omega
    have whole : shownOf false chunk = (chunk.getD "", false) := by
      cases chunk <;> rfl
    rw [notFirst, whole] at written trim
    have past : t₁.PastPrompt := by
      unfold PastPrompt
      rw [session]
      exact Nat.le_of_eq atLast.symm
    have trims₁ : t₁.trims = true := by
      rw [trims, trim, Bool.false_or]
      refine decide_eq_true ?_
      show t₁.session.turnPos + 1 = t₁.session.promptSize + 1
      rw [session]
      exact congrArg (· + 1) atLast
    obtain ⟨chunks, steps, written'⟩ := rest.answered quiet past notEnd.2
    rw [trims₁] at written'
    refine ⟨chunk :: chunks, ?_, shownText true chunks, leavesOutBlanks_shownText chunks, ?_⟩
    · rw [decoder] at steps
      rw [List.map_cons, Tokenizer.steps_cons, stepped, steps, List.map_cons]
    · rw [written', written, List.append_assoc, ← Line.bytes_append]
      simp

/-- A turn writes the chunks that the decoder yields for the last token of the prompt and those after it. -/
theorem Receives.written_in_turn (quiet : setup.verbosity = 0) {s : Session} {promptSize : Nat} {phase : Phase}
    {console : Console} {state : π} {events : List Event}
    (h : Receives setup (start setup (s.beginTurn promptSize) phase console state) events t')
    (nonempty : 0 < promptSize) (enough : promptSize ≤ events.length)
    (notEnd : ∀ event ∈ events.drop (promptSize - 1), event.token ≠ setup.eos) :
    ∃ chunks : List (Option String),
      setup.tokenizer.steps setup.tokenizer.fresh ((events.drop (promptSize - 1)).map (·.token)) =
          chunks.map .ok ∧
        ∃ shown, LeavesOutBlanks (chunks.drop 1) shown ∧
          t'.console.out.written = console.out.written ++ Line.bytes (joined (chunks.take 1) ++ shown) := by
  rw [← List.take_append_drop (promptSize - 1) events] at h
  obtain ⟨mid, echoed, answered⟩ := h.of_append
  have length : (events.take (promptSize - 1)).length = promptSize - 1 := by
    rw [List.length_take]
    omega
  obtain ⟨turnPos, size, decoder, out, trim, -⟩ := echoed.dotted (by
    rw [length]
    show 0 + (promptSize - 1) < promptSize
    omega)
  have atLast : mid.session.turnPos + 1 = mid.session.promptSize := by
    rw [turnPos, size, length]
    show 0 + (promptSize - 1) + 1 = promptSize
    omega
  obtain ⟨last, response, rest⟩ : ∃ last response, events.drop (promptSize - 1) = last :: response := by
    refine List.exists_cons_of_ne_nil fun none => ?_
    have := List.drop_eq_nil_iff.mp none
    omega
  rw [rest] at answered notEnd ⊢
  have written := answered.written quiet atLast trim notEnd
  rwa [decoder, out] at written

end Turn

/-- **Streaming agrees with decoding at once.** A turn receives events without an error, and from the last
token of the prompt on none of them is the end of a sequence. Whenever the decoder yields a chunk, the
chunks so far are the text of the tokens so far, and the chunk does not end with a replacement character.
At verbosity zero, what is written at any point after the prompt is the text of the chunks so far; only the
blanks at the beginning of the first chunk after the prompt's that has a text are left out. -/
theorem Turn.streams_whole_text {π : Type} {t : TrainedTokenizer} (fallback : t.rendering.HasByteFallback)
    {eos : Token} {verbosity : Nat} {policy : Policy π} {s : Session} {promptSize : Nat} {phase : Phase}
    {console : Console} {state : π} {events : List Event} {turn : Turn StreamDecoder π}
    (nonempty : 0 < promptSize)
    (received : Receives ⟨t.tokenizer, eos, verbosity, policy⟩
      (start ⟨t.tokenizer, eos, verbosity, policy⟩ (s.beginTurn promptSize) phase console state) events turn)
    (notEnd : ∀ event ∈ events.drop (promptSize - 1), event.token ≠ eos) :
    let tokens := (events.drop (promptSize - 1)).map (·.token)
    ∃ chunks : List (Option String), t.tokenizer.steps .fresh tokens = chunks.map .ok ∧
      (∀ before text after, chunks = before ++ some text :: after →
        (joined (before ++ [some text])).toList = t.decode (tokens.take (before.length + 1)) ∧
          endsOpen text.toList = false) ∧
      (verbosity = 0 → ∀ count, promptSize ≤ count → count ≤ events.length → ∀ turn',
        Receives ⟨t.tokenizer, eos, verbosity, policy⟩
          (start ⟨t.tokenizer, eos, verbosity, policy⟩ (s.beginTurn promptSize) phase console state)
          (events.take count) turn' →
        ∃ shown, LeavesOutBlanks ((chunks.take (count - (promptSize - 1))).drop 1) shown ∧
          turn'.console.out.written =
            console.out.written ++ Line.bytes (joined (chunks.take 1) ++ shown)) := by
  intro tokens
  obtain ⟨-, -, -, chunks, steps⟩ := received.steps
  have all : decoded eos (promptSize - 1) (events.map (·.token)) = tokens := by
    rw [decoded, ← List.map_drop, List.filter_eq_self, List.forall_mem_map]
    intro event mem
    simpa using notEnd event mem
  have steps : t.tokenizer.steps .fresh tokens = chunks.map .ok := by
    rw [← all]
    exact steps
  refine ⟨chunks, steps, fun before text after => TrainedTokenizer.joined_eq_decode fallback steps, ?_⟩
  intro quiet count enough within turn' received'
  have notEnd' : ∀ event ∈ (events.take count).drop (promptSize - 1), event.token ≠ eos := by
    rw [List.drop_take]
    exact fun event mem => notEnd event (List.mem_of_mem_take mem)
  have length : promptSize ≤ (events.take count).length := by
    rw [List.length_take]
    omega
  obtain ⟨chunks', steps', shown, leaves, written⟩ := received'.written_in_turn quiet nonempty length notEnd'
  rw [List.drop_take, List.map_take] at steps'
  have same : chunks' = chunks.take (count - (promptSize - 1)) := t.tokenizer.chunks_take steps steps'
  rw [same] at leaves written
  rw [List.take_take, Nat.min_eq_left (by omega)] at written
  exact ⟨shown, leaves, written⟩

namespace Turn

/-- A letter and a space as the prompt; then a space, the bytes of a character and a letter. -/
def euroEvents : List Event := [3, 4, 4, 0, 1, 2, 3].map .echo

/-- The turn after these events. -/
def euroStreamed : Turn StreamDecoder Unit :=
  ((Turn.sink euroSetup).feed euroEvents Rng.fixed (euro [3])).2.2

theorem euro_streams_whole_text :
    Vocabulary.euro.trained.rendering.HasByteFallback ∧
      Receives euroSetup (euro [3]) euroEvents euroStreamed ∧
      (∀ event ∈ euroEvents.drop 1, event.token ≠ 99) ∧
      ∃ chunks : List (Option String),
        Vocabulary.euro.trained.tokenizer.steps .fresh [4, 4, 0, 1, 2, 3] = chunks.map .ok ∧
        (∀ before text after, chunks = before ++ some text :: after →
          (joined (before ++ [some text])).toList =
              Vocabulary.euro.trained.decode ([4, 4, 0, 1, 2, 3].take (before.length + 1)) ∧
            endsOpen text.toList = false) ∧
        ∃ shown, LeavesOutBlanks (chunks.drop 1) shown ∧
          euroStreamed.console.out.written = Line.bytes (joined (chunks.take 1) ++ shown) := by
  have fallback : Vocabulary.euro.trained.rendering.HasByteFallback :=
    Rendering.hasByteFallback_byteFallback
  have received : Receives euroSetup (euro [3]) euroEvents euroStreamed :=
    receives_feed (by decide +kernel)
  have notEnd : ∀ event ∈ euroEvents.drop 1, event.token ≠ 99 := by decide
  obtain ⟨chunks, steps, texts, written⟩ := streams_whole_text fallback Nat.zero_lt_two received notEnd
  refine ⟨fallback, received, notEnd, chunks, steps, texts, ?_⟩
  obtain ⟨shown, leaves, written⟩ := written rfl 7 (by decide) (Nat.le_refl 7) euroStreamed received
  have count : chunks.length = 6 := by
    have length := congrArg List.length steps
    rw [List.length_map] at length
    exact length.symm
  rw [List.take_of_length_le (Nat.le_of_eq count)] at leaves
  exact ⟨shown, leaves, written⟩

end Turn

/-! ### Texts that are stripped -/

/-- A letter, the byte of a space, and a byte that is no character. -/
def Vocabulary.spaceByte : Vocabulary := ⟨["a", "<0x20>", "<0xE2>"], []⟩

/-- The tokenizer of that vocabulary, but for a space at the start of a text, which is taken off. -/
def TrainedTokenizer.stripped : TrainedTokenizer :=
  { Vocabulary.spaceByte.trained with
    rendering := some [.replace (.text [Rendering.spaceMark]) [' '], .byteFallback, .fuse, .strip ' ' 1 0] }

namespace Turn

/-- How turns with that tokenizer are set up. -/
def strippedSetup : TurnSetup StreamDecoder Unit := ⟨TrainedTokenizer.stripped.tokenizer, 99, 0, .always⟩

/-- A turn with that tokenizer, before a prompt of one token. -/
def strippedStart : Turn StreamDecoder Unit :=
  start strippedSetup ((Session.start false false).beginTurn 1) .awaitingInput (Console.fresh none none) ()

/-- A letter as the prompt; then a letter, a space, a byte that is no character, and a letter. -/
def strippedEvents : List Event := [0, 0, 1, 2, 0].map .echo

/-- The turn after these events. -/
def strippedStreamed : Turn StreamDecoder Unit :=
  ((Turn.sink strippedSetup).feed strippedEvents Rng.fixed strippedStart).2.2

/-- The space is written as soon as it is read. When the byte after it is, the decoder has forgotten all but the
space, and a text that begins with a space is stripped; decoded at once, the space and the byte are no text. -/
theorem stripped_not_streams_whole_text :
    .byteFallback ∈ TrainedTokenizer.stripped.rendering.getD [] ∧
      Receives strippedSetup strippedStart strippedEvents strippedStreamed ∧
      (∀ event ∈ strippedEvents, event.token ≠ 99) ∧
      ∃ chunks : List (Option String),
        TrainedTokenizer.stripped.tokenizer.steps .fresh [0, 0, 1, 2, 0] = chunks.map .ok ∧
        chunks.getLast? = some (some "\uFFFD\uFFFDa") ∧
        (joined chunks).toList ≠ TrainedTokenizer.stripped.decode [0, 0, 1, 2, 0] ∧
        strippedStreamed.console.out.written = Line.bytes "aa \uFFFD\uFFFDa" ∧
        TrainedTokenizer.stripped.decode [0, 0, 1, 2, 0] = "aa\uFFFD\uFFFDa".toList := by
  have received : Receives strippedSetup strippedStart strippedEvents strippedStreamed :=
    receives_feed (by decide +kernel)
  refine ⟨by decide, received, by decide, [some "a", some "a", some " ", none, some "\uFFFD\uFFFDa"], ?_, rfl, ?_⟩
  · decide +kernel
  · decide +kernel

end Turn

end PromptLoop
