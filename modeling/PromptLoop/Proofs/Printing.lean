import Mathlib.Data.List.Basic
import PromptLoop.Proofs.Answers
import PromptLoop.Tokenizer.Pieces

/-!
# What one turn prints

From the last token of the prompt on, every token is a piece of what is printed: the end of a sequence, or
the text that a decoder yields for it, which may be empty (`Piece.ofTokens`). What is printed is a matter of
these pieces alone (`Piece.wholeTurn`). The first piece is printed as it is. If the answer begins with a text,
blank lines come before it, and the first text of it that is not empty loses the blanks at its beginning.

The decoder does not hear of the ends of sequences, and the tokens of the prompt before its last show as dots
of progress (`Turn.prints`).
-/

namespace PromptLoop

variable {δ π : Type}

/-! ### Pieces -/

/-- What a token comes to. -/
inductive Piece where
  /-- A text, which may be empty. -/
  | shown (text : String)
  /-- The end of a sequence. -/
  | ending
  deriving DecidableEq, Repr

namespace Piece

/-- The pieces of tokens, given what a decoder yields for those that do not end a sequence. If it yields no
text for a token, the text is empty. -/
def ofTokens (eos : Token) : List Token → List (Option String) → List Piece
  | [], _ => []
  | token :: tokens, chunks =>
    if token = eos then ending :: ofTokens eos tokens chunks
    else shown (chunks.head?.join.getD "") :: ofTokens eos tokens chunks.tail

/-- What is printed for a piece. -/
def printed (verbosity : Nat) : Piece → String
  | shown text => text
  | ending => Turn.endMark verbosity

/-- What is printed for pieces, one after the other. -/
def printedAll (verbosity : Nat) : List Piece → String
  | [] => ""
  | piece :: pieces => piece.printed verbosity ++ printedAll verbosity pieces

/-- Pieces without the blanks at the beginning of the first text that is not empty. -/
def trimFirst : List Piece → List Piece
  | [] => []
  | ending :: pieces => ending :: trimFirst pieces
  | shown text :: pieces =>
    if text = "" then shown text :: trimFirst pieces else shown (Turn.trimLeading text) :: pieces

/-- What is printed for the pieces after the prompt. -/
def wholeAnswer (verbosity : Nat) : List Piece → String
  | [] => ""
  | ending :: pieces => printedAll verbosity (ending :: pieces)
  | shown text :: pieces => Turn.answerLead verbosity ++ printedAll verbosity (trimFirst (shown text :: pieces))

/-- What is printed for the piece of the last token of a prompt and those after it. -/
def wholeTurn (verbosity : Nat) : List Piece → String
  | [] => ""
  | last :: answer => last.printed verbosity ++ wholeAnswer verbosity answer

/-- Pieces while blanks are still to be left out, or not any more. -/
def trimmed (trim : Bool) (pieces : List Piece) : List Piece := if trim then trimFirst pieces else pieces

theorem trimmed_ending (trim : Bool) (pieces : List Piece) :
    trimmed trim (ending :: pieces) = ending :: trimmed trim pieces := by
  cases trim <;> rfl

/-- The text that is shown of a chunk is its piece. -/
theorem printedAll_trimmed (verbosity : Nat) (trim : Bool) (chunk : Option String) (pieces : List Piece) :
    printedAll verbosity (trimmed trim (shown (chunk.getD "") :: pieces)) =
      (Turn.shownOf trim chunk).1 ++ printedAll verbosity (trimmed (Turn.shownOf trim chunk).2 pieces) := by
  cases trim with
  | false => cases chunk <;> rfl
  | true =>
    rcases chunk with _ | text
    · rfl
    · by_cases empty : text = ""
      · subst empty
        rfl
      · have trims : Turn.shownOf true (some text) = (Turn.trimLeading text, false) := by
          simp [Turn.shownOf, empty]
        rw [trims, trimmed, if_pos rfl, Option.getD_some, trimFirst, if_neg empty]
        rfl

variable {eos token : Token}

theorem ofTokens_ending (tokens : List Token) (chunks : List (Option String)) :
    ofTokens eos (eos :: tokens) chunks = ending :: ofTokens eos tokens chunks := if_pos rfl

theorem ofTokens_shown (notEnd : token ≠ eos) (tokens : List Token) (chunk : Option String)
    (chunks : List (Option String)) :
    ofTokens eos (token :: tokens) (chunk :: chunks) = shown (chunk.getD "") :: ofTokens eos tokens chunks :=
  if_neg notEnd

end Piece

namespace Turn

open Piece

variable {setup : TurnSetup δ π} {t t' : Turn δ π} {rng rng' : Rng}

/-! ### Pieces of an answer -/

/-- What events that are received well come to: a decoder yields a chunk for each token that does not end a
sequence, and a text is written that depends on the pieces. -/
def Shows (setup : TurnSetup δ π) (t : Turn δ π) (events : List Event) (text : List Piece → String)
    (t' : Turn δ π) : Prop :=
  ∃ chunks : List (Option String),
    setup.tokenizer.steps t.decoder ((events.map (·.token)).filter (· != setup.eos)) = chunks.map .ok ∧
      t.Wrote (text (ofTokens setup.eos (events.map (·.token)) chunks)) t'

/-- One more piece at the beginning is the end of a sequence. -/
theorem Shows.ending {t₁ : Turn δ π} {event : Event} {events : List Event} {text text' : List Piece → String}
    (is_end : event.token = setup.eos) (decoder : t₁.decoder = t.decoder)
    (wrote : t.Wrote (endMark setup.verbosity) t₁) (rest : Shows setup t₁ events text t')
    (same : ∀ pieces, text' (.ending :: pieces) = endMark setup.verbosity ++ text pieces) :
    Shows setup t (event :: events) text' t' := by
  obtain ⟨chunks, steps, wrote'⟩ := rest
  refine ⟨chunks, ?_, ?_⟩
  · rw [List.map_cons, is_end, List.filter_cons_of_neg (by simp), ← decoder]
    exact steps
  · rw [List.map_cons, is_end, ofTokens_ending, same]
    exact wrote.trans wrote'

/-- One more piece at the beginning is a text. -/
theorem Shows.shown {t₁ : Turn δ π} {event : Event} {events : List Event} {text text' : List Piece → String}
    {chunk : Option String} {written : String} (notEnd : event.token ≠ setup.eos)
    (stepped : (setup.tokenizer.step t.decoder event.token).1 = .ok chunk)
    (decoder : t₁.decoder = (setup.tokenizer.step t.decoder event.token).2) (wrote : t.Wrote written t₁)
    (rest : Shows setup t₁ events text t')
    (same : ∀ pieces, text' (.shown (chunk.getD "") :: pieces) = written ++ text pieces) :
    Shows setup t (event :: events) text' t' := by
  obtain ⟨chunks, steps, wrote'⟩ := rest
  refine ⟨chunk :: chunks, ?_, ?_⟩
  · rw [decoder] at steps
    rw [List.map_cons, List.filter_cons_of_pos (by simpa using notEnd)]
    show (setup.tokenizer.step _ _).1 :: setup.tokenizer.steps (setup.tokenizer.step _ _).2 _ = _
    rw [stepped, steps]
    rfl
  · rw [List.map_cons, ofTokens_shown notEnd, same]
    exact wrote.trans wrote'

/-- After the first token of the answer the pieces are printed, without the blanks that are still to be left
out. -/
theorem Receives.shows_later {events : List Event} (h : Receives setup t events t')
    (later : t.session.promptSize < t.session.turnPos) :
    Shows setup t events (fun pieces => printedAll setup.verbosity (trimmed t.trimPending pieces)) t' := by
  induction h with
  | @nil t =>
    refine ⟨[], rfl, ?_⟩
    have nothing : printedAll setup.verbosity (trimmed t.trimPending []) = "" := by
      cases t.trimPending <;> rfl
    show t.Wrote (printedAll setup.verbosity (trimmed t.trimPending [])) t
    rw [nothing]
    exact .none rfl
  | @cons t t₁ t₂ event events goOn rng rng₁ first rest ih =>
    have received := receive_received first
    have later₁ : t₁.session.promptSize < t₁.session.turnPos := by
      rw [received.session, Session.promptSize_after, Session.turnPos_after]
      omega
    by_cases is_end : event.token = setup.eos
    · obtain ⟨decoder, wrote, trim⟩ := ended_event first (by omega) is_end
      refine .ending is_end decoder wrote (ih later₁) fun pieces => ?_
      rw [trim, trimmed_ending]
      rfl
    · obtain ⟨chunk, stepped, decoder, -, wrote, trim⟩ := shown_event first (by omega) is_end
      have notFirst : t.session.advance.isFirstOfAnswer = false := by
        refine decide_eq_false ?_
        rw [Session.turnPos_advance, Session.promptSize_advance]
        omega
      have trims : t.trims = t.trimPending := by
        rw [Turn.trims, show t.count.session = t.session.advance from rfl, notFirst, Bool.or_false]
      rw [trims] at wrote trim
      rw [leadOf, notFirst, if_neg Bool.false_ne_true, String.empty_append] at wrote
      refine .shown is_end stepped decoder wrote (ih later₁) fun pieces => ?_
      rw [trim]
      exact printedAll_trimmed _ _ _ _

/-- What the answer prints. -/
theorem Receives.shows_answer {events : List Event} (h : Receives setup t events t')
    (begins : t.session.turnPos = t.session.promptSize) (untrimmed : t.trimPending = false) :
    Shows setup t events (wholeAnswer setup.verbosity) t' := by
  cases h with
  | nil => exact ⟨[], rfl, .none rfl⟩
  | @cons _ t₁ _ event events _ _ _ first rest =>
    have received := receive_received first
    have later : t₁.session.promptSize < t₁.session.turnPos := by
      rw [received.session, Session.promptSize_after, Session.turnPos_after]
      omega
    by_cases is_end : event.token = setup.eos
    · obtain ⟨decoder, wrote, trim⟩ := ended_event first (by omega) is_end
      refine .ending is_end decoder wrote (rest.shows_later later) fun pieces => ?_
      rw [trim, untrimmed]
      rfl
    · obtain ⟨chunk, stepped, decoder, -, wrote, trim⟩ := shown_event first (by omega) is_end
      have isFirst : t.session.advance.isFirstOfAnswer = true := by
        refine decide_eq_true ?_
        rw [Session.turnPos_advance, Session.promptSize_advance, begins]
      have trims : t.trims = true := by
        rw [Turn.trims, show t.count.session = t.session.advance from rfl, isFirst, Bool.or_true]
      rw [trims] at wrote trim
      rw [leadOf, if_pos isFirst] at wrote
      refine .shown is_end stepped decoder wrote (rest.shows_later later) fun pieces => ?_
      rw [trim, String.append_assoc, ← printedAll_trimmed]
      rfl

/-- What the last token of the prompt and the answer print. -/
theorem Receives.shows_turn {events : List Event} (h : Receives setup t events t')
    (atLast : events ≠ [] → t.session.turnPos + 1 = t.session.promptSize) (untrimmed : t.trimPending = false) :
    Shows setup t events (wholeTurn setup.verbosity) t' := by
  cases h with
  | nil => exact ⟨[], rfl, .none rfl⟩
  | @cons _ t₁ _ event events _ _ _ first rest =>
    have atLast := atLast (List.cons_ne_nil _ _)
    have received := receive_received first
    have begins : t₁.session.turnPos = t₁.session.promptSize := by
      rw [received.session, Session.promptSize_after, Session.turnPos_after]
      exact atLast
    by_cases is_end : event.token = setup.eos
    · obtain ⟨decoder, wrote, trim⟩ := ended_event first (Nat.le_of_eq atLast.symm) is_end
      exact .ending is_end decoder wrote (rest.shows_answer begins (trim.trans untrimmed)) fun _ => rfl
    · obtain ⟨chunk, stepped, decoder, -, wrote, trim⟩ :=
        shown_event first (Nat.le_of_eq atLast.symm) is_end
      have notFirst : t.session.advance.isFirstOfAnswer = false := by
        refine decide_eq_false ?_
        rw [Session.turnPos_advance, Session.promptSize_advance]
        omega
      have trims : t.trims = false := by
        rw [Turn.trims, show t.count.session = t.session.advance from rfl, notFirst, untrimmed, Bool.or_false]
      have whole : shownOf false chunk = (chunk.getD "", false) := by
        cases chunk <;> rfl
      rw [trims, whole] at wrote trim
      rw [leadOf, notFirst, if_neg Bool.false_ne_true, String.empty_append] at wrote
      exact .shown is_end stepped decoder wrote (rest.shows_answer begins trim) fun _ => rfl

/-! ### Turns -/

/-- **What one turn prints**, if nothing fails: a dot for each token of the prompt before the last, and
nothing else, to the output for progress; and the pieces from the last token of the prompt on to the other.
The chunks are what a new decoder yields for the tokens from the last of the prompt on that do not end a
sequence. -/
theorem prints {s : Session} {promptSize : Nat} {phase : Phase} {console : Console} {state : π}
    {events : List Event} (nonempty : 0 < promptSize)
    (received : Receives setup (start setup (s.beginTurn promptSize) phase console state) events t') :
    let tokens := (events.map (·.token)).drop (promptSize - 1)
    ∃ chunks : List (Option String),
      setup.tokenizer.steps setup.tokenizer.fresh (tokens.filter (· != setup.eos)) = chunks.map .ok ∧
      t'.console.err.written =
        console.err.written ++ Line.bytes (dots (min events.length (promptSize - 1))) ∧
      t'.console.out.written =
        console.out.written ++
          Line.bytes (wholeTurn setup.verbosity (ofTokens setup.eos tokens chunks)) := by
  intro tokens
  rw [← List.take_append_drop (promptSize - 1) events] at received
  obtain ⟨mid, echoed, answered⟩ := received.of_append
  have length : (events.take (promptSize - 1)).length = min events.length (promptSize - 1) := by
    rw [List.length_take, Nat.min_comm]
  obtain ⟨turnPos, size, decoder, out, trim, dotted⟩ := echoed.dotted (by
    rw [length]
    show 0 + min events.length (promptSize - 1) < promptSize
    omega)
  have atLast : events.drop (promptSize - 1) ≠ [] → mid.session.turnPos + 1 = mid.session.promptSize := by
    intro more
    have enough : promptSize - 1 < events.length :=
      Nat.not_le.mp fun few => more (List.drop_eq_nil_iff.mpr few)
    rw [turnPos, size, length]
    show 0 + min events.length (promptSize - 1) + 1 = promptSize
    omega
  obtain ⟨chunks, steps, wrote⟩ := answered.shows_turn atLast trim
  rw [decoder, List.map_drop] at steps
  rw [List.map_drop] at wrote
  refine ⟨chunks, steps, ?_, ?_⟩
  · rw [wrote.err, dotted, length]
    rfl
  · rw [wrote.out, out]
    rfl

/-- Characters, and three more tokens: a blank, a word after a blank, and one that never completes a text. The
end of a sequence is token one, and everything is printed. -/
def wordySetup : TurnSetup Unit Unit :=
  ⟨PieceList.tokenizer [(300, some " "), (301, some " Hi"), (302, none)], 1, 2, .always⟩

/-- A turn with a prompt of three tokens. -/
def wordy : Turn Unit Unit :=
  start wordySetup ((Session.start true false).beginTurn 3) .prefilling (.fresh none none) ()

/-- The prompt is three letters. The answer begins with nothing and then a blank, and ends twice. -/
def wordyEvents : List Event := [104, 105, 106, 302, 300, 301, 1, 301, 1].map .echo

/-- The blank is left out, and so is nothing else. -/
theorem wordy_prints :
    let after := ((Turn.sink wordySetup).feed wordyEvents Rng.fixed wordy).2.2
    Receives wordySetup wordy wordyEvents after ∧
      after.console.err.written = Line.bytes ".." ∧
      after.console.out.written = Line.bytes "j\n\n Hi\n[ End ]\n Hi\n[ End ]\n" ∧
      ∃ chunks : List (Option String),
        wordySetup.tokenizer.steps () [106, 302, 300, 301, 301] = chunks.map .ok ∧
        after.console.err.written = Line.bytes (dots 2) ∧
        after.console.out.written =
          Line.bytes (wholeTurn 2 (ofTokens 1 [106, 302, 300, 301, 1, 301, 1] chunks)) := by
  intro after
  have received : Receives wordySetup wordy wordyEvents after := receives_feed (by decide +kernel)
  refine ⟨received, by decide +kernel, by decide +kernel, ?_⟩
  exact prints (Nat.succ_pos 2) received

end Turn

end PromptLoop
