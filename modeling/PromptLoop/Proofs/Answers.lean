import PromptLoop.Proofs.Counting
import PromptLoop.Proofs.Generating
import PromptLoop.Proofs.Utf8

/-!
# What a turn writes

A turn without errors writes the chunks of text that its decoder yields, and leaves out the blanks at the
beginning of the answer. Of the prompt only the last token is put into the decoder, and not even that if
it is the end of a sequence.
-/

namespace PromptLoop

theorem Line.bytes_append (a b : String) : bytes (a ++ b) = bytes a ++ bytes b := by
  rw [bytes_eq_utf8, bytes_eq_utf8, bytes_eq_utf8, String.toList_append, utf8_append]

namespace Turn

variable {δ π : Type} {setup : TurnSetup δ π} {t t' : Turn δ π} {rng rng' : Rng}

/-! ### The text of chunks -/

/-- The text that is shown of a chunk, and whether blanks are still to be left out after it. -/
def shownOf (trim : Bool) : Option String → String × Bool
  | none => ("", trim)
  | some text => if trim && !text.isEmpty then (trimLeading text, false) else (text, trim)

/-- The text that is shown of chunks, given whether blanks at its beginning are left out. -/
def shownText : Bool → List (Option String) → String
  | _, [] => ""
  | trim, chunk :: chunks => (shownOf trim chunk).1 ++ shownText (shownOf trim chunk).2 chunks

/-! ### One event -/

/-- A text is written to the output for answers, and nothing to the other. -/
structure Wrote (t : Turn δ π) (text : String) (t' : Turn δ π) : Prop where
  out : t'.console.out.written = t.console.out.written ++ Line.bytes text
  err : t'.console.err = t.console.err

theorem Wrote.none {t t' : Turn δ π} (same : t'.console = t.console) : t.Wrote "" t' :=
  ⟨(congrArg (·.out.written) same).trans (List.append_nil _).symm, congrArg (·.err) same⟩

theorem Wrote.trans {t t' t'' : Turn δ π} {a b : String} (h : t.Wrote a t') (h' : t'.Wrote b t'') :
    t.Wrote (a ++ b) t'' := by
  refine ⟨?_, h'.err.trans h.err⟩
  rw [h'.out, h.out, Line.bytes_append, List.append_assoc]

/-- The blank lines before a token, if it is the first of an answer. -/
def leadOf (verbosity : Nat) (s : Session) : String := if s.isFirstOfAnswer then answerLead verbosity else ""

@[simp] theorem leadOf_zero (s : Session) : leadOf 0 s = "" := by
  unfold leadOf
  split_ifs <;> rfl

theorem print_ok {text : String} (h : t.print text = (.ok (), t')) :
    t' = { t with console := t'.console } ∧ t.Wrote text t' := by
  obtain ⟨result, rfl⟩ := Prod.mk.inj h
  exact ⟨rfl, (Writer.writeBytes_eq_ok_iff _ _).mp result, rfl⟩

/-- An event that is received well has been shown, and nothing else is shown for it. -/
theorem receive_ok {event : Event} {goOn : Bool} (h : t.receive setup event rng = (.ok goOn, rng', t')) :
    ∃ shown : Turn δ π, t.count.display setup event rng = (.ok (), rng', shown) ∧
      t'.session = shown.session ∧ t'.console = shown.console ∧ t'.decoder = shown.decoder ∧
      t'.trimPending = shown.trimPending := by
  unfold receive at h
  rcases hd : t.count.display setup event rng with ⟨error | ⟨⟩, rng₁, shown⟩ <;> rw [hd] at h
  · cases h
  · cases h
    exact ⟨shown, rfl, rfl, rfl, rfl, rfl⟩

theorem openAnswer_ok (h : t.openAnswer setup = (.ok (), t')) :
    t'.session = t.session ∧ t'.decoder = t.decoder ∧ t.Wrote (leadOf setup.verbosity t.session) t' ∧
      t'.trimPending = (t.trimPending || t.session.isFirstOfAnswer) := by
  unfold openAnswer at h
  split_ifs at h with first
  · obtain ⟨same, wrote⟩ := print_ok h
    rw [leadOf, if_pos first, first, Bool.or_true]
    exact ⟨congrArg (·.session) same, congrArg (·.decoder) same, ⟨wrote.out, wrote.err⟩,
      congrArg (·.trimPending) same⟩
  · cases h
    rw [leadOf, if_neg first, Bool.eq_false_iff.mpr first, Bool.or_false]
    exact ⟨rfl, rfl, .none rfl, rfl⟩

theorem showText_ok {text : String} (h : t.showText text = (.ok (), t')) :
    t'.session = t.session ∧ t'.decoder = t.decoder ∧ t.Wrote (shownOf t.trimPending (some text)).1 t' ∧
      t'.trimPending = (shownOf t.trimPending (some text)).2 := by
  unfold showText at h
  split_ifs at h with trims
  · rw [show shownOf t.trimPending (some text) = (trimLeading text, false) from if_pos trims]
    obtain ⟨same, wrote⟩ := print_ok h
    exact ⟨congrArg (·.session) same, congrArg (·.decoder) same, ⟨wrote.out, wrote.err⟩,
      congrArg (·.trimPending) same⟩
  · rw [show shownOf t.trimPending (some text) = (text, t.trimPending) from if_neg trims]
    obtain ⟨same, wrote⟩ := print_ok h
    exact ⟨congrArg (·.session) same, congrArg (·.decoder) same, wrote, congrArg (·.trimPending) same⟩

/-- A token that is shown without an error: its chunk is written. -/
theorem showToken_ok {token : Token} (h : t.showToken setup token = (.ok (), t')) :
    ∃ chunk, (setup.tokenizer.step t.decoder token).1 = .ok chunk ∧
      t'.session = t.session ∧ t'.decoder = (setup.tokenizer.step t.decoder token).2 ∧
      t.Wrote (leadOf setup.verbosity t.session ++
        (shownOf (t.trimPending || t.session.isFirstOfAnswer) chunk).1) t' ∧
      t'.trimPending = (shownOf (t.trimPending || t.session.isFirstOfAnswer) chunk).2 := by
  unfold showToken at h
  rcases ho : t.openAnswer setup with ⟨error | ⟨⟩, t₁⟩ <;> rw [ho] at h
  · cases h
  obtain ⟨session, decoder, wrote, trim⟩ := openAnswer_ok ho
  dsimp only at h
  rw [decoder] at h
  rcases hs : setup.tokenizer.step t.decoder token with ⟨error | _ | text, after⟩ <;> rw [hs] at h
  · cases h
  · cases h
    exact ⟨none, rfl, session, rfl, wrote.trans (.none rfl), trim⟩
  · obtain ⟨session', decoder', wrote', trim'⟩ := showText_ok h
    rw [show Turn.trimPending { t₁ with decoder := after } = t₁.trimPending from rfl, trim] at wrote' trim'
    exact ⟨some text, rfl, session'.trans session, decoder', wrote.trans ⟨wrote'.out, wrote'.err⟩, trim'⟩

/-! ### Events one after the other -/

/-- Events are received one after the other without an error, whatever the random streams are. -/
inductive Receives (setup : TurnSetup δ π) : Turn δ π → List Event → Turn δ π → Prop
  | nil {t : Turn δ π} : Receives setup t [] t
  | cons {t t₁ t₂ : Turn δ π} {event : Event} {events : List Event} {goOn : Bool} {rng rng₁ : Rng}
      (first : t.receive setup event rng = (.ok goOn, rng₁, t₁)) (rest : Receives setup t₁ events t₂) :
      Receives setup t (event :: events) t₂

theorem receives_of_feed {events : List Event}
    (h : (Turn.sink setup).feed events rng t = (.ok (), rng', t')) : Receives setup t events t' := by
  induction events generalizing t rng with
  | nil =>
    cases h
    exact .nil
  | cons event events ih =>
    rw [Sink.feed] at h
    rcases hr : (Turn.sink setup).receive event rng t with ⟨error | goOn, rng₁, t₁⟩ <;> rw [hr] at h
    · cases h
    · exact .cons hr (ih h)

theorem receives_feed {events : List Event} (h : ((Turn.sink setup).feed events rng t).1 = .ok ()) :
    Receives setup t events ((Turn.sink setup).feed events rng t).2.2 :=
  receives_of_feed (Prod.ext h rfl)

theorem Receives.append {t'' : Turn δ π} {events more : List Event} (h : Receives setup t events t')
    (h' : Receives setup t' more t'') : Receives setup t (events ++ more) t'' := by
  induction h with
  | nil => exact h'
  | cons first _ ih => exact .cons first (ih h')

theorem Receives.of_append {t'' : Turn δ π} {events more : List Event} (h : Receives setup t (events ++ more) t'') :
    ∃ t', Receives setup t events t' ∧ Receives setup t' more t'' := by
  induction events generalizing t with
  | nil => exact ⟨t, .nil, h⟩
  | cons event events ih =>
    cases h with
    | cons first rest =>
      obtain ⟨t', before, after⟩ := ih rest
      exact ⟨t', .cons first before, after⟩

/-! ### The answer -/

/-- The prompt has been counted. -/
def PastPrompt (t : Turn δ π) : Prop := t.session.promptSize ≤ t.session.turnPos

/-- Whether blanks are left out of the next text of the answer. -/
def trims (t : Turn δ π) : Bool := t.trimPending || t.count.session.isFirstOfAnswer

/-- From the last token of the prompt on, the chunk that a token completes is written. -/
theorem shown_event {event : Event} {goOn : Bool} (h : t.receive setup event rng = (.ok goOn, rng', t'))
    (last : t.session.promptSize ≤ t.session.turnPos + 1) (notEnd : event.token ≠ setup.eos) :
    ∃ chunk, (setup.tokenizer.step t.decoder event.token).1 = .ok chunk ∧
      t'.decoder = (setup.tokenizer.step t.decoder event.token).2 ∧ t'.session = t.session.advance ∧
      t.Wrote (leadOf setup.verbosity t.session.advance ++ (shownOf t.trims chunk).1) t' ∧
      t'.trimPending = (shownOf t.trims chunk).2 := by
  obtain ⟨shown, displayed, session, console, decoder, trim⟩ := receive_ok h
  have answering : t.count.session.inPrefill = false := decide_eq_false (Nat.not_lt.mpr last)
  unfold display at displayed
  rw [if_neg (by rw [answering]; exact Bool.false_ne_true), if_neg notEnd] at displayed
  obtain ⟨result, displayed⟩ := Prod.mk.inj displayed
  obtain ⟨-, displayed⟩ := Prod.mk.inj displayed
  obtain ⟨chunk, stepped, session', decoder', wrote, trim'⟩ := showToken_ok (Prod.ext result displayed)
  refine ⟨chunk, stepped, decoder.trans decoder', session.trans session', ⟨?_, ?_⟩, trim.trans trim'⟩
  · rw [console]
    exact wrote.out
  · rw [console]
    exact wrote.err

/-- From the last token of the prompt on, a mark is written for the end of a sequence. -/
theorem ended_event {event : Event} {goOn : Bool} (h : t.receive setup event rng = (.ok goOn, rng', t'))
    (last : t.session.promptSize ≤ t.session.turnPos + 1) (is_end : event.token = setup.eos) :
    t'.decoder = t.decoder ∧ t.Wrote (endMark setup.verbosity) t' ∧ t'.trimPending = t.trimPending := by
  obtain ⟨shown, displayed, -, console, decoder, trim⟩ := receive_ok h
  have answering : t.count.session.inPrefill = false := decide_eq_false (Nat.not_lt.mpr last)
  unfold display at displayed
  rw [if_neg (by rw [answering]; exact Bool.false_ne_true), if_pos is_end] at displayed
  obtain ⟨result, displayed⟩ := Prod.mk.inj displayed
  obtain ⟨-, displayed⟩ := Prod.mk.inj displayed
  obtain ⟨same, wrote⟩ := print_ok (Prod.ext result displayed)
  refine ⟨decoder.trans (congrArg (·.decoder) same), ⟨?_, ?_⟩, trim.trans (congrArg (·.trimPending) same)⟩
  · rw [console]
    exact wrote.out
  · rw [console]
    exact wrote.err

/-- Past the prompt the next token but one is not the first of the answer. -/
theorem PastPrompt.later (past : t.PastPrompt) (session : t'.session.turnPos = t.session.turnPos + 1)
    (size : t'.session.promptSize = t.session.promptSize) : t'.session.advance.isFirstOfAnswer = false := by
  have past : t.session.promptSize ≤ t.session.turnPos := past
  refine decide_eq_false ?_
  rw [Session.turnPos_advance, Session.promptSize_advance, session, size]
  omega

theorem answered_event {event : Event} {goOn : Bool} (h : t.receive setup event rng = (.ok goOn, rng', t'))
    (past : t.PastPrompt) (notEnd : event.token ≠ setup.eos) :
    ∃ chunk, (setup.tokenizer.step t.decoder event.token).1 = .ok chunk ∧
      t'.decoder = (setup.tokenizer.step t.decoder event.token).2 ∧ t'.PastPrompt ∧
      t.Wrote (leadOf setup.verbosity t.session.advance ++ (shownOf t.trims chunk).1) t' ∧
      t'.trims = (shownOf t.trims chunk).2 := by
  have past' : t.session.promptSize ≤ t.session.turnPos := past
  obtain ⟨chunk, stepped, decoder, session, wrote, trim⟩ := shown_event h (Nat.le_succ_of_le past') notEnd
  have later : t'.count.session.isFirstOfAnswer = false :=
    past.later (by rw [session]; rfl) (by rw [session]; rfl)
  refine ⟨chunk, stepped, decoder, ?_, wrote, ?_⟩
  · unfold PastPrompt
    rw [session]
    exact Nat.le_succ_of_le past'
  · rw [trims, later, Bool.or_false, trim]

/-- **What the answer writes**: the text of the chunks that the decoder yields. -/
theorem Receives.answered (quiet : setup.verbosity = 0) {events : List Event}
    (h : Receives setup t events t') (past : t.PastPrompt)
    (notEnd : ∀ event ∈ events, event.token ≠ setup.eos) :
    ∃ chunks, setup.tokenizer.steps t.decoder (events.map (·.token)) = chunks.map .ok ∧
      t'.console.out.written = t.console.out.written ++ Line.bytes (shownText t.trims chunks) := by
  induction h with
  | nil => exact ⟨[], rfl, (List.append_nil _).symm⟩
  | cons first _ ih =>
    rw [List.forall_mem_cons] at notEnd
    obtain ⟨chunk, stepped, decoder, past₁, wrote, trims⟩ := answered_event first past notEnd.1
    have written := wrote.out
    rw [quiet, leadOf_zero, String.empty_append] at written
    obtain ⟨chunks, steps, rest⟩ := ih past₁ notEnd.2
    refine ⟨chunk :: chunks, ?_, ?_⟩
    · rw [decoder] at steps
      show (setup.tokenizer.step _ _).1 :: setup.tokenizer.steps (setup.tokenizer.step _ _).2 _ = _
      rw [stepped, steps]
      rfl
    · rw [rest, written, trims, shownText, Line.bytes_append, List.append_assoc]

/-! ### The prompt -/

/-- A token of the prompt but the last only counts, and shows as a dot. -/
theorem echoed_event {event : Event} {goOn : Bool}
    (h : t.receive setup event rng = (.ok goOn, rng', t'))
    (more : t.session.turnPos + 1 < t.session.promptSize) :
    t'.session = t.session.advance ∧ t'.decoder = t.decoder ∧
      t'.console.out = t.console.out ∧ t'.trimPending = t.trimPending ∧
      t'.console.err.written = t.console.err.written ++ Line.bytes "." := by
  obtain ⟨shown, displayed, session, console, decoder, trim⟩ := receive_ok h
  have reading : t.count.session.inPrefill = true := decide_eq_true more
  unfold display at displayed
  rw [if_pos reading] at displayed
  obtain ⟨result, displayed⟩ := Prod.mk.inj displayed
  obtain rfl := (Prod.mk.inj displayed).2
  refine ⟨session, decoder, congrArg (·.out) console, trim, ?_⟩
  rw [console]
  exact (Writer.writeBytes_eq_ok_iff _ _).mp result

/-- A dot of progress for each of some tokens. -/
def dots (count : Nat) : String := String.ofList (List.replicate count '.')

theorem dots_succ (count : Nat) : dots (count + 1) = "." ++ dots count := by
  rw [dots, List.replicate_succ, String.ofList_cons]
  rfl

/-- **The tokens of a prompt but the last** show as dots, and as nothing else. -/
theorem Receives.dotted {events : List Event} (h : Receives setup t events t')
    (more : t.session.turnPos + events.length < t.session.promptSize) :
    t'.session.turnPos = t.session.turnPos + events.length ∧
      t'.session.promptSize = t.session.promptSize ∧ t'.decoder = t.decoder ∧
      t'.console.out = t.console.out ∧ t'.trimPending = t.trimPending ∧
      t'.console.err.written = t.console.err.written ++ Line.bytes (dots events.length) := by
  induction h with
  | nil => exact ⟨rfl, rfl, rfl, rfl, rfl, (List.append_nil _).symm⟩
  | cons first _ ih =>
    rw [List.length_cons] at more
    obtain ⟨session, decoder, out, trim, err⟩ := echoed_event first (by omega)
    rw [session, decoder, out, trim, err, Session.turnPos_advance, Session.promptSize_advance] at ih
    obtain ⟨turnPos, size, same, written, trims, dotted⟩ := ih (by omega)
    refine ⟨?_, size, same, written, trims, ?_⟩
    · rw [turnPos, List.length_cons]
      omega
    · rw [dotted, List.length_cons, dots_succ, Line.bytes_append, List.append_assoc]

/-- The last token of the prompt is put into the decoder, unless it is the end of a sequence. -/
theorem echoed_last {event : Event} {goOn : Bool} (h : t.receive setup event rng = (.ok goOn, rng', t'))
    (last : t.session.turnPos + 1 = t.session.promptSize) :
    t'.session.turnPos = t'.session.promptSize ∧
      (event.token = setup.eos → t'.decoder = t.decoder) ∧
      (event.token ≠ setup.eos → t'.decoder = (setup.tokenizer.step t.decoder event.token).2 ∧
        ∃ chunk, (setup.tokenizer.step t.decoder event.token).1 = .ok chunk) := by
  have received := receive_received h
  refine ⟨?_, fun is_end => (ended_event h (Nat.le_of_eq last.symm) is_end).1, fun notEnd => ?_⟩
  · rw [received.session, Session.turnPos_after, Session.promptSize_after, last]
  · obtain ⟨chunk, stepped, decoder, -⟩ := shown_event h (Nat.le_of_eq last.symm) notEnd
    exact ⟨decoder, chunk, stepped⟩

/-- **What a prompt leaves in the decoder.** -/
theorem Receives.echoed {prompt : List Token} {last : Token}
    (h : Receives setup t ((prompt ++ [last]).map .echo) t')
    (size : t.session.turnPos + (prompt.length + 1) = t.session.promptSize) :
    t'.session.turnPos = t'.session.promptSize ∧
      (last = setup.eos → t'.decoder = t.decoder) ∧
      (last ≠ setup.eos → t'.decoder = (setup.tokenizer.step t.decoder last).2 ∧
        ∃ chunk, (setup.tokenizer.step t.decoder last).1 = .ok chunk) := by
  induction prompt generalizing t with
  | nil =>
    cases h with
    | cons first rest =>
      cases rest
      exact echoed_last first size
  | cons token prompt ih =>
    rw [List.length_cons] at size
    cases h with
    | cons first rest =>
      obtain ⟨session, decoder, -, -⟩ := echoed_event first (by omega)
      rw [← decoder]
      refine ih rest ?_
      rw [session, Session.turnPos_advance, Session.promptSize_advance]
      omega

end Turn

end PromptLoop
