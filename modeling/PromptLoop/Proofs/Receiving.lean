import Mathlib.Data.List.Basic
import PromptLoop.Proofs.Answers
import PromptLoop.Proofs.EngineTurns

/-!
# What an event does to the decoder

The tokens of a prompt but the last and the ends of sequences are passed over; every other token is put
into the decoder, whatever is printed and however much (`Turn.receive_reception`). So receiving events is
stepping a decoder through some of their tokens, those in `decoded`, and a turn whose outputs have no limit
fails exactly where the decoder does.
-/

namespace PromptLoop

/-! ### Outputs without a limit -/

namespace Console

/-- Neither output has a limit. -/
def Works (k : Console) : Prop := k.out.capacity = none ∧ k.err.capacity = none

theorem works_fresh : (fresh none none).Works := ⟨rfl, rfl⟩

variable {k : Console}

theorem Works.answer (h : k.Works) (text : String) :
    (k.answer text).1 = .ok () ∧ (k.answer text).2.Works := by
  obtain ⟨⟨written, capacity⟩, err⟩ := k
  obtain ⟨none, err_none⟩ := h
  cases none
  exact ⟨rfl, rfl, err_none⟩

theorem Works.note (h : k.Works) (text : String) :
    (k.note text).1 = .ok () ∧ (k.note text).2.Works := by
  obtain ⟨out, ⟨written, capacity⟩⟩ := k
  obtain ⟨out_none, none⟩ := h
  cases none
  exact ⟨rfl, out_none, rfl⟩

end Console

/-! ### Steps of a decoder -/

namespace Tokenizer

variable {δ : Type} (t : Tokenizer δ)

/-- The state after some tokens. -/
def after (state : δ) (tokens : List Token) : δ := tokens.foldl (fun state token => (t.step state token).2) state

theorem steps_cons (state : δ) (token : Token) (tokens : List Token) :
    t.steps state (token :: tokens) =
      (t.step state token).1 :: t.steps (t.step state token).2 tokens := rfl

theorem steps_append (state : δ) (tokens more : List Token) :
    t.steps state (tokens ++ more) = t.steps state tokens ++ t.steps (t.after state tokens) more := by
  induction tokens generalizing state with
  | nil => rfl
  | cons token tokens ih =>
    rw [List.cons_append, steps_cons, ih, steps_cons]
    rfl

theorem steps_take (state : δ) (tokens : List Token) (n : Nat) :
    t.steps state (tokens.take n) = (t.steps state tokens).take n := by
  induction tokens generalizing state n with
  | nil => simp [steps]
  | cons token tokens ih =>
    cases n with
    | zero => rfl
    | succ n => rw [List.take_succ_cons, steps_cons, steps_cons, List.take_succ_cons, ih]

/-- The chunks of some of the tokens are the first of the chunks of all tokens. -/
theorem chunks_take {state : δ} {tokens : List Token} {n : Nat} {chunks chunks' : List (Option String)}
    (h : t.steps state tokens = chunks.map .ok) (h' : t.steps state (tokens.take n) = chunks'.map .ok) :
    chunks' = chunks.take n := by
  rw [steps_take, h, ← List.map_take] at h'
  exact (List.map_injective_iff.mpr (fun _ _ => Except.ok.inj) h').symm

end Tokenizer

namespace Turn

variable {δ π : Type} {setup : TurnSetup δ π} {t t' : Turn δ π} {rng rng' : Rng}

/-! ### What is printed -/

/-- Something is printed: it can only fail if an output is full, and the decoder has no part in it. -/
structure Printed (t : Turn δ π) (printed : Except SessionError Unit × Turn δ π) : Prop where
  decoder : printed.2.decoder = t.decoder
  works : t.console.Works → printed.1 = .ok () ∧ printed.2.console.Works
  full : ∀ error, printed.1 = .error error → error = Writer.full

/-- What fails is blocked. -/
theorem Printed.blocked {printed : Except SessionError Unit × Turn δ π} (h : t.Printed printed)
    {error : SessionError} (failed : printed.1 = .error error) :
    error = Writer.full ∧ ¬ t.console.Works := by
  refine ⟨h.full error failed, fun works => ?_⟩
  rw [(h.works works).1] at failed
  cases failed

theorem print_printed (t : Turn δ π) (text : String) : t.Printed (t.print text) :=
  ⟨rfl, fun works => works.answer text, fun _ failed => Conversation.answer_error (Prod.ext failed rfl)⟩

theorem showDot_printed (t : Turn δ π) : t.Printed t.showDot :=
  ⟨rfl, fun works => works.note ".", fun _ failed => Conversation.note_error (Prod.ext failed rfl)⟩

theorem openAnswer_printed (setup : TurnSetup δ π) (t : Turn δ π) : t.Printed (t.openAnswer setup) := by
  unfold openAnswer
  split_ifs
  · have printed := { t with trimPending := true }.print_printed (answerLead setup.verbosity)
    exact ⟨printed.decoder, printed.works, printed.full⟩
  · exact ⟨rfl, fun works => ⟨rfl, works⟩, nofun⟩

theorem showText_printed (t : Turn δ π) (text : String) : t.Printed (t.showText text) := by
  unfold showText
  split_ifs
  · have printed := { t with trimPending := false }.print_printed (trimLeading text)
    exact ⟨printed.decoder, printed.works, printed.full⟩
  · exact t.print_printed text

theorem endSequence_printed (setup : TurnSetup δ π) (rng : Rng) (t : Turn δ π) :
    t.Printed ((t.endSequence setup rng).1, (t.endSequence setup rng).2.2) := by
  have printed := { t with session := sessionAtEnd t.session }.print_printed (endMark setup.verbosity)
  exact ⟨printed.decoder, printed.works, printed.full⟩

/-! ### One event -/

/-- Whether a token is put into the decoder. -/
def Decodes (setup : TurnSetup δ π) (t : Turn δ π) (token : Token) : Prop :=
  t.session.promptSize ≤ t.session.turnPos + 1 ∧ token ≠ setup.eos

/-- What receiving a token comes to: success or an error, and the decoder after it. -/
inductive Reception (setup : TurnSetup δ π) (t : Turn δ π) (token : Token) :
    Except SessionError Unit → δ → Prop
  /-- An output takes no more. -/
  | blocked {after : δ} (broken : ¬ t.console.Works) : Reception setup t token (.error Writer.full) after
  /-- The token is passed over. -/
  | passed (skips : ¬ t.Decodes setup token) : Reception setup t token (.ok ()) t.decoder
  /-- The token is put into the decoder. -/
  | decoded (decodes : t.Decodes setup token) :
      Reception setup t token ((setup.tokenizer.step t.decoder token).1.map fun _ => ())
        (setup.tokenizer.step t.decoder token).2

/-- A token is shown: an output is full or the decoder says whether that works. -/
theorem showToken_cases (setup : TurnSetup δ π) (token : Token) (t : Turn δ π) :
    ((t.showToken setup token).1 = .error Writer.full ∧ ¬ t.console.Works ∨
      (t.showToken setup token).1 = (setup.tokenizer.step t.decoder token).1.map (fun _ => ()) ∧
        (t.showToken setup token).2.decoder = (setup.tokenizer.step t.decoder token).2) ∧
      (t.console.Works → (t.showToken setup token).2.console.Works) := by
  have opened := t.openAnswer_printed setup
  unfold showToken
  rcases ho : t.openAnswer setup with ⟨error | ⟨⟩, t₁⟩ <;> rw [ho] at opened
  · obtain ⟨rfl, broken⟩ := opened.blocked rfl
    exact ⟨.inl ⟨rfl, broken⟩, fun works => absurd works broken⟩
  have decoder : t₁.decoder = t.decoder := opened.decoder
  have works₁ : t.console.Works → t₁.console.Works := fun works => (opened.works works).2
  dsimp only
  rw [decoder]
  rcases hs : setup.tokenizer.step t.decoder token with ⟨error | _ | text, after⟩
  · exact ⟨.inr ⟨rfl, rfl⟩, works₁⟩
  · exact ⟨.inr ⟨rfl, rfl⟩, works₁⟩
  · have shown := { t₁ with decoder := after }.showText_printed text
    dsimp only
    refine ⟨?_, fun works => (shown.works (works₁ works)).2⟩
    rcases ht : (Turn.showText { t₁ with decoder := after } text).1 with error | ⟨⟩
    · obtain ⟨rfl, broken⟩ := shown.blocked ht
      exact .inl ⟨rfl, fun works => broken (works₁ works)⟩
    · exact .inr ⟨rfl, shown.decoder⟩

theorem display_reception (setup : TurnSetup δ π) (event : Event) (rng : Rng) (t : Turn δ π) :
    t.Reception setup event.token (t.count.display setup event rng).1
        (t.count.display setup event rng).2.2.decoder ∧
      (t.console.Works → (t.count.display setup event rng).2.2.console.Works) := by
  have of_printed : ∀ {printed : Except SessionError Unit × Turn δ π}, ¬ t.Decodes setup event.token →
      t.count.Printed printed → t.Reception setup event.token printed.1 printed.2.decoder ∧
        (t.console.Works → printed.2.console.Works) := by
    rintro ⟨error | ⟨⟩, t'⟩ skips printed
    · obtain ⟨rfl, broken⟩ := printed.blocked rfl
      exact ⟨.blocked broken, fun works => absurd works broken⟩
    · have same : t'.decoder = t.decoder := printed.decoder
      rw [same]
      exact ⟨.passed skips, fun works => (printed.works works).2⟩
  unfold display
  by_cases reading : t.count.session.inPrefill = true
  · rw [if_pos reading]
    have skips : ¬ t.Decodes setup event.token := fun decodes =>
      absurd decodes.1 (Nat.not_le.mpr (of_decide_eq_true reading))
    exact of_printed skips t.count.showDot_printed
  rw [if_neg reading]
  by_cases is_end : event.token = setup.eos
  · rw [if_pos is_end]
    exact of_printed (fun decodes => decodes.2 is_end) (t.count.endSequence_printed setup rng)
  rw [if_neg is_end]
  have decodes : t.Decodes setup event.token :=
    ⟨Nat.not_lt.mp (of_decide_eq_false (Bool.not_eq_true _ ▸ reading)), is_end⟩
  obtain ⟨⟨result, broken⟩ | ⟨result, decoder⟩, works⟩ := t.count.showToken_cases setup event.token
  · refine ⟨?_, works⟩
    show Reception setup t event.token (t.count.showToken setup event.token).1 _
    rw [result]
    exact .blocked broken
  · refine ⟨?_, works⟩
    show Reception setup t event.token (t.count.showToken setup event.token).1
      (t.count.showToken setup event.token).2.decoder
    rw [result, decoder]
    exact .decoded decodes

/-- **What an event does to the decoder.** Outputs without a limit stay so. -/
theorem receive_reception (setup : TurnSetup δ π) (event : Event) (rng : Rng) (t : Turn δ π) :
    t.Reception setup event.token ((t.receive setup event rng).1.map fun _ => ())
        (t.receive setup event rng).2.2.decoder ∧
      (t.console.Works → (t.receive setup event rng).2.2.console.Works) := by
  have displayed := t.display_reception setup event rng
  unfold receive
  rcases hd : t.count.display setup event rng with ⟨error | ⟨⟩, rng', t'⟩ <;> rw [hd] at displayed <;>
    exact displayed

variable {event : Event}

theorem Reception.of_ok {token : Token} {after : δ} (h : t.Reception setup token (.ok ()) after) :
    ¬ t.Decodes setup token ∧ after = t.decoder ∨
      t.Decodes setup token ∧ after = (setup.tokenizer.step t.decoder token).2 ∧
        ∃ chunk, (setup.tokenizer.step t.decoder token).1 = .ok chunk := by
  generalize hr : (.ok () : Except SessionError Unit) = result at h
  cases h with
  | blocked => cases hr
  | passed skips => exact .inl ⟨skips, rfl⟩
  | decoded decodes =>
    rcases stepped : (setup.tokenizer.step t.decoder token).1 with error | chunk
    · rw [stepped] at hr
      cases hr
    · exact .inr ⟨decodes, rfl, chunk, rfl⟩

theorem Reception.of_error {token : Token} {error : SessionError} {after : δ}
    (h : t.Reception setup token (.error error) after) :
    error = Writer.full ∧ ¬ t.console.Works ∨
      t.Decodes setup token ∧ (setup.tokenizer.step t.decoder token).1 = .error error := by
  generalize hr : (.error error : Except SessionError Unit) = result at h
  cases h with
  | blocked broken => exact .inl ⟨Except.error.inj hr, broken⟩
  | passed => cases hr
  | decoded decodes =>
    rcases stepped : (setup.tokenizer.step t.decoder token).1 with error' | chunk
    · rw [stepped] at hr
      exact .inr ⟨decodes, congrArg Except.error (Except.error.inj hr).symm⟩
    · rw [stepped] at hr
      cases hr

/-! ### The tokens that are decoded -/

/-- The tokens that are put into the decoder, given how many are passed over first. -/
def decoded (eos : Token) (passedOver : Nat) (tokens : List Token) : List Token :=
  (tokens.drop passedOver).filter (· != eos)

theorem decoded_append (eos : Token) (passedOver : Nat) (tokens more : List Token) :
    decoded eos passedOver (tokens ++ more) =
      decoded eos passedOver tokens ++ decoded eos (passedOver - tokens.length) more := by
  rw [decoded, List.drop_append, List.filter_append]
  rfl

/-- The number of tokens of the prompt that are still passed over. -/
def toPassOver (t : Turn δ π) : Nat := t.session.promptSize - 1 - t.session.turnPos

theorem decoded_of_decodes {token : Token} (h : t.Decodes setup token) :
    decoded setup.eos t.toPassOver [token] = [token] := by
  have none : t.toPassOver = 0 := by
    have := h.1
    unfold toPassOver
    omega
  rw [decoded, none, List.drop_zero, List.filter_eq_self, List.forall_mem_singleton]
  simpa using h.2

theorem decoded_of_not_decodes {token : Token} (h : ¬ t.Decodes setup token) :
    decoded setup.eos t.toPassOver [token] = [] := by
  by_cases is_end : token = setup.eos
  · rw [decoded, List.filter_eq_nil_iff]
    intro other mem
    rw [List.mem_singleton.mp (List.mem_of_mem_drop mem), is_end]
    simp
  · have reading : ¬ t.session.promptSize ≤ t.session.turnPos + 1 := fun past => h ⟨past, is_end⟩
    have some : [token].length ≤ t.toPassOver := by
      rw [List.length_singleton]
      unfold toPassOver
      omega
    rw [decoded, List.drop_eq_nil_of_le some]
    rfl

theorem toPassOver_receive {answer : Answer} (h : t.receive setup event rng = (answer, rng', t')) :
    t'.toPassOver = t.toPassOver - 1 := by
  have received := receive_received h
  rw [toPassOver, received.session, Session.promptSize_after, Session.turnPos_after, toPassOver]
  omega

/-! ### Events one after the other -/

/-- **What is put into the decoder**: receiving events without an error is stepping through tokens without
an error. -/
theorem Receives.steps {events : List Event} (h : Receives setup t events t') :
    t'.toPassOver = t.toPassOver - events.length ∧ (t.console.Works → t'.console.Works) ∧
      t'.decoder = setup.tokenizer.after t.decoder
        (decoded setup.eos t.toPassOver (events.map (·.token))) ∧
      ∃ chunks : List (Option String), setup.tokenizer.steps t.decoder
        (decoded setup.eos t.toPassOver (events.map (·.token))) = chunks.map .ok := by
  induction h with
  | @nil t =>
    rw [List.map_nil, decoded, List.drop_nil]
    exact ⟨rfl, id, rfl, [], rfl⟩
  | @cons t t₁ t₂ event events goOn rng rng₁ first rest ih =>
    obtain ⟨passOver, works, decoder, chunks, steps⟩ := ih
    obtain ⟨reception, works₁⟩ := t.receive_reception setup event rng
    rw [first] at reception works₁
    rw [toPassOver_receive first] at passOver decoder steps
    have split : decoded setup.eos t.toPassOver ((event :: events).map (·.token)) =
        decoded setup.eos t.toPassOver [event.token] ++
          decoded setup.eos (t.toPassOver - 1) (events.map (·.token)) :=
      decoded_append setup.eos t.toPassOver [event.token] _
    rw [split]
    refine ⟨?_, fun works₀ => works (works₁ works₀), ?_⟩
    · rw [passOver, List.length_cons]
      omega
    rcases reception.of_ok with ⟨skips, same⟩ | ⟨decodes, same, chunk, stepped⟩
    · rw [decoded_of_not_decodes skips, List.nil_append]
      rw [show t₁.decoder = t.decoder from same] at decoder steps
      exact ⟨decoder, chunks, steps⟩
    · rw [decoded_of_decodes decodes, List.singleton_append]
      rw [show t₁.decoder = _ from same] at decoder steps
      refine ⟨decoder, chunk :: chunks, ?_⟩
      rw [Tokenizer.steps_cons, stepped, steps]
      rfl

end Turn

end PromptLoop
