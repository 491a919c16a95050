import Mathlib.Tactic.SplitIfs
import PromptLoop.Turn

/-!
# What an event does to the books of a turn

Whatever a turn prints and whether printing works, an event has the same effect on the counters, the
stage, the random stream and the receipts. It is described here once: `Session.after` and `Rng.after`
say what an event does, and the lemmas about `Turn.receive` say that it does nothing else.
-/

namespace PromptLoop

/-! ### Counters and random stream after an event -/

namespace Session

/-- Whether an event that has been counted is an end-of-sequence token that is taken note of. -/
def notesEnd (eos token : Token) (s : Session) : Bool := !s.inPrefill && token == eos

/-- The counters after an event. -/
def after (eos token : Token) (s : Session) : Session :=
  if s.advance.notesEnd eos token then Turn.sessionAtEnd s.advance else s.advance

/-- Whether the counters belong to a session with these settings. -/
def Has (settings : InferenceSettings) (s : Session) : Prop :=
  s.multiturn = settings.multiturn ∧ s.deterministic = settings.deterministic

@[simp] theorem contextPos_advance (s : Session) : s.advance.contextPos = s.contextPos + 1 := rfl

@[simp] theorem turnPos_advance (s : Session) : s.advance.turnPos = s.turnPos + 1 := rfl

@[simp] theorem promptSize_advance (s : Session) : s.advance.promptSize = s.promptSize := rfl

@[simp] theorem multiturn_advance (s : Session) : s.advance.multiturn = s.multiturn := rfl

@[simp] theorem deterministic_advance (s : Session) : s.advance.deterministic = s.deterministic := rfl

theorem start_has (settings : InferenceSettings) :
    (start settings.multiturn settings.deterministic).Has settings := ⟨rfl, rfl⟩

theorem Has.beginTurn {settings : InferenceSettings} {s : Session} (h : s.Has settings) (n : Nat) :
    (s.beginTurn n).Has settings := h

theorem Has.resetContext {settings : InferenceSettings} {s : Session} (h : s.Has settings) :
    s.resetContext.Has settings := h

variable {eos token : Token} {s : Session}

theorem after_eq_advance (h : s.advance.notesEnd eos token = false) :
    s.after eos token = s.advance := by
  rw [after, h, if_neg Bool.false_ne_true]

@[simp] theorem multiturn_after : (s.after eos token).multiturn = s.multiturn := by
  unfold after Turn.sessionAtEnd
  split_ifs <;> rfl

@[simp] theorem deterministic_after : (s.after eos token).deterministic = s.deterministic := by
  unfold after Turn.sessionAtEnd
  split_ifs <;> rfl

@[simp] theorem turnPos_after : (s.after eos token).turnPos = s.turnPos + 1 := by
  unfold after Turn.sessionAtEnd
  split_ifs <;> rfl

@[simp] theorem promptSize_after : (s.after eos token).promptSize = s.promptSize := by
  unfold after Turn.sessionAtEnd
  split_ifs <;> rfl

theorem phase_after : (s.after eos token).phase = s.advance.phase := by
  rw [phase, phase, turnPos_after, promptSize_after]
  rfl

theorem Has.after {settings : InferenceSettings} (h : s.Has settings) :
    (s.after eos token).Has settings :=
  ⟨multiturn_after.trans h.1, deterministic_after.trans h.2⟩

theorem contextPos_after :
    (s.after eos token).contextPos =
      if s.advance.notesEnd eos token ∧ s.multiturn = false then 0 else s.contextPos + 1 := by
  unfold after Turn.sessionAtEnd
  rw [multiturn_advance]
  cases s.advance.notesEnd eos token <;> cases s.multiturn <;> rfl

theorem contextPos_after_le : (s.after eos token).contextPos ≤ s.contextPos + 1 := by
  rw [contextPos_after]
  split_ifs <;> omega

/-- Past the prompt every token is either counted or, as the end of a sequence, ends the context. -/
theorem notesEnd_advance (h : s.promptSize ≤ s.turnPos + 1) :
    s.advance.notesEnd eos token = (token == eos) := by
  have : s.advance.inPrefill = false := decide_eq_false (Nat.not_lt.mpr h)
  rw [notesEnd, this, Bool.not_false, Bool.true_and]

theorem notesEnd_advance_of_lt (h : s.turnPos + 1 < s.promptSize) :
    s.advance.notesEnd eos token = false := by
  have : s.advance.inPrefill = true := decide_eq_true h
  rw [notesEnd, this, Bool.not_true, Bool.false_and]

/-- Whether the end of a sequence is taken note of can be told from the counters after the event. -/
theorem notesEnd_eq_after :
    s.advance.notesEnd eos token =
      (decide ((s.after eos token).promptSize ≤ (s.after eos token).turnPos) && token == eos) := by
  rw [promptSize_after, turnPos_after, notesEnd, inPrefill, turnPos_advance, promptSize_advance, ← decide_not]
  simp only [Nat.not_lt]

/-- The counters after events with some tokens. -/
def afterAll (eos : Token) (tokens : List Token) (s : Session) : Session :=
  tokens.foldl (fun s token => s.after eos token) s

theorem multiturn_afterAll (tokens : List Token) : (s.afterAll eos tokens).multiturn = s.multiturn := by
  induction tokens generalizing s with
  | nil => rfl
  | cons token rest ih => exact ih.trans multiturn_after

theorem deterministic_afterAll (tokens : List Token) :
    (s.afterAll eos tokens).deterministic = s.deterministic := by
  induction tokens generalizing s with
  | nil => rfl
  | cons token rest ih => exact ih.trans deterministic_after

theorem promptSize_afterAll (tokens : List Token) :
    (s.afterAll eos tokens).promptSize = s.promptSize := by
  induction tokens generalizing s with
  | nil => rfl
  | cons token rest ih => exact ih.trans promptSize_after

theorem turnPos_afterAll (tokens : List Token) :
    (s.afterAll eos tokens).turnPos = s.turnPos + tokens.length := by
  induction tokens generalizing s with
  | nil => rfl
  | cons token rest ih =>
    rw [List.length_cons, Nat.add_comm rest.length, ← Nat.add_assoc, ← turnPos_after]
    exact ih

/-- Whether the last token of a prompt ends the context. -/
def promptEnds (eos : Token) (prompt : List Token) (s : Session) : Bool :=
  prompt.getLast? == some eos && !s.multiturn

/-- Of the tokens of a prompt only the last may end the context. -/
theorem contextPos_afterAll {tokens : List Token} (h : s.turnPos + tokens.length = s.promptSize)
    (nonempty : tokens ≠ []) :
    (s.afterAll eos tokens).contextPos =
      if s.promptEnds eos tokens then 0 else s.contextPos + tokens.length := by
  induction tokens generalizing s with
  | nil => exact absurd rfl nonempty
  | cons token rest ih =>
    rw [List.length_cons] at h
    rcases rest with _ | ⟨token', rest⟩
    · have last : s.promptSize ≤ s.turnPos + 1 := by
        rw [List.length_nil] at h
        omega
      show (s.after eos token).contextPos = _
      rw [contextPos_after, notesEnd_advance last, promptEnds]
      cases s.multiturn <;> simp
    · have more : s.turnPos + 1 < s.promptSize := by
        rw [List.length_cons] at h
        omega
      have counted : s.after eos token = s.advance := after_eq_advance (notesEnd_advance_of_lt more)
      show ((s.after eos token).afterAll eos (token' :: rest)).contextPos = _
      rw [counted, ih (by rw [turnPos_advance, promptSize_advance]; omega) (List.cons_ne_nil _ _),
        promptEnds, promptEnds, List.getLast?_cons_cons, contextPos_advance, multiturn_advance]
      simp only [List.length_cons]
      congr 1
      omega

end Session

/-- The random stream after an event, given the counters before it. -/
def Rng.after (eos token : Token) (s : Session) (rng : Rng) : Rng :=
  if s.advance.notesEnd eos token then Turn.rngAtEnd s.advance rng else rng

/-! ### The books of a turn -/

namespace Turn

variable {δ π : Type}

/-- Two states of a turn with the same entries in the books: only what is printed differs. -/
structure SameBooks (t t' : Turn δ π) : Prop where
  session : t'.session = t.session
  phase : t'.phase = t.phase
  policy : t'.policy = t.policy
  receipts : t'.receipts = t.receipts

theorem SameBooks.trans {t t' t'' : Turn δ π} (h : SameBooks t t') (h' : SameBooks t' t'') :
    SameBooks t t'' :=
  ⟨h'.session.trans h.session, h'.phase.trans h.phase, h'.policy.trans h.policy,
    h'.receipts.trans h.receipts⟩

theorem showDot_sameBooks (t : Turn δ π) : SameBooks t t.showDot.2 := ⟨rfl, rfl, rfl, rfl⟩

theorem openAnswer_sameBooks (setup : TurnSetup δ π) (t : Turn δ π) :
    SameBooks t (t.openAnswer setup).2 := by
  unfold openAnswer
  split_ifs <;> exact ⟨rfl, rfl, rfl, rfl⟩

theorem showText_sameBooks (t : Turn δ π) (text : String) : SameBooks t (t.showText text).2 := by
  unfold showText
  split_ifs <;> exact ⟨rfl, rfl, rfl, rfl⟩

theorem showToken_sameBooks (setup : TurnSetup δ π) (token : Token) (t : Turn δ π) :
    SameBooks t (t.showToken setup token).2 := by
  have opened := openAnswer_sameBooks setup t
  unfold showToken
  split
  · next h => rw [h] at opened; exact opened
  · next t' h =>
    rw [h] at opened
    split
    · exact opened.trans ⟨rfl, rfl, rfl, rfl⟩
    · exact opened.trans ⟨rfl, rfl, rfl, rfl⟩
    · next text decoder _ =>
      have shown := showText_sameBooks { t' with decoder := decoder } text
      exact opened.trans ⟨shown.session, shown.phase, shown.policy, shown.receipts⟩

/-- What showing an event that has been counted does to the books. -/
theorem display_books (setup : TurnSetup δ π) (event : Event) (rng : Rng) (t : Turn δ π) :
    SameBooks
        { t with session := if t.session.notesEnd setup.eos event.token
                            then sessionAtEnd t.session else t.session }
        (t.display setup event rng).2.2 ∧
      (t.display setup event rng).2.1 =
        if t.session.notesEnd setup.eos event.token then rngAtEnd t.session rng else rng := by
  unfold display Session.notesEnd
  cases hp : t.session.inPrefill with
  | true =>
    simp only [if_true, Bool.not_true, Bool.false_and, Bool.false_eq_true, if_false]
    exact ⟨showDot_sameBooks t, trivial⟩
  | false =>
    by_cases he : event.token = setup.eos
    · simp only [he, if_true, Bool.not_false, Bool.true_and, beq_self_eq_true, if_false,
        Bool.false_eq_true]
      exact ⟨⟨rfl, rfl, rfl, rfl⟩, rfl⟩
    · simp only [he, Bool.not_false, Bool.true_and, beq_iff_eq, if_false, Bool.false_eq_true]
      exact ⟨showToken_sameBooks setup event.token t, trivial⟩

/-- What receiving an event comes to in the books: it is counted, and a receipt is filed. -/
structure Received (eos : Token) (event : Event) (rng : Rng) (t : Turn δ π) (answer : Answer)
    (rng' : Rng) (t' : Turn δ π) : Prop where
  session : t'.session = t.session.after eos event.token
  phase : t'.phase = t.session.advance.phase
  rng : rng' = rng.after eos event.token t.session
  receipts : t'.receipts = ⟨event, answer, t'.session, t'.phase, rng'⟩ :: t.receipts

/-- **Receiving an event**: whether or not it can be shown, it is counted and a receipt is filed. -/
theorem receive_received {setup : TurnSetup δ π} {event : Event} {rng rng' : Rng} {t t' : Turn δ π}
    {answer : Answer} (h : t.receive setup event rng = (answer, rng', t')) :
    Received setup.eos event rng t answer rng' t' := by
  obtain ⟨books, drawn⟩ := display_books setup event rng t.count
  unfold receive at h
  rcases hd : t.count.display setup event rng with ⟨_ | ⟨⟩, rng₁, t₁⟩ <;>
    rw [hd] at h books drawn <;>
    cases h <;>
    exact ⟨books.session, books.phase, drawn, congrArg (List.cons _) books.receipts⟩

end Turn

end PromptLoop
