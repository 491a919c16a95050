import Mathlib.Tactic.SplitIfs
import PromptLoop.Conversation

/-!
# Turns that look alike

Two turns look alike if they differ in nothing but the state of the policy and in what their outputs had
taken long before. If the policy answers whatever its state is, turns that look alike receive an event in
the same way and look alike afterwards.

Outputs are compared with two outputs that they started from: they are alike if they have taken the same
bytes since then and take the same number of further bytes.
-/

namespace PromptLoop

/-! ### Writers -/

namespace Writer

/-- The number of bytes that are taken before writes fail, if there is a limit. -/
def left (w : Writer) : Option Nat := w.capacity.map (· - w.written.length)

theorem room_eq (w : Writer) (bytes : List UInt8) :
    w.room bytes = match w.left with
      | none => bytes
      | some n => bytes.take n := by
  unfold room left
  cases w.capacity <;> rfl

theorem fits_eq (w : Writer) (bytes : List UInt8) :
    w.fits bytes = match w.left with
      | none => true
      | some n => decide (bytes.length ≤ n) := by
  unfold fits left
  rcases w.capacity with _ | n
  · rfl
  · cases bytes with
    | nil => rfl
    | cons b bs =>
      show (false || decide (w.written.length + (bs.length + 1) ≤ n)) =
        decide (bs.length + 1 ≤ n - w.written.length)
      rw [Bool.false_or, decide_eq_decide]
      omega

theorem left_writeBytes (w : Writer) (bytes : List UInt8) :
    (w.writeBytes bytes).2.left = w.left.map (· - bytes.length) := by
  obtain ⟨written, _ | n⟩ := w
  · rfl
  · show some (n - (written ++ bytes.take (n - written.length)).length) =
      some (n - written.length - bytes.length)
    rw [List.length_append, List.length_take, Option.some_inj]
    omega

/-- Two writers have taken the same bytes since two others and take the same number of further bytes. -/
structure Alike (w₀ w₀' w w' : Writer) : Prop where
  left : w'.left = w.left
  more : ∃ bytes, w.written = w₀.written ++ bytes ∧ w'.written = w₀'.written ++ bytes

theorem Alike.refl {w w' : Writer} (h : w'.left = w.left) : Alike w w' w w' :=
  ⟨h, [], (List.append_nil _).symm, (List.append_nil _).symm⟩

theorem Alike.write {w₀ w₀' w w' : Writer} (h : Alike w₀ w₀' w w') (text : String) :
    (w'.write text).1 = (w.write text).1 ∧ Alike w₀ w₀' (w.write text).2 (w'.write text).2 := by
  obtain ⟨bytes, written, written'⟩ := h.more
  refine ⟨?_, ?_, bytes ++ w.room (Line.bytes text), ?_, ?_⟩
  · rw [Writer.write, Writer.write, writeBytes, writeBytes, fits_eq, fits_eq, h.left]
  · rw [Writer.write, Writer.write, left_writeBytes, left_writeBytes, h.left]
  · show w.written ++ w.room (Line.bytes text) = _
    rw [written, List.append_assoc]
  · show w'.written ++ w'.room (Line.bytes text) = _
    rw [written', List.append_assoc, room_eq w', room_eq w, h.left]

end Writer

namespace Console

/-- Both outputs are alike. -/
structure Alike (k₀ k₀' k k' : Console) : Prop where
  out : Writer.Alike k₀.out k₀'.out k.out k'.out
  err : Writer.Alike k₀.err k₀'.err k.err k'.err

/-- The outputs of two consoles take the same numbers of further bytes. -/
def SameRoom (k k' : Console) : Prop := k'.out.left = k.out.left ∧ k'.err.left = k.err.left
  deriving Decidable

theorem SameRoom.alike {k k' : Console} (h : SameRoom k k') : Alike k k' k k' := ⟨.refl h.1, .refl h.2⟩

variable {k₀ k₀' k k' : Console}

theorem Alike.answer (h : Alike k₀ k₀' k k') (text : String) :
    (k'.answer text).1 = (k.answer text).1 ∧ Alike k₀ k₀' (k.answer text).2 (k'.answer text).2 :=
  ⟨(h.out.write text).1, (h.out.write text).2, h.err⟩

theorem Alike.note (h : Alike k₀ k₀' k k') (text : String) :
    (k'.note text).1 = (k.note text).1 ∧ Alike k₀ k₀' (k.note text).2 (k'.note text).2 :=
  ⟨(h.err.write text).1, h.out, (h.err.write text).2⟩

end Console

/-! ### Turns -/

/-- The answers of a policy do not depend on its state. -/
def Policy.Stateless {π : Type} (policy : Policy π) : Prop :=
  ∀ s s' event, (policy.ask s event).1 = (policy.ask s' event).1

theorem Policy.always_stateless : Policy.always.Stateless := fun _ _ _ => rfl

namespace Turn

variable {δ π : Type} {k₀ k₀' : Console} {t t' : Turn δ π}

/-- Two turns differ in nothing but the policy and what the outputs had taken before. -/
structure Alike (k₀ k₀' : Console) (t t' : Turn δ π) : Prop where
  session : t'.session = t.session
  phase : t'.phase = t.phase
  decoder : t'.decoder = t.decoder
  trimPending : t'.trimPending = t.trimPending
  receipts : t'.receipts = t.receipts
  console : Console.Alike k₀ k₀' t.console t'.console

theorem Alike.print (h : Alike k₀ k₀' t t') (text : String) :
    (t'.print text).1 = (t.print text).1 ∧ Alike k₀ k₀' (t.print text).2 (t'.print text).2 :=
  ⟨(h.console.answer text).1, h.session, h.phase, h.decoder, h.trimPending, h.receipts,
    (h.console.answer text).2⟩

theorem Alike.showDot (h : Alike k₀ k₀' t t') :
    t'.showDot.1 = t.showDot.1 ∧ Alike k₀ k₀' t.showDot.2 t'.showDot.2 :=
  ⟨(h.console.note ".").1, h.session, h.phase, h.decoder, h.trimPending, h.receipts,
    (h.console.note ".").2⟩

theorem Alike.openAnswer (setup : TurnSetup δ π) (h : Alike k₀ k₀' t t') :
    (t'.openAnswer setup).1 = (t.openAnswer setup).1 ∧
      Alike k₀ k₀' (t.openAnswer setup).2 (t'.openAnswer setup).2 := by
  have opened : Alike k₀ k₀' { t with trimPending := true } { t' with trimPending := true } :=
    ⟨h.session, h.phase, h.decoder, rfl, h.receipts, h.console⟩
  have first : t'.session.isFirstOfAnswer = t.session.isFirstOfAnswer := congrArg _ h.session
  unfold Turn.openAnswer
  rw [first]
  split_ifs
  · exact opened.print _
  · exact ⟨rfl, h⟩

theorem Alike.showText (h : Alike k₀ k₀' t t') (text : String) :
    (t'.showText text).1 = (t.showText text).1 ∧
      Alike k₀ k₀' (t.showText text).2 (t'.showText text).2 := by
  have begun : Alike k₀ k₀' { t with trimPending := false } { t' with trimPending := false } :=
    ⟨h.session, h.phase, h.decoder, rfl, h.receipts, h.console⟩
  unfold Turn.showText
  rw [h.trimPending]
  split_ifs
  · exact begun.print _
  · exact h.print text

theorem Alike.showToken (setup : TurnSetup δ π) (h : Alike k₀ k₀' t t') (token : Token) :
    (t'.showToken setup token).1 = (t.showToken setup token).1 ∧
      Alike k₀ k₀' (t.showToken setup token).2 (t'.showToken setup token).2 := by
  obtain ⟨result, opened⟩ := h.openAnswer setup
  unfold Turn.showToken
  rcases ht : t.openAnswer setup with ⟨error | ⟨⟩, t₁⟩ <;>
    rcases ht' : t'.openAnswer setup with ⟨error' | ⟨⟩, t₁'⟩ <;> rw [ht, ht'] at result opened <;>
    cases result
  · exact ⟨rfl, opened⟩
  · dsimp only at opened ⊢
    rw [opened.decoder]
    rcases setup.tokenizer.step t₁.decoder token with ⟨result, decoder⟩
    have stepped : Alike k₀ k₀' { t₁ with decoder := decoder } { t₁' with decoder := decoder } :=
      ⟨opened.session, opened.phase, rfl, opened.trimPending, opened.receipts, opened.console⟩
    rcases result with error | _ | text
    · exact ⟨rfl, stepped⟩
    · exact ⟨rfl, stepped⟩
    · exact stepped.showText text

theorem Alike.display (setup : TurnSetup δ π) (h : Alike k₀ k₀' t t') (event : Event) (rng : Rng) :
    (t'.display setup event rng).1 = (t.display setup event rng).1 ∧
      (t'.display setup event rng).2.1 = (t.display setup event rng).2.1 ∧
      Alike k₀ k₀' (t.display setup event rng).2.2 (t'.display setup event rng).2.2 := by
  unfold Turn.display
  rw [h.session]
  split_ifs
  · exact ⟨h.showDot.1, rfl, h.showDot.2⟩
  · unfold endSequence
    rw [h.session]
    have ended : Alike k₀ k₀' { t with session := sessionAtEnd t.session }
        { t' with session := sessionAtEnd t.session } :=
      ⟨rfl, h.phase, h.decoder, h.trimPending, h.receipts, h.console⟩
    exact ⟨(ended.print _).1, rfl, (ended.print _).2⟩
  · exact ⟨(h.showToken setup event.token).1, rfl, (h.showToken setup event.token).2⟩

/-- **Turns that look alike** receive an event in the same way. -/
theorem Alike.receive {setup : TurnSetup δ π} (stateless : setup.policy.Stateless)
    (h : Alike k₀ k₀' t t') (event : Event) (rng : Rng) :
    (t'.receive setup event rng).1 = (t.receive setup event rng).1 ∧
      (t'.receive setup event rng).2.1 = (t.receive setup event rng).2.1 ∧
      Alike k₀ k₀' (t.receive setup event rng).2.2 (t'.receive setup event rng).2.2 := by
  have counted : Alike k₀ k₀' t.count t'.count := by
    unfold count
    rw [h.session]
    exact ⟨rfl, rfl, h.decoder, h.trimPending, h.receipts, h.console⟩
  obtain ⟨result, drawn, shown⟩ := counted.display setup event rng
  unfold Turn.receive
  rcases ht : t.count.display setup event rng with ⟨error | ⟨⟩, rng₁, t₁⟩ <;>
    rcases ht' : t'.count.display setup event rng with ⟨error' | ⟨⟩, rng₁', t₁'⟩ <;>
    rw [ht, ht'] at result drawn shown <;> cases result <;> cases drawn
  · refine ⟨rfl, rfl, shown.session, shown.phase, shown.decoder, shown.trimPending, ?_, shown.console⟩
    show ⟨event, _, t₁'.session, t₁'.phase, _⟩ :: t₁'.receipts = _
    rw [shown.session, shown.phase, shown.receipts]
    rfl
  · have same := stateless t₁'.policy t₁.policy event
    refine ⟨congrArg Except.ok same, rfl, shown.session, shown.phase, shown.decoder, shown.trimPending, ?_,
      shown.console⟩
    show ⟨event, .ok (setup.policy.ask t₁'.policy event).1, t₁'.session, t₁'.phase, _⟩ :: t₁'.receipts = _
    rw [same, shown.session, shown.phase, shown.receipts]
    rfl

end Turn

end PromptLoop
