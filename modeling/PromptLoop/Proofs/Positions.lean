import Mathlib.Control.Monad.Basic
import PromptLoop.Proofs.EngineTurns

/-!
# Positions in the context of a model

A session counts the tokens of its context, and the model remembers the tokens it has read. A prompt is
read at the position that the session has counted up to, so the two ought to agree. They do not quite: a
token that is sampled but never read is counted all the same, and without multi-turn a prompt that ends
with the end-of-sequence token makes the session start counting anew, though the model forgets nothing.

Both gaps are measured here call by call, and they are the only ones: from a prompt that starts a context
on, position and gaps make up exactly what the model remembers (`Conversation.Books.balance`). So the
positions agree with the model if and only if the two gaps cancel wherever a prompt continues a context
(`Conversation.atEnds_iff_balanced`).

Passes and calls are listed with the latest first.
-/

namespace PromptLoop

/-! ### Forward passes -/

/-- The number of tokens that a model remembers after some forward passes. -/
def cached : List ForwardPass → Nat
  | [] => 0
  | pass :: earlier => pass.tokens.length + if pass.position = 0 then 0 else cached earlier

/-- Every forward pass that adds to a context is at the end of what the model remembers. -/
def AtEnds : List ForwardPass → Prop
  | [] => True
  | pass :: earlier => (0 < pass.position → pass.position = cached earlier) ∧ AtEnds earlier

theorem AtEnds.of_append {later earlier : List ForwardPass} (h : AtEnds (later ++ earlier)) :
    AtEnds earlier := by
  induction later with
  | nil => exact h
  | cons pass later ih => exact ih h.2

theorem cached_singlePasses {position : Nat} (tokens : List Token) (earlier : List ForwardPass)
    (h : 0 < position) :
    cached ((singlePasses position tokens).reverse ++ earlier) = cached earlier + tokens.length := by
  induction tokens generalizing position earlier with
  | nil => rfl
  | cons token tokens ih =>
    rw [singlePasses, List.reverse_cons, List.append_assoc, List.singleton_append,
      ih _ (Nat.succ_pos _), cached, if_neg (Nat.ne_of_gt h), List.length_singleton, List.length_cons]
    omega

/-- Tokens that are read one after the other from the end of the context on are all read at its end. -/
theorem AtEnds.singlePasses {position : Nat} (tokens : List Token) {earlier : List ForwardPass}
    (h : 0 < position) (atEnd : position = cached earlier) (ends : AtEnds earlier) :
    AtEnds ((singlePasses position tokens).reverse ++ earlier) := by
  induction tokens generalizing position earlier with
  | nil => exact ends
  | cons token tokens ih =>
    rw [PromptLoop.singlePasses, List.reverse_cons, List.append_assoc, List.singleton_append]
    refine ih (Nat.succ_pos _) ?_ ⟨fun _ => atEnd, ends⟩
    rw [cached, if_neg (Nat.ne_of_gt h), List.length_singleton, ← atEnd, Nat.add_comm]

/-! ### Calls -/

namespace Call

variable (eos : Token) (multiturn : Bool) (call : Call)

/-- The tokens after the prompt that the model reads. -/
def tokensRead : List Token := (call.generated.filter (·.goesOn eos)).map (·.event.token)

/-- The forward passes of a call without errors, in order. -/
def passes : List ForwardPass :=
  ⟨call.prompt, call.startPos⟩ ::
    singlePasses (call.startPos + call.prompt.length) (call.tokensRead eos)

/-- The number of tokens that are counted but not read. -/
def unread : Nat := (call.generated.filter (!·.goesOn eos)).length

/-- The number of tokens that are not counted any more once the prompt is, though the model keeps them. -/
def forgotten : Nat :=
  if call.prompt.getLast? == some eos && !multiturn then call.startPos + call.prompt.length else 0

variable {eos}

/-- What a call without errors read and what it did not. -/
theorem read_of_receipts {echoed went unread : List Receipt}
    (receipts : call.receipts = echoed ++ (went ++ unread)) (length : echoed.length = call.prompt.length)
    (goesOn : ∀ r ∈ went, r.goesOn eos = true) (stops : ∀ r ∈ unread, r.goesOn eos = false) :
    call.tokensRead eos = went.map (·.event.token) ∧ call.unread eos = unread.length := by
  have generated := call.generated_of_receipts receipts length
  constructor
  · rw [tokensRead, generated, List.filter_append, List.filter_eq_self.mpr goesOn,
      List.filter_eq_nil_iff.mpr fun r hr => by simp [stops r hr], List.append_nil]
  · rw [Call.unread, generated, List.filter_append,
      List.filter_eq_nil_iff.mpr fun r hr => by simp [goesOn r hr], List.nil_append,
      List.filter_eq_self.mpr fun r hr => by simp [stops r hr]]

variable (eos) {call}

theorem cached_passes (nonempty : call.prompt ≠ []) (earlier : List ForwardPass) :
    cached ((call.passes eos).reverse ++ earlier) =
      (if call.startPos = 0 then 0 else cached earlier) + call.prompt.length +
        (call.tokensRead eos).length := by
  have : 0 < call.startPos + call.prompt.length :=
    Nat.lt_add_left _ (List.length_pos_iff.mpr nonempty)
  rw [passes, List.reverse_cons, List.append_assoc, List.singleton_append, cached_singlePasses _ _ this,
    cached, Nat.add_comm call.prompt.length]

/-- The passes of a call are at the end of the context if the first of them is. -/
theorem atEnds_passes (nonempty : call.prompt ≠ []) (earlier : List ForwardPass) :
    AtEnds ((call.passes eos).reverse ++ earlier) ↔
      (0 < call.startPos → call.startPos = cached earlier) ∧ AtEnds earlier := by
  rw [passes, List.reverse_cons, List.append_assoc, List.singleton_append]
  constructor
  · intro h
    exact h.of_append
  · intro h
    have : 0 < call.startPos + call.prompt.length :=
      Nat.lt_add_left _ (List.length_pos_iff.mpr nonempty)
    refine AtEnds.singlePasses _ this ?_ h
    rw [cached]
    rcases Nat.eq_zero_or_pos call.startPos with zero | pos
    · rw [if_pos zero, zero, Nat.zero_add, Nat.add_zero]
    · rw [if_neg (Nat.ne_of_gt pos), ← h.1 pos, Nat.add_comm]

end Call

/-! ### The calls of a run -/

/-- The forward passes of some calls. -/
def journal (eos : Token) : List Call → List ForwardPass
  | [] => []
  | call :: earlier => (call.passes eos).reverse ++ journal eos earlier

/-- A quantity summed up over the calls since the one that started the context. -/
def sinceStart (quantity : Call → Nat) : List Call → Nat
  | [] => 0
  | call :: earlier => quantity call + if call.startPos = 0 then 0 else sinceStart quantity earlier

/-- Wherever a prompt continues a context, as many tokens were counted without being read as were
forgotten without being dropped. -/
def Balanced (eos : Token) (multiturn : Bool) : List Call → Prop
  | [] => True
  | call :: earlier =>
    (0 < call.startPos → sinceStart (·.unread eos) earlier = sinceStart (·.forgotten eos multiturn) earlier) ∧
      Balanced eos multiturn earlier

/-- A position in the context after some calls, as it follows from what the model remembers. -/
def Accounted (eos : Token) (multiturn : Bool) (position : Nat) (calls : List Call) : Prop :=
  0 < position →
    position + sinceStart (·.forgotten eos multiturn) calls =
      cached (journal eos calls) + sinceStart (·.unread eos) calls

/-- Every prompt has tokens, and is at a position that follows from what the model remembers. -/
def AllAccounted (eos : Token) (multiturn : Bool) : List Call → Prop
  | [] => True
  | call :: earlier =>
    call.prompt ≠ [] ∧ Accounted eos multiturn call.startPos earlier ∧ AllAccounted eos multiturn earlier

/-- The positions agree with the model if and only if the gaps cancel. -/
theorem atEnds_journal_iff {eos : Token} {multiturn : Bool} {calls : List Call}
    (h : AllAccounted eos multiturn calls) :
    AtEnds (journal eos calls) ↔ Balanced eos multiturn calls := by
  induction calls with
  | nil => exact Iff.rfl
  | cons call earlier ih =>
    obtain ⟨nonempty, accounted, rest⟩ := h
    rw [journal, Call.atEnds_passes eos nonempty, Balanced, ih rest]
    refine and_congr_left' (forall_congr' fun pos => ?_)
    have := accounted pos
    omega

/-! ### Every round keeps the books -/

namespace Conversation

variable {γ δ π : Type} {c : Conversation γ δ π} {e : Engine}

/-- The books of a run after some calls. -/
structure Books (e : Engine) (multiturn : Bool) (calls : List Call) (s : ConversationState Cache π) :
    Prop where
  passes : s.generator.passes = journal e.eos calls
  mode : s.session.multiturn = multiturn
  balance : Accounted e.eos multiturn s.session.contextPos calls
  accounted : AllAccounted e.eos multiturn calls

/-- A call that has gone well is written into the books. -/
theorem Books.call {multiturn : Bool} {calls : List Call} {s s' : ConversationState Cache π}
    {prompt : List Token} {ended : CourseEnd Cache (Turn δ π)} {went unread : List Receipt}
    (h : Books e multiturn calls s) (nonempty : prompt ≠ [])
    (account : Engine.Account e.eos ((c.answeredBy e).request prompt s.session.contextPos) s.generator
      s.session ended went unread)
    (session : s'.session = ended.sink.session) (generator : s'.generator = ended.generator) :
    Books e multiturn (⟨prompt, s.session.contextPos, ended.sink.receipts.reverse⟩ :: calls) s' := by
  obtain ⟨echoed, length, receipts⟩ := account.receipts
  obtain ⟨read, not_read⟩ := Call.read_of_receipts
    ⟨prompt, s.session.contextPos, ended.sink.receipts.reverse⟩ receipts length account.goesOn account.stops
  have forgotten : Call.forgotten e.eos multiturn
        ⟨prompt, s.session.contextPos, ended.sink.receipts.reverse⟩ =
      if s.session.promptEnds e.eos prompt then s.session.contextPos + prompt.length else 0 := by
    rw [Call.forgotten, Session.promptEnds, h.mode]
  refine ⟨?_, ?_, ?_, nonempty, h.balance, h.accounted⟩
  · rw [generator, account.passes, h.passes, journal, Call.passes, read]
    rfl
  · rw [session, account.multiturn, h.mode]
  · intro pos
    rw [session] at pos ⊢
    have counted : ended.sink.session.contextPos =
        (if s.session.promptEnds e.eos prompt then 0 else s.session.contextPos + prompt.length) +
          went.length + unread.length := account.contextPos.resolve_left (Nat.ne_of_gt pos)
    have before := h.balance
    unfold Accounted at before
    rw [sinceStart, sinceStart, journal, Call.cached_passes _ nonempty, read, List.length_map, not_read,
      forgotten, counted]
    dsimp only
    split_ifs <;> omega

theorem Books.goesOn {multiturn : Bool} {calls : List Call} {top top' : LoopTop Cache π}
    {call : Option Call} (goes : (c.answeredBy e).GoesOn top call top')
    (h : Books e multiturn calls top.state) : Books e multiturn (call.toList ++ calls) top'.state := by
  cases goes with
  | cleared => exact ⟨h.passes, h.mode, nofun, h.accounted⟩
  | @served console text opens command result =>
    rcases (c.answeredBy e).turn_cases text (top.state.atPhase .awaitingInput) console with
      served | ⟨prompt, console', -, served⟩
    · rw [turnOf, served.call]
      refine ⟨?_, ?_, ?_, h.accounted⟩
      · exact (congrArg (·.passes) served.generator).trans h.passes
      · exact served.multiturn.trans h.mode
      · rw [served.contextPos]
        exact h.balance
    · obtain ⟨went, unread, account⟩ := Engine.account_of_ok rfl
        (c.answered e prompt.tokens (top.state.atPhase .awaitingInput) console') (served.success result)
      rw [turnOf, served.call]
      exact h.call served.nonempty account served.session served.generator

/-- **Positions in the context of a model**: in a run without errors the model is called as the calls
say, every position follows from what the model remembers and the two gaps, and the positions agree with
the model if and only if the gaps cancel wherever a prompt continues a context. -/
theorem atEnds_iff_balanced (c : Conversation γ δ π) (e : Engine) (input : List UInt8) (rng : Rng)
    (policy : π) (console : Console) {reason : Termination}
    (h : ((c.answeredBy e).run input (.start c.settings rng Cache.empty policy) console).result =
      .ok reason) :
    let r := (c.answeredBy e).run input (.start c.settings rng Cache.empty policy) console
    r.state.generator.passes = journal e.eos r.calls.reverse ∧
      AllAccounted e.eos c.settings.multiturn r.calls.reverse ∧
      (AtEnds r.state.generator.passes ↔ Balanced e.eos c.settings.multiturn r.calls.reverse) := by
  intro r
  obtain ⟨calls, top, last, books, ends, same⟩ := runFrom_ends (c := c.answeredBy e)
    (P := fun calls top => Books e c.settings.multiturn calls.reverse top.state)
    (fun calls top call top' goes books => by
      have := books.goesOn goes
      rw [List.reverse_append]
      cases call <;> exact this)
    ⟨Line.lines input, .start c.settings rng Cache.empty policy, console⟩
    ⟨rfl, rfl, nofun, trivial⟩
  have hr : r = afterCalls calls last := same
  have final : Books e c.settings.multiturn r.calls.reverse r.state := by
    have ok : last.result = .ok reason := by
      rw [← h]
      exact (congrArg (·.result) hr).symm
    rw [hr]
    cases ends with
    | overBudget =>
      rw [afterCalls, calls_stopOverBudget, List.append_nil]
      exact ⟨books.passes, books.mode, books.balance, books.accounted⟩
    | unmarked => cases ok
    | quits =>
      rw [afterCalls, stop, List.append_nil]
      exact ⟨books.passes, books.mode, books.balance, books.accounted⟩
    | failed => cases ok
  refine ⟨final.passes, final.accounted, ?_⟩
  rw [final.passes]
  exact atEnds_journal_iff final.accounted

/-- Two texts in a multi-turn session that is silent. -/
def silentPair : Run Cache Unit :=
  ((silent 1 2 ⟨100, 10, Single.one, 1, false, true⟩).answeredBy (.silent 1)).run (Line.bytes "a\nb\n")
    (.start ⟨100, 10, Single.one, 1, false, true⟩ Rng.fixed Cache.empty ()) (.fresh none none)

theorem silentPair_atEnds_iff_balanced :
    silentPair.result = .ok .endOfInput ∧
      silentPair.state.generator.passes = journal 1 silentPair.calls.reverse ∧
      AllAccounted 1 true silentPair.calls.reverse ∧
      (AtEnds silentPair.state.generator.passes ↔ Balanced 1 true silentPair.calls.reverse) := by
  have ended : silentPair.result = .ok .endOfInput := by decide +kernel
  exact ⟨ended, atEnds_iff_balanced (silent 1 2 ⟨100, 10, Single.one, 1, false, true⟩) (.silent 1)
    (Line.bytes "a\nb\n") Rng.fixed () (.fresh none none) ended⟩

/-- The second text is read at position three, but the model remembers two tokens: the end of the first
answer was counted and not read. -/
theorem silentPair_not_atEnds :
    silentPair.result = .ok .endOfInput ∧
      silentPair.state.generator.passes = [⟨[2], 3⟩, ⟨[0, 2], 0⟩] ∧
      ¬ AtEnds silentPair.state.generator.passes := by
  have passes : silentPair.state.generator.passes = [⟨[2], 3⟩, ⟨[0, 2], 0⟩] := by decide +kernel
  refine ⟨by decide +kernel, passes, ?_⟩
  rw [passes]
  exact fun h => absurd (h.1 (by decide)) (by decide)

end Conversation

end PromptLoop
