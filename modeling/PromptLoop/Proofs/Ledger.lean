import Mathlib.Data.List.Basic
import PromptLoop.Proofs.Counting

/-!
# Ledgers

A ledger is a list of what is done to the counters of a session: a turn begins, an event is heard, the
context is forgotten on a command, or a round is over. Every posting has the counters after it, and
`Posting.Follows` says what they are, given the counters before it.

`Session.Accounted` is the account of the counters at every posting of a ledger: each counter is a number of
events heard since it last started over (`heardSince`). A ledger whose postings follow one another from the
start of a session has an account (`Posted.accounted`).

## What starts a counter over

The counter of the turn starts over when a turn begins, that of the context when the context is forgotten:
on a command, or at an end of a sequence that is heard after the tokens of the prompt but the last in a
session that does not keep its context. The event at which the context is forgotten is not counted for it.
-/

namespace PromptLoop

/-- Something that is done to the counters of a session. -/
inductive Entry where
  /-- A turn begins, with a prompt of some size. -/
  | begun (promptSize : Nat)
  /-- An event reaches the turn. -/
  | heard (receipt : Receipt)
  /-- The context is forgotten on a command. -/
  | cleared
  /-- A round of the conversation is over. -/
  | rested

/-- An entry, with the counters after it. -/
structure Posting where
  /-- What is done. -/
  entry : Entry
  /-- The counters after it. -/
  session : Session

namespace Posting

/-- The posting of a receipt. -/
def ofReceipt (r : Receipt) : Posting := ⟨.heard r, r.session⟩

/-- The receipt of the event that is heard, if one is. -/
def receipt? (p : Posting) : Option Receipt :=
  match p.entry with
  | .heard r => some r
  | _ => none

/-- The size of the prompt of the turn that begins and its position in the context, if a turn begins. -/
def beginning? (p : Posting) : Option (Nat × Nat) :=
  match p.entry with
  | .begun promptSize => some (promptSize, p.session.contextPos)
  | _ => none

/-- Whether an event is heard. -/
def isHeard (p : Posting) : Bool := p.receipt?.isSome

/-- Whether a turn begins. -/
def isBegun (p : Posting) : Bool := p.beginning?.isSome

/-- Whether the context is forgotten on a command. -/
def isCleared (p : Posting) : Bool := p.entry matches .cleared

/-- Whether the context is forgotten: on a command, or because an end of a sequence is heard after the tokens
of the prompt but the last in a session that does not keep its context. -/
def forgets (eos : Token) (settings : InferenceSettings) (p : Posting) : Bool :=
  p.isCleared || p.receipt?.any fun r =>
    r.event.token == eos && decide (p.session.promptSize ≤ p.session.turnPos) && !settings.multiturn

/-- What a posting does to the counters before it. -/
inductive Follows (eos : Token) (s : Session) : Posting → Prop
  | begun (promptSize : Nat) : Follows eos s ⟨.begun promptSize, s.beginTurn promptSize⟩
  | heard {r : Receipt} (session : r.session = s.after eos r.event.token) (phase : r.phase = r.session.phase) :
      Follows eos s (ofReceipt r)
  | cleared : Follows eos s ⟨.cleared, s.resetContext⟩
  | rested : Follows eos s ⟨.rested, s⟩

end Posting

/-- Postings follow one another, from some counters to others. -/
def Posted (eos : Token) (s : Session) : List Posting → Session → Prop
  | [], s' => s' = s
  | p :: postings, s' => p.Follows eos s ∧ Posted eos p.session postings s'

/-- The number of events that are heard after the last posting with a mark, or at all if there is none. -/
def heardSince (mark : Posting → Bool) (postings : List Posting) : Nat :=
  (postings.reverse.takeWhile fun p => !mark p).countP Posting.isHeard

theorem heardSince_concat (mark : Posting → Bool) (postings : List Posting) (p : Posting) :
    heardSince mark (postings ++ [p]) =
      if mark p then 0 else heardSince mark postings + if p.isHeard then 1 else 0 := by
  unfold heardSince
  rw [List.reverse_concat, List.takeWhile_cons]
  cases mark p with
  | true => rfl
  | false => exact List.countP_cons

/-- The account of the counters of a session, at every posting of a ledger. -/
structure Session.Accounted (eos : Token) (settings : InferenceSettings) (postings : List Posting) : Prop where
  /-- The counter of the turn is the number of events heard since a turn last began. -/
  turnPos : ∀ before p after, postings = before ++ p :: after →
    p.session.turnPos = heardSince Posting.isBegun (before ++ [p])
  /-- The counter of the context is the number of events heard since the context was last forgotten. -/
  contextPos : ∀ before p after, postings = before ++ p :: after →
    p.session.contextPos = heardSince (Posting.forgets eos settings) (before ++ [p])
  /-- The stage after an event is that of reading the prompt as long as no more events have been heard in the
  turn than the prompt has tokens, and then that of showing the answer. -/
  phase : ∀ p ∈ postings, ∀ r, p.entry = .heard r → r.session = p.session ∧
    r.phase = if p.session.turnPos ≤ p.session.promptSize then .prefilling else .streaming
  /-- Within a turn the stage does not go back from showing the answer. -/
  streams : ∀ before r between r' after,
    postings = before ++ Posting.ofReceipt r :: (between ++ Posting.ofReceipt r' :: after) →
      (∀ p ∈ between, p.isBegun = false) → r.phase = .streaming → r'.phase = .streaming
  /-- If the session keeps its context, a turn begins as far behind an earlier one as events were heard in
  between, unless the context was forgotten on a command. -/
  continues : settings.multiturn = true → ∀ before p between p' after,
    postings = before ++ p :: (between ++ p' :: after) → p.isBegun = true → p'.isBegun = true →
      (∀ q ∈ between, q.isCleared = false) →
        p'.session.contextPos = p.session.contextPos + between.countP Posting.isHeard

section

variable {eos : Token} {settings : InferenceSettings} {s s' s'' : Session} {p : Posting}
  {postings postings' : List Posting}

/-! ### Postings one after the other -/

theorem Posted.append (h : Posted eos s postings s') (h' : Posted eos s' postings' s'') :
    Posted eos s (postings ++ postings') s'' := by
  induction postings generalizing s with
  | nil =>
    cases h
    exact h'
  | cons p postings ih =>
    obtain ⟨follows, rest⟩ := h
    exact ⟨follows, ih rest⟩

theorem Posted.split {before after : List Posting} (h : Posted eos s (before ++ p :: after) s') :
    ∃ prior, Posted eos s before prior ∧ p.Follows eos prior ∧ Posted eos p.session after s' := by
  induction before generalizing s with
  | nil =>
    obtain ⟨follows, rest⟩ := h
    exact ⟨s, rfl, follows, rest⟩
  | cons first before ih =>
    obtain ⟨follows, rest⟩ := h
    obtain ⟨prior, upto, next, more⟩ := ih rest
    exact ⟨prior, ⟨follows, upto⟩, next, more⟩

/-- What every posting keeps, a ledger keeps. -/
theorem Posted.keeps {P : List Posting → Session → Prop}
    (step : ∀ before s p, p.Follows eos s → P before s → P (before ++ [p]) p.session)
    (h : Posted eos s postings s') {before : List Posting} (holds : P before s) : P (before ++ postings) s' := by
  induction postings generalizing s before with
  | nil =>
    cases h
    rwa [List.append_nil]
  | cons p postings ih =>
    obtain ⟨follows, rest⟩ := h
    rw [List.append_cons]
    exact ih rest (step before s p follows holds)

/-! ### Counters -/

/-- The counters tally with what has been posted so far. -/
structure Session.Tallies (eos : Token) (settings : InferenceSettings) (postings : List Posting) (s : Session) :
    Prop where
  has : s.Has settings
  turnPos : s.turnPos = heardSince Posting.isBegun postings
  contextPos : s.contextPos = heardSince (Posting.forgets eos settings) postings

theorem Session.start_tallies (eos : Token) (settings : InferenceSettings) :
    (start settings.multiturn settings.deterministic).Tallies eos settings [] :=
  ⟨Session.start_has settings, rfl, rfl⟩

/-- The context is forgotten at an event if an end of a sequence is taken note of and the context is not kept. -/
theorem Posting.forgets_ofReceipt {r : Receipt} (has : s.Has settings)
    (session : r.session = s.after eos r.event.token) :
    (ofReceipt r).forgets eos settings = (s.advance.notesEnd eos r.event.token && !s.multiturn) := by
  rw [Session.notesEnd_eq_after, ← session, has.1, Bool.and_comm (decide _)]
  rfl

/-- **A posting** leaves the counters in tally. -/
theorem Session.Tallies.next (h : s.Tallies eos settings postings) (follows : p.Follows eos s) :
    p.session.Tallies eos settings (postings ++ [p]) := by
  cases follows with
  | begun promptSize =>
    refine ⟨h.has, ?_, ?_⟩ <;> rw [heardSince_concat]
    · rfl
    · exact h.contextPos
  | @heard r session phase =>
    -- The event is counted for the turn in any case, and for the context unless the context ends with it.
    refine ⟨?_, ?_, ?_⟩
    · show r.session.Has settings
      rw [session]
      exact h.has.after
    · rw [heardSince_concat, ← h.turnPos]
      exact (congrArg (·.turnPos) session).trans turnPos_after
    · rw [heardSince_concat, Posting.forgets_ofReceipt h.has session, ← h.contextPos]
      refine (congrArg (·.contextPos) session).trans (contextPos_after.trans ?_)
      simp only [Bool.and_eq_true, Bool.not_eq_true']
      rfl
  | cleared =>
    refine ⟨h.has, ?_, ?_⟩ <;> rw [heardSince_concat]
    · exact h.turnPos
    · rfl
  | rested =>
    refine ⟨h.has, ?_, ?_⟩ <;> rw [heardSince_concat]
    · exact h.turnPos
    · exact h.contextPos

/-- **A ledger** leaves the counters in tally. -/
theorem Posted.tallies (h : Posted eos s postings s') {before : List Posting}
    (tallies : s.Tallies eos settings before) : s'.Tallies eos settings (before ++ postings) :=
  h.keeps (P := fun postings s => s.Tallies eos settings postings)
    (fun _ _ _ follows tallies => tallies.next follows) tallies

/-! ### Stages and positions -/

/-- The stage of a receipt that is posted is the one that its counters imply. -/
theorem Posting.Follows.phase {r : Receipt} (h : p.Follows eos s) (heard : p.entry = .heard r) :
    r.session = p.session ∧ r.phase = p.session.phase := by
  cases h with
  | heard session phase =>
    cases heard
    exact ⟨rfl, phase⟩
  | begun => cases heard
  | cleared => cases heard
  | rested => cases heard

/-- Once the answer has begun, it has begun until the next turn begins. -/
theorem Posted.pastPrompt (h : Posted eos s postings s') (within : ∀ p ∈ postings, p.isBegun = false)
    (past : s.promptSize < s.turnPos) : s'.promptSize < s'.turnPos := by
  induction postings generalizing s with
  | nil =>
    cases h
    exact past
  | cons p postings ih =>
    obtain ⟨follows, rest⟩ := h
    obtain ⟨first, within⟩ := List.forall_mem_cons.mp within
    refine ih rest within ?_
    cases follows with
    | begun => cases first
    | @heard r session =>
      show r.session.promptSize < r.session.turnPos
      rw [session, Session.promptSize_after, Session.turnPos_after]
      exact Nat.lt_succ_of_lt past
    | cleared => exact past
    | rested => exact past

theorem Session.phase_eq_streaming_iff : s.phase = .streaming ↔ s.promptSize < s.turnPos := by
  unfold phase
  split_ifs with h
  · exact ⟨nofun, fun past => absurd h (Nat.not_le.mpr past)⟩
  · exact ⟨fun _ => Nat.not_le.mp h, fun _ => rfl⟩

/-- In a session that keeps its context every event is counted, as long as there is no command. -/
theorem Posted.contextPos (h : Posted eos s postings s') (multiturn : s.multiturn = true)
    (uncleared : ∀ p ∈ postings, p.isCleared = false) :
    s'.contextPos = s.contextPos + postings.countP Posting.isHeard := by
  induction postings generalizing s with
  | nil =>
    cases h
    rfl
  | cons p postings ih =>
    obtain ⟨follows, rest⟩ := h
    obtain ⟨first, others⟩ := List.forall_mem_cons.mp uncleared
    cases follows with
    | begun promptSize => exact ih (s := s.beginTurn promptSize) rest multiturn others
    | @heard r session =>
      have kept : r.session.multiturn = true := by rw [session, Session.multiturn_after, multiturn]
      have counted : r.session.contextPos = s.contextPos + 1 := by
        rw [session, Session.contextPos_after, if_neg (fun forgotten => by simp [multiturn] at forgotten)]
      rw [ih rest kept others, show (Posting.ofReceipt r).session.contextPos = _ from counted,
        List.countP_cons_of_pos rfl]
      omega
    | cleared => cases first
    | rested => exact ih rest multiturn others

/-- Once the answer of a turn is shown, it is shown at every event until the next turn begins. -/
theorem Posted.streaming {before between after : List Posting} {r r' : Receipt}
    (h : Posted eos s (before ++ Posting.ofReceipt r :: (between ++ Posting.ofReceipt r' :: after)) s')
    (within : ∀ p ∈ between, p.isBegun = false) (streaming : r.phase = .streaming) : r'.phase = .streaming := by
  obtain ⟨_, -, follows, rest⟩ := h.split
  obtain ⟨prior, posted, follows', -⟩ := rest.split
  have past : r.session.promptSize < r.session.turnPos :=
    Session.phase_eq_streaming_iff.mp ((follows.phase rfl).2.symm.trans streaming)
  have past' : prior.promptSize < prior.turnPos := posted.pastPrompt within past
  have last : Posted eos prior [Posting.ofReceipt r'] r'.session := ⟨follows', rfl⟩
  have next : r'.session.promptSize < r'.session.turnPos :=
    last.pastPrompt (List.forall_mem_singleton.mpr rfl) past'
  exact (follows'.phase rfl).2.trans (Session.phase_eq_streaming_iff.mpr next)

/-- A turn begins where the context is. -/
theorem Posting.Follows.contextPos (h : p.Follows eos s) (begun : p.isBegun = true) :
    p.session.contextPos = s.contextPos := by
  cases h with
  | begun => rfl
  | heard => cases begun
  | cleared => cases begun
  | rested => cases begun

/-! ### The account -/

/-- A ledger from the start of a session has an account. -/
theorem Posted.accounted (tallies : s.Tallies eos settings []) (h : Posted eos s postings s') :
    Session.Accounted eos settings postings := by
  have upto : ∀ before p after, postings = before ++ p :: after →
      p.session.Tallies eos settings (before ++ [p]) := by
    rintro before p after rfl
    obtain ⟨prior, posted, follows, -⟩ := h.split
    exact (posted.tallies tallies).next follows
  constructor
  · exact fun before p after listed => (upto before p after listed).turnPos
  · exact fun before p after listed => (upto before p after listed).contextPos
  · intro p mem r heard
    obtain ⟨before, after, rfl⟩ := List.append_of_mem mem
    obtain ⟨prior, -, follows, -⟩ := h.split
    exact follows.phase heard
  · rintro before r between r' after rfl within
    exact h.streaming within
  · rintro multiturn before p between p' after rfl - begun uncleared
    obtain ⟨_, -, -, rest⟩ := h.split
    obtain ⟨prior, posted, follows, -⟩ := rest.split
    have kept : p.session.multiturn = true := (upto before p _ rfl).has.1.trans multiturn
    rw [follows.contextPos begun, posted.contextPos kept uncleared]

end

end PromptLoop
