import Mathlib.Data.List.Infix
import PromptLoop.Proofs.Shapes

/-!
# What the caps do

Two caps bound a generation: the tokens of one turn and the tokens of the session. They only cut it off. With
larger caps the same events are emitted first, and more can follow only if there was no more room under the
smaller caps (`Engine.emissions_truncated`).

The two generations go through the same steps, each with its own room left. So the proof follows both at once,
and a step that is taken under the smaller caps is taken under the larger ones (`Standing.truncates`). That a
token was already read for which there is no room any more shows in neither of them.
-/

namespace PromptLoop

/-! ### Lists that are cut off -/

/-- `Truncates n xs ys`: the list `xs` is `ys`, or what is left of `ys` after its first `n` members. -/
inductive Truncates {α : Type} : Nat → List α → List α → Prop where
  /-- Nothing is cut off. -/
  | whole {n : Nat} {xs : List α} : Truncates n xs xs
  /-- There is no room for anything. -/
  | full {ys : List α} : Truncates 0 [] ys
  /-- There is room for one more. -/
  | cons {n : Nat} {x : α} {xs ys : List α} : Truncates n xs ys → Truncates (n + 1) (x :: xs) (x :: ys)

namespace Truncates

variable {α : Type} {n : Nat} {xs ys zs : List α}

theorem isPrefix (h : Truncates n xs ys) : xs <+: ys := by
  induction h with
  | whole => exact List.prefix_rfl
  | full => exact List.nil_prefix
  | cons _ ih => exact List.cons_prefix_cons.mpr ⟨rfl, ih⟩

/-- A list that is really cut off fills its room. -/
theorem length_eq (h : Truncates n xs ys) (differ : xs ≠ ys) : xs.length = n := by
  induction h with
  | whole => exact absurd rfl differ
  | full => rfl
  | cons _ ih => rw [List.length_cons, ih fun same => differ (by rw [same])]

end Truncates

/-- The request with other caps on the tokens of one turn and on those of the session. -/
def Request.withCaps (request : Request) (turn session : Nat) : Request :=
  { request with
    settings := { request.settings with maxGeneratedTokens := turn, maxTokens := session } }

namespace Engine

variable {σ : Type}

/-! ### Sampling under two caps -/

namespace Standing

variable (e : Engine) (request : Request) (sink : Sink σ)

/-- The events that are still emitted, with the answers to them. -/
def emissions (p : Standing σ) : List Emission :=
  (p.happenings e request sink).filterMap Happening.emission?

/-- How many tokens there is still room for. -/
def roomLeft (p : Standing σ) : Nat := min p.left (request.settings.maxTokens - p.position)

variable {e request sink}

theorem emissions_of_not_hasRoom {p : Standing σ} (h : ¬ p.HasRoom request) : p.emissions e request sink = [] := by
  rw [emissions, happenings_of_not_hasRoom h]
  rfl

theorem roomLeft_of_not_hasRoom {p : Standing σ} (h : ¬ p.HasRoom request) : p.roomLeft request = 0 := by
  simp only [HasRoom, not_and_or, Nat.not_lt, Nat.le_zero] at h
  unfold roomLeft
  omega

theorem emissions_of_panic {p : Standing σ} (room : p.HasRoom request) {panic : Panic}
    (panics : (p.sampled e request).1 = .error panic) : p.emissions e request sink = [] := by
  rw [emissions, happenings_of_panic room panics]
  rfl

theorem Reads.emissions {p p' : Standing σ} {event : Event} (reads : p.Reads e request sink event p') :
    p.emissions e request sink =
      ⟨event, (p.received e request sink event).1⟩ :: p'.emissions e request sink := by
  rw [Standing.emissions, reads.happenings, List.filterMap_append, sampling_emissions]
  rfl

theorem Reads.roomLeft {p p' : Standing σ} {event : Event} (reads : p.Reads e request sink event p') :
    p.roomLeft request = p'.roomLeft request + 1 := by
  have := reads.room.1
  have := reads.room.2
  simp only [Standing.roomLeft, reads.left, reads.position]
  omega

theorem EndsAt.emissions {p : Standing σ} {event : Event} {ended : CourseEnd Cache σ} (room : p.HasRoom request)
    (sampled : (p.sampled e request).1 = .ok event) (ends : p.EndsAt e request sink event ended) :
    p.emissions e request sink = [⟨event, (p.received e request sink event).1⟩] := by
  rw [Standing.emissions, ends.happenings room sampled, sampling_emissions]

variable {turn session : Nat}

theorem HasRoom.withCaps {p : Standing σ} (room : p.HasRoom request)
    (session_le : request.settings.maxTokens ≤ session) {left : Nat} (left_le : p.left ≤ left) :
    { p with left := left }.HasRoom (request.withCaps turn session) :=
  ⟨Nat.lt_of_lt_of_le room.1 left_le, Nat.lt_of_lt_of_le room.2 session_le⟩

/-- A token that is sampled and read is so with more room, too. -/
theorem Reads.withCaps {p p' : Standing σ} {event : Event} (reads : p.Reads e request sink event p')
    (session_le : request.settings.maxTokens ≤ session) {left : Nat} (left_le : p.left ≤ left) :
    { p with left := left }.Reads e (request.withCaps turn session) sink event { p' with left := left - 1 } where
  room := reads.room.withCaps session_le left_le
  left := rfl
  position := reads.position
  sampled := reads.sampled
  received := reads.received
  going := reads.going
  read := reads.read

/-- An event that is the last without the caps having been reached is so with more room, too. -/
theorem EndsAt.withCaps {p : Standing σ} {event : Event} {ended : CourseEnd Cache σ}
    (ends : p.EndsAt e request sink event ended) (left : Nat) :
    { p with left := left }.EndsAt e (request.withCaps turn session) sink event ended := by
  cases ends with
  | stopped received last => exact .stopped received last
  | failed received => exact .failed received
  | unreadable received going fault? => exact .unreadable received going fault?

/-- **Where sampling stands under smaller caps** it stands under larger ones, and goes the same way as long as
there is room. -/
theorem truncates (session_le : request.settings.maxTokens ≤ session) {p : Standing σ} {left : Nat}
    (left_le : p.left ≤ left) :
    Truncates (p.roomLeft request) (p.emissions e request sink)
      ({ p with left := left }.emissions e (request.withCaps turn session) sink) := by
  induction hl : p.left generalizing p left with
  | zero =>
    have full : ¬ p.HasRoom request := fun room => absurd hl (Nat.ne_of_gt room.1)
    rw [emissions_of_not_hasRoom full, roomLeft_of_not_hasRoom full]
    exact .full
  | succ n ih =>
    rcases p.run_cases e request sink with ends | ⟨event, p', reads, -⟩
    · generalize p.run e request sink = ended at ends
      cases ends with
      | capped full =>
        rw [emissions_of_not_hasRoom full, roomLeft_of_not_hasRoom full]
        exact .full
      | panicked room panics =>
        -- Sampling panics under the larger caps, too.
        rw [emissions_of_panic room panics, emissions_of_panic (room.withCaps session_le left_le) panics]
        exact .whole
      | ended room sampled ends =>
        -- Both courses end with the same token.
        rw [ends.emissions room sampled,
          (ends.withCaps left).emissions (room.withCaps session_le left_le) sampled]
        exact .whole
    · rw [reads.emissions, (reads.withCaps session_le left_le).emissions, reads.roomLeft]
      refine .cons (ih ?_ ?_)
      · rw [reads.left]
        exact Nat.sub_le_sub_right left_le 1
      · rw [reads.left, hl, Nat.add_sub_cancel]

end Standing

/-! ### Requests with other caps -/

variable {request : Request} {turn session : Nat}

/-- A request that fits is not turned down with larger caps. -/
theorem refusal?_withCaps (session_le : request.settings.maxTokens ≤ session)
    (fits : request.startPos + request.prompt.length ≤ request.settings.maxTokens) :
    refusal? (request.withCaps turn session) = refusal? request := by
  have wide : request.startPos + request.prompt.length ≤ session := fits.trans session_le
  unfold refusal?
  by_cases empty : request.prompt.isEmpty
  · rw [if_pos empty, if_pos (show (request.withCaps turn session).prompt.isEmpty from empty)]
  · rw [if_neg empty, if_neg (show ¬ (request.withCaps turn session).prompt.isEmpty from empty),
      if_neg (Nat.not_lt.mpr fits)]
    exact if_neg (Nat.not_lt.mpr wide)

/-- **Caps only truncate.** Under smaller caps a generation emits the events that it emits under larger ones, or
the first of them: the events of the prompt and then as many as there is room for. -/
theorem emissions_truncated (e : Engine) (request : Request) {turn session : Nat}
    (turn_le : request.settings.maxGeneratedTokens ≤ turn) (session_le : request.settings.maxTokens ≤ session)
    (fits : request.startPos + request.prompt.length ≤ request.settings.maxTokens) (cache : Cache)
    (sink : Sink σ) (rng : Rng) (state : σ) :
    let shorter := (e.generator.generate request cache).emissions sink rng state
    let longer := (e.generator.generate (request.withCaps turn session) cache).emissions sink rng state
    shorter <+: longer ∧
      (shorter ≠ longer → ∃ echoed generated : List Emission, shorter = echoed ++ generated ∧
        echoed.map (·.event) = request.prompt.map .echo ∧ generated.length = room request) := by
  intro shorter longer
  have short : shorter = ((e.answer request cache).happenings sink rng state).filterMap Happening.emission? := rfl
  have long : longer = ((e.answer (request.withCaps turn session) cache).happenings sink rng
    state).filterMap Happening.emission? := rfl
  have refusal : refusal? (request.withCaps turn session) = refusal? request := refusal?_withCaps session_le fits
  rcases hr : refusal? request with _ | error
  swap
  · have same : shorter = longer := by
      rw [short, long, happenings_answer_of_refusal e hr, happenings_answer_of_refusal e (refusal.trans hr)]
    exact ⟨same ▸ List.prefix_rfl, fun differ => absurd same differ⟩
  rcases hf : e.model.fault? cache request.prompt request.startPos with _ | fault
  swap
  · have same : shorter = longer := by
      rw [short, long, happenings_answer_of_fault e hr hf, happenings_answer_of_fault e (refusal.trans hr) hf]
    exact ⟨same ▸ List.prefix_rfl, fun differ => absurd same differ⟩
  rw [happenings_answer e hr hf] at short
  rw [happenings_answer e (refusal.trans hr) hf, show echo (request.withCaps turn session) = echo request from rfl]
    at long
  rcases heard : sink.feed (echo request) rng state with ⟨error | ⟨⟩, rng', state'⟩ <;> rw [heard] at short long
  · -- The receiver fails at a token of the prompt.
    have same : shorter = longer := short.trans long.symm
    exact ⟨same ▸ List.prefix_rfl, fun differ => absurd same differ⟩
  obtain ⟨echoed, same, events, -⟩ := Sink.emissions_hearing heard
  have truncates : Truncates (room request)
      ((e.opening request cache rng' state').emissions e request sink)
      ((e.opening (request.withCaps turn session) cache rng' state').emissions e
        (request.withCaps turn session) sink) := by
    rw [room, Nat.sub_sub]
    exact Standing.truncates session_le (show (e.opening request cache rng' state').left ≤ turn from turn_le)
  rw [List.filterMap_append, same] at short long
  rw [short, long]
  refine ⟨List.prefix_append_right_inj echoed |>.mpr truncates.isPrefix, fun differ => ?_⟩
  exact ⟨echoed, _, rfl, events, truncates.length_eq fun equal => differ (congrArg (echoed ++ ·) equal)⟩

/-- With room for one token after the prompt the engine emits one, and with more room it emits that one first. -/
theorem steady_emissions_truncated :
    let request := steadyRequest.withCaps 1 3
    let shorter := (steady.generator.generate request Cache.empty).emissions thirdOnly Rng.fixed 0
    let longer := (steady.generator.generate (request.withCaps 5 100) Cache.empty).emissions thirdOnly Rng.fixed 0
    (shorter.length = 3 ∧ longer.length = 4) ∧
      request.settings.maxGeneratedTokens ≤ 5 ∧ request.settings.maxTokens ≤ 100 ∧
      request.startPos + request.prompt.length ≤ request.settings.maxTokens ∧
      shorter <+: longer ∧
        (shorter ≠ longer → ∃ echoed generated : List Emission, shorter = echoed ++ generated ∧
          echoed.map (·.event) = [Event.echo 0, Event.echo 1] ∧ generated.length = 1) :=
  ⟨by decide +kernel, by decide, by decide, by decide,
    emissions_truncated steady (steadyRequest.withCaps 1 3) (by decide) (by decide) (by decide) Cache.empty
      thirdOnly Rng.fixed 0⟩

end Engine

end PromptLoop
