import PromptLoop.Proofs.Candidates
import PromptLoop.Proofs.EngineTurns
import PromptLoop.Proofs.Unseeded

/-!
# Greedy conversations

An engine that keeps only the most likely token has nothing to draw: no choice that it makes has two
candidates (`Engine.answer_drawless`). Nor does it ever look at the flag that says where random numbers come
from (`Engine.answer_unseeded`); only the end of a context does. So a greedy conversation with an engine
leaves nothing to chance, and its seeds have no effect but on the random stream itself
(`Conversation.greedy_alike`).
-/

namespace PromptLoop

/-- A request without its seeds. -/
def Request.unseeded (request : Request) : Request :=
  { request with settings := { request.settings with deterministic := false } }

namespace Engine

variable {e : Engine} {request : Request}

/-! ### Greedy engines draw nothing -/

theorem settle_drawless {γ : Type} {choice : Choice} {after : γ} {next : Event → Course γ}
    (settled : ∀ wheel first others, choice ≠ .drawn wheel first others)
    (h : ∀ event, (next event).Drawless) : (e.settle choice after next).Drawless := by
  cases choice with
  | impossible => exact h _
  | certain candidate => exact h _
  | drawn wheel first others => exact absurd rfl (settled wheel first others)
  | overflowing => trivial

theorem sampleFrom_drawless (greedy : request.settings.topK ≤ 1) (left position : Nat) (logits : List Single)
    (cache : Cache) : (e.sampleFrom request left position logits cache).Drawless := by
  induction left generalizing position logits cache with
  | zero => trivial
  | succ left ih =>
    rw [sampleFrom]
    split
    · trivial
    refine settle_drawless ?_ fun event answer => ?_
    · -- At most one candidate leads, and a wheel takes two.
      intro wheel first others drawn
      have several := Sampling.two_le_of_drawn drawn
      omega
    · rcases answer with error | goOn
      · trivial
      dsimp only
      split
      · trivial
      rcases e.model.forward cache [event.token] position with ⟨error | logits', cache'⟩
      · trivial
      · exact ih (position + 1) logits' cache'

/-- **A greedy engine draws no words.** -/
theorem answer_drawless (greedy : request.settings.topK ≤ 1) (cache : Cache) :
    (e.answer request cache).Drawless := by
  unfold answer
  dsimp only
  split
  · trivial
  split
  · trivial
  rcases e.model.forward cache request.prompt request.startPos with ⟨error | logits, cache'⟩
  · trivial
  · exact (sampleFrom_drawless greedy _ _ logits cache').emitAll _

/-! ### Engines do not look at the flag -/

theorem sampleFrom_unseeded (left position : Nat) (logits : List Single) (cache : Cache) :
    e.sampleFrom request.unseeded left position logits cache =
      e.sampleFrom request left position logits cache := by
  induction left generalizing position logits cache with
  | zero => rfl
  | succ left ih =>
    -- The flag is in the settings that are handed on from token to token, hence the induction.
    simp only [sampleFrom, ih]
    rfl

/-- **An engine answers a request in the same way without the seeds.** -/
theorem answer_unseeded (e : Engine) (request : Request) (cache : Cache) :
    e.answer request.unseeded cache = e.answer request cache := by
  unfold answer
  simp only [sampleFrom_unseeded]
  rfl

end Engine

namespace Conversation

variable {δ π : Type} {c : Conversation Cache δ π} {e : Engine}

/-- A greedy conversation with an engine leaves nothing to chance. -/
theorem chanceless_of_greedy (engine : c.generator = e.generator) (greedy : c.settings.topK ≤ 1) :
    c.Chanceless := by
  constructor
  · intro prompt startPos state
    rw [engine]
    exact Engine.answer_drawless greedy state
  · intro prompt startPos state
    rw [engine]
    exact e.answer_unseeded (c.request prompt startPos) state

/-- **Greedy conversations do not depend on their seeds.** Two runs with an engine that start from states with
different random streams, one perhaps deterministic and the other not, come to the same in everything but the
stream: the result, the state, the outputs, and the calls with what was heard in them. And each is at every
line where the other is. -/
theorem greedy_alike (engine : c.generator = e.generator) (greedy : c.settings.topK ≤ 1)
    (deterministic deterministic' : Bool) {s s' : ConversationState Cache π} (alike : s'.unseeded = s.unseeded)
    (input : List UInt8) (console : Console) :
    ((c.seeded deterministic').run input s' console).unseeded =
        ((c.seeded deterministic).run input s console).unseeded ∧
      ∀ calls top, (c.seeded deterministic).Reaches ⟨Line.lines input, s, console⟩ calls top →
        ∃ calls' top', (c.seeded deterministic').Reaches ⟨Line.lines input, s', console⟩ calls' top' ∧
          calls'.map Call.unseeded = calls.map Call.unseeded ∧ top'.unseeded = top.unseeded := by
  have chanceless : ∀ b, (c.seeded b).Chanceless := fun _ => chanceless_of_greedy engine greedy
  have tops : (LoopTop.mk (Line.lines input) s' console).unseeded =
      (LoopTop.mk (Line.lines input) s console).unseeded :=
    congrArg (LoopTop.mk (Line.lines input) · console) alike
  constructor
  · have here := runFrom_unseeded (chanceless deterministic) ⟨Line.lines input, s, console⟩
    have there := runFrom_unseeded (chanceless deterministic') ⟨Line.lines input, s', console⟩
    rw [tops] at there
    exact there.symm.trans here
  · intro calls top reaches
    exact reaches.alike (chanceless deterministic) (chanceless deterministic') rfl tops

/-- A deterministic session and one that is not, from different seeds, of two lines each. At the end of an
answer only the first stream starts over; all else is the same. -/
theorem silent_greedy_alike :
    let c := silent 1 2 ⟨100, 10, Single.one, 1, true, false⟩
    let input := Line.bytes "a\nb\n"
    let console := Console.fresh none none
    let s := ConversationState.start (c.seeded true).settings (Rng.ofSeed 7) Cache.empty ()
    let s' := ConversationState.start (c.seeded false).settings (Rng.ofSeed 9) Cache.empty ()
    let r := (c.seeded true).run input s console
    let r' := (c.seeded false).run input s' console
    r.state.rng = Rng.fixed ∧ r'.state.rng = Rng.ofSeed 9 ∧
      r.calls.map (fun call => call.receipts.map (·.event.token)) = [[0, 2, 1], [0, 2, 1]] ∧
      r'.unseeded = r.unseeded := by
  intro c input console s s' r r'
  have streams : r.state.rng = Rng.fixed ∧ r'.state.rng = Rng.ofSeed 9 ∧
      r.calls.map (fun call => call.receipts.map (·.event.token)) = [[0, 2, 1], [0, 2, 1]] := by decide +kernel
  have engine : c.generator = (Engine.silent 1).generator := rfl
  have alike : s'.unseeded = s.unseeded := rfl
  exact ⟨streams.1, streams.2.1, streams.2.2, (greedy_alike engine (by decide) true false alike input console).1⟩

end Conversation

end PromptLoop
