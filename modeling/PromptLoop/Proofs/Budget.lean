import Mathlib.Control.Monad.Basic
import PromptLoop.Proofs.Failures

/-!
# The token budget

The budget is looked at in four places: before a line is read, when a prompt is handed to the engine, when
the engine takes it, and before every token that is sampled. The first two look at the counters of the
session, the last two at the position that the engine keeps. The counters never run ahead of the position
(`Turn.Within`), so all four keep the session within its budget, whatever else goes wrong
(`Conversation.runs_within_budget`).
-/

namespace PromptLoop

variable {γ δ π : Type}

/-! ### The engine's own errors -/

/-- The errors of the engine about a prompt. -/
def Engine.IsRefusal (error : SessionError) : Prop :=
  error = emptyPrompt ∨ ∃ size startPos maxTokens, error = overrun size startPos maxTokens

theorem head_append {a b : String} {c : Char} (h : a.toList.head? = some c) :
    (a ++ b).toList.head? = some c := by
  rw [String.toList_append, List.head?_append, h]
  rfl

theorem ReadFault.head_message (fault : ReadFault) :
    fault.message.toList.head? = some 'i' ∨ fault.message.toList.head? = some 'u' ∨
      fault.message.toList.head? = some 's' := by
  cases fault with
  | noEmbedding =>
    have head : "index-select invalid index ".toList.head? = some 'i' := by decide +kernel
    exact .inl (head_append (head_append (head_append head)))
  | wrongRank =>
    have head : "unexpected rank, expected: ".toList.head? = some 'u' := by decide +kernel
    exact .inr (.inl (head_append (head_append (head_append (head_append (head_append (head_append head)))))))
  | shapesDiffer =>
    have head : "shape mismatch in ".toList.head? = some 's' := by decide +kernel
    exact .inr (.inr (head_append (head_append (head_append (head_append (head_append head))))))
  | normDiffers =>
    have head : "shape mismatch in rms-norm ".toList.head? = some 's' := by decide +kernel
    exact .inr (.inr (head_append (head_append (head_append head))))
  | blocksDiffer =>
    have head : "input tensor Layout \x7b shape: ".toList.head? = some 'i' := by decide +kernel
    exact .inl (head_append (head_append (head_append (head_append (head_append head)))))

/-- No fault of a model reads like an error of the engine about a prompt. -/
theorem Engine.not_isRefusal_of_fault (fault : ReadFault) : ¬ IsRefusal (.generation fault.message) := by
  intro refusal
  have head : fault.message.toList.head? = some 'e' ∨ fault.message.toList.head? = some 'p' := by
    rcases refusal with empty | ⟨size, startPos, maxTokens, long⟩
    · rw [SessionError.generation.inj empty]
      exact .inl (by decide +kernel)
    · have head : "prompt of ".toList.head? = some 'p' := by decide +kernel
      rw [SessionError.generation.inj long]
      exact .inr (head_append (head_append (head_append (head_append (head_append (head_append head))))))
  rcases fault.head_message with h | h | h <;> rw [h] at head <;> revert head <;> decide

/-- An error about a prompt can only come from the tokenizer. -/
theorem Failure.of_isRefusal {tokenizer : Tokenizer δ} {e : Engine} {error : SessionError}
    (h : Failure tokenizer e error) (refusal : Engine.IsRefusal error) :
    (∃ text, tokenizer.encode text = .error error) ∨
      ∃ state token, (tokenizer.step state token).1 = .error error := by
  cases h with
  | full => rcases refusal with h | ⟨_, _, _, h⟩ <;> cases h
  | encoding failed => exact .inl ⟨_, failed⟩
  | decoding failed => exact .inr ⟨_, _, failed⟩
  | reading => exact absurd refusal (Engine.not_isRefusal_of_fault _)

/-! ### Events -/

/-- The counters of a turn are not ahead of a position, they never exceeded the budget, and so many events
were received. -/
structure Turn.Within (maxTokens position count : Nat) (t : Turn δ π) : Prop where
  position : t.session.contextPos ≤ position
  receipts : ∀ r ∈ t.receipts, r.session.contextPos ≤ maxTokens
  count : t.receipts.length = count

theorem Turn.Within.receive {setup : TurnSetup δ π} {maxTokens position count : Nat} {event : Event}
    {rng rng' : Rng} {t t' : Turn δ π} {answer : Answer} (h : t.Within maxTokens position count)
    (room : position < maxTokens) (received : (Turn.sink setup).receive event rng t = (answer, rng', t')) :
    t'.Within maxTokens (position + 1) (count + 1) := by
  obtain ⟨session, -, -, receipts⟩ := Turn.receive_received received
  have counted : t'.session.contextPos ≤ position + 1 := by
    rw [session]
    exact Nat.le_trans Session.contextPos_after_le (Nat.add_le_add_right h.position 1)
  refine ⟨counted, ?_, ?_⟩
  · rw [receipts]
    intro r hr
    rcases List.mem_cons.mp hr with rfl | hr
    · exact Nat.le_trans counted room
    · exact h.receipts r hr
  · rw [receipts, List.length_cons, h.count]

/-- Events that there is room for, up to the first failure. -/
theorem Turn.Within.feed {setup : TurnSetup δ π} {maxTokens position count : Nat} {events : List Event}
    {rng rng' : Rng} {t t' : Turn δ π} {result : Except SessionError Unit}
    (h : t.Within maxTokens position count) (room : position + events.length ≤ maxTokens)
    (fed : (Turn.sink setup).feed events rng t = (result, rng', t')) :
    ∃ n ≤ events.length, t'.Within maxTokens (position + n) (count + n) ∧
      (result = .ok () → n = events.length) := by
  induction events generalizing rng t position count with
  | nil =>
    cases fed
    exact ⟨0, Nat.le_refl 0, h, fun _ => rfl⟩
  | cons event events ih =>
    rw [List.length_cons] at room
    rw [Sink.feed] at fed
    rcases received : (Turn.sink setup).receive event rng t with ⟨error | goOn, rng₁, t₁⟩ <;>
      rw [received] at fed
    · cases fed
      exact ⟨1, by rw [List.length_cons]; omega, h.receive (by omega) received, fun ok => by cases ok⟩
    · obtain ⟨n, le, within, all⟩ := ih (h.receive (by omega) received) (by omega) fed
      refine ⟨n + 1, Nat.succ_le_succ le, ?_, fun ok => congrArg (· + 1) (all ok)⟩
      rwa [Nat.add_assoc, Nat.add_assoc, Nat.add_comm 1 n] at within

/-! ### Answers -/

namespace Engine

variable {e : Engine} {request : Request} {setup : TurnSetup δ π}

/-- Sampling stands within the budget: one event for each position, and no more positions than are left. -/
structure Standing.Within (request : Request) (p : Standing (Turn δ π)) : Prop where
  turn : p.sink.Within request.settings.maxTokens p.position (p.position - request.startPos)
  position : p.position ≤ request.settings.maxTokens
  start : request.startPos + request.prompt.length ≤ p.position
  left : p.position + p.left =
    request.startPos + request.prompt.length + request.settings.maxGeneratedTokens

theorem Standing.Reads.within {p p' : Standing (Turn δ π)} {event : Event}
    (reads : p.Reads e request (Turn.sink setup) event p') (h : p.Within request) : p'.Within request := by
  obtain ⟨some_left, below⟩ := reads.room
  have turn := h.turn.receive below reads.received
  have := h.start
  have := h.left
  refine ⟨?_, ?_, ?_, ?_⟩
  · rw [reads.position, show p.position + 1 - request.startPos = p.position - request.startPos + 1 by omega]
    exact turn
  · rw [reads.position]
    exact below
  · rw [reads.position]
    omega
  · rw [reads.position, reads.left]
    omega

/-- The events of a whole turn are within the budget. -/
structure WithinBudget (request : Request) (t : Turn δ π) : Prop where
  contextPos : t.session.contextPos ≤ request.settings.maxTokens
  receipts : ∀ r ∈ t.receipts, r.session.contextPos ≤ request.settings.maxTokens
  count : t.receipts.length ≤ request.prompt.length +
    min request.settings.maxGeneratedTokens
      (request.settings.maxTokens - request.startPos - request.prompt.length)

theorem Standing.Within.withinBudget {p : Standing (Turn δ π)} (h : p.Within request) :
    WithinBudget request p.sink := by
  have := h.turn.position
  have := h.turn.count
  have := h.position
  have := h.start
  have := h.left
  exact ⟨by omega, h.turn.receipts, by omega⟩

theorem Standing.Within.turn_received {p : Standing (Turn δ π)} {event : Event} {answer : Answer} {rng : Rng}
    {t : Turn δ π} (h : p.Within request) (room : p.HasRoom request)
    (received : p.received e request (Turn.sink setup) event = (answer, rng, t)) : WithinBudget request t := by
  obtain ⟨some_left, below⟩ := room
  have turn := h.turn.receive below received
  have := turn.position
  have := turn.count
  have := h.start
  have := h.left
  exact ⟨by omega, turn.receipts, by omega⟩

theorem Standing.Ends.withinBudget {p : Standing (Turn δ π)} {ended : CourseEnd Cache (Turn δ π)}
    (ends : p.Ends e request (Turn.sink setup) ended) (h : p.Within request) :
    WithinBudget request ended.sink := by
  cases ends with
  | capped => exact h.withinBudget
  | panicked => exact h.withinBudget
  | ended room _ ends =>
    cases ends with
    | stopped received => exact h.turn_received room received
    | failed received => exact h.turn_received room received
    | unreadable received => exact h.turn_received room received

/-- **Every answer is within the budget** if the prompt is, also an answer that fails. -/
theorem Answered.withinBudget {cache : Cache} {rng : Rng} {t : Turn δ π}
    {ended : CourseEnd Cache (Turn δ π)} (h : Answered e request (Turn.sink setup) cache rng t ended)
    (contextPos : t.session.contextPos ≤ request.startPos) (receipts : t.receipts = [])
    (fits : request.startPos + request.prompt.length ≤ request.settings.maxTokens) :
    WithinBudget request ended.sink := by
  have start : t.Within request.settings.maxTokens request.startPos 0 := by
    refine ⟨contextPos, ?_, ?_⟩
    · rw [receipts]
      exact List.forall_mem_nil _
    · rw [receipts]
      rfl
  have length : (echo request).length = request.prompt.length := List.length_map _
  have untouched : WithinBudget request t :=
    ⟨by omega, start.receipts, by rw [start.count]; exact Nat.zero_le _⟩
  cases h with
  | refused => exact untouched
  | unreadable => exact untouched
  | unheard _ _ heard =>
    obtain ⟨n, le, within, -⟩ := start.feed (by rw [length]; exact fits) heard
    have := within.position
    have := within.count
    exact ⟨by dsimp only; omega, within.receipts, by dsimp only; omega⟩
  | @sampled rng' t' p _ _ _ heard on ends =>
    obtain ⟨n, le, within, all⟩ := start.feed (by rw [length]; exact fits) heard
    obtain rfl := all rfl
    rw [length, Nat.zero_add] at within
    refine ends.withinBudget (on.keeps (fun _ _ _ reads h => reads.within h) ⟨?_, fits, Nat.le_refl _, rfl⟩)
    show t'.Within _ (request.startPos + request.prompt.length)
      (request.startPos + request.prompt.length - request.startPos)
    rw [Nat.add_sub_cancel_left]
    exact within

end Engine

/-! ### Runs -/

/-- A call is within the budget: its prompt is not empty and fits, no event takes the counters over the
budget, and no more tokens follow the prompt than there is room for. -/
structure Call.WithinBudget (settings : InferenceSettings) (call : Call) : Prop where
  nonempty : call.prompt ≠ []
  fits : call.startPos + call.prompt.length ≤ settings.maxTokens
  receipts : ∀ r ∈ call.receipts, r.session.contextPos ≤ settings.maxTokens
  generated : call.generated.length ≤
    min settings.maxGeneratedTokens (settings.maxTokens - call.startPos - call.prompt.length)

/-- A run is within the budget: its calls are, and so is the state that it ends in; if it ends because the
budget is used up, then it is used up exactly; and if it ends with an error about a prompt, that is not
the engine's. -/
structure Run.WithinBudget (settings : InferenceSettings) (tokenizer : Tokenizer δ) (r : Run γ π) :
    Prop where
  calls : ∀ call ∈ r.calls, call.WithinBudget settings
  contextPos : r.state.session.contextPos ≤ settings.maxTokens
  exhausted : r.result = .ok .budgetExhausted → r.state.session.contextPos = settings.maxTokens
  refusals : ∀ error : SessionError, r.result = .error error → Engine.IsRefusal error →
    (∃ text, tokenizer.encode text = .error error) ∨
      ∃ state token, (tokenizer.step state token).1 = .error error

namespace Conversation

/-- A text that is served keeps the session within its budget. -/
theorem turn_withinBudget (c : Conversation γ δ π) (e : Engine) (text : String)
    {s : ConversationState Cache π} (h : s.session.contextPos ≤ c.settings.maxTokens)
    (console : Console) :
    ((c.answeredBy e).turn text s console).state.session.contextPos ≤ c.settings.maxTokens ∧
      ∀ call ∈ ((c.answeredBy e).turn text s console).call, call.WithinBudget c.settings := by
  rcases (c.answeredBy e).turn_cases text s console with served | ⟨prompt, console', -, served⟩
  · rw [served.contextPos, served.call]
    exact ⟨h, nofun⟩
  · obtain ⟨nonempty, fits⟩ := served.within
    have within := (c.answered e prompt.tokens s console').withinBudget (Nat.le_refl _) rfl fits
    rw [served.session, served.call]
    refine ⟨within.contextPos, ?_⟩
    rintro call ⟨⟩
    have count : ((c.answeredBy e).courseEnd prompt.tokens s console').sink.receipts.length ≤
      prompt.tokens.length + min c.settings.maxGeneratedTokens
        (c.settings.maxTokens - s.session.contextPos - prompt.tokens.length) := within.count
    refine ⟨nonempty, fits, fun r hr => within.receipts r (List.mem_reverse.mp hr), ?_⟩
    rw [Call.generated, List.length_drop, List.length_reverse]
    exact Nat.sub_le_iff_le_add'.mpr count

/-- The session is within its budget after some calls. -/
structure CallsWithinBudget (settings : InferenceSettings) (calls : List Call) (top : LoopTop γ π) :
    Prop where
  calls : ∀ call ∈ calls, call.WithinBudget settings
  contextPos : top.state.session.contextPos ≤ settings.maxTokens

theorem CallsWithinBudget.goesOn {c : Conversation γ δ π} {e : Engine} {calls : List Call}
    {top top' : LoopTop Cache π} {call : Option Call} (goes : (c.answeredBy e).GoesOn top call top')
    (h : CallsWithinBudget c.settings calls top) :
    CallsWithinBudget c.settings (calls ++ call.toList) top' := by
  cases goes with
  | cleared =>
    rw [Option.toList_none, List.append_nil]
    exact ⟨h.calls, Nat.zero_le _⟩
  | @served console text opens command result =>
    obtain ⟨contextPos, called⟩ := c.turn_withinBudget e text h.contextPos console
    refine ⟨fun call hc => ?_, contextPos⟩
    rcases List.mem_append.mp hc with hc | hc
    · exact h.calls call hc
    · exact called call (Option.mem_toList.mp hc)

theorem run_withinBudget (c : Conversation γ δ π) (e : Engine) (input : List UInt8)
    (s : ConversationState Cache π) (console : Console)
    (h : s.session.contextPos ≤ c.settings.maxTokens) :
    ((c.answeredBy e).run input s console).WithinBudget c.settings c.tokenizer := by
  have refusals : ∀ error : SessionError, ((c.answeredBy e).run input s console).result = .error error →
      Engine.IsRefusal error → (∃ text, c.tokenizer.encode text = .error error) ∨
        ∃ state token, (c.tokenizer.step state token).1 = .error error :=
    fun error failed => (c.run_failure e input s console failed).of_isRefusal
  obtain ⟨calls, top, last, within, ends, same⟩ := runFrom_ends (c := c.answeredBy e)
    (P := CallsWithinBudget c.settings) (fun _ _ _ _ goes h => h.goesOn goes)
    ⟨Line.lines input, s, console⟩ ⟨List.forall_mem_nil _, h⟩
  have same : (c.answeredBy e).run input s console = afterCalls calls last := same
  rw [same] at refusals ⊢
  cases ends with
  | overBudget exhausted =>
    have full : top.state.session.contextPos = c.settings.maxTokens :=
      Nat.le_antisymm within.contextPos exhausted
    refine ⟨?_, within.contextPos, fun _ => full, refusals⟩
    rw [afterCalls, calls_stopOverBudget, List.append_nil]
    exact within.calls
  | unmarked =>
    refine ⟨?_, within.contextPos, fun reason => (by cases reason), refusals⟩
    rw [afterCalls, stop, List.append_nil]
    exact within.calls
  | quits _ command =>
    refine ⟨?_, within.contextPos, ?_, refusals⟩
    · rw [afterCalls, stop, List.append_nil]
      exact within.calls
    · intro reason
      rw [Except.ok.inj reason] at command
      rcases command_cases top with h | h | h | ⟨_, h⟩ <;> rw [h] at command <;> cases command
  | @failed error console text _ _ result =>
    obtain ⟨contextPos, called⟩ := c.turn_withinBudget e text within.contextPos console
    refine ⟨fun call hc => ?_, contextPos, fun reason => (by cases reason), refusals⟩
    rcases List.mem_append.mp hc with hc | hc
    · exact within.calls call hc
    · rw [afterCall, stop, List.append_nil] at hc
      exact called call (Option.mem_toList.mp hc)

/-- **The token budget**: runs one after the other, from a new session on, stay within the budget, whatever
the inputs, the outputs, the settings, the policy, the filter and the tokenizer are, and also after runs
that failed. -/
theorem runs_within_budget (c : Conversation γ δ π) (e : Engine) (rng : Rng) (policy : π)
    (inputs : List (List UInt8 × Console)) :
    ∀ r ∈ (c.answeredBy e).runs inputs (.start c.settings rng Cache.empty policy),
      r.WithinBudget c.settings c.tokenizer := by
  refine runs_keep (P := fun s => s.session.contextPos ≤ c.settings.maxTokens) ?_ inputs (Nat.zero_le _)
  intro input s console within
  have run := c.run_withinBudget e input s console within
  exact ⟨run, run.contextPos⟩

/-- A session for four tokens that is silent: the first run leaves room for one, the second takes it. -/
theorem silent_runs_within_budget :
    let settings : InferenceSettings := ⟨4, 10, Single.one, 1, false, true⟩
    let c := silent 1 2 settings
    ∃ r ∈ (c.answeredBy (.silent 1)).runs
        [(Line.bytes "a\n", .fresh none none), (Line.bytes "b\n", .fresh none none)]
        (.start settings Rng.fixed Cache.empty ()),
      r.result = .ok .budgetExhausted ∧ r.WithinBudget settings c.tokenizer := by
  intro settings c
  have exhausted : ((c.answeredBy (.silent 1)).runs
      [(Line.bytes "a\n", .fresh none none), (Line.bytes "b\n", .fresh none none)]
      (.start settings Rng.fixed Cache.empty ())).map (·.result) =
        [.ok .endOfInput, .ok .budgetExhausted] := by decide +kernel
  obtain ⟨r, mem, result⟩ := List.mem_map.mp
    (exhausted ▸ List.mem_cons_of_mem _ (List.mem_singleton_self _))
  exact ⟨r, mem, result, runs_within_budget c (.silent 1) Rng.fixed ()
    [(Line.bytes "a\n", .fresh none none), (Line.bytes "b\n", .fresh none none)] r mem⟩

end Conversation

end PromptLoop
