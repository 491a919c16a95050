import Mathlib.Tactic.SplitIfs
import PromptLoop.Conversation

/-!
# The rounds of a conversation

A conversation goes in rounds, one for each line. `Conversation.round` is one round: it ends the run or
leads to the next round. A run is its rounds (`runLines_round`), so what a round keeps, a run keeps. What
a round can do is said once, in `round_cases`.

`Reaches` says that a run comes to the top of its loop with some lines, state and outputs, after some
calls of the generator; what is left of the run then is the run from there (`Reaches.rest`). `runs` is any
number of runs one after the other, each on its own input and outputs.
-/

namespace PromptLoop

/-- The top of the loop of a run. -/
structure LoopTop (γ π : Type) where
  /-- The lines that are not read yet. -/
  lines : List (List UInt8)
  /-- The state. -/
  state : ConversationState γ π
  /-- The outputs. -/
  console : Console

/-- What one round comes to. -/
inductive Round (γ π : Type) where
  /-- The run ends. -/
  | ends (run : Run γ π)
  /-- The run goes on, after a call if one was made. -/
  | goesOn (call : Option Call) (top : LoopTop γ π)

namespace Round

variable {γ π : Type}

/-- The calls that are made in a round. -/
def calls : Round γ π → List Call
  | ends r => r.calls
  | goesOn call _ => call.toList

/-- The outputs after a round. -/
def console : Round γ π → Console
  | ends r => r.console
  | goesOn _ top => top.console

end Round

/-- What the next line asks for; the reason for the end if it ends the run. -/
def LoopTop.command {γ π : Type} (top : LoopTop γ π) : Except Termination Command :=
  match top.lines with
  | [] => .error .endOfInput
  | line :: _ =>
    match Line.text? line with
    | none => .error .endOfInput
    | some text =>
      match Command.ofLine text with
      | .quit => .error .quitCommand
      | command => .ok command

namespace Conversation

variable {γ δ π : Type}

/-- Acts on what a line asks for. -/
def act (c : Conversation γ δ π) (command : Except Termination Command) (rest : List (List UInt8))
    (s : ConversationState γ π) (console : Console) : Round γ π :=
  match command with
  | .error reason => .ends (stop (.ok reason) (s.atPhase .terminated) console)
  | .ok .quit => .ends (stop (.ok .quitCommand) (s.atPhase .terminated) console)
  | .ok .clear => .goesOn none ⟨rest, s.cleared, console⟩
  | .ok (.prompt text) =>
    let served := c.turn text s console
    match served.result with
    | .error e => .ends (afterCall served.call (stop (.error e) served.state served.console))
    | .ok () => .goesOn served.call ⟨rest, served.state, served.console⟩

/-- One round of a run. -/
def round (c : Conversation γ δ π) (top : LoopTop γ π) : Round γ π :=
  if top.state.session.budgetExhausted c.settings.maxTokens then
    .ends (c.stopOverBudget top.state top.console)
  else
    match top.console.answer (inputMark c.verbosity) with
    | (.error e, console) => .ends (stop (.error e) (top.state.atPhase .awaitingInput) console)
    | (.ok (), console) =>
      c.act top.command top.lines.tail (top.state.atPhase .awaitingInput) console

/-- The run from the top of its loop. -/
def runFrom (c : Conversation γ δ π) (top : LoopTop γ π) : Run γ π :=
  c.runLines top.lines top.state top.console

/-- Puts calls in front of the calls of a run. -/
def afterCalls (calls : List Call) (r : Run γ π) : Run γ π := { r with calls := calls ++ r.calls }

/-- A run is its first round and the rounds after it. -/
theorem runLines_round (c : Conversation γ δ π) (top : LoopTop γ π) :
    c.runFrom top =
      match c.round top with
      | .ends r => r
      | .goesOn call top => afterCall call (c.runFrom top) := by
  obtain ⟨lines, s, console⟩ := top
  unfold runFrom round LoopTop.command
  rw [runLines.eq_def]
  dsimp only
  split_ifs
  · rfl
  · rcases console.answer (inputMark c.verbosity) with ⟨_ | ⟨⟩, console⟩
    · rfl
    · rcases lines with _ | ⟨line, rest⟩
      · rfl
      · dsimp only
        rcases Line.text? line with _ | text
        · rfl
        · dsimp only
          rcases Command.ofLine text with _ | _ | text
          · rfl
          · rfl
          · dsimp only [act, List.tail_cons]
            rcases (c.turn text (s.atPhase .awaitingInput) console).result with _ | ⟨⟩ <;> rfl

theorem calls_stopOverBudget (c : Conversation γ δ π) (s : ConversationState γ π) (console : Console) :
    (c.stopOverBudget s console).calls = [] := rfl

/-! ### What a round can do -/

/-- A round comes to its line: the budget is not used up and the mark that asks for a line is printed. -/
def Opens (c : Conversation γ δ π) (top : LoopTop γ π) (console : Console) : Prop :=
  top.state.session.contextPos < c.settings.maxTokens ∧
    top.console.answer (inputMark c.verbosity) = (.ok (), console)

/-- The turn that a round serves. -/
def turnOf (c : Conversation γ δ π) (text : String) (top : LoopTop γ π) (console : Console) :
    Served γ π :=
  c.turn text (top.state.atPhase .awaitingInput) console

/-- A round that the run goes on after. -/
inductive GoesOn (c : Conversation γ δ π) (top : LoopTop γ π) : Option Call → LoopTop γ π → Prop
  /-- The context is forgotten. -/
  | cleared {console : Console} (opens : c.Opens top console) (command : top.command = .ok .clear) :
      GoesOn c top none ⟨top.lines.tail, (top.state.atPhase .awaitingInput).cleared, console⟩
  /-- A text is served. -/
  | served {console : Console} {text : String} (opens : c.Opens top console)
      (command : top.command = .ok (.prompt text))
      (result : (c.turnOf text top console).result = .ok ()) :
      GoesOn c top (c.turnOf text top console).call
        ⟨top.lines.tail, (c.turnOf text top console).state, (c.turnOf text top console).console⟩

/-- A round that ends the run. -/
inductive EndsWith (c : Conversation γ δ π) (top : LoopTop γ π) : Run γ π → Prop
  /-- The budget is used up. -/
  | overBudget (exhausted : c.settings.maxTokens ≤ top.state.session.contextPos) :
      EndsWith c top (c.stopOverBudget top.state top.console)
  /-- The mark that asks for a line cannot be printed. -/
  | unmarked {error : SessionError} {console : Console}
      (marked : top.console.answer (inputMark c.verbosity) = (.error error, console)) :
      EndsWith c top (stop (.error error) (top.state.atPhase .awaitingInput) console)
  /-- The user quits, or there are no more lines. -/
  | quits {reason : Termination} {console : Console} (opens : c.Opens top console)
      (command : top.command = .error reason) :
      EndsWith c top (stop (.ok reason) (top.state.atPhase .terminated) console)
  /-- A text cannot be served. -/
  | failed {error : Halt} {console : Console} {text : String} (opens : c.Opens top console)
      (command : top.command = .ok (.prompt text))
      (result : (c.turnOf text top console).result = .error error) :
      EndsWith c top (afterCall (c.turnOf text top console).call
        (stop (.error error) (c.turnOf text top console).state (c.turnOf text top console).console))

/-- What a line asks for: the end, for one of two reasons, that the context be forgotten, or an answer. -/
theorem command_cases (top : LoopTop γ π) :
    top.command = .error .endOfInput ∨ top.command = .error .quitCommand ∨ top.command = .ok .clear ∨
      ∃ text, top.command = .ok (.prompt text) := by
  unfold LoopTop.command
  rcases top.lines with _ | ⟨line, _⟩
  · exact .inl rfl
  · dsimp only
    rcases Line.text? line with _ | text
    · exact .inl rfl
    · dsimp only
      rcases Command.ofLine text with _ | _ | text
      · exact .inr (.inl rfl)
      · exact .inr (.inr (.inl rfl))
      · exact .inr (.inr (.inr ⟨text, rfl⟩))

/-- **A round** ends the run or goes on. -/
theorem round_cases (c : Conversation γ δ π) (top : LoopTop γ π) :
    (∃ r, c.round top = .ends r ∧ c.EndsWith top r) ∨
      ∃ call top', c.round top = .goesOn call top' ∧ c.GoesOn top call top' := by
  unfold round Session.budgetExhausted
  by_cases exhausted : c.settings.maxTokens ≤ top.state.session.contextPos
  · rw [if_pos (decide_eq_true exhausted)]
    exact .inl ⟨_, rfl, .overBudget exhausted⟩
  · rw [if_neg (by simpa using exhausted)]
    rcases marked : top.console.answer (inputMark c.verbosity) with ⟨error | ⟨⟩, console⟩
    · exact .inl ⟨_, rfl, .unmarked marked⟩
    · have opens : c.Opens top console := ⟨Nat.not_le.mp exhausted, marked⟩
      dsimp only
      rcases hc : top.command with reason | _ | _ | text
      · exact .inl ⟨_, rfl, .quits opens hc⟩
      · rcases command_cases top with h | h | h | ⟨_, h⟩ <;> rw [h] at hc <;> cases hc
      · exact .inr ⟨_, _, rfl, .cleared opens hc⟩
      · rcases hr : (c.turnOf text top console).result with error | ⟨⟩
        · refine .inl ⟨_, ?_, .failed opens hc hr⟩
          rw [turnOf] at hr
          simp only [act, hr]
          rfl
        · refine .inr ⟨_, _, ?_, .served opens hc hr⟩
          rw [turnOf] at hr
          simp only [act, hr]
          rfl

theorem endsWith_of_round {c : Conversation γ δ π} {top : LoopTop γ π} {r : Run γ π}
    (h : c.round top = .ends r) : c.EndsWith top r := by
  rcases c.round_cases top with ⟨r', hr, ends⟩ | ⟨call, top', hr, -⟩ <;> rw [h] at hr <;> cases hr
  exact ends

theorem goesOn_of_round {c : Conversation γ δ π} {top top' : LoopTop γ π} {call : Option Call}
    (h : c.round top = .goesOn call top') : c.GoesOn top call top' := by
  rcases c.round_cases top with ⟨r', hr, -⟩ | ⟨call, top', hr, goes⟩ <;> rw [h] at hr <;> cases hr
  exact goes

theorem GoesOn.round {c : Conversation γ δ π} {top top' : LoopTop γ π} {call : Option Call}
    (h : c.GoesOn top call top') : c.round top = .goesOn call top' := by
  have act_of_opens : ∀ {console}, c.Opens top console →
      c.round top = c.act top.command top.lines.tail (top.state.atPhase .awaitingInput) console := by
    intro console opens
    have left : ¬ top.state.session.budgetExhausted c.settings.maxTokens = true := by
      simpa [Session.budgetExhausted] using opens.1
    rw [Conversation.round, if_neg left, opens.2]
  cases h with
  | cleared opens command =>
    rw [act_of_opens opens, command]
    rfl
  | served opens command result =>
    rw [turnOf] at result
    rw [act_of_opens opens, command]
    simp only [act, result]
    rfl

/-- A round ends the run at the end of the input only if it comes to that. -/
theorem EndsWith.endOfInput {c : Conversation γ δ π} {top : LoopTop γ π} {r : Run γ π}
    (h : c.EndsWith top r) (ended : r.result = .ok .endOfInput) :
    ∃ console, c.Opens top console ∧ top.command = .error .endOfInput ∧
      r = stop (.ok .endOfInput) (top.state.atPhase .terminated) console := by
  cases h with
  | overBudget =>
    unfold stopOverBudget at ended
    rcases printed : top.console.answer (budgetNotice c.settings.maxTokens) with ⟨error | ⟨⟩, console⟩ <;>
      rw [printed] at ended <;> cases ended
  | unmarked => cases ended
  | quits opens command =>
    obtain rfl := Except.ok.inj ended
    exact ⟨_, opens, command, rfl⟩
  | failed => cases ended

/-- A round that ends the run in good order ends the session. -/
theorem EndsWith.terminated {c : Conversation γ δ π} {top : LoopTop γ π} {r : Run γ π}
    (h : c.EndsWith top r) {reason : Termination} (ended : r.result = .ok reason) :
    r.state.phase = .terminated := by
  cases h with
  | overBudget => rfl
  | unmarked => cases ended
  | quits => rfl
  | failed => cases ended

theorem GoesOn.exists_line {c : Conversation γ δ π} {top top' : LoopTop γ π} {call : Option Call}
    (h : c.GoesOn top call top') : ∃ line, top.lines = line :: top'.lines := by
  have nonempty : ∀ {command}, top.command = .ok command → ∃ line, top.lines = line :: top.lines.tail := by
    intro command hc
    unfold LoopTop.command at hc
    rcases hl : top.lines with _ | ⟨line, rest⟩
    · rw [hl] at hc
      cases hc
    · exact ⟨line, rfl⟩
  cases h with
  | cleared _ command => exact nonempty command
  | served _ command _ => exact nonempty command

/-- What holds of a top of the loop if it holds of the next one, when there is a next, holds of all tops: every
round takes a line. -/
theorem round_induction (c : Conversation γ δ π) {P : LoopTop γ π → Prop}
    (step : ∀ top, (∀ call next, c.round top = .goesOn call next → P next) → P top) (top : LoopTop γ π) :
    P top := by
  induction hl : top.lines generalizing top with
  | nil =>
    refine step top fun call next goes => ?_
    obtain ⟨line, more⟩ := (goesOn_of_round goes).exists_line
    rw [hl] at more
    cases more
  | cons line rest ih =>
    refine step top fun call next goes => ih next ?_
    obtain ⟨line', more⟩ := (goesOn_of_round goes).exists_line
    rw [hl] at more
    exact (List.cons.inj more).2.symm

/-! ### Reaching a top of the loop -/

/-- A run comes from one top of its loop to another, after some calls. -/
inductive Reaches (c : Conversation γ δ π) : LoopTop γ π → List Call → LoopTop γ π → Prop
  | refl {top : LoopTop γ π} : Reaches c top [] top
  | head {top top' top'' : LoopTop γ π} {call : Option Call} {calls : List Call} :
      c.round top = .goesOn call top' → Reaches c top' calls top'' →
        Reaches c top (call.toList ++ calls) top''

/-- What is left of a run at the top of its loop is the run from there. -/
theorem Reaches.rest {c : Conversation γ δ π} {top top' : LoopTop γ π} {calls : List Call}
    (h : c.Reaches top calls top') : c.runFrom top = afterCalls calls (c.runFrom top') := by
  induction h with
  | refl => rfl
  | head round _ ih =>
    rw [runLines_round, round]
    dsimp only
    rw [ih]
    simp only [afterCall, afterCalls, List.append_assoc]

/-- What every round keeps, a run keeps. -/
theorem Reaches.keeps {c : Conversation γ δ π} {P : List Call → LoopTop γ π → Prop}
    (step : ∀ calls top call top', c.GoesOn top call top' → P calls top → P (calls ++ call.toList) top')
    {top top' : LoopTop γ π} {before calls : List Call} (h : c.Reaches top calls top')
    (holds : P before top) : P (before ++ calls) top' := by
  induction h generalizing before with
  | refl => rwa [List.append_nil]
  | head round _ ih =>
    rw [← List.append_assoc]
    exact ih (step _ _ _ _ (goesOn_of_round round) holds)

/-- Every run comes to a last round. -/
theorem exists_reaches_end (c : Conversation γ δ π) (top : LoopTop γ π) :
    ∃ calls top' r, c.Reaches top calls top' ∧ c.round top' = .ends r := by
  induction top using c.round_induction with
  | step top ih =>
    rcases hr : c.round top with r | ⟨call, next⟩
    · exact ⟨[], top, r, .refl, hr⟩
    · obtain ⟨calls, top', r, reaches, ends⟩ := ih call next hr
      exact ⟨_, top', r, .head hr reaches, ends⟩

/-- **What a run comes to**: if every round keeps `P`, then `P` holds at the last round, which ends the
run. -/
theorem runFrom_ends {c : Conversation γ δ π} {P : List Call → LoopTop γ π → Prop}
    (step : ∀ calls top call top', c.GoesOn top call top' → P calls top → P (calls ++ call.toList) top')
    (top : LoopTop γ π) (holds : P [] top) :
    ∃ calls top' r, P calls top' ∧ c.EndsWith top' r ∧ c.runFrom top = afterCalls calls r := by
  obtain ⟨calls, top', r, reaches, ends⟩ := c.exists_reaches_end top
  refine ⟨calls, top', r, reaches.keeps step holds, endsWith_of_round ends, ?_⟩
  rw [reaches.rest, runLines_round, ends]

/-- A run ends with one of its rounds. -/
theorem run_ends (c : Conversation γ δ π) (input : List UInt8) (s : ConversationState γ π) (console : Console) :
    ∃ calls top last, c.EndsWith top last ∧ c.run input s console = afterCalls calls last := by
  obtain ⟨calls, top, last, reaches, ends⟩ := c.exists_reaches_end ⟨Line.lines input, s, console⟩
  refine ⟨calls, top, last, endsWith_of_round ends, ?_⟩
  rw [run, show c.runLines (Line.lines input) s console = _ from reaches.rest, runLines_round, ends]

/-- **A run that ends in good order** leaves the session terminated. -/
theorem run_terminated {c : Conversation γ δ π} {input : List UInt8} {s : ConversationState γ π}
    {console : Console} {reason : Termination} (ended : (c.run input s console).result = .ok reason) :
    (c.run input s console).state.phase = .terminated := by
  obtain ⟨calls, top, last, ends, same⟩ := c.run_ends input s console
  rw [same] at ended ⊢
  exact ends.terminated ended

/-- What holds of the calls of every turn, from states that turns keep to, holds of all calls of a run. -/
theorem run_calls {c : Conversation γ δ π} {P : ConversationState γ π → Prop} {Q : Call → Prop}
    (phase : ∀ s phase, P s → P (s.atPhase phase)) (cleared : ∀ s, P s → P s.cleared)
    (turn : ∀ text s console, P s →
      (∀ call ∈ (c.turn text s console).call, Q call) ∧ P (c.turn text s console).state)
    (input : List UInt8) {s : ConversationState γ π} (holds : P s) (console : Console) :
    ∀ call ∈ (c.run input s console).calls, Q call := by
  obtain ⟨calls, top, last, ⟨sofar, keeps⟩, ends, same⟩ := runFrom_ends (c := c)
    (P := fun calls top => (∀ call ∈ calls, Q call) ∧ P top.state)
    (fun calls top call top' goes ⟨sofar, keeps⟩ => by
      cases goes with
      | cleared =>
        rw [Option.toList_none, List.append_nil]
        exact ⟨sofar, cleared _ (phase _ _ keeps)⟩
      | served =>
        obtain ⟨this, keeps'⟩ := turn _ _ _ (phase _ _ keeps)
        refine ⟨fun call mem => ?_, keeps'⟩
        rcases List.mem_append.mp mem with mem | mem
        · exact sofar call mem
        · exact this call (Option.mem_toList.mp mem))
    ⟨Line.lines input, s, console⟩ ⟨List.forall_mem_nil _, holds⟩
  have same : c.run input s console = afterCalls calls last := same
  rw [same]
  intro call mem
  rcases List.mem_append.mp mem with mem | mem
  · exact sofar call mem
  cases ends with
  | overBudget => cases mem
  | unmarked => cases mem
  | quits => cases mem
  | failed =>
    rw [afterCall, stop, List.append_nil] at mem
    exact (turn _ _ _ (phase _ _ keeps)).1 call (Option.mem_toList.mp mem)

/-! ### The tops of a run -/

/-- The tops of its loop that a run on some lines comes to, in order. -/
def tops (c : Conversation γ δ π) :
    List (List UInt8) → ConversationState γ π → Console → List (LoopTop γ π)
  | [], s, console => [⟨[], s, console⟩]
  | line :: rest, s, console =>
    ⟨line :: rest, s, console⟩ ::
      match c.round ⟨line :: rest, s, console⟩ with
      | .ends _ => []
      | .goesOn _ next => c.tops rest next.state next.console

/-- The tops that a run comes to from a top of its loop, in order. -/
def topsFrom (c : Conversation γ δ π) (top : LoopTop γ π) : List (LoopTop γ π) :=
  c.tops top.lines top.state top.console

theorem topsFrom_of_ends {c : Conversation γ δ π} {top : LoopTop γ π} {r : Run γ π}
    (ends : c.round top = .ends r) : c.topsFrom top = [top] := by
  obtain ⟨_ | ⟨line, rest⟩, s, console⟩ := top
  · rfl
  · rw [topsFrom, tops, ends]

theorem topsFrom_of_goesOn {c : Conversation γ δ π} {top next : LoopTop γ π} {call : Option Call}
    (goes : c.round top = .goesOn call next) : c.topsFrom top = top :: c.topsFrom next := by
  obtain ⟨line, more⟩ := (goesOn_of_round goes).exists_line
  obtain ⟨lines, s, console⟩ := top
  obtain rfl : lines = line :: next.lines := more
  rw [topsFrom, tops, goes]
  rfl

/-- The last top of a run is that of the round that ends it. -/
theorem exists_topsFrom_concat (c : Conversation γ δ π) (top : LoopTop γ π) :
    ∃ before last r, c.topsFrom top = before ++ [last] ∧ c.round last = .ends r ∧
      (c.runFrom top).state = r.state := by
  induction top using c.round_induction with
  | step top ih =>
    rw [runLines_round]
    rcases hr : c.round top with r | ⟨call, next⟩
    · exact ⟨[], top, r, topsFrom_of_ends hr, hr, rfl⟩
    · obtain ⟨before, last, r, tops, ends, state⟩ := ih call next hr
      exact ⟨top :: before, last, r, by rw [topsFrom_of_goesOn hr, tops]; rfl, ends, state⟩

/-! ### Runs one after the other -/

/-- Runs on some inputs one after the other, each with its own outputs. The state is kept from run to
run, also after an error. -/
def runs (c : Conversation γ δ π) :
    List (List UInt8 × Console) → ConversationState γ π → List (Run γ π)
  | [], _ => []
  | (input, console) :: rest, s =>
    c.run input s console :: c.runs rest (c.run input s console).state

/-- What every run keeps, any number of runs keep. -/
theorem runs_keep {c : Conversation γ δ π} {P : ConversationState γ π → Prop} {Q : Run γ π → Prop}
    (step : ∀ input s console, P s → Q (c.run input s console) ∧ P (c.run input s console).state)
    (inputs : List (List UInt8 × Console)) {s : ConversationState γ π} (holds : P s) :
    ∀ r ∈ c.runs inputs s, Q r := by
  induction inputs generalizing s with
  | nil => exact List.forall_mem_nil _
  | cons first rest ih =>
    obtain ⟨input, console⟩ := first
    obtain ⟨this, next⟩ := step input s console holds
    exact List.forall_mem_cons.mpr ⟨this, ih next⟩

end Conversation

end PromptLoop
