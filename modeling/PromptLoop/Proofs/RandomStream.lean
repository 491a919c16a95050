import PromptLoop.Proofs.Candidates
import PromptLoop.Proofs.EngineTurns
import PromptLoop.Proofs.Happenings
import PromptLoop.Proofs.Instants

/-!
# The random stream of a session

Every run tells a chronicle: the instants of its calls, as they happen in the courses of the generator, and
an instant of rest after every round, whatever the round was. The chronicles of the runs of a session, one
after the other, are the story of its one random stream.

That the instants are in order is a matter of the turn and of the conversation alone and holds of every
generator (`Course.elapses`). That words are drawn for tokens after the prompt only, and at most one for
each, is a matter of the engine (`Engine.paired_answer`). Both together give the account of the stream
(`Conversation.chronicles_accounted`).
-/

namespace PromptLoop

variable {γ δ π : Type}

/-- The instant of something that happens in a course. -/
def Happening.instant : Happening (Turn δ π) → Instant
  | drawn word rng => ⟨.drew word, rng⟩
  | emitted event answer rng t => ⟨.heard ⟨event, answer, t.session, t.phase, rng⟩, rng⟩

/-! ### Courses -/

namespace Course

/-- The instants of a course. -/
def instants (setup : TurnSetup δ π) (course : Course γ) (rng : Rng) (t : Turn δ π) : List Instant :=
  (course.happenings (Turn.sink setup) rng t).map Happening.instant

/-- The receipts of a turn are of the events that are heard. -/
theorem receipts_run (setup : TurnSetup δ π) (course : Course γ) (rng : Rng) (t : Turn δ π) :
    (course.run (Turn.sink setup) rng t).sink.receipts.reverse =
      t.receipts.reverse ++ (course.instants setup rng t).filterMap Instant.receipt? := by
  induction course generalizing rng t with
  | finish result after => exact (List.append_nil _).symm
  | draw next ih => exact ih _ _ _
  | emit event next ih =>
    rw [run, instants, happenings]
    rcases hr : (Turn.sink setup).receive event rng t with ⟨answer, rng', t'⟩
    have received := Turn.receive_received hr
    refine (ih answer rng' t').trans ?_
    rw [received.receipts, List.reverse_cons, List.append_assoc]
    rfl

/-- **The instants of a course are in order**, whatever the generator is. -/
theorem elapses {settings : InferenceSettings} (setup : TurnSetup δ π) (course : Course γ) (rng : Rng)
    {t : Turn δ π} (has : t.session.Has settings) :
    Elapses setup.eos settings rng (course.instants setup rng t)
      (course.run (Turn.sink setup) rng t).rng := by
  induction course generalizing rng t with
  | finish result after => exact rfl
  | draw next ih =>
    refine ⟨⟨?_, rfl⟩, ih _ _ has⟩
    intro word drew
    exact (Incident.drew.inj drew).symm
  | emit event next ih =>
    rw [run, instants, happenings]
    rcases hr : (Turn.sink setup).receive event rng t with ⟨answer, rng', t'⟩
    have received := Turn.receive_received hr
    have has' : t'.session.Has settings := by
      rw [received.session]
      exact has.after
    refine ⟨⟨fun _ drew => (by cases drew), ?_⟩, ih answer rng' has'⟩
    show rng' = if event.token == setup.eos && decide (t'.session.promptSize ≤ t'.session.turnPos) &&
      (settings.deterministic && !settings.multiturn) then Rng.fixed else rng
    rw [received.rng, Rng.after, Session.notesEnd_eq_after, ← received.session, Turn.rngAtEnd,
      Session.multiturn_advance, Session.deterministic_advance, has.1, has.2]
    cases decide (t'.session.promptSize ≤ t'.session.turnPos) <;>
      cases event.token == setup.eos <;>
      cases settings.multiturn <;>
      cases settings.deterministic <;> rfl

end Course

/-! ### Words of an engine -/

namespace Engine

variable {e : Engine} {request : Request} {setup : TurnSetup δ π}

/-- How many tokens there are to choose from. -/
def choices (e : Engine) (settings : InferenceSettings) (accept : Token → Bool) : Nat :=
  min (max settings.topK 1) (Sampling.accepted e.model.vocabSize accept)

/-- Sampling stands past the prompt, with one logit for every token. -/
structure Standing.PastPrompt (e : Engine) (p : Standing (Turn δ π)) : Prop where
  logits : p.logits.length = e.model.vocabSize
  session : p.sink.session.promptSize ≤ p.sink.session.turnPos

/-- At most one word is drawn for a token, and none if there is nothing to choose. -/
theorem Standing.PastPrompt.sampling {p : Standing (Turn δ π)} (past : p.PastPrompt e) (event : Event) :
    Paired (e.choices request.settings request.accept)
      ((p.sampling e request (Turn.sink setup) event).map Happening.instant) := by
  have received : Turn.Received setup.eos event (p.sampled e request).2 p.sink _ _
      (p.received e request (Turn.sink setup) event).2.2 := Turn.receive_received rfl
  have heard : Paired (e.choices request.settings request.accept)
      [Happening.instant (.emitted event (p.received e request (Turn.sink setup) event).1
        (p.received e request (Turn.sink setup) event).2.1 (p.received e request (Turn.sink setup) event).2.2)] :=
    (Paired.nil _).heard _ _
  rw [Standing.sampling, List.map_append]
  rcases hc : p.choice e request with _ | candidate | ⟨wheel, first, others⟩ | _
  · exact heard
  · exact heard
  · refine ⟨?_, heard⟩
    intro word _
    refine ⟨?_, _, [], rfl, ?_⟩
    · have several := Sampling.two_le_of_drawn hc
      rwa [past.logits] at several
    · show (p.received e request (Turn.sink setup) event).2.2.session.promptSize <
        (p.received e request (Turn.sink setup) event).2.2.session.turnPos
      rw [received.session, Session.promptSize_after, Session.turnPos_after]
      exact Nat.lt_succ_of_le past.session
  · exact heard

theorem Standing.PastPrompt.reads {p p' : Standing (Turn δ π)} {event : Event} (past : p.PastPrompt e)
    (reads : p.Reads e request (Turn.sink setup) event p') : p'.PastPrompt e := by
  have received := Turn.receive_received reads.received
  refine ⟨reads.length_logits, ?_⟩
  rw [received.session, Session.promptSize_after, Session.turnPos_after]
  exact Nat.le_succ_of_le past.session

theorem Standing.PastPrompt.walk {p : Standing (Turn δ π)} {qs : List (Standing.Stop (Turn δ π))}
    {ended : CourseEnd Cache (Turn δ π)} (past : p.PastPrompt e)
    (walk : p.Walk e request (Turn.sink setup) qs ended) :
    Paired (e.choices request.settings request.accept)
      ((qs.flatMap (Standing.Stop.happenings e request (Turn.sink setup))).map Happening.instant) := by
  induction walk with
  | capped => trivial
  | panicked => trivial
  | last =>
    rw [List.flatMap_singleton]
    exact past.sampling _
  | reads reads _ ih =>
    rw [List.flatMap_cons, List.map_append]
    exact (past.sampling _).append (ih (past.reads reads))

/-- No words are drawn while events are handed to the sink of a turn. -/
theorem paired_hearing (choices : Nat) (events : List Event) (rng : Rng) (t : Turn δ π) :
    Paired choices (((Turn.sink setup).hearing events rng t).map Happening.instant) := by
  induction events generalizing rng t with
  | nil => trivial
  | cons event events ih =>
    rw [Sink.hearing]
    rcases (Turn.sink setup).receive event rng t with ⟨_ | _, rng', t'⟩
    · exact (Paired.nil _).heard _ _
    · exact (ih rng' t').heard _ _

/-- **An engine draws words for tokens after the prompt only**, and at most one for each. -/
theorem paired_answer (e : Engine) (request : Request) (setup : TurnSetup δ π) (cache : Cache) (rng : Rng)
    (s : Session) (phase : Phase) (console : Console) (policy : π) :
    Paired (e.choices request.settings request.accept)
      ((e.answer request cache).instants setup rng
        (Turn.start setup (s.beginTurn request.prompt.length) phase console policy)) := by
  rw [Course.instants]
  rcases hr : refusal? request with _ | error
  swap
  · rw [happenings_answer_of_refusal e hr]
    trivial
  rcases hf : e.model.fault? cache request.prompt request.startPos with _ | fault
  swap
  · rw [happenings_answer_of_fault e hr hf]
    trivial
  rw [happenings_answer e hr hf, List.map_append]
  refine (paired_hearing _ _ _ _).append ?_
  rcases heard : (Turn.sink setup).feed (echo request) rng
    (Turn.start setup (s.beginTurn request.prompt.length) phase console policy) with ⟨_ | ⟨⟩, rng', t⟩
  · trivial
  · obtain ⟨session, -⟩ := heard_of_feed heard
    rw [map_token_echo] at session
    have past : (e.opening request cache rng' t).PastPrompt e := by
      constructor
      · exact e.model.length_logits _
      · show t.session.promptSize ≤ t.session.turnPos
        rw [session, Session.promptSize_afterAll, Session.turnPos_afterAll]
        exact Nat.le_add_left _ _
    obtain ⟨qs, walk, same⟩ := (e.opening request cache rng' t).run_walk e request (Turn.sink setup)
    dsimp only
    rw [same]
    exact past.walk walk

end Engine

/-! ### Chronicles -/

/-- The random stream after a round. -/
def Round.rng : Round γ π → Rng
  | ends r => r.state.rng
  | goesOn _ top => top.state.rng

namespace Conversation

/-- The instants of a call with a prompt. -/
def callInstants (c : Conversation γ δ π) (prompt : List Token) (s : ConversationState γ π)
    (console : Console) : List Instant :=
  (c.generator.generate (c.request prompt s.session.contextPos) s.generator).instants c.turnSetup s.rng
    (Turn.start c.turnSetup (s.session.beginTurn prompt.length) .prefilling console s.policy)

/-- The outputs when the generator is called in a round: a line has been asked for, and a note says that
a prompt is being read. -/
def consoleOfCall (c : Conversation γ δ π) (console : Console) : Console :=
  ((console.answer (inputMark c.verbosity)).2.note readingNote).2

/-- The instants of a round. The last of them is at rest. -/
def roundInstants (c : Conversation γ δ π) (top : LoopTop γ π) : List Instant :=
  (c.round top).calls.flatMap
      (fun call => c.callInstants call.prompt top.state (c.consoleOfCall top.console)) ++
    [⟨.rested, (c.round top).rng⟩]

/-- The instants of a run on some lines. -/
def chronicleOfLines (c : Conversation γ δ π) :
    List (List UInt8) → ConversationState γ π → Console → List Instant
  | [], s, console => c.roundInstants ⟨[], s, console⟩
  | line :: rest, s, console =>
    c.roundInstants ⟨line :: rest, s, console⟩ ++
      match c.round ⟨line :: rest, s, console⟩ with
      | .ends _ => []
      | .goesOn _ top => c.chronicleOfLines rest top.state top.console

/-- The instants of a run. -/
def chronicle (c : Conversation γ δ π) (input : List UInt8) (s : ConversationState γ π) (console : Console) :
    List Instant :=
  c.chronicleOfLines (Line.lines input) s console

/-- The instants of runs one after the other, run by run. -/
def chronicles (c : Conversation γ δ π) :
    List (List UInt8 × Console) → ConversationState γ π → List (List Instant)
  | [], _ => []
  | (input, console) :: rest, s =>
    c.chronicle input s console :: c.chronicles rest (c.run input s console).state

/-- A chronicle is of a run: it holds the receipts of its calls, and at its end the run is at rest with its
random stream. -/
structure Tells (instants : List Instant) (r : Run γ π) : Prop where
  receipts : instants.filterMap Instant.receipt? = r.calls.flatMap (·.receipts)
  last : instants.getLast? = some ⟨.rested, r.state.rng⟩

/-- What the instants of some calls come to, from one state of the random stream to another. -/
structure Told (c : Conversation γ δ π) (choices : Nat) (rng : Rng) (calls : List Call)
    (instants : List Instant) (rng' : Rng) : Prop where
  elapses : Elapses c.eos c.settings rng instants rng'
  paired : Paired choices instants
  receipts : instants.filterMap Instant.receipt? = calls.flatMap (·.receipts)

section

variable {c : Conversation γ δ π} {choices : Nat} {rng rng' rng'' : Rng} {calls calls' : List Call}
  {instants instants' : List Instant}

theorem Told.append (h : c.Told choices rng calls instants rng')
    (h' : c.Told choices rng' calls' instants' rng'') :
    c.Told choices rng (calls ++ calls') (instants ++ instants') rng'' := by
  constructor
  · exact h.elapses.append h'.elapses
  · exact h.paired.append h'.paired
  · rw [List.filterMap_append, List.flatMap_append, h.receipts, h'.receipts]

/-- At rest nothing changes. -/
theorem told_rested (c : Conversation γ δ π) (choices : Nat) (rng : Rng) :
    c.Told choices rng [] [⟨.rested, rng⟩] rng := by
  constructor
  · exact ⟨⟨nofun, rfl⟩, rfl⟩
  · exact ⟨nofun, trivial⟩
  · rfl

end

variable {c : Conversation γ δ π} {e : Engine} {s : ConversationState Cache π}

/-- The instants of serving a text. -/
theorem turn_told (text : String) (has : s.session.Has c.settings) (console : Console) :
    (c.answeredBy e).Told (e.choices c.settings c.accept) s.rng
      ((c.answeredBy e).turn text s console).call.toList
      (((c.answeredBy e).turn text s console).call.toList.flatMap fun call =>
        (c.answeredBy e).callInstants call.prompt s (console.note readingNote).2)
      ((c.answeredBy e).turn text s console).state.rng := by
  rcases (c.answeredBy e).turn_cases text s console with served | ⟨prompt, console', noted, served⟩
  · rw [served.call, served.rng]
    exact ⟨rfl, trivial, rfl⟩
  · rw [served.call, served.rng, noted, Option.toList_some, List.flatMap_singleton]
    have begun : (Turn.start (c.answeredBy e).turnSetup (s.session.beginTurn prompt.tokens.length)
        .prefilling console' s.policy).session.Has c.settings := has
    constructor
    · exact Course.elapses (c.answeredBy e).turnSetup _ _ begun
    · exact e.paired_answer ((c.answeredBy e).request prompt.tokens s.session.contextPos) _ _ _ _ _ _ _
    · rw [List.flatMap_singleton]
      refine Eq.trans ?_ (Course.receipts_run (c.answeredBy e).turnSetup
        ((c.answeredBy e).generator.generate
          ((c.answeredBy e).request prompt.tokens s.session.contextPos) s.generator) s.rng _).symm
      rfl

/-- The instants of a round. -/
theorem round_told (top : LoopTop Cache π) (has : top.state.session.Has c.settings) :
    (c.answeredBy e).Told (e.choices c.settings c.accept) top.state.rng ((c.answeredBy e).round top).calls
      ((c.answeredBy e).roundInstants top) ((c.answeredBy e).round top).rng := by
  have uncalled : ((c.answeredBy e).round top).calls = [] → ((c.answeredBy e).round top).rng = top.state.rng →
      (c.answeredBy e).Told (e.choices c.settings c.accept) top.state.rng
        ((c.answeredBy e).round top).calls ((c.answeredBy e).roundInstants top)
        ((c.answeredBy e).round top).rng := by
    intro none same
    rw [roundInstants, none, same]
    exact told_rested _ _ _
  have served : ∀ {text : String} {console : Console}, (c.answeredBy e).Opens top console →
      ((c.answeredBy e).round top).calls = ((c.answeredBy e).turnOf text top console).call.toList →
      ((c.answeredBy e).round top).rng = ((c.answeredBy e).turnOf text top console).state.rng →
      (c.answeredBy e).Told (e.choices c.settings c.accept) top.state.rng
        ((c.answeredBy e).round top).calls ((c.answeredBy e).roundInstants top)
        ((c.answeredBy e).round top).rng := by
    intro text console opens call rng
    have awaiting : (top.state.atPhase .awaitingInput).session.Has c.settings := has
    have told := turn_told (c := c) (e := e) text awaiting console
    rw [roundInstants, call, rng, consoleOfCall, opens.2]
    have rested := told.append (told_rested _ _ _)
    rw [List.append_nil] at rested
    exact rested
  rcases (c.answeredBy e).round_cases top with ⟨r, hr, ends⟩ | ⟨call, next, hr, goes⟩
  · rw [hr] at uncalled served ⊢
    cases ends with
    | overBudget => exact uncalled rfl rfl
    | unmarked => exact uncalled rfl rfl
    | quits => exact uncalled rfl rfl
    | failed opens => exact served opens (List.append_nil _) rfl
  · rw [hr] at uncalled served ⊢
    cases goes with
    | cleared => exact uncalled rfl rfl
    | served opens => exact served opens rfl rfl

/-- A chronicle holds the instants of the rounds of its run. -/
theorem chronicleOfLines_eq (c : Conversation γ δ π) (top : LoopTop γ π) :
    c.chronicleOfLines top.lines top.state top.console = (c.topsFrom top).flatMap c.roundInstants := by
  obtain ⟨lines, s, console⟩ := top
  induction lines generalizing s console with
  | nil => exact (List.flatMap_singleton _ _).symm
  | cons line rest ih =>
    dsimp only at ih ⊢
    rw [chronicleOfLines]
    rcases hr : c.round ⟨line :: rest, s, console⟩ with r | ⟨call, next⟩
    · rw [topsFrom_of_ends hr, List.flatMap_singleton, List.append_nil]
    · obtain ⟨line', same⟩ := (goesOn_of_round hr).exists_line
      obtain ⟨-, rfl⟩ := List.cons.inj same
      rw [topsFrom_of_goesOn hr, List.flatMap_cons, ← ih next.state next.console]

/-- The instants of a run. -/
theorem runFrom_told (top : LoopTop Cache π) (has : top.state.session.Has c.settings) :
    (c.answeredBy e).Told (e.choices c.settings c.accept) top.state.rng ((c.answeredBy e).runFrom top).calls
      (((c.answeredBy e).topsFrom top).flatMap (c.answeredBy e).roundInstants)
      ((c.answeredBy e).runFrom top).state.rng := by
  induction top using (c.answeredBy e).round_induction with
  | step top ih =>
    have told := round_told (c := c) (e := e) top has
    rw [runLines_round]
    rcases hr : (c.answeredBy e).round top with r | ⟨call, next⟩ <;> rw [hr] at told
    · rw [topsFrom_of_ends hr, List.flatMap_singleton]
      exact told
    · rw [topsFrom_of_goesOn hr, List.flatMap_cons]
      exact told.append (ih call next hr ((goesOn_of_round hr).has has))

/-- The last instant of a chronicle is at rest. -/
theorem getLast?_instants (c : Conversation γ δ π) (top : LoopTop γ π) :
    ((c.topsFrom top).flatMap c.roundInstants).getLast? = some ⟨.rested, (c.runFrom top).state.rng⟩ := by
  obtain ⟨before, last, r, tops, ends, state⟩ := c.exists_topsFrom_concat top
  rw [tops, List.flatMap_append, List.flatMap_singleton, roundInstants, ← List.append_assoc,
    List.getLast?_concat, ends, state]
  rfl

/-- The instants of runs one after the other. -/
theorem chronicles_told (inputs : List (List UInt8 × Console)) (has : s.session.Has c.settings) :
    List.Forall₂ Tells ((c.answeredBy e).chronicles inputs s) ((c.answeredBy e).runs inputs s) ∧
      ∃ rng, Elapses e.eos c.settings s.rng ((c.answeredBy e).chronicles inputs s).flatten rng ∧
        Paired (e.choices c.settings c.accept) ((c.answeredBy e).chronicles inputs s).flatten := by
  induction inputs generalizing s with
  | nil => exact ⟨.nil, s.rng, rfl, trivial⟩
  | cons first inputs ih =>
    obtain ⟨input, console⟩ := first
    have told := runFrom_told (c := c) (e := e) ⟨Line.lines input, s, console⟩ has
    have last := (c.answeredBy e).getLast?_instants ⟨Line.lines input, s, console⟩
    rw [← chronicleOfLines_eq] at told last
    obtain ⟨tells, rng, elapses, paired⟩ := ih ((c.answeredBy e).run_has input has console)
    refine ⟨.cons ?_ tells, rng, ?_, ?_⟩
    · exact ⟨told.receipts, last⟩
    · exact told.elapses.append elapses
    · exact told.paired.append paired

/-- **The random stream of a session.** Its runs tell one chronicle after the other, and at every instant of
them the stream is accounted for. -/
theorem chronicles_accounted (c : Conversation γ δ π) (e : Engine) (rng : Rng) (cache : Cache) (policy : π)
    (inputs : List (List UInt8 × Console)) :
    let s := ConversationState.start c.settings rng cache policy
    List.Forall₂ Tells ((c.answeredBy e).chronicles inputs s) ((c.answeredBy e).runs inputs s) ∧
      Rng.Accounted e.eos c.settings (e.choices c.settings c.accept) rng
        ((c.answeredBy e).chronicles inputs s).flatten := by
  intro s
  have has : s.session.Has c.settings := Session.start_has c.settings
  obtain ⟨tells, rng', elapses, paired⟩ := chronicles_told (c := c) (e := e) inputs has
  exact ⟨tells, elapses.accounted paired⟩

/-- Two runs of a deterministic session that is silent and does not keep its context. The stream starts over
at the end of the answer, and neither the command after it nor the end of the run moves it. -/
theorem silent_chronicles_accounted :
    let c := silent 1 2 ⟨100, 10, Single.one, 1, true, false⟩
    let inputs := [(Line.bytes "a\n%c\n", Console.fresh none none), (Line.bytes "b\n", Console.fresh none none)]
    let s := ConversationState.start c.settings (Rng.ofSeed 7) Cache.empty ()
    let chronicles := (c.answeredBy (.silent 1)).chronicles inputs s
    chronicles.map (fun instants => instants.map (·.rng)) =
        [[Rng.ofSeed 7, Rng.ofSeed 7, Rng.fixed, Rng.fixed, Rng.fixed, Rng.fixed],
          List.replicate 5 Rng.fixed] ∧
      List.Forall₂ Tells chronicles ((c.answeredBy (.silent 1)).runs inputs s) ∧
      Rng.Accounted 1 c.settings (Engine.choices (.silent 1) c.settings c.accept) (Rng.ofSeed 7)
        chronicles.flatten := by
  intro c inputs s chronicles
  have streams : chronicles.map (fun instants => instants.map (·.rng)) =
      [[Rng.ofSeed 7, Rng.ofSeed 7, Rng.fixed, Rng.fixed, Rng.fixed, Rng.fixed],
        List.replicate 5 Rng.fixed] := by decide +kernel
  exact ⟨streams, chronicles_accounted c (.silent 1) (Rng.ofSeed 7) Cache.empty () inputs⟩

end Conversation

end PromptLoop
