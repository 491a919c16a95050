import PromptLoop.Proofs.EngineTurns
import PromptLoop.Proofs.Ledger

/-!
# The ledger of a session

Every run keeps a ledger: for every round of it, what acting on the line posts and that the round is over.
The ledgers of the runs of a session, one after the other, are the ledger of the session; a run that ends
with an error ends its ledger, and the next begins with the counters as they are then.

Which events are heard is up to the generator, and all of them are posted, those that fail included
(`Turn.run_posted`). So a ledger is the ledger of its run (`Conversation.Keeps`), and the counters have an
account at every point of a session with any generator (`Conversation.ledgers_accounted`).
-/

namespace PromptLoop

variable {γ δ π : Type}

/-- **The events of a course** are posted, whatever the generator is and whether or not they fail. -/
theorem Turn.run_posted (setup : TurnSetup δ π) (course : Course γ) (rng : Rng) {t : Turn δ π}
    (fresh : t.receipts = []) :
    Posted setup.eos t.session
      ((course.run (Turn.sink setup) rng t).sink.receipts.reverse.map Posting.ofReceipt)
      (course.run (Turn.sink setup) rng t).sink.session := by
  refine Course.run_keeps
    (P := fun t' : Turn δ π => Posted setup.eos t.session (t'.receipts.reverse.map Posting.ofReceipt) t'.session)
    (fun event rng t' posted => ?_) course rng ?_
  · have received : Turn.Received setup.eos event rng t' _ _ (t'.receive setup event rng).2.2 :=
      Turn.receive_received rfl
    show Posted _ _ ((t'.receive setup event rng).2.2.receipts.reverse.map _) (t'.receive setup event rng).2.2.session
    rw [received.receipts, List.reverse_cons, List.map_append]
    refine posted.append ⟨.heard received.session ?_, rfl⟩
    dsimp only
    rw [received.phase, received.session, Session.phase_after]
  · rw [fresh]
    rfl

/-- The counters after a round. -/
def Round.session : Round γ π → Session
  | ends r => r.state.session
  | goesOn _ top => top.state.session

/-- The run goes on after a round, or ends in good order. -/
def Round.GoesWell : Round γ π → Prop
  | ends r => ∃ reason, r.result = .ok reason
  | goesOn _ _ => True

/-- Where a call begins: the size of its prompt and its position in the context. -/
def Call.beginning (call : Call) : Nat × Nat := (call.prompt.length, call.startPos)

/-- Some postings are of some calls: what is heard is what was heard in the calls, and turns begin where the
calls began. If all went well, no other turns begin. -/
structure Records (postings : List Posting) (calls : List Call) (well : Prop) : Prop where
  receipts : postings.filterMap Posting.receipt? = calls.flatMap (·.receipts)
  beginnings : calls.map Call.beginning <+: postings.filterMap Posting.beginning?
  all : well → postings.filterMap Posting.beginning? = calls.map Call.beginning

/-- The books of a part of a session: its postings lead from some counters to others, and are of its calls. -/
structure Booked (eos : Token) (s : Session) (postings : List Posting) (s' : Session) (calls : List Call)
    (well : Prop) : Prop where
  posted : Posted eos s postings s'
  records : Records postings calls well

namespace Booked

variable {eos : Token} {s s' s'' : Session} {postings postings' : List Posting} {calls calls' : List Call}
  {well well' : Prop}

/-- Nothing is posted. -/
theorem none (eos : Token) (s : Session) (well : Prop) : Booked eos s [] s [] well :=
  ⟨rfl, rfl, List.prefix_rfl, fun _ => rfl⟩

theorem append (h : Booked eos s postings s' calls well) (holds : well)
    (h' : Booked eos s' postings' s'' calls' well') :
    Booked eos s (postings ++ postings') s'' (calls ++ calls') well' := by
  have all := h.records.all holds
  refine ⟨h.posted.append h'.posted, ?_, ?_, ?_⟩
  · rw [List.filterMap_append, List.flatMap_append, h.records.receipts, h'.records.receipts]
  · rw [List.filterMap_append, List.map_append, all]
    exact (List.prefix_append_right_inj _).mpr h'.records.beginnings
  · intro holds'
    rw [List.filterMap_append, List.map_append, all, h'.records.all holds']

/-- That a round is over is of no call and changes no counter. -/
theorem rested (h : Booked eos s postings s' calls well) :
    Booked eos s (postings ++ [⟨.rested, s'⟩]) s' calls well := by
  have receipts : (postings ++ [Posting.mk .rested s']).filterMap Posting.receipt? =
      postings.filterMap Posting.receipt? := List.filterMap_append.trans (List.append_nil _)
  have beginnings : (postings ++ [Posting.mk .rested s']).filterMap Posting.beginning? =
      postings.filterMap Posting.beginning? := List.filterMap_append.trans (List.append_nil _)
  refine ⟨h.posted.append ⟨.rested, rfl⟩, ?_, ?_, ?_⟩
  · exact receipts.trans h.records.receipts
  · exact beginnings ▸ h.records.beginnings
  · exact fun holds => beginnings.trans (h.records.all holds)

/-- A turn begins, and its events are heard in a call. -/
theorem call {call : Call} (startPos : call.startPos = s.contextPos)
    (posted : Posted eos (s.beginTurn call.prompt.length) (call.receipts.map Posting.ofReceipt) s') :
    Booked eos s
      (⟨.begun call.prompt.length, s.beginTurn call.prompt.length⟩ :: call.receipts.map Posting.ofReceipt) s'
      [call] well := by
  have receipts : (call.receipts.map Posting.ofReceipt).filterMap Posting.receipt? = call.receipts := by
    rw [List.filterMap_map]
    exact List.filterMap_some
  have beginnings : (call.receipts.map Posting.ofReceipt).filterMap Posting.beginning? = [] := by
    rw [List.filterMap_map]
    exact List.filterMap_eq_nil_iff.mpr fun _ _ => rfl
  have begun : (Posting.mk (.begun call.prompt.length) (s.beginTurn call.prompt.length) ::
      call.receipts.map Posting.ofReceipt).filterMap Posting.beginning? = [call.beginning] := by
    rw [List.filterMap_cons_some (b := call.beginning) (by rw [Call.beginning, startPos]; rfl), beginnings]
  refine ⟨⟨.begun _, posted⟩, ?_, ?_, fun _ => begun⟩
  · rw [List.filterMap_cons_none rfl, receipts, List.flatMap_singleton]
  · rw [begun]
    exact List.prefix_rfl

end Booked

namespace Conversation

/-! ### Ledgers of runs -/

/-- The size of the prompt that a text begins a turn with. There is none if the text has no encoding, or its
prompt has no tokens or does not fit. -/
def promptSize? (c : Conversation γ δ π) (text : String) (contextPos : Nat) : Option Nat :=
  match c.style.build c.tokenizer.encode text contextPos with
  | .error _ => none
  | .ok prompt =>
    if prompt.tokens.isEmpty || c.settings.maxTokens - contextPos < prompt.tokens.length then none
    else some prompt.tokens.length

/-- What serving a text posts, with the call that is made for it. -/
def textPostings (c : Conversation γ δ π) (text : String) (s : ConversationState γ π) (call : Option Call) :
    List Posting :=
  (c.promptSize? text s.session.contextPos).toList.map (fun size => ⟨.begun size, s.session.beginTurn size⟩) ++
    (call.elim [] (·.receipts)).map Posting.ofReceipt

/-- What acting on a line posts. -/
def linePostings (c : Conversation γ δ π) (command : Except Termination Command) (s : ConversationState γ π)
    (console : Console) : List Posting :=
  match command with
  | .ok .clear => [⟨.cleared, s.session.resetContext⟩]
  | .ok (.prompt text) => c.textPostings text s (c.turn text s console).call
  | .ok .quit => []
  | .error _ => []

/-- What a round posts. The last posting is that it is over. -/
def roundPostings (c : Conversation γ δ π) (top : LoopTop γ π) : List Posting :=
  (if top.state.session.budgetExhausted c.settings.maxTokens then []
    else
      match top.console.answer (inputMark c.verbosity) with
      | (.error _, _) => []
      | (.ok (), console) => c.linePostings top.command (top.state.atPhase .awaitingInput) console) ++
    [⟨.rested, (c.round top).session⟩]

/-- The ledger of a run from a top of its loop. -/
def ledgerFrom (c : Conversation γ δ π) (top : LoopTop γ π) : List Posting :=
  (c.topsFrom top).flatMap c.roundPostings

/-- The ledger of a run. -/
def ledger (c : Conversation γ δ π) (input : List UInt8) (s : ConversationState γ π) (console : Console) :
    List Posting :=
  c.ledgerFrom ⟨Line.lines input, s, console⟩

/-- The ledgers of runs one after the other. -/
def ledgers (c : Conversation γ δ π) :
    List (List UInt8 × Console) → ConversationState γ π → List (List Posting)
  | [], _ => []
  | (input, console) :: rest, s => c.ledger input s console :: c.ledgers rest (c.run input s console).state

/-- A ledger is of a run: its postings are of the calls of the run, and at its end the run is at rest with its
counters. A run that ends in good order is over. -/
structure Keeps (postings : List Posting) (r : Run γ π) : Prop where
  records : Records postings r.calls (∃ reason, r.result = .ok reason)
  rests : postings.getLast? = some ⟨.rested, r.state.session⟩
  terminated : ∀ reason, r.result = .ok reason → r.state.phase = .terminated

variable {c : Conversation γ δ π}

theorem promptSize?_of_error {text : String} {contextPos : Nat} {error : SessionError}
    (failed : c.style.build c.tokenizer.encode text contextPos = .error error) :
    c.promptSize? text contextPos = none := by
  rw [promptSize?, failed]

theorem promptSize?_of_unfit {text : String} {contextPos : Nat} {prompt : Prompt}
    (built : c.style.build c.tokenizer.encode text contextPos = .ok prompt)
    (unfit : prompt.tokens = [] ∨ c.settings.maxTokens - contextPos < prompt.tokens.length) :
    c.promptSize? text contextPos = none := by
  rw [promptSize?, built]
  simpa using fun nonempty => unfit.resolve_left nonempty

theorem promptSize?_of_fit {text : String} {contextPos : Nat} {prompt : Prompt}
    (built : c.style.build c.tokenizer.encode text contextPos = .ok prompt) (nonempty : prompt.tokens ≠ [])
    (fits : prompt.tokens.length ≤ c.settings.maxTokens - contextPos) :
    c.promptSize? text contextPos = some prompt.tokens.length := by
  rw [promptSize?, built]
  simp [nonempty, Nat.not_lt.mpr fits]

/-! ### Served texts -/

theorem courseEnd_posted (c : Conversation γ δ π) (prompt : List Token) (s : ConversationState γ π)
    (console : Console) :
    Posted c.eos (s.session.beginTurn prompt.length)
      ((c.courseEnd prompt s console).sink.receipts.reverse.map Posting.ofReceipt)
      (c.courseEnd prompt s console).sink.session :=
  Turn.run_posted c.turnSetup (c.generator.generate (c.request prompt s.session.contextPos) s.generator) s.rng
    (t := Turn.start c.turnSetup (s.session.beginTurn prompt.length) .prefilling console s.policy) rfl

theorem Serves.booked {text : String} {s : ConversationState γ π} {console : Console} {served : Served γ π}
    (h : c.Serves text s console served) :
    Booked c.eos s.session (c.textPostings text s served.call) served.state.session served.call.toList
      (served.result = .ok ()) := by
  unfold textPostings
  cases h with
  | unencodable failed =>
    rw [promptSize?_of_error failed]
    exact .none _ _ _
  | empty built empty =>
    rw [promptSize?_of_unfit built (.inl empty)]
    exact .none _ _ _
  | refused built long =>
    rw [promptSize?_of_unfit built (.inr long)]
    exact .none _ _ _
  | unnoted built nonempty fits =>
    -- A turn begins that no call is made for, since the note before the call fails.
    rw [promptSize?_of_fit built nonempty fits]
    exact ⟨⟨.begun _, rfl⟩, rfl, List.nil_prefix, nofun⟩
  | @called prompt console' built nonempty fits =>
    rw [promptSize?_of_fit built nonempty fits]
    let call : Call := ⟨prompt.tokens, s.session.contextPos,
      (c.courseEnd prompt.tokens s console').sink.receipts.reverse⟩
    have startPos : call.startPos = s.session.contextPos := rfl
    exact Booked.call startPos (c.courseEnd_posted prompt.tokens s console')

/-- **Serving a text** keeps its books. -/
theorem turn_booked (c : Conversation γ δ π) (text : String) (s : ConversationState γ π) (console : Console) :
    Booked c.eos s.session (c.textPostings text s (c.turn text s console).call)
      (c.turn text s console).state.session (c.turn text s console).call.toList
      ((c.turn text s console).result = .ok ()) := by
  obtain ⟨state, call, result, -⟩ :=
    c.summarize_state (c.speed (c.serve text s console).state.session.turnPos) (c.serve text s console)
  obtain ⟨posted, records⟩ := (c.serves text s console).booked
  rw [show (c.turn text s console).state = _ from state, show (c.turn text s console).call = _ from call]
  exact ⟨posted, records.receipts, records.beginnings, fun ok => records.all (result ok)⟩

/-! ### Rounds and runs -/

theorem act_booked (c : Conversation γ δ π) (command : Except Termination Command) (rest : List (List UInt8))
    (s : ConversationState γ π) (console : Console) :
    Booked c.eos s.session (c.linePostings command s console) (c.act command rest s console).session
      (c.act command rest s console).calls (c.act command rest s console).GoesWell := by
  rcases command with reason | _ | _ | text
  · exact .none _ _ _
  · exact .none _ _ _
  · exact ⟨⟨.cleared, rfl⟩, rfl, List.prefix_rfl, fun _ => rfl⟩
  · have booked := c.turn_booked text s console
    unfold linePostings act
    dsimp only
    generalize c.turn text s console = served at booked ⊢
    obtain ⟨error | ⟨⟩, state, console', call⟩ := served
    · show Booked _ _ _ _ (call.toList ++ []) (∃ reason, Except.error error = .ok reason)
      rw [List.append_nil]
      exact ⟨booked.posted, booked.records.receipts, booked.records.beginnings, fun ⟨_, ok⟩ => by cases ok⟩
    · exact ⟨booked.posted, booked.records.receipts, booked.records.beginnings, fun _ => booked.records.all rfl⟩

/-- **A round** keeps its books. -/
theorem round_booked (c : Conversation γ δ π) (top : LoopTop γ π) :
    Booked c.eos top.state.session (c.roundPostings top) (c.round top).session (c.round top).calls
      (c.round top).GoesWell := by
  refine Booked.rested ?_
  unfold round
  split_ifs
  · exact .none _ _ _
  · rcases top.console.answer (inputMark c.verbosity) with ⟨error | ⟨⟩, console⟩
    · exact .none _ _ _
    · exact c.act_booked top.command top.lines.tail (top.state.atPhase .awaitingInput) console

theorem runFrom_booked (c : Conversation γ δ π) (top : LoopTop γ π) :
    Booked c.eos top.state.session (c.ledgerFrom top) (c.runFrom top).state.session (c.runFrom top).calls
      (∃ reason, (c.runFrom top).result = .ok reason) := by
  induction top using c.round_induction with
  | step top ih =>
    have booked := c.round_booked top
    rw [runLines_round, ledgerFrom]
    rcases hr : c.round top with r | ⟨call, next⟩ <;> rw [hr] at booked
    · rw [topsFrom_of_ends hr, List.flatMap_singleton]
      exact booked
    · rw [topsFrom_of_goesOn hr, List.flatMap_cons]
      exact booked.append trivial (ih call next hr)

theorem getLast?_ledgerFrom (c : Conversation γ δ π) (top : LoopTop γ π) :
    (c.ledgerFrom top).getLast? = some ⟨.rested, (c.runFrom top).state.session⟩ := by
  obtain ⟨before, last, r, tops, ends, state⟩ := c.exists_topsFrom_concat top
  rw [ledgerFrom, tops, List.flatMap_append, List.flatMap_singleton, roundPostings, ← List.append_assoc,
    List.getLast?_concat, ends, state]
  rfl

/-- **A run keeps its ledger.** -/
theorem run_keeps (c : Conversation γ δ π) (input : List UInt8) (s : ConversationState γ π) (console : Console) :
    Keeps (c.ledger input s console) (c.run input s console) where
  records := (c.runFrom_booked ⟨Line.lines input, s, console⟩).records
  rests := c.getLast?_ledgerFrom ⟨Line.lines input, s, console⟩
  terminated _ ended := run_terminated ended

/-! ### Sessions -/

theorem ledgers_keep (c : Conversation γ δ π) (inputs : List (List UInt8 × Console))
    (s : ConversationState γ π) :
    List.Forall₂ Keeps (c.ledgers inputs s) (c.runs inputs s) ∧
      ∃ s', Posted c.eos s.session (c.ledgers inputs s).flatten s' := by
  induction inputs generalizing s with
  | nil => exact ⟨.nil, s.session, rfl⟩
  | cons first rest ih =>
    obtain ⟨input, console⟩ := first
    obtain ⟨keeps, s', posted⟩ := ih (c.run input s console).state
    exact ⟨.cons (c.run_keeps input s console) keeps, s',
      (c.runFrom_booked ⟨Line.lines input, s, console⟩).posted.append posted⟩

/-- **The books of a session** with any generator. Every run keeps its ledger, also one that fails, and at every
posting of the ledgers the counters are accounted for. -/
theorem ledgers_accounted (c : Conversation γ δ π) (rng : Rng) (generator : γ) (policy : π)
    (inputs : List (List UInt8 × Console)) :
    let s := ConversationState.start c.settings rng generator policy
    List.Forall₂ Keeps (c.ledgers inputs s) (c.runs inputs s) ∧
      Session.Accounted c.eos c.settings (c.ledgers inputs s).flatten := by
  intro s
  obtain ⟨keeps, _, posted⟩ := c.ledgers_keep inputs s
  exact ⟨keeps, posted.accounted (Session.start_tallies c.eos c.settings)⟩

/-- Two runs of a session that keeps its context. The second turn begins where the first ended, and the command
after it forgets the context but not the turn. -/
theorem silent_ledgers_accounted :
    let c := silent 1 2 ⟨100, 10, Single.one, 1, false, true⟩
    let inputs := [(Line.bytes "a\n", Console.fresh none none), (Line.bytes "b\n%c\n", Console.fresh none none)]
    let s := ConversationState.start c.settings Rng.fixed Cache.empty ()
    (c.ledgers inputs s).map (fun postings => postings.map fun p => (p.session.contextPos, p.session.turnPos)) =
        [[(0, 0), (1, 1), (2, 2), (3, 3), (3, 3), (3, 3)],
          [(3, 0), (4, 1), (5, 2), (5, 2), (0, 2), (0, 2), (0, 2)]] ∧
      List.Forall₂ Keeps (c.ledgers inputs s) (c.runs inputs s) ∧
      Session.Accounted c.eos c.settings (c.ledgers inputs s).flatten := by
  intro c inputs s
  exact ⟨by decide +kernel, c.ledgers_accounted Rng.fixed Cache.empty () inputs⟩

end Conversation

end PromptLoop
