import PromptLoop.Proofs.Handling
import PromptLoop.Proofs.Hearing
import PromptLoop.Proofs.Losses

/-!
# When a session fails to decode

A turn, and a run that an engine answers, fails with an error of the decoder exactly at tokens that make
text be lost (`TrainedTokenizer.failsToDecode_iff`). That all tokens are in the vocabulary is no help: a
letter that is spelled as a byte is shown at once, and lost with a byte after it that is no character.

An output that is full may end a turn before it comes to that. If the outputs have no limit, tokens that
lose text are never shown.
-/

namespace PromptLoop

variable {γ π : Type} {t : TrainedTokenizer}

/-- The result is an error of the decoder. -/
def FailsToDecode {α : Type} (result : Except SessionError α) : Prop :=
  ∃ token detail, result = .error (.decode token detail)

/-- The early end is for an error of the decoder. -/
def DecodeHalt {α : Type} (result : Except Halt α) : Prop :=
  ∃ token detail, result = .error (SessionError.decode token detail)

/-! ### Turns -/

namespace Turn

variable {setup : TurnSetup StreamDecoder π} {turn turn' : Turn StreamDecoder π} {events : List Event}

/-- A turn that hears all events without an error loses no text. -/
theorem Hears.keepsText (fallback : t.rendering.HasByteFallback) (tokenizer : setup.tokenizer = t.tokenizer)
    (fresh : turn.decoder = setup.tokenizer.fresh) (h : Hears setup turn events none turn') :
    ¬ t.LosesText (decoded setup.eos turn.toPassOver (events.map (·.token))) := by
  cases h with
  | well receives =>
    obtain ⟨-, -, -, steps⟩ := receives.steps
    rw [fresh, tokenizer] at steps
    exact (TrainedTokenizer.steps_ok_iff fallback _).mp steps

/-- A turn fails because an output is full, or because text is lost. -/
theorem Hears.losesText (fallback : t.rendering.HasByteFallback) (tokenizer : setup.tokenizer = t.tokenizer)
    (fresh : turn.decoder = setup.tokenizer.fresh) {error : SessionError}
    (h : Hears setup turn events (some error) turn') :
    error = Writer.full ∧ ¬ turn.console.Works ∨
      t.LosesText (decoded setup.eos turn.toPassOver (events.map (·.token))) ∧
        ∃ token detail, error = .decode token detail := by
  rcases h.steps_of_some with blocked | ⟨chunks, token, d, steps, stepped⟩
  · exact .inl blocked
  right
  rw [fresh, tokenizer] at steps
  rw [tokenizer] at stepped
  constructor
  · by_contra keeps
    obtain ⟨chunks', steps'⟩ := (TrainedTokenizer.steps_ok_iff fallback _).mpr keeps
    have failed : (.error error : Except SessionError (Option String)) ∈ chunks'.map .ok := by
      rw [← steps', show t.tokenizer.steps .fresh _ = _ from steps]
      simp
    obtain ⟨_, -, same⟩ := List.mem_map.mp failed
    cases same
  · obtain ⟨detail, decode⟩ := TrainedTokenizer.step_error stepped
    exact ⟨token, detail, decode⟩

/-- A turn fails to decode exactly at tokens that lose text. -/
theorem feed_failsToDecode (fallback : t.rendering.HasByteFallback) (eos : Token) (verbosity : Nat)
    (policy : Policy π) (s : Session) (promptSize : Nat) (phase : Phase) (console : Console) (state : π)
    (events : List Event) (rng : Rng) :
    let setup : TurnSetup StreamDecoder π := ⟨t.tokenizer, eos, verbosity, policy⟩
    let fed := (Turn.sink setup).feed events rng (start setup (s.beginTurn promptSize) phase console state)
    (FailsToDecode fed.1 → t.LosesText (decoded eos (promptSize - 1) (events.map (·.token)))) ∧
      (console.Works → t.LosesText (decoded eos (promptSize - 1) (events.map (·.token))) →
        FailsToDecode fed.1) := by
  intro setup fed
  rcases hf : fed with ⟨error | ⟨⟩, rng', turn'⟩
  · obtain ⟨heard, ⟨rest, rfl⟩, hears⟩ := hears_of_feed hf
    rcases hears.losesText fallback rfl rfl with ⟨rfl, broken⟩ | ⟨loses, token, detail, rfl⟩
    · refine ⟨?_, fun works => absurd works broken⟩
      rintro ⟨token, detail, full⟩
      cases full
    · refine ⟨fun _ => loses.of_prefix ?_, fun _ _ => ⟨token, detail, rfl⟩⟩
      rw [List.map_append, decoded_append]
      exact List.prefix_append _ _
  · refine ⟨fun ⟨_, _, failed⟩ => (by cases failed), fun _ loses => ?_⟩
    exact absurd loses (Hears.keepsText fallback rfl rfl (.well (receives_of_feed hf)))

end Turn

/-! ### Calls -/

/-- The tokens of a call that are put into the decoder. -/
def Call.decoded (eos : Token) (call : Call) : List Token :=
  Turn.decoded eos (call.prompt.length - 1) (call.receipts.map (·.event.token))

namespace Conversation

variable {c : Conversation γ StreamDecoder π}

/-- A call fails to decode exactly at tokens that lose text. -/
theorem courseEnd_failsToDecode (fallback : t.rendering.HasByteFallback) (tokenizer : c.tokenizer = t.tokenizer)
    (e : Engine) (prompt : List Token) (s : ConversationState Cache π) (console : Console) :
    let ended := (c.answeredBy e).courseEnd prompt s console
    let call : Call := ⟨prompt, s.session.contextPos, ended.sink.receipts.reverse⟩
    (DecodeHalt ended.result → t.LosesText (call.decoded e.eos)) ∧
      (console.Works → t.LosesText (call.decoded e.eos) → DecodeHalt ended.result) := by
  intro ended call
  obtain ⟨-, -, failure, result, hears⟩ := c.courseEnd_hears e prompt s console
  have heard : call.receipts.map (·.event.token) = (call.receipts.map (·.event)).map (·.token) :=
    List.map_map.symm
  rw [Call.decoded, heard]
  cases failure with
  | none =>
    refine ⟨fun ⟨token, detail, failed⟩ => ?_, fun _ loses => ?_⟩
    · obtain ⟨_, generation⟩ := result _ failed
      cases generation
    · exact absurd loses (hears.keepsText fallback tokenizer rfl)
  | some error =>
    rcases hears.losesText fallback tokenizer rfl with ⟨rfl, broken⟩ | ⟨loses, token, detail, rfl⟩
    · refine ⟨fun ⟨_, _, failed⟩ => ?_, fun works => absurd works broken⟩
      cases result.symm.trans failed
    · exact ⟨fun _ => loses, fun _ _ => ⟨token, detail, result⟩⟩

/-- A text that fails to be decoded was answered with tokens that lose text. -/
theorem turn_losesText (fallback : t.rendering.HasByteFallback) (tokenizer : c.tokenizer = t.tokenizer)
    (e : Engine) (text : String) (s : ConversationState Cache π) (console : Console)
    (fails : DecodeHalt ((c.answeredBy e).turn text s console).result) :
    ∃ call ∈ ((c.answeredBy e).turn text s console).call, t.LosesText (call.decoded e.eos) := by
  obtain ⟨token, detail, failed⟩ := fails
  rcases (c.answeredBy e).turn_cases text s console with served | ⟨prompt, console', -, served⟩
  · rcases served.failure _ failed with full | ⟨text, unencodable⟩
    · cases full
    · have unencodable : c.tokenizer.encode text = _ := unencodable
      rw [tokenizer] at unencodable
      obtain ⟨_, encode⟩ := TrainedTokenizer.encode_error unencodable
      cases encode
  · refine ⟨_, served.call, (courseEnd_failsToDecode fallback tokenizer e _ s console').1 ⟨token, detail, ?_⟩⟩
    rcases served.failure _ failed with full | failed
    · cases full
    · exact failed

/-- If the outputs work, a text that is answered with tokens that lose text fails to be decoded. -/
theorem turn_failsToDecode (fallback : t.rendering.HasByteFallback) (tokenizer : c.tokenizer = t.tokenizer)
    (e : Engine) (text : String) (s : ConversationState Cache π) {console : Console} (works : console.Works)
    {call : Call} (mem : call ∈ ((c.answeredBy e).turn text s console).call)
    (loses : t.LosesText (call.decoded e.eos)) :
    DecodeHalt ((c.answeredBy e).turn text s console).result := by
  cases ((c.answeredBy e).turn_handled text s works).1 with
  | unencodable _ none => rw [none] at mem; cases mem
  | passedOver _ _ none => rw [none] at mem; cases mem
  | called works' called result =>
    rw [called.call] at mem
    cases mem
    rw [result]
    exact (courseEnd_failsToDecode fallback tokenizer e _ s _).2 works' loses

/-! ### Runs -/

theorem run_losesText (fallback : t.rendering.HasByteFallback) (tokenizer : c.tokenizer = t.tokenizer)
    (e : Engine) (input : List UInt8) (s : ConversationState Cache π) (console : Console)
    (fails : DecodeHalt ((c.answeredBy e).run input s console).result) :
    ∃ call ∈ ((c.answeredBy e).run input s console).calls, t.LosesText (call.decoded e.eos) := by
  obtain ⟨token, detail, failed⟩ := fails
  rcases (c.answeredBy e).run_error input s console failed with full | ⟨text, s', console', failed, among⟩
  · cases full
  · obtain ⟨call, mem, loses⟩ := turn_losesText fallback tokenizer e text s' console' ⟨token, detail, failed⟩
    exact ⟨call, among call mem, loses⟩

theorem run_failsToDecode (fallback : t.rendering.HasByteFallback) (tokenizer : c.tokenizer = t.tokenizer)
    (e : Engine) (input : List UInt8) (s : ConversationState Cache π) {console : Console}
    (works : console.Works) {call : Call} (mem : call ∈ ((c.answeredBy e).run input s console).calls)
    (loses : t.LosesText (call.decoded e.eos)) :
    DecodeHalt ((c.answeredBy e).run input s console).result := by
  -- As long as the run goes on, no call has lost text.
  obtain ⟨calls, top, last, ⟨kept, works'⟩, ends, same⟩ := runFrom_ends (c := c.answeredBy e)
    (P := fun calls top => (∀ call ∈ calls, ¬ t.LosesText (call.decoded e.eos)) ∧ top.console.Works)
    (fun calls top call top' goes ⟨kept, works⟩ => by
      refine ⟨fun call' mem => ?_, goes.works works⟩
      rcases List.mem_append.mp mem with mem | mem
      · exact kept call' mem
      cases goes with
      | cleared => cases mem
      | served opens _ ok =>
        intro loses
        obtain ⟨_, _, failed⟩ := turn_failsToDecode fallback tokenizer e _ _ (opens.works works)
          (Option.mem_toList.mp mem) loses
        cases ok.symm.trans failed)
    ⟨Line.lines input, s, console⟩ ⟨List.forall_mem_nil _, works⟩
  have same : (c.answeredBy e).run input s console = afterCalls calls last := same
  rw [same] at mem ⊢
  rcases List.mem_append.mp mem with mem | mem
  · exact absurd loses (kept call mem)
  cases ends with
  | overBudget => cases mem
  | unmarked => cases mem
  | quits => cases mem
  | @failed error console text opens _ result =>
    rw [afterCall, stop, List.append_nil] at mem
    obtain ⟨token, detail, failed⟩ := turn_failsToDecode fallback tokenizer e _ _ (opens.works works')
      (Option.mem_toList.mp mem) loses
    have same : error = SessionError.decode token detail := Except.error.inj (result.symm.trans failed)
    exact ⟨token, detail, congrArg Except.error same⟩

end Conversation

/-- **When decoding fails**: a turn and a run that an engine answers fail with an error of the decoder only
at tokens that make text be lost, and if the outputs have no limit, always at such tokens. -/
theorem TrainedTokenizer.failsToDecode_iff (t : TrainedTokenizer) (fallback : t.rendering.HasByteFallback) :
    (∀ (eos : Token) (verbosity : Nat) (policy : Policy π) (s : Session) (promptSize : Nat) (phase : Phase)
        (console : Console) (state : π) (events : List Event) (rng : Rng),
      let setup : TurnSetup StreamDecoder π := ⟨t.tokenizer, eos, verbosity, policy⟩
      let turn := Turn.start setup (s.beginTurn promptSize) phase console state
      let fed := (Turn.sink setup).feed events rng turn
      let tokens := Turn.decoded eos (promptSize - 1) (events.map (·.token))
      (FailsToDecode fed.1 → t.LosesText tokens) ∧
        (console.Works → t.LosesText tokens → FailsToDecode fed.1)) ∧
      ∀ (c : Conversation γ StreamDecoder π) (e : Engine) (input : List UInt8)
        (s : ConversationState Cache π) (console : Console), c.tokenizer = t.tokenizer →
        let r := (c.answeredBy e).run input s console
        (DecodeHalt r.result → ∃ call ∈ r.calls, t.LosesText (call.decoded e.eos)) ∧
          (console.Works → (∃ call ∈ r.calls, t.LosesText (call.decoded e.eos)) → DecodeHalt r.result) := by
  refine ⟨fun eos verbosity policy s promptSize phase console state events rng =>
    Turn.feed_failsToDecode fallback eos verbosity policy s promptSize phase console state events rng, ?_⟩
  intro c e input s console tokenizer r
  refine ⟨Conversation.run_losesText fallback tokenizer e input s console, ?_⟩
  rintro works ⟨call, mem, loses⟩
  exact Conversation.run_failsToDecode fallback tokenizer e input s works mem loses

/-- A letter that is spelled as a byte, a byte that is no character, and a letter. -/
def Vocabulary.stray : Vocabulary := ⟨["<0x41>", "<0xFF>", "a"], []⟩

namespace Turn

/-- How turns with that vocabulary are set up. -/
def straySetup : TurnSetup StreamDecoder Unit := ⟨Vocabulary.stray.trained.tokenizer, 99, 0, .always⟩

/-- What a turn makes of a letter as its prompt, and of the three pieces in order as its response. -/
def strayFed : Except SessionError Unit × Rng × Turn StreamDecoder Unit :=
  (Turn.sink straySetup).feed ([2, 0, 1, 2].map .echo) Rng.fixed
    (start straySetup ((Session.start false false).beginTurn 1) .awaitingInput (Console.fresh none none) ())

/-- A run with that vocabulary on one line, with an engine that is silent. -/
def strayRun : Run Cache Unit :=
  let c : Conversation Cache StreamDecoder Unit :=
    ⟨(Engine.silent 99).generator, Vocabulary.stray.trained.tokenizer, ⟨.pretrained, 2⟩, 99, 0,
      ⟨100, 10, Single.one, 1, false, true⟩, fun _ => true, .always, fun _ => ""⟩
  (c.answeredBy (.silent 99)).run (Line.bytes "A\n") (.start c.settings Rng.fixed Cache.empty ())
    (Console.fresh none none)

theorem stray_failsToDecode_iff :
    Vocabulary.stray.trained.rendering.HasByteFallback ∧
      (FailsToDecode strayFed.1 ↔ Vocabulary.stray.trained.LosesText [2, 0, 1, 2]) ∧
      strayRun.result = .ok .endOfInput ∧
      ∀ call ∈ strayRun.calls, ¬ Vocabulary.stray.trained.LosesText (call.decoded 99) := by
  have fallback : Vocabulary.stray.trained.rendering.HasByteFallback :=
    Rendering.hasByteFallback_byteFallback
  have ended : strayRun.result = .ok .endOfInput := by decide +kernel
  obtain ⟨turns, runs⟩ := Vocabulary.stray.trained.failsToDecode_iff (γ := Cache) (π := Unit) fallback
  obtain ⟨only, always⟩ := turns 99 0 .always (Session.start false false) 1 .awaitingInput
    (Console.fresh none none) () ([2, 0, 1, 2].map .echo) Rng.fixed
  refine ⟨fallback, ⟨only, always Console.works_fresh⟩, ended, fun call mem loses => ?_⟩
  obtain ⟨_, _, failed⟩ := (runs _ (.silent 99) _ _ _ rfl).2 Console.works_fresh ⟨call, mem, loses⟩
  cases ended.symm.trans failed

/-- All tokens are in the vocabulary, and still the turn fails to decode the last of them. -/
theorem stray_failsToDecode :
    (∀ token ∈ [2, 0, 1, 2], (Vocabulary.stray.trained.piece? token).isSome = true) ∧
      FailsToDecode strayFed.1 := by
  refine ⟨by decide +kernel, 2, "Invalid prefix encountered while decoding stream. Token ID: 2, " ++
    "Expected prefix: 'A', Actual string: '\uFFFD\uFFFDa'", ?_⟩
  decide +kernel

end Turn

end PromptLoop
