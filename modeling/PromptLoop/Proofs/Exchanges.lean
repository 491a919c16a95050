import PromptLoop.Proofs.Handling

/-!
# The exchanges of a run

What a run does is told here without its loop. Its lines are exchanges, in order: a line makes the context
be forgotten, or its prompt is passed over, or the generator is called with its prompt
(`Conversation.Acts`), each at the position that the line before left (`Conversation.Chain`). After the
exchanges the run ends for one of a few reasons, and no line that is left is acted on
(`Conversation.Finish`).

If the outputs have no limit, every run is exchanges and an end, whatever the generator and the tokenizer
are (`Conversation.run_exchanges`).
-/

namespace PromptLoop

variable {γ δ π : Type}

/-! ### Lines -/

namespace Line

/-- The line is a text, and without the line-ending characters at its end that text is the body. -/
def HasBody (line : List UInt8) (body : String) : Prop :=
  ∃ text, text? line = some text ∧ Command.body text = body

/-- The line asks to quit. -/
def Quits (line : List UInt8) : Prop := HasBody line "%q" ∨ HasBody line "%Q"

/-- The line asks to forget the context. -/
def Clears (line : List UInt8) : Prop := HasBody line "%c" ∨ HasBody line "%C"

/-- The line asks for an answer to its body. -/
def Asks (line : List UInt8) (body : String) : Prop :=
  HasBody line body ∧ body ∉ ["%q", "%Q", "%c", "%C"]

end Line

namespace LoopTop

variable {top : LoopTop γ π}

/-- What the next line asks for, from what it is. -/
theorem command_cons {line : List UInt8} {rest : List (List UInt8)} {text : String}
    (lines : top.lines = line :: rest) (isText : Line.text? line = some text) :
    Line.Quits line ∧ top.command = .error .quitCommand ∨ Line.Clears line ∧ top.command = .ok .clear ∨
      ∃ body, Line.Asks line body ∧ top.command = .ok (.prompt body) := by
  have hasBody : ∀ {body}, Command.body text = body → Line.HasBody line body :=
    fun same => ⟨text, isText, same⟩
  simp only [command, lines, isText, Command.ofLine, Command.ofBody]
  by_cases quits : Command.body text = "%q" ∨ Command.body text = "%Q"
  · rw [if_pos quits]
    exact .inl ⟨quits.imp hasBody hasBody, rfl⟩
  rw [if_neg quits]
  by_cases clears : Command.body text = "%c" ∨ Command.body text = "%C"
  · rw [if_pos clears]
    exact .inr (.inl ⟨clears.imp hasBody hasBody, rfl⟩)
  rw [if_neg clears]
  refine .inr (.inr ⟨Command.body text, ⟨hasBody rfl, ?_⟩, rfl⟩)
  simp only [List.mem_cons, List.not_mem_nil, or_false, not_or] at quits clears ⊢
  exact ⟨quits.1, quits.2, clears.1, clears.2⟩

/-- What the next line is, from what it asks for. -/
theorem lines_of_command (top : LoopTop γ π) :
    match top.command with
    | .error .endOfInput => ∀ line rest, top.lines = line :: rest → Line.text? line = none
    | .error .quitCommand => ∃ line, top.lines = line :: top.lines.tail ∧ Line.Quits line
    | .error .budgetExhausted => False
    | .ok .quit => False
    | .ok .clear => ∃ line, top.lines = line :: top.lines.tail ∧ Line.Clears line
    | .ok (.prompt body) => ∃ line, top.lines = line :: top.lines.tail ∧ Line.Asks line body := by
  rcases lines : top.lines with _ | ⟨line, rest⟩
  · simp [command, lines]
  rcases isText : Line.text? line with _ | text
  · simp [command, lines, isText]
  · obtain ⟨quits, command⟩ | ⟨clears, command⟩ | ⟨body, asks, command⟩ := command_cons lines isText
    · rw [command]
      exact ⟨line, rfl, quits⟩
    · rw [command]
      exact ⟨line, rfl, clears⟩
    · rw [command]
      exact ⟨line, rfl, asks⟩

end LoopTop

/-! ### Prompts -/

namespace Conversation

/-- The text that the prompt for a text is made of. -/
def promptText (c : Conversation γ δ π) (body : String) (position : Nat) : String :=
  match c.style.training with
  | .pretrained => body
  | .instructionTuned =>
    (if 0 < position then "<end_of_turn>\n" else "") ++
      "<start_of_turn>user\n" ++ body ++ "<end_of_turn>\n" ++ "<start_of_turn>model\n"

/-- The tokens of the prompt for a text at a position. -/
def Prompts (c : Conversation γ δ π) (body : String) (position : Nat) (prompt : List Token) : Prop :=
  ∃ tokens, c.tokenizer.encode (c.promptText body position) = .ok tokens ∧
    prompt = (if position = 0 then [c.style.bos] else []) ++ tokens

theorem template_eq (c : Conversation γ δ π) (body : String) (position : Nat) :
    c.style.template body position = c.promptText body position := by
  unfold PromptStyle.template promptText
  cases c.style.training <;> rfl

theorem prompts_of_build {c : Conversation γ δ π} {body : String} {position : Nat} {prompt : Prompt}
    (h : c.style.build c.tokenizer.encode body position = .ok prompt) :
    c.Prompts body position prompt.tokens := by
  obtain ⟨tokens, encoded, rfl⟩ := PromptStyle.build_eq_ok_iff.mp h
  rw [template_eq] at encoded
  exact ⟨tokens, encoded, PromptStyle.opened_eq _ _ _⟩

theorem encode_of_build {c : Conversation γ δ π} {body : String} {position : Nat} {error : SessionError}
    (h : c.style.build c.tokenizer.encode body position = .error error) :
    c.tokenizer.encode (c.promptText body position) = .error error := by
  rw [← template_eq]
  exact PromptStyle.build_eq_error_iff.mp h

end Conversation

/-! ### Calls -/

/-- The position in the context that a call leaves: that of its last receipt, if there is one. -/
def Call.endPos (call : Call) : Nat :=
  ((call.receipts.getLast?).map (·.session.contextPos)).getD call.startPos

namespace Conversation

/-- The generator is called with a prompt at a position, and its course ends with a result. -/
def Calls (c : Conversation γ δ π) (prompt : List Token) (position : Nat) (call : Call)
    (result : Except Halt Unit) : Prop :=
  ∃ (s : ConversationState γ π) (console : Console), s.session.contextPos = position ∧
    call = ⟨prompt, position, (c.courseEnd prompt s console).sink.receipts.reverse⟩ ∧
    (c.courseEnd prompt s console).result = result

/-- The position of the last receipt, if there is one, and otherwise a position. -/
def lastPos (position : Nat) (t : Turn δ π) : Nat :=
  (t.receipts.head?.map (·.session.contextPos)).getD position

theorem lastPos_receive (setup : TurnSetup δ π) (position : Nat) (event : Event) (rng : Rng) (t : Turn δ π) :
    lastPos position (t.receive setup event rng).2.2 =
      (t.receive setup event rng).2.2.session.contextPos := by
  have received : Turn.Received setup.eos event rng t _ _ (t.receive setup event rng).2.2 :=
    Turn.receive_received rfl
  rw [lastPos, received.receipts]
  rfl

/-- The last receipt of a call has the position that the session is left at. -/
theorem endPos_courseEnd (c : Conversation γ δ π) (prompt : List Token) (s : ConversationState γ π)
    (console : Console) :
    Call.endPos ⟨prompt, s.session.contextPos, (c.courseEnd prompt s console).sink.receipts.reverse⟩ =
      (c.courseEnd prompt s console).sink.session.contextPos := by
  rw [Call.endPos, List.getLast?_reverse]
  exact Course.run_keeps (P := fun t : Turn δ π => lastPos s.session.contextPos t = t.session.contextPos)
    (fun event rng t _ => lastPos_receive c.turnSetup _ event rng t) _ _ rfl

/-- A text that the generator is called for is a call with its prompt. -/
theorem Called.calls {c : Conversation γ δ π} {text : String} {s : ConversationState γ π} {prompt : Prompt}
    {console : Console} {served : Served γ π} {result : Except Halt Unit}
    (called : Called c text s prompt (c.courseEnd prompt.tokens s console) served)
    (ended : (c.courseEnd prompt.tokens s console).result = result) :
    ∃ call, served.call = some call ∧ c.Prompts text s.session.contextPos prompt.tokens ∧
      c.Calls prompt.tokens s.session.contextPos call result ∧
      call.endPos = served.state.session.contextPos := by
  refine ⟨_, called.call, prompts_of_build called.built, ⟨s, console, rfl, rfl, ended⟩, ?_⟩
  rw [endPos_courseEnd, called.session]

end Conversation

/-! ### Exchanges -/

/-- What became of a line. -/
structure Exchange where
  /-- The line. -/
  line : List UInt8
  /-- The position in the context when it was read. -/
  position : Nat
  /-- The call of the generator, if one was made. -/
  call : Option Call

namespace Conversation

/-- A line is acted on without an error, and leaves a position in the context. -/
inductive Acts (c : Conversation γ δ π) : Exchange → Nat → Prop
  /-- The context is forgotten. -/
  | clears {line : List UInt8} {position : Nat} (clears : Line.Clears line) : Acts c ⟨line, position, none⟩ 0
  /-- The prompt has no tokens, or more than are left of the budget. -/
  | passesOver {line : List UInt8} {position : Nat} {body : String} {prompt : List Token}
      (asks : Line.Asks line body) (prompts : c.Prompts body position prompt)
      (passes : prompt = [] ∨ c.settings.maxTokens - position < prompt.length) :
      Acts c ⟨line, position, none⟩ position
  /-- The generator is called. -/
  | calls {line : List UInt8} {position : Nat} {body : String} {prompt : List Token} {call : Call}
      (asks : Line.Asks line body) (prompts : c.Prompts body position prompt) (nonempty : prompt ≠ [])
      (fits : prompt.length ≤ c.settings.maxTokens - position) (calls : c.Calls prompt position call (.ok ())) :
      Acts c ⟨line, position, some call⟩ call.endPos

/-- Lines are acted on one after the other, from a position to a position, while the budget lasts. -/
def Chain (c : Conversation γ δ π) : Nat → List Exchange → Nat → Prop
  | position, [], after => after = position
  | position, x :: xs, after => x.position = position ∧ position < c.settings.maxTokens ∧
      ∃ next, c.Acts x next ∧ Chain c next xs after

/-- A run ends at a position with some lines left: the call that is made in vain, if there is one, the
result, and the position that is left. -/
inductive Finish (c : Conversation γ δ π) (position : Nat) :
    List (List UInt8) → Option Call → Except Halt Termination → Nat → Prop
  /-- The budget is used up. -/
  | exhausted {lines : List (List UInt8)} (exhausted : c.settings.maxTokens ≤ position) :
      Finish c position lines none (.ok .budgetExhausted) position
  /-- There are no more lines. -/
  | noLine (room : position < c.settings.maxTokens) : Finish c position [] none (.ok .endOfInput) position
  /-- The line is no text. -/
  | noText {line : List UInt8} {rest : List (List UInt8)} (room : position < c.settings.maxTokens)
      (noText : Line.text? line = none) : Finish c position (line :: rest) none (.ok .endOfInput) position
  /-- The line asks to quit. -/
  | quits {line : List UInt8} {rest : List (List UInt8)} (room : position < c.settings.maxTokens)
      (quits : Line.Quits line) : Finish c position (line :: rest) none (.ok .quitCommand) position
  /-- The text has no encoding. -/
  | unencodable {line : List UInt8} {rest : List (List UInt8)} {body : String} {error : SessionError}
      (room : position < c.settings.maxTokens) (asks : Line.Asks line body)
      (failed : c.tokenizer.encode (c.promptText body position) = .error error) :
      Finish c position (line :: rest) none (.error error) position
  /-- The generator is called and fails or panics. -/
  | fails {line : List UInt8} {rest : List (List UInt8)} {body : String} {prompt : List Token} {call : Call}
      {error : Halt} (room : position < c.settings.maxTokens) (asks : Line.Asks line body)
      (prompts : c.Prompts body position prompt) (nonempty : prompt ≠ [])
      (fits : prompt.length ≤ c.settings.maxTokens - position)
      (calls : c.Calls prompt position call (.error error)) :
      Finish c position (line :: rest) (some call) (.error error) call.endPos

variable {c : Conversation γ δ π}

/-- One more line. -/
theorem Chain.concat {position after : Nat} {xs : List Exchange} {x : Exchange} {next : Nat}
    (h : c.Chain position xs after) (here : x.position = after) (room : after < c.settings.maxTokens)
    (acts : c.Acts x next) : c.Chain position (xs ++ [x]) next := by
  induction xs generalizing position with
  | nil =>
    obtain rfl : after = position := h
    exact ⟨here, room, next, acts, rfl⟩
  | cons y ys ih =>
    obtain ⟨first, room', next', acts', rest⟩ := h
    exact ⟨first, room', next', acts', ih rest⟩

/-! ### Rounds -/

/-- The exchanges of a run up to some top of its loop. -/
structure Exchanged (c : Conversation γ δ π) (lines : List (List UInt8)) (position : Nat)
    (xs : List Exchange) (calls : List Call) (top : LoopTop γ π) : Prop where
  lines : lines = xs.map (·.line) ++ top.lines
  chain : c.Chain position xs top.state.session.contextPos
  calls : calls = xs.filterMap (·.call)
  works : top.console.Works

/-- One more exchange. -/
theorem Exchanged.concat {lines : List (List UInt8)} {position : Nat} {xs : List Exchange}
    {calls : List Call} {top top' : LoopTop γ π} {x : Exchange} {console : Console}
    (h : c.Exchanged lines position xs calls top) (opens : c.Opens top console)
    (line : top.lines = x.line :: top'.lines) (here : x.position = top.state.session.contextPos)
    (acts : c.Acts x top'.state.session.contextPos) (works : top'.console.Works) :
    c.Exchanged lines position (xs ++ [x]) (calls ++ x.call.toList) top' := by
  refine ⟨?_, h.chain.concat here opens.1 acts, ?_, works⟩
  · rw [h.lines, line, List.map_append, List.append_assoc]
    rfl
  · rw [h.calls, List.filterMap_append]
    cases call : x.call <;> simp [call]

/-- A round that the run goes on after is an exchange. -/
theorem GoesOn.exchanged {lines : List (List UInt8)} {position : Nat} {calls : List Call}
    {top top' : LoopTop γ π} {call : Option Call} (goes : c.GoesOn top call top')
    (h : ∃ xs, c.Exchanged lines position xs calls top) :
    ∃ xs, c.Exchanged lines position xs (calls ++ call.toList) top' := by
  obtain ⟨xs, h⟩ := h
  have command_lines := top.lines_of_command
  have works := goes.works h.works
  cases goes with
  | cleared opens command =>
    rw [command] at command_lines
    obtain ⟨line, first, clears⟩ := command_lines
    exact ⟨_, h.concat (x := ⟨line, top.state.session.contextPos, none⟩) opens first rfl (.clears clears) works⟩
  | @served console text opens command result =>
    rw [command] at command_lines
    obtain ⟨line, first, asks⟩ := command_lines
    refine ⟨_, h.concat (x := ⟨line, top.state.session.contextPos, (c.turnOf text top console).call⟩)
      opens first rfl ?_ works⟩
    cases (c.turn_handled text (top.state.atPhase .awaitingInput) (opens.works h.works)).1 with
    | unencodable _ _ failed => cases result.symm.trans failed
    | passedOver built passes none _ contextPos =>
      rw [turnOf, none, contextPos]
      exact .passesOver asks (prompts_of_build built) passes
    | called _ called result' =>
      obtain ⟨call, some_call, prompts, calls, endPos⟩ := called.calls (result'.symm.trans result)
      rw [turnOf, some_call, ← endPos]
      exact .calls asks prompts called.nonempty called.fits calls

/-- A round that ends the run is its end. -/
theorem EndsWith.finish {top : LoopTop γ π} {r : Run γ π} (ends : c.EndsWith top r)
    (works : top.console.Works) :
    ∃ last, r.calls = last.toList ∧
      c.Finish top.state.session.contextPos top.lines last r.result r.state.session.contextPos := by
  have command_lines := top.lines_of_command
  cases ends with
  | overBudget exhausted =>
    have printed := (works.answer (budgetNotice c.settings.maxTokens)).1
    have result : (c.stopOverBudget top.state top.console).result = .ok .budgetExhausted := by
      show ((top.console.answer (budgetNotice c.settings.maxTokens)).1.map _).mapError _ = _
      rw [printed]
      rfl
    rw [result]
    exact ⟨none, rfl, .exhausted exhausted⟩
  | unmarked marked =>
    have printed := (works.answer (inputMark c.verbosity)).1
    rw [marked] at printed
    cases printed
  | @quits reason console opens command =>
    rw [command] at command_lines
    refine ⟨none, rfl, ?_⟩
    cases reason with
    | endOfInput =>
      rcases lines : top.lines with _ | ⟨line, rest⟩
      · exact .noLine opens.1
      · exact .noText opens.1 (command_lines line rest lines)
    | quitCommand =>
      obtain ⟨line, first, quits⟩ := command_lines
      rw [first]
      exact .quits opens.1 quits
    | budgetExhausted => exact command_lines.elim
  | @failed error console text opens command result =>
    rw [command] at command_lines
    obtain ⟨line, first, asks⟩ := command_lines
    rw [first]
    refine ⟨(c.turnOf text top console).call, List.append_nil _, ?_⟩
    show Finish c _ _ _ (.error error) (c.turnOf text top console).state.session.contextPos
    cases (c.turn_handled text (top.state.atPhase .awaitingInput) (opens.works works)).1 with
    | unencodable failed none result' contextPos =>
      rw [turnOf, none, contextPos]
      rw [← Except.error.inj (result'.symm.trans result)]
      exact .unencodable opens.1 asks (encode_of_build failed)
    | passedOver _ _ _ ok => cases ok.symm.trans result
    | called _ called result' =>
      obtain ⟨call, some_call, prompts, calls, endPos⟩ := called.calls (result'.symm.trans result)
      rw [turnOf, some_call, ← endPos]
      exact .fails opens.1 asks prompts called.nonempty called.fits calls

/-- **What a run does**: if the outputs have no limit, its lines are acted on one after the other, each at
the position that the one before left, and then the run ends. The calls of the generator are those of the
exchanges, in order, and one more if the run ends because the generator fails. -/
theorem run_exchanges (c : Conversation γ δ π) (input : List UInt8) (s : ConversationState γ π)
    {console : Console} (works : console.Works) :
    let r := c.run input s console
    ∃ (xs : List Exchange) (rest : List (List UInt8)) (position : Nat) (last : Option Call),
      Line.lines input = xs.map (·.line) ++ rest ∧ c.Chain s.session.contextPos xs position ∧
        c.Finish position rest last r.result r.state.session.contextPos ∧
        r.calls = xs.filterMap (·.call) ++ last.toList := by
  intro r
  obtain ⟨calls, top, end_, ⟨xs, exchanged⟩, ends, same⟩ := runFrom_ends (c := c)
    (P := fun calls top => ∃ xs, c.Exchanged (Line.lines input) s.session.contextPos xs calls top)
    (fun _ _ _ _ goes h => goes.exchanged h) ⟨Line.lines input, s, console⟩ ⟨[], rfl, rfl, rfl, works⟩
  have same : r = afterCalls calls end_ := same
  obtain ⟨last, calls_eq, finish⟩ := ends.finish exchanged.works
  refine ⟨xs, top.lines, _, last, exchanged.lines, exchanged.chain, ?_, ?_⟩
  · rw [same]
    exact finish
  · rw [same, afterCalls, exchanged.calls, calls_eq]

/-- A session that is silent. -/
def silentTalk : Conversation Cache Unit Unit := silent 1 2 ⟨100, 10, Single.one, 1, false, true⟩

/-- A text, the command to forget, a text, the command to quit, and a text. -/
def silentTalkRun : Run Cache Unit :=
  silentTalk.run (Line.bytes "a\n%c\nb\n%q\nc\n") (.start silentTalk.settings Rng.fixed Cache.empty ())
    (.fresh none none)

theorem silent_run_exchanges :
    (Console.fresh none none).Works ∧ silentTalkRun.result = .ok .quitCommand ∧
      ∃ (xs : List Exchange) (rest : List (List UInt8)) (position : Nat) (last : Option Call),
        Line.lines (Line.bytes "a\n%c\nb\n%q\nc\n") = xs.map (·.line) ++ rest ∧
          silentTalk.Chain 0 xs position ∧
          silentTalk.Finish position rest last silentTalkRun.result
            silentTalkRun.state.session.contextPos ∧
          silentTalkRun.calls = xs.filterMap (·.call) ++ last.toList := by
  have quit : silentTalkRun.result = .ok .quitCommand := by decide +kernel
  exact ⟨Console.works_fresh, quit, silentTalk.run_exchanges (Line.bytes "a\n%c\nb\n%q\nc\n")
    (.start silentTalk.settings Rng.fixed Cache.empty ()) Console.works_fresh⟩

end Conversation

end PromptLoop
