import PromptLoop.Console.Command
import PromptLoop.Prompt
import PromptLoop.Turn

/-!
# Conversations

A conversation reads lines and answers them until the user quits, the input ends or the token budget is
used up. A line is a command or the text of a turn. A text whose prompt has no tokens is passed over; one
whose prompt does not fit into the rest of the budget is refused with a note. Every other text is one
call of the generator.

`Conversation.run` is the whole: from a state and an input to the reason for the end, the state after it,
the outputs and a record of the calls. A line that is not UTF-8 counts as the end of the input. The state
that a run ends in is a state that another run can start from, also after an error.

The speed of a turn comes from a clock and is given from outside, as a text that may depend on the number
of tokens.
-/

namespace PromptLoop

/-- What stays the same during a conversation. -/
structure Conversation (γ δ π : Type) where
  /-- The generator. -/
  generator : Generator γ
  /-- The tokenizer. -/
  tokenizer : Tokenizer δ
  /-- How prompts are made. -/
  style : PromptStyle
  /-- The end-of-sequence token. -/
  eos : Token
  /-- How much is printed. -/
  verbosity : Nat
  /-- The settings to generate by. -/
  settings : InferenceSettings
  /-- Which tokens may be sampled. -/
  accept : Token → Bool
  /-- The policy. -/
  policy : Policy π
  /-- The speed of a turn with a number of tokens. -/
  speed : Nat → String

/-- The state of a conversation. -/
structure ConversationState (γ π : Type) where
  /-- The counters. -/
  session : Session
  /-- The random stream. -/
  rng : Rng
  /-- The stage. -/
  phase : Phase
  /-- The state of the generator. -/
  generator : γ
  /-- The state of the policy. -/
  policy : π

/-- A call of the generator. -/
structure Call where
  /-- The tokens of the prompt. -/
  prompt : List Token
  /-- The position of the prompt in the context. -/
  startPos : Nat
  /-- The receipts of the events, in order. -/
  receipts : List Receipt

/-- How a line was served. -/
structure Served (γ π : Type) where
  /-- Success, or the early end of the conversation. -/
  result : Except Halt Unit
  /-- The state after it. -/
  state : ConversationState γ π
  /-- The outputs after it. -/
  console : Console
  /-- The call that was made, if one was. -/
  call : Option Call

/-- How a run ended. -/
structure Run (γ π : Type) where
  /-- The reason for the end, or what brought it about early. -/
  result : Except Halt Termination
  /-- The state after it. -/
  state : ConversationState γ π
  /-- The outputs after it. -/
  console : Console
  /-- The calls that were made, in order. -/
  calls : List Call

namespace ConversationState

variable {γ π : Type}

/-- The state at the start of a conversation. -/
def start (settings : InferenceSettings) (rng : Rng) (generator : γ) (policy : π) :
    ConversationState γ π :=
  ⟨Session.start settings.multiturn settings.deterministic, rng, .awaitingInput, generator, policy⟩

/-- The state at another stage. -/
def atPhase (s : ConversationState γ π) (phase : Phase) : ConversationState γ π := { s with phase := phase }

/-- The state after the context is forgotten. -/
def cleared (s : ConversationState γ π) : ConversationState γ π :=
  { s with session := s.session.resetContext }

end ConversationState

namespace Conversation

variable {γ δ π : Type}

/-! ### Texts -/

/-- The notice that the budget is used up. -/
def budgetNotice (maxTokens : Nat) : String :=
  s!"max_tokens ({maxTokens}) exceeded. " ++
    "Use a larger value if desired using the --max_tokens command line flag.\n"

/-- The note that a prompt is refused. -/
def tooLongNote (size remaining maxTokens : Nat) : String :=
  s!"\n[ Prompt too long: {size} tokens, {remaining} of max_tokens ({maxTokens}) left. " ++
    "Shorten it or use %C to clear the context. ]\n"

/-- The note that a prompt is being read. -/
def readingNote : String := "\n[ Reading prompt ] "

/-- What asks for a line. -/
def inputMark (verbosity : Nat) : String := if 1 ≤ verbosity then "> " else ""

/-- What follows the number of a speed. -/
def speedUnit : String := " tokens / sec"

/-- The statistics of a turn and the blank line after it. -/
def turnSummary (verbosity : Nat) (session : Session) (speed : String) : String :=
  (if 2 ≤ verbosity then
    s!"{session.turnPos} tokens ({session.contextPos} total tokens)\n" ++ speed ++ speedUnit ++ "\n"
  else "") ++ "\n\n"

/-! ### Turns -/

/-- What stays the same during a turn of the conversation. -/
def turnSetup (c : Conversation γ δ π) : TurnSetup δ π := ⟨c.tokenizer, c.eos, c.verbosity, c.policy⟩

/-- The request that a prompt makes at a position. -/
def request (c : Conversation γ δ π) (prompt : List Token) (startPos : Nat) : Request :=
  ⟨prompt, startPos, c.settings, c.accept⟩

/-- Calls the generator with a prompt that fits. -/
def callGenerator (c : Conversation γ δ π) (prompt : List Token)
    (s : ConversationState γ π) (console : Console) : Served γ π :=
  let startPos := s.session.contextPos
  let turn := Turn.start c.turnSetup s.session s.phase console s.policy
  let ended := (c.generator.generate (c.request prompt startPos) s.generator).run
    (Turn.sink c.turnSetup) s.rng turn
  let phase := match ended.result with
    | .ok () => .turnComplete
    | .error _ => ended.sink.phase
  { result := ended.result
    state := ⟨ended.sink.session, ended.rng, phase, ended.generator, ended.sink.policy⟩
    console := ended.sink.console
    call := some ⟨prompt, startPos, ended.sink.receipts.reverse⟩ }

/-- Serves a text up to the end of its generation. -/
def serve (c : Conversation γ δ π) (text : String) (s : ConversationState γ π) (console : Console) :
    Served γ π :=
  let s := s.atPhase .prefilling
  match c.style.build c.tokenizer.encode text s.session.contextPos with
  | .error e => ⟨.error e, s, console, none⟩
  | .ok prompt =>
    let size := prompt.tokens.length
    let remaining := c.settings.maxTokens - s.session.contextPos
    if prompt.tokens.isEmpty then ⟨.ok (), s.atPhase .turnComplete, console, none⟩
    else if remaining < size then
      match console.note (tooLongNote size remaining c.settings.maxTokens) with
      | (.error e, console) => ⟨.error e, s, console, none⟩
      | (.ok (), console) => ⟨.ok (), s.atPhase .turnComplete, console, none⟩
    else
      let s := { s with session := s.session.beginTurn size }
      match console.note readingNote with
      | (.error e, console) => ⟨.error e, s, console, none⟩
      | (.ok (), console) => c.callGenerator prompt.tokens s console

/-- Prints the summary of a turn, if there was one and it went well. -/
def summarize (c : Conversation γ δ π) (speed : String) (served : Served γ π) : Served γ π :=
  match served.result, served.call with
  | .ok (), some _ =>
    let (result, console) :=
      served.console.answer (turnSummary c.verbosity served.state.session speed)
    { served with result := result.mapError .error, console := console }
  | _, _ => served

/-- Serves a text. -/
def turn (c : Conversation γ δ π) (text : String) (s : ConversationState γ π) (console : Console) :
    Served γ π :=
  let served := c.serve text s console
  c.summarize (c.speed served.state.session.turnPos) served

/-! ### Runs -/

/-- Ends a run that made no calls. -/
def stop (result : Except Halt Termination) (s : ConversationState γ π) (console : Console) :
    Run γ π :=
  ⟨result, s, console, []⟩

/-- Puts a call in front of the calls of a run. -/
def afterCall (call : Option Call) (r : Run γ π) : Run γ π :=
  { r with calls := call.toList ++ r.calls }

/-- Ends a run because the budget is used up. -/
def stopOverBudget (c : Conversation γ δ π) (s : ConversationState γ π) (console : Console) :
    Run γ π :=
  let (result, console) := console.answer (budgetNotice c.settings.maxTokens)
  stop ((result.map fun _ => .budgetExhausted).mapError .error) (s.atPhase .terminated) console

/-- Carries out a conversation on input lines. -/
def runLines (c : Conversation γ δ π) :
    List (List UInt8) → ConversationState γ π → Console → Run γ π
  | lines, s, console =>
    if s.session.budgetExhausted c.settings.maxTokens then c.stopOverBudget s console
    else
      let s := s.atPhase .awaitingInput
      match console.answer (inputMark c.verbosity) with
      | (.error e, console) => stop (.error e) s console
      | (.ok (), console) =>
        match lines with
        | [] => stop (.ok .endOfInput) (s.atPhase .terminated) console
        | line :: rest =>
          match Line.text? line with
          | none => stop (.ok .endOfInput) (s.atPhase .terminated) console
          | some text =>
            match Command.ofLine text with
            | .quit => stop (.ok .quitCommand) (s.atPhase .terminated) console
            | .clear => c.runLines rest s.cleared console
            | .prompt text =>
              let served := c.turn text s console
              afterCall served.call <|
                match served.result with
                | .error e => stop (.error e) served.state served.console
                | .ok () => c.runLines rest served.state served.console

/-- Carries out a conversation on an input. -/
def run (c : Conversation γ δ π) (input : List UInt8) (s : ConversationState γ π)
    (console : Console) : Run γ π :=
  c.runLines (Line.lines input) s console

end Conversation

end PromptLoop
