import PromptLoop.Console.Writer
import PromptLoop.Generation.Policy
import PromptLoop.Session
import PromptLoop.Tokenizer.Basic

/-!
# Turns

A `Turn` receives the events of one turn. Every event counts. The tokens of the prompt but the last are
shown as dots of progress. From the last token of the prompt on, the text of every token is shown as
soon as it is complete, without the blanks at the beginning of the answer; the end-of-sequence token has
no text but may end the context. At last the policy is asked whether to go on.

The turn keeps a receipt of every event: the answer that was given and the counters, the stage and the
random stream after it. What laws about the course of a session speak of is in the receipts.

## What ends a context

An end-of-sequence token after the tokens of the prompt but the last, in a session that does not keep
its context. If the session is also deterministic, the random stream starts over.
-/

namespace PromptLoop

/-- What became of an event. -/
structure Receipt where
  /-- The event. -/
  event : Event
  /-- The answer to it. -/
  answer : Answer
  /-- The counters after it. -/
  session : Session
  /-- The stage after it. -/
  phase : Phase
  /-- The random stream after it. -/
  rng : Rng

/-- What stays the same during a turn. -/
structure TurnSetup (δ π : Type) where
  /-- The tokenizer. -/
  tokenizer : Tokenizer δ
  /-- The end-of-sequence token. -/
  eos : Token
  /-- How much is printed. -/
  verbosity : Nat
  /-- The policy. -/
  policy : Policy π

/-- The state of a turn. -/
structure Turn (δ π : Type) where
  /-- The counters. -/
  session : Session
  /-- The stage of the session. -/
  phase : Phase
  /-- The outputs. -/
  console : Console
  /-- The state of the decoder. -/
  decoder : δ
  /-- Whether the answer has begun but no text of it has been shown. -/
  trimPending : Bool
  /-- The state of the policy. -/
  policy : π
  /-- The receipts of the events so far, the latest first. -/
  receipts : List Receipt

namespace Turn

variable {δ π : Type}

/-- The blanks that are left out at the beginning of an answer. -/
def isLeadingBlank (c : Char) : Bool := c = ' ' || c = '\t' || c = '\n'

/-- A text without the blanks at its beginning. -/
def trimLeading (text : String) : String := String.ofList (text.toList.dropWhile isLeadingBlank)

/-- A turn at its beginning. -/
def start (setup : TurnSetup δ π) (session : Session) (phase : Phase) (console : Console)
    (policy : π) : Turn δ π :=
  ⟨session, phase, console, setup.tokenizer.fresh, false, policy, []⟩

/-- Counts an event. -/
def count (t : Turn δ π) : Turn δ π :=
  { t with session := t.session.advance, phase := t.session.advance.phase }

/-- Writes to the output for answers. -/
def print (t : Turn δ π) (text : String) : Except SessionError Unit × Turn δ π :=
  let (result, console) := t.console.answer text
  (result, { t with console := console })

/-- Shows a dot of progress. -/
def showDot (t : Turn δ π) : Except SessionError Unit × Turn δ π :=
  let (result, console) := t.console.note "."
  (result, { t with console := console })

/-- The counters after an end-of-sequence token. -/
def sessionAtEnd (s : Session) : Session := if s.multiturn then s else s.resetContext

/-- The random stream after an end-of-sequence token. -/
def rngAtEnd (s : Session) (rng : Rng) : Rng :=
  if !s.multiturn && s.deterministic then Rng.fixed else rng

/-- The mark that is printed for an end-of-sequence token. -/
def endMark (verbosity : Nat) : String := if 2 ≤ verbosity then "\n[ End ]\n" else ""

/-- The blank lines before an answer. -/
def answerLead (verbosity : Nat) : String := if 1 ≤ verbosity then "\n\n" else ""

/-- Takes note of an end-of-sequence token. -/
def endSequence (setup : TurnSetup δ π) (rng : Rng) (t : Turn δ π) :
    Except SessionError Unit × Rng × Turn δ π :=
  let (result, after) :=
    { t with session := sessionAtEnd t.session }.print (endMark setup.verbosity)
  (result, rngAtEnd t.session rng, after)

/-- Opens the answer if the token is its first. -/
def openAnswer (setup : TurnSetup δ π) (t : Turn δ π) : Except SessionError Unit × Turn δ π :=
  if t.session.isFirstOfAnswer then
    { t with trimPending := true }.print (answerLead setup.verbosity)
  else (.ok (), t)

/-- Shows text, without blanks at the beginning of the answer. -/
def showText (t : Turn δ π) (text : String) : Except SessionError Unit × Turn δ π :=
  if t.trimPending && !text.isEmpty then { t with trimPending := false }.print (trimLeading text)
  else t.print text

/-- Shows the text that a token completes. -/
def showToken (setup : TurnSetup δ π) (token : Token) (t : Turn δ π) :
    Except SessionError Unit × Turn δ π :=
  match t.openAnswer setup with
  | (.error e, t) => (.error e, t)
  | (.ok (), t) =>
    match setup.tokenizer.step t.decoder token with
    | (.error e, decoder) => (.error e, { t with decoder := decoder })
    | (.ok none, decoder) => (.ok (), { t with decoder := decoder })
    | (.ok (some text), decoder) => { t with decoder := decoder }.showText text

/-- Shows an event that has been counted. -/
def display (setup : TurnSetup δ π) (event : Event) (rng : Rng) (t : Turn δ π) :
    Except SessionError Unit × Rng × Turn δ π :=
  if t.session.inPrefill then
    let (result, t) := t.showDot
    (result, rng, t)
  else if event.token = setup.eos then t.endSequence setup rng
  else
    let (result, t) := t.showToken setup event.token
    (result, rng, t)

/-- Asks the policy about an event. -/
def askPolicy (setup : TurnSetup δ π) (event : Event) (t : Turn δ π) : Bool × Turn δ π :=
  let (goOn, policy) := setup.policy.ask t.policy event
  (goOn, { t with policy := policy })

/-- Files the receipt of an event. -/
def file (event : Event) (answer : Answer) (rng : Rng) (t : Turn δ π) : Turn δ π :=
  { t with receipts := ⟨event, answer, t.session, t.phase, rng⟩ :: t.receipts }

/-- Receives an event. -/
def receive (setup : TurnSetup δ π) (event : Event) (rng : Rng) (t : Turn δ π) :
    Answer × Rng × Turn δ π :=
  match t.count.display setup event rng with
  | (.error e, rng, t) => (.error e, rng, t.file event (.error e) rng)
  | (.ok (), rng, t) =>
    let (goOn, t) := t.askPolicy setup event
    (.ok goOn, rng, t.file event (.ok goOn) rng)

/-- The sink of a turn. -/
def sink (setup : TurnSetup δ π) : Sink (Turn δ π) := ⟨receive setup⟩

end Turn

end PromptLoop
