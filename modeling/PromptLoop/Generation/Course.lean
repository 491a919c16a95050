import PromptLoop.Config.Settings
import PromptLoop.Error
import PromptLoop.Random.Rng
import PromptLoop.Token

/-!
# Generation

A generator answers a prompt with a stream of events, one per token, prompt tokens included. Whoever
receives an event answers whether to go on, or fails. A generator may also draw random words.

What a generator does in answer to one request is a `Course`: it finishes, draws a word, or emits an
event, and after a draw or an event it goes on in a way that depends on the word or the answer. A course
is a finite object whatever the answers are, and nothing but drawing and emitting can happen in it, so
laws about all generators are laws about all courses, proved by induction.

`Course.run` carries out a course with a random stream and a `Sink` for the events. The sink is lent the
random stream, because the end of a context starts it over.
-/

namespace PromptLoop

/-- A token on its way to the console. -/
structure Event where
  /-- The token. -/
  token : Token
  /-- The probability of a sampled token; zero for a token of the prompt. -/
  score : Single
  deriving DecidableEq, Repr

/-- The event of a prompt token. -/
def Event.echo (token : Token) : Event := ⟨token, Single.zero⟩

/-- What a receiver of events says: whether to go on, or why it failed. -/
abbrev Answer := Except SessionError Bool

/-- What a generator does, from some point on, in answer to a request. The generator's own state after
the request is of type `γ`. -/
inductive Course (γ : Type) where
  /-- Nothing more happens. -/
  | finish (result : Except Halt Unit) (after : γ)
  /-- A random word is drawn. -/
  | draw (next : UInt32 → Course γ)
  /-- An event is emitted, and the answer to it is considered. -/
  | emit (event : Event) (next : Answer → Course γ)

/-- What is asked of a generator. -/
structure Request where
  /-- The tokens of the prompt. -/
  prompt : List Token
  /-- The position of the first of them in the model's context. -/
  startPos : Nat
  /-- The settings to generate by. -/
  settings : InferenceSettings
  /-- Which tokens may be sampled. -/
  accept : Token → Bool

/-- A generator with states of type `γ`. -/
structure Generator (γ : Type) where
  /-- The course of answering a request. -/
  generate : Request → γ → Course γ

/-- A receiver of events with states of type `σ`. -/
structure Sink (σ : Type) where
  /-- Takes an event. -/
  receive : Event → Rng → σ → Answer × Rng × σ

/-- How a course ended. -/
structure CourseEnd (γ σ : Type) where
  /-- Success, or what kept the generator from it. -/
  result : Except Halt Unit
  /-- The state of the generator. -/
  generator : γ
  /-- The random stream. -/
  rng : Rng
  /-- The state of the sink. -/
  sink : σ

namespace Course

variable {γ σ : Type}

/-- Carries out a course. -/
def run (sink : Sink σ) : Course γ → Rng → σ → CourseEnd γ σ
  | finish result after, rng, state => ⟨result, after, rng, state⟩
  | draw next, rng, state => (next rng.word).run sink rng.advance state
  | emit event next, rng, state =>
    let (answer, rng, state) := sink.receive event rng state
    (next answer).run sink rng state

/-- Emits events in order, whatever is said about going on, and then continues; a failure ends the
course. -/
def emitAll (after : γ) (continuation : Course γ) : List Event → Course γ
  | [] => continuation
  | event :: events =>
    emit event fun answer =>
      match answer with
      | .ok _ => emitAll after continuation events
      | .error e => finish (.error e) after

end Course

end PromptLoop
