import PromptLoop.Engine.Model
import PromptLoop.Generation.Course
import PromptLoop.Sampling

/-!
# Generation by a model

The engine reads the whole prompt in one forward pass, echoes its tokens as events, and then samples one
token after the other: each sampled token is an event, and if it is not the last it is read in a forward
pass of its own. A turn ends with the end-of-sequence token, when the receiver of an event does not want
to go on, or when one of two caps is reached: the tokens of one turn and the tokens of the session.

If the filter accepts no token at all, the end-of-sequence token is emitted with a score of zero. If the
weights of the tokens cannot be drawn from, the engine panics.
-/

namespace PromptLoop

/-- A model with the token that ends its answers. -/
structure Engine where
  /-- The model. -/
  model : Model
  /-- The token that ends an answer. -/
  eos : Token
  /-- How the likeliest tokens are selected. -/
  selection : Selection

namespace Engine

/-- The error of a prompt without tokens. -/
def emptyPrompt : SessionError := .generation "empty prompt"

/-- The error of a prompt that does not fit. -/
def overrun (size startPos maxTokens : Nat) : SessionError :=
  .generation s!"prompt of {size} tokens at position {startPos} overruns max_tokens ({maxTokens})"

/-- The event for a sampled token, or for there being none. -/
def sampledEvent (e : Engine) : Option Candidate → Event
  | some c => ⟨c.token, c.score⟩
  | none => ⟨e.eos, Single.zero⟩

/-- Draws what a choice leaves open, and goes on with the event. -/
def settle {γ : Type} (e : Engine) (choice : Choice) (after : γ) (next : Event → Course γ) : Course γ :=
  match choice with
  | .impossible => next (e.sampledEvent none)
  | .certain c => next (e.sampledEvent (some c))
  | .drawn wheel first others =>
    .draw fun word => next (e.sampledEvent (some (Choice.pick wheel first others word)))
  | .overflowing => .finish (.error (Halt.panic .infiniteTotal)) after

/-- Samples up to a number of tokens, the first of them for the given position. -/
def sampleFrom (e : Engine) (request : Request) :
    Nat → Nat → List Single → Cache → Course Cache
  | 0, _, _, cache => .finish (.ok ()) cache
  | left + 1, position, logits, cache =>
    if request.settings.maxTokens ≤ position then .finish (.ok ()) cache
    else
      let choice :=
        Sampling.choose e.selection logits request.settings.topK request.settings.temperature request.accept
      e.settle choice cache fun event =>
        .emit event fun answer =>
          match answer with
          | .error error => .finish (.error error) cache
          | .ok goOn =>
            if !goOn || event.token == e.eos then .finish (.ok ()) cache
            else
              match e.model.forward cache [event.token] position with
              | (.error error, cache) => .finish (.error error) cache
              | (.ok logits, cache) => e.sampleFrom request left (position + 1) logits cache

/-- The course of answering a request. -/
def answer (e : Engine) (request : Request) (cache : Cache) : Course Cache :=
  let size := request.prompt.length
  if request.prompt.isEmpty then .finish (.error emptyPrompt) cache
  else if request.settings.maxTokens < request.startPos + size then
    .finish (.error (overrun size request.startPos request.settings.maxTokens)) cache
  else
    match e.model.forward cache request.prompt request.startPos with
    | (.error error, cache) => .finish (.error error) cache
    | (.ok logits, cache) =>
      .emitAll cache
        (e.sampleFrom request request.settings.maxGeneratedTokens (request.startPos + size) logits cache)
        (request.prompt.map .echo)

/-- The generator of an engine. -/
def generator (e : Engine) : Generator Cache := ⟨e.answer⟩

end Engine

end PromptLoop
