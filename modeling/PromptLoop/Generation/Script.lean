import PromptLoop.Generation.Course

/-!
# Scripted generation

A script is a generator that plays prepared turns instead of asking a model. A turn is a list of cues: a
token, a token drawn at random from a range, or a failure. It serves to exercise everything around a
generator.
-/

namespace PromptLoop

/-- One step of a prepared turn. -/
inductive Cue where
  /-- Emit a token. -/
  | token (token : Token)
  /-- Draw a word and emit the token at its remainder in a range of tokens. -/
  | random (count base : Nat)
  /-- Give up. -/
  | fail (detail : String)
  deriving DecidableEq, Repr

/-- A prepared sequence of turns. -/
structure Script where
  /-- The turns, one for each request; the last serves all further requests. -/
  turns : List (List Cue)
  /-- The token that ends a turn. -/
  eos : Token
  deriving DecidableEq, Repr

namespace Script

/-- The score of a scripted event. -/
def score : Single := Single.one

/-- Emits one token of a turn and goes on with the turn, unless the answer or the token ends it. -/
def emitToken (s : Script) (requests : Nat) (token : Token) (rest : Course Nat) : Course Nat :=
  .emit ⟨token, score⟩ fun answer =>
    match answer with
    | .error e => .finish (.error e) requests
    | .ok goOn => if goOn && token != s.eos then rest else .finish (.ok ()) requests

/-- Plays cues. -/
def play (s : Script) (requests : Nat) : List Cue → Course Nat
  | [] => .finish (.ok ()) requests
  | .token token :: cues => s.emitToken requests token (s.play requests cues)
  | .random count base :: cues =>
    .draw fun word => s.emitToken requests (base + word.toNat % count) (s.play requests cues)
  | .fail detail :: _ => .finish (.error (SessionError.generation detail)) requests

/-- The turn for a request, by the number of requests before it. -/
def turn (s : Script) (requests : Nat) : List Cue :=
  s.turns.getD (min requests (s.turns.length - 1)) []

/-- The generator that plays a script. Its state is the number of requests so far. -/
def generator (s : Script) : Generator Nat where
  generate request requests :=
    .emitAll (requests + 1) (s.play (requests + 1) (s.turn requests)) (request.prompt.map .echo)

end Script

end PromptLoop
