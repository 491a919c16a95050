import PromptLoop.Error
import PromptLoop.Number.Exponential
import PromptLoop.Number.Logarithm
import PromptLoop.Random.Rng
import PromptLoop.Random.Wheel
import PromptLoop.Selection

/-!
# Sampling the next token

A model answers with one logit per token id. Sampling turns the logits into probabilities, keeps the
tokens that a filter accepts, of those the few most likely, and draws one of them with the temperature
applied.

`Sampling.choose` does everything short of drawing. Its answer is a `Choice`: no token at all, a token
that is certain, a wheel that one random word turns, or weights that cannot be drawn from. So it shows in
the type that a choice takes at most one word.
-/

namespace PromptLoop

namespace Sampling

/-- The largest logit, NaN left aside. -/
def largest (logits : List Single) : Single := logits.foldl Single.larger Single.negInfinity

/-- Probabilities of logits: exponentials relative to the largest logit, divided by their sum if that
is positive. -/
def softmax (logits : List Single) : List Single :=
  let top := largest logits
  let powers := logits.map fun l => (l - top).exp
  let total := Single.sum powers
  if Single.zero < total then powers.map (· / total) else powers

/-- Numbers a list of probabilities by token id. -/
def candidates (probabilities : List Single) : List Candidate :=
  probabilities.zipIdx.map fun (p, i) => ⟨i, p⟩

/-- Whether a candidate stands before another: a higher probability, or the same and a lower id. -/
def standsBefore (a b : Candidate) : Bool :=
  b.score.rank < a.score.rank || (a.score.rank == b.score.rank && a.token ≤ b.token)

/-- The `k` likeliest candidates, at least one, in order. -/
def leading (selection : Selection) (k : Nat) (cs : List Candidate) : List Candidate :=
  (if max k 1 < cs.length then selection.select (max k 1) cs else cs).mergeSort standsBefore

/-- The logarithm of a probability, kept away from zero. -/
def logScore (p : Single) : Single := (p.larger Single.leastNormal).ln

/-- The weight of a probability at a temperature, relative to the highest probability. -/
def weight (temperature top p : Single) : Single := ((logScore p - logScore top) / temperature).exp

end Sampling

/-- What is settled about a sampled token before a random word is drawn. -/
inductive Choice where
  /-- The filter accepts no token. -/
  | impossible
  /-- Only one token is possible. -/
  | certain (candidate : Candidate)
  /-- A random word decides between the candidate and the others after it. -/
  | drawn (wheel : Wheel) (first : Candidate) (others : List Candidate)
  /-- The weights of the possible tokens have an infinite sum. -/
  | overflowing
  deriving DecidableEq, Repr

namespace Sampling

/-- Chooses between the leading candidates. A single one is certain, and so is the first one if the
weights are unfit for a wheel. -/
def chooseAmong (temperature : Single) : List Candidate → Choice
  | [] => .impossible
  | [c] => .certain c
  | c :: cs =>
    match Wheel.ofWeights ((c :: cs).map fun d => weight temperature c.score d.score) with
    | .ok wheel => .drawn wheel c cs
    | .error .unfit => .certain c
    | .error .overflow => .overflowing

/-- Chooses between the `k` likeliest accepted tokens. -/
def choose (selection : Selection) (logits : List Single) (k : Nat) (temperature : Single)
    (accept : Token → Bool) : Choice :=
  chooseAmong temperature
    (leading selection k ((candidates (softmax logits)).filter fun c => accept c.token))

end Sampling

namespace Choice

/-- The candidate that a random word picks. -/
def pick (wheel : Wheel) (first : Candidate) (others : List Candidate) (word : UInt32) : Candidate :=
  (first :: others).getD (wheel.index word) first

/-- Settles a choice with a random stream: one word is drawn if there is a wheel to turn, none otherwise. -/
def settle (choice : Choice) (rng : Rng) : Except Panic (Option Candidate) × Rng :=
  match choice with
  | .impossible => (.ok none, rng)
  | .certain c => (.ok (some c), rng)
  | .drawn wheel first others => (.ok (some (pick wheel first others rng.word)), rng.advance)
  | .overflowing => (.error .infiniteTotal, rng)

end Choice

namespace Sampling

/-- Samples one token from a random stream. -/
def sample (selection : Selection) (logits : List Single) (k : Nat) (temperature : Single)
    (accept : Token → Bool) (rng : Rng) : Except Panic (Option Candidate) × Rng :=
  (choose selection logits k temperature accept).settle rng

end Sampling

end PromptLoop
