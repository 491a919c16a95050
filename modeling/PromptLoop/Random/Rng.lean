import PromptLoop.Random.ChaCha

/-!
# The session's random numbers

A session has one random stream. The stream is determined by a seed: the seed is spread over a key by a
congruential generator, and the random words are the keystream of that key, in order. So the state of
the stream is the seed and the number of words drawn since, and drawing is stepping the number.

A deterministic session starts from the fixed seed and goes back to it when a context ends.
-/

namespace PromptLoop

/-- The state of a random stream. -/
structure Rng where
  /-- The seed that the stream started from. -/
  seed : UInt64
  /-- The number of words drawn since then. -/
  drawn : Nat
  deriving DecidableEq, Repr

namespace Rng

/-- The seed of deterministic sessions. -/
def fixedSeed : UInt64 := 42

/-- A stream at its beginning. -/
def ofSeed (seed : UInt64) : Rng := ⟨seed, 0⟩

/-- The stream of a deterministic session at its beginning. -/
def fixed : Rng := ofSeed fixedSeed

/-- One step of the congruential generator that spreads a seed. -/
def spread (state : UInt64) : UInt64 := state * 6364136223846793005 + 11634580027462260723

/-- The key word of a generator state: its high bits, shifted together and rotated by its top five
bits. -/
def keyWord (state : UInt64) : UInt32 :=
  let folded := (((state >>> 18) ^^^ state) >>> 27).toUInt32
  let turn := (state >>> 59).toUInt32
  (folded >>> turn) ||| (folded <<< ((32 - turn) % 32))

/-- The generator state after a number of steps from the seed. -/
def spreadTimes : Nat → UInt64 → UInt64
  | 0, state => state
  | n + 1, state => spreadTimes n (spread state)

/-- The key of a seed. -/
def key (seed : UInt64) : ChaCha.Key := Vector.ofFn fun i => keyWord (spreadTimes (i + 1) seed)

/-- The next word of the stream. -/
def word (r : Rng) : UInt32 := ChaCha.word (key r.seed) r.drawn

/-- The stream after one draw. -/
def advance (r : Rng) : Rng := { r with drawn := r.drawn + 1 }

/-- A number of draws, with the stream after them. -/
def draws : Nat → Rng → List UInt32 × Rng
  | 0, r => ([], r)
  | n + 1, r =>
    let (words, after) := draws n r.advance
    (r.word :: words, after)

end Rng

end PromptLoop
