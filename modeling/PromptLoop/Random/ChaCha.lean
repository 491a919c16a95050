/-!
# The keystream of ChaCha with twelve rounds

A block of the stream is sixteen words, computed from a key of eight words and a block counter by
twelve rounds of additions, rotations and exclusive ors over a four by four square of words. The
keystream is the words of the blocks `0`, `1`, `2`, … in order; `ChaCha.word` gives the word at any
place of it.
-/

namespace PromptLoop

namespace ChaCha

/-- A key. -/
abbrev Key := Vector UInt32 8

/-- The square of words that the rounds work on, row by row. -/
abbrev Square := Vector UInt32 16

/-- The first row of every square. -/
def constants : Vector UInt32 4 := #v[0x61707865, 0x3320646e, 0x79622d32, 0x6b206574]

/-- The square before the rounds: constants, key, the block counter and a nonce of zero. -/
def start (key : Key) (counter : UInt64) : Square :=
  constants ++ key ++ #v[counter.toUInt32, (counter >>> 32).toUInt32, 0, 0]

/-- Rotation of a word to the left. -/
def rotateLeft (x : UInt32) (n : UInt32) : UInt32 := (x <<< n) ||| (x >>> (32 - n))

/-- Half of a quarter round: adds the word at `b` into `a`, mixes the sum into `d` and rotates `d`. -/
def mix (s : Square) (a b d : Fin 16) (n : UInt32) : Square :=
  let s := s.set a (s[a] + s[b])
  s.set d (rotateLeft (s[d] ^^^ s[a]) n)

/-- A quarter round on four words of the square. -/
def quarterRound (s : Square) (a b c d : Fin 16) : Square :=
  let s := mix s a b d 16
  let s := mix s c d b 12
  let s := mix s a b d 8
  mix s c d b 7

/-- Two rounds: one down the columns of the square and one along its diagonals. -/
def doubleRound (s : Square) : Square :=
  let s := quarterRound s 0 4 8 12
  let s := quarterRound s 1 5 9 13
  let s := quarterRound s 2 6 10 14
  let s := quarterRound s 3 7 11 15
  let s := quarterRound s 0 5 10 15
  let s := quarterRound s 1 6 11 12
  let s := quarterRound s 2 7 8 13
  quarterRound s 3 4 9 14

/-- Applies a number of double rounds. -/
def doubleRounds : Nat → Square → Square
  | 0, s => s
  | n + 1, s => doubleRounds n (doubleRound s)

/-- A block of the keystream. -/
def block (key : Key) (counter : UInt64) : Square :=
  let before := start key counter
  before.zipWith (· + ·) (doubleRounds 6 before)

/-- The word at a place of the keystream. -/
def word (key : Key) (place : Nat) : UInt32 :=
  (block key (UInt64.ofNat (place / 16))).get ⟨place % 16, Nat.mod_lt _ (by decide)⟩

end ChaCha

end PromptLoop
