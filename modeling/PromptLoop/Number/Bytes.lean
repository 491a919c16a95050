import PromptLoop.Reader

/-!
# Numbers as bytes

Numbers are stored with their lowest byte first.
-/

namespace PromptLoop

/-- The number that bytes denote, the lowest first. -/
def natOfBytes (bytes : List UInt8) : Nat := bytes.foldr (fun b n => b.toNat + 256 * n) 0

/-- The number with a sign that a number of some bytes stands for. -/
def withSign (size n : Nat) : Int := if n < 1 <<< (8 * size - 1) then n else n - (1 <<< (8 * size) : Nat)

/-- Reads a number of some bytes. -/
def Reader.word (size : Nat) : Reader UInt8 Nat := fun bytes =>
  (Reader.take size bytes).map fun (taken, rest) => (natOfBytes taken, rest)

end PromptLoop
