import PromptLoop.Gguf.LevelBlock
import PromptLoop.Gguf.WideBlock

/-!
# The elements of tensors

The bytes of a tensor are those of its blocks, one after the other; a number that is stored alone is a block
of one. `TensorKind.numbers` gives the numbers that bytes denote.
-/

namespace PromptLoop

/-- Cuts a list into parts of some length. The first number is that of the parts. -/
def partsOf {α : Type} (length : Nat) : Nat → List α → List (List α)
  | 0, _ => []
  | count + 1, items => items.take length :: partsOf length count (items.drop length)

/-- There are as many parts as asked for. -/
theorem length_partsOf {α : Type} (length count : Nat) (items : List α) :
    (partsOf length count items).length = count := by
  induction count generalizing items with
  | zero => rfl
  | succ count ih => simp [partsOf, ih]

namespace TensorKind

/-- The numbers of a block. Kinds that nothing is read from have no numbers but zero. -/
def blockNumbers (kind : TensorKind) (bytes : List UInt8) : List Single :=
  match kind with
  | f32 => [⟨UInt32.ofNat (natOfBytes bytes)⟩]
  | f16 => [Single.ofSixteen Format.half (natOfBytes bytes)]
  | bf16 => [Single.ofSixteen Format.upperHalf (natOfBytes bytes)]
  | _ =>
    match LevelBlock.ofBytes? kind bytes, WideBlock.ofBytes? kind bytes.toArray with
    | some block, _ => block.numbers
    | none, some block => block.numbers
    | none, none => List.replicate kind.blockLength Single.zero

/-- The blocks of bytes. -/
def blocks (kind : TensorKind) (bytes : List UInt8) : List (List UInt8) :=
  partsOf kind.blockBytes (bytes.length / kind.blockBytes) bytes

/-- The numbers that bytes denote. -/
def numbers (kind : TensorKind) (bytes : List UInt8) : List Single :=
  (kind.blocks bytes).flatMap kind.blockNumbers

end TensorKind

end PromptLoop
