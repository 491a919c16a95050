/-!
# How tensors are stored

The elements of a tensor are numbers of four or two bytes, or small levels in blocks of thirty-two or of
256 that share a scale. Two kinds of blocks serve only as intermediate values of a computation; nothing is
read from them.
-/

namespace PromptLoop

/-- How the elements of a tensor are stored. -/
inductive TensorKind where
  /-- Single precision numbers. -/
  | f32
  /-- Half precision numbers. -/
  | f16
  /-- Upper halves of single precision numbers. -/
  | bf16
  /-- Sixteen levels around zero. -/
  | q4_0
  /-- Sixteen levels from an offset. -/
  | q4_1
  /-- Thirty-two levels around zero. -/
  | q5_0
  /-- Thirty-two levels from an offset. -/
  | q5_1
  /-- Bytes with a sign. -/
  | q8_0
  /-- Bytes with a sign and their sum. -/
  | q8_1
  /-- Four levels in a block of 256. -/
  | q2K
  /-- Eight levels in a block of 256. -/
  | q3K
  /-- Sixteen levels in a block of 256. -/
  | q4K
  /-- Thirty-two levels in a block of 256. -/
  | q5K
  /-- Sixty-four levels in a block of 256. -/
  | q6K
  /-- Bytes with a sign in a block of 256, and their sums. -/
  | q8K
  deriving DecidableEq, Repr

namespace TensorKind

/-- The kind with a code. -/
def ofCode? : Nat → Option TensorKind
  | 0 => some f32
  | 1 => some f16
  | 2 => some q4_0
  | 3 => some q4_1
  | 6 => some q5_0
  | 7 => some q5_1
  | 8 => some q8_0
  | 9 => some q8_1
  | 10 => some q2K
  | 11 => some q3K
  | 12 => some q4K
  | 13 => some q5K
  | 14 => some q6K
  | 15 => some q8K
  | 30 => some bf16
  | _ => none

/-- The number of elements of a block. -/
def blockLength : TensorKind → Nat
  | f32 | f16 | bf16 => 1
  | q4_0 | q4_1 | q5_0 | q5_1 | q8_0 | q8_1 => 32
  | q2K | q3K | q4K | q5K | q6K | q8K => 256

/-- The number of bytes of a block. -/
def blockBytes : TensorKind → Nat
  | f32 => 4
  | f16 | bf16 => 2
  | q4_0 => 18
  | q4_1 => 20
  | q5_0 => 22
  | q5_1 => 24
  | q8_0 => 34
  | q8_1 => 36
  | q2K => 84
  | q3K => 110
  | q4K => 144
  | q5K => 176
  | q6K => 210
  | q8K => 292

/-- The name of a kind that nothing is read from. -/
def unreadableName? : TensorKind → Option String
  | q8_1 => some "Q8_1"
  | q8K => some "Q8K"
  | _ => none

end TensorKind

end PromptLoop
