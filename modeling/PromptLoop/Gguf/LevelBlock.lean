import PromptLoop.Gguf.TensorKind
import PromptLoop.Number.Bytes
import PromptLoop.Number.Half

/-!
# Blocks of thirty-two

A block of thirty-two elements has one scale, and in some kinds an offset. What is stored of each element is
its level: the element is the level times the scale, plus the offset.
-/

namespace PromptLoop

/-- A block of levels with one scale. -/
structure LevelBlock where
  /-- What the levels are multiplied by. -/
  scale : Single
  /-- What is added then, if anything. -/
  offset : Option Single
  /-- The levels. -/
  levels : List Int
  deriving DecidableEq, Repr

namespace LevelBlock

/-- The numbers of a block. -/
def numbers (b : LevelBlock) : List Single :=
  b.levels.map fun level =>
    match b.offset with
    | none => Single.ofInt level * b.scale
    | some m => Single.ofInt level * b.scale + m

/-- The lower and then the upper halves of bytes. -/
def nibbles (bytes : List UInt8) : List Nat :=
  bytes.map (fun b => b.toNat % 16) ++ bytes.map (fun b => b.toNat / 16)

/-- Levels of four bits with fifth bits, which are the digits of a number. -/
def withFifthBits (bits : Nat) (levels : List Nat) : List Nat :=
  levels.zipIdx.map fun (level, i) => level + 16 * ((bits >>> i) % 2)

/-- The levels counted from a level in the middle. -/
def around (middle : Nat) (levels : List Nat) : List Int := levels.map fun (level : Nat) => (level : Int) - middle

/-- The levels counted from the lowest. -/
def fromLowest (levels : List Nat) : List Int := levels.map Int.ofNat

/-- The half precision number at some place of bytes. -/
def half (bytes : List UInt8) (place : Nat) : Single :=
  Single.ofSixteen Format.half (natOfBytes ((bytes.drop place).take 2))

/-- The block that bytes denote, if a kind has blocks of thirty-two. -/
def ofBytes? (kind : TensorKind) (bytes : List UInt8) : Option LevelBlock :=
  match kind with
  | .q4_0 => some ⟨half bytes 0, none, around 8 (nibbles (bytes.drop 2))⟩
  | .q4_1 => some ⟨half bytes 0, some (half bytes 2), fromLowest (nibbles (bytes.drop 4))⟩
  | .q5_0 =>
    let bits := natOfBytes ((bytes.drop 2).take 4)
    some ⟨half bytes 0, none, around 16 (withFifthBits bits (nibbles (bytes.drop 6)))⟩
  | .q5_1 =>
    let bits := natOfBytes ((bytes.drop 4).take 4)
    some ⟨half bytes 0, some (half bytes 2), fromLowest (withFifthBits bits (nibbles (bytes.drop 8)))⟩
  | .q8_0 => some ⟨half bytes 0, none, (bytes.drop 2).map fun b => withSign 1 b.toNat⟩
  | _ => none

end LevelBlock

end PromptLoop
