import PromptLoop.Gguf.TensorKind
import PromptLoop.Number.Bytes
import PromptLoop.Number.Half

/-!
# Blocks of 256

A block of 256 elements has sixteen groups of sixteen, each with a scale of its own and in some kinds an
offset, which are whole numbers: what they are multiplied by is shared by the block. What is stored of each
element is its level. The element is the level times the two scales, less the product of the offsets.

Kinds that have a scale for every thirty-two elements give it to two groups.
-/

namespace PromptLoop

/-- A block of levels in groups of sixteen. -/
structure WideBlock where
  /-- What the scales of the groups are multiplied by. -/
  scale : Single
  /-- What the offsets of the groups are multiplied by, if there are any. -/
  offset : Option Single
  /-- The scale and the offset of each group. -/
  groups : List (Int × Int)
  /-- The levels. -/
  levels : List Int
  deriving DecidableEq, Repr

namespace WideBlock

/-- The scale and the offset of the group of each element. -/
def spread (b : WideBlock) : List (Int × Int) := b.groups.flatMap (List.replicate 16)

/-- The numbers of a block. -/
def numbers (b : WideBlock) : List Single :=
  b.spread.zipWith (fun (s, o) level =>
    let number := b.scale * Single.ofInt s * Single.ofInt level
    match b.offset with
    | none => number
    | some m => number - m * Single.ofInt o) b.levels

/-! ### From bytes -/

/-- The byte at some place. -/
def byteAt (bytes : Array UInt8) (place : Nat) : Nat := (bytes.getD place 0).toNat

/-- The half precision number at some place. -/
def halfAt (bytes : Array UInt8) (place : Nat) : Single :=
  Single.ofSixteen Format.half (byteAt bytes place + 256 * byteAt bytes (place + 1))

/-- Some bits of a number, from a first one on. -/
def bits (n first count : Nat) : Nat := (n >>> first) % (1 <<< count)

/-- The scale and the offset of the group of thirty-two with some number. Their six bits are spread over
the twelve bytes from a place on. -/
def scaleAndOffset (bytes : Array UInt8) (place group : Nat) : Nat × Nat :=
  let q (i : Nat) : Nat := byteAt bytes (place + i)
  if group < 4 then (bits (q group) 0 6, bits (q (group + 4)) 0 6)
  else
    (bits (q (group + 4)) 0 4 + 16 * bits (q (group - 4)) 6 2,
      bits (q (group + 4)) 4 4 + 16 * bits (q group) 6 2)

/-- The scale of the group of sixteen with some number among eight levels. Its six bits are spread over
the twelve bytes from a place on. -/
def signedScale (bytes : Array UInt8) (place group : Nat) : Int :=
  let low := bits (byteAt bytes (place + group % 8)) (4 * (group / 8)) 4
  let high := bits (byteAt bytes (place + 8 + group % 4)) (2 * (group / 4)) 2
  (low + 16 * high : Nat) - 32

/-- The element with some number among four levels. -/
def q2Level (bytes : Array UInt8) (i : Nat) : Nat :=
  bits (byteAt bytes (16 + 32 * (i / 128) + i % 32)) (2 * (i / 32 % 4)) 2

/-- The element with some number among eight levels. -/
def q3Level (bytes : Array UInt8) (i : Nat) : Nat :=
  bits (byteAt bytes (32 + 32 * (i / 128) + i % 32)) (2 * (i / 32 % 4)) 2
    + 4 * bits (byteAt bytes (i % 32)) (i / 32) 1

/-- The element with some number among sixteen levels. -/
def q4Level (bytes : Array UInt8) (i : Nat) : Nat :=
  bits (byteAt bytes (16 + 32 * (i / 64) + i % 32)) (4 * (i / 32 % 2)) 4

/-- The element with some number among thirty-two levels. -/
def q5Level (bytes : Array UInt8) (i : Nat) : Nat :=
  bits (byteAt bytes (48 + 32 * (i / 64) + i % 32)) (4 * (i / 32 % 2)) 4
    + 16 * bits (byteAt bytes (16 + i % 32)) (i / 32) 1

/-- The element with some number among sixty-four levels. -/
def q6Level (bytes : Array UInt8) (i : Nat) : Nat :=
  bits (byteAt bytes (64 * (i / 128) + 32 * (i / 32 % 2) + i % 32)) (4 * (i / 64 % 2)) 4
    + 16 * bits (byteAt bytes (128 + 32 * (i / 128) + i % 32)) (2 * (i / 32 % 4)) 2

/-- A block, given the scale and the offset of each group and the level of each element. -/
def ofGroups (scale : Single) (offset : Option Single) (group : Nat → Int × Int) (level : Nat → Int) :
    WideBlock :=
  ⟨scale, offset, (List.range 16).map group, (List.range 256).map level⟩

/-- The scale and the offset of a group, two groups having one scale. -/
def paired (bytes : Array UInt8) (group : Nat) : Int × Int :=
  let (scale, offset) := scaleAndOffset bytes 4 (group / 2)
  (scale, offset)

/-- The block that bytes denote, if a kind has blocks of 256 that are read. -/
def ofBytes? (kind : TensorKind) (bytes : Array UInt8) : Option WideBlock :=
  match kind with
  | .q2K =>
    let group (g : Nat) : Int × Int := (bits (byteAt bytes g) 0 4, bits (byteAt bytes g) 4 4)
    some (ofGroups (halfAt bytes 80) (some (halfAt bytes 82)) group fun i => q2Level bytes i)
  | .q3K =>
    let group (g : Nat) : Int × Int := (signedScale bytes 96 g, 0)
    some (ofGroups (halfAt bytes 108) none group fun i => q3Level bytes i - 4)
  | .q4K =>
    some (ofGroups (halfAt bytes 0) (some (halfAt bytes 2)) (paired bytes) fun i => q4Level bytes i)
  | .q5K =>
    some (ofGroups (halfAt bytes 0) (some (halfAt bytes 2)) (paired bytes) fun i => q5Level bytes i)
  | .q6K =>
    let group (g : Nat) : Int × Int := (withSign 1 (byteAt bytes (192 + g)), 0)
    some (ofGroups (halfAt bytes 208) none group fun i => q6Level bytes i - 32)
  | _ => none

end WideBlock

end PromptLoop
