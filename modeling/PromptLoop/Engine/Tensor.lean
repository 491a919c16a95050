import PromptLoop.Gguf.Elements

/-!
# Tensors

A tensor has a shape, the lengths in each dimension, and the bytes of its elements, row by row. The first
dimension counts its rows; what is left of the shape is that of a row.
-/

namespace PromptLoop

/-- The number of elements of a shape. -/
def elementCount (shape : List Nat) : Nat := shape.foldl (· * ·) 1

/-- A tensor. -/
structure Tensor where
  /-- The length in each dimension. -/
  shape : List Nat
  /-- How the elements are stored. -/
  kind : TensorKind
  /-- The bytes of the elements. -/
  bytes : List UInt8
  deriving DecidableEq, Repr

namespace Tensor

/-- The number of rows. -/
def rowCount (t : Tensor) : Nat := t.shape.headD 0

/-- The number of elements of a row. -/
def rowLength (t : Tensor) : Nat := elementCount t.shape.tail

/-- The elements. -/
def numbers (t : Tensor) : List Single := t.kind.numbers t.bytes

/-- The rows. -/
def rows (t : Tensor) : List (List Single) := partsOf t.rowLength t.rowCount t.numbers

/-- The rows of blocks, given how bytes are read as a block, if all of them can be read so. -/
def blockRows? {α : Type} (t : Tensor) (read? : List UInt8 → Option α) : Option (List (List α)) :=
  ((t.kind.blocks t.bytes).mapM read?).map (partsOf (t.rowLength / t.kind.blockLength) t.rowCount)

/-- The rows of blocks of thirty-two, if the elements are stored in such blocks. -/
def levelRows? (t : Tensor) : Option (List (List LevelBlock)) :=
  if t.kind.blockLength = 32 then t.blockRows? (LevelBlock.ofBytes? t.kind) else none

/-- The rows of blocks of 256, if the elements are stored in such blocks. -/
def wideRows? (t : Tensor) : Option (List (List WideBlock)) :=
  if t.kind.blockLength = 256 then t.blockRows? fun bytes => WideBlock.ofBytes? t.kind bytes.toArray
  else none

/-- There are as many rows of blocks as rows. -/
theorem length_of_blockRows? {α : Type} {t : Tensor} {read? : List UInt8 → Option α}
    {rows : List (List α)} (h : t.blockRows? read? = some rows) : rows.length = t.rowCount := by
  obtain ⟨blocks, -, rfl⟩ := Option.map_eq_some_iff.1 h
  exact length_partsOf ..

/-- There are as many rows of blocks of thirty-two as rows. -/
theorem length_of_levelRows? {t : Tensor} {rows : List (List LevelBlock)}
    (h : t.levelRows? = some rows) : rows.length = t.rowCount := by
  unfold levelRows? at h
  split at h
  · exact length_of_blockRows? h
  · cases h

/-- There are as many rows of blocks of 256 as rows. -/
theorem length_of_wideRows? {t : Tensor} {rows : List (List WideBlock)}
    (h : t.wideRows? = some rows) : rows.length = t.rowCount := by
  unfold wideRows? at h
  split at h
  · exact length_of_blockRows? h
  · cases h

end Tensor

end PromptLoop
