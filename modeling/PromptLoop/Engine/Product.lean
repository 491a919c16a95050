import PromptLoop.Engine.Tensor

/-!
# Products of rows

The product of a row of weights with a row of numbers. If the weights are stored as numbers, the products of
their elements are added in single precision, from left to right.

If they are stored as levels in blocks, the row is cut into blocks of as many levels first. The levels are
multiplied and added as whole numbers, which is exact, and only what comes out for a block is a number again.
Blocks of 256 have eight such results, one for every eighth element, and add them last; those of four levels
have one.
-/

namespace PromptLoop

/-! ### Rounding -/

/-- The root of a number. The root of a negative number is an operation without a meaningful value. -/
def Single.sqrt (x : Single) : Single :=
  if x.isNaN then x.quieted
  else
    let r := x.toFloat32.sqrt
    if r.isNaN then Single.invalid else ⟨r.toBits⟩

/-- A number without its sign. -/
def Single.magnitude (x : Single) : Single := ⟨x.bits &&& 0x7fffffff⟩

/-- The byte with a sign that is nearest to a number, a half going away from zero. -/
def Single.nearestByte (x : Single) : Int := x.toFloat32.round.toInt8.toInt

/-! ### Rows of numbers and of levels -/

/-- The product of two rows of numbers. -/
def product (xs ys : List Single) : Single := Single.sum (xs.zipWith (· * ·) ys)

/-- The sum of levels. -/
def levelSum (levels : List Int) : Int := levels.foldr (· + ·) 0

/-- The product of two rows of levels. -/
def levelProduct (xs ys : List Int) : Int := levelSum (xs.zipWith (· * ·) ys)

/-! ### Blocks of thirty-two -/

namespace LevelBlock

/-- The block of bytes with a sign that stands for thirty-two numbers. Its scale makes the largest of them 127. -/
def ofNumbers (xs : List Single) : LevelBlock :=
  let largest := xs.foldl (fun most x => most.larger x.magnitude) Single.zero
  let scale := largest / Single.ofNat 127
  let inverse := if scale = Single.zero then Single.zero else Single.one / scale
  ⟨scale.toHalf, none, xs.map fun x => (x * inverse).nearestByte⟩

/-- The sum of the numbers of a block without an offset, to half precision. -/
def total (b : LevelBlock) : Single := ((Single.ofInt (levelSum b.levels)).toHalf * b.scale).toHalf

/-- The product of a block of weights with a block of bytes. -/
def product (weights row : LevelBlock) : Single :=
  let levels := Single.ofInt (levelProduct weights.levels row.levels) * weights.scale * row.scale
  match weights.offset with
  | none => levels
  | some m => levels + m * row.total

/-- The product of two rows of blocks. -/
def rowProduct (weights row : List LevelBlock) : Single := Single.sum (weights.zipWith product row)

end LevelBlock

/-! ### Blocks of 256 -/

namespace LevelBlock

/-- The block of bytes with a sign that stands for 256 numbers. Its scale makes the first of the largest of
them -128. -/
def ofManyNumbers (xs : List Single) : LevelBlock :=
  let largest := xs.foldl (fun most x => if most.magnitude < x.magnitude then x else most) Single.zero
  if largest = Single.zero then ⟨Single.zero, none, xs.map fun _ => 0⟩
  else
    let inverse := Single.ofInt (-128) / largest
    let level (x : Single) : Int :=
      let scaled := inverse * x
      if scaled.isNaN then 127 else scaled.nearestByte
    ⟨Single.one / inverse, none, xs.map level⟩

end LevelBlock

namespace WideBlock

/-- The products of the levels of a block of weights with those of a row, each times the scale of its group. -/
def terms (weights : WideBlock) (row : LevelBlock) : List Int :=
  (weights.spread.zipWith (fun (s, _) level => s * level) weights.levels).zipWith (· * ·) row.levels

/-- The sum of every eighth product, from each of the first eight on. -/
def lanes (weights : WideBlock) (row : LevelBlock) : List Int :=
  (partsOf 8 32 (weights.terms row)).foldl (List.zipWith (· + ·)) (List.replicate 8 0)

/-- What the offsets take away, if there are any: each is taken as often as the levels of its group in the row
say. -/
def lost? (weights : WideBlock) (row : LevelBlock) : Option Single :=
  weights.offset.map fun m =>
    m * row.scale * Single.ofInt (levelProduct (weights.spread.map (·.2)) row.levels)

/-- What the products of a block are multiplied by. -/
def commonScale (weights : WideBlock) (row : LevelBlock) : Single := weights.scale * row.scale

/-- The sums for every eighth element after one more block. -/
def addLanes (sums : List Single) (block : WideBlock × LevelBlock) : List Single :=
  sums.zipWith (fun sum n => sum + block.1.commonScale block.2 * Single.ofInt n) (block.1.lanes block.2)

/-- What is left of a number after the offsets of one more block. -/
def takeLost (left : Single) (block : WideBlock × LevelBlock) : Single :=
  match block.1.lost? block.2 with
  | none => left
  | some lost => left - lost

/-- The product of two rows of blocks, by every eighth element. -/
def rowProduct (weights : List WideBlock) (row : List LevelBlock) : Single :=
  let blocks := weights.zip row
  blocks.foldl takeLost Single.zero
    + Single.sum (blocks.foldl addLanes (List.replicate 8 Single.zero))

/-- The product of two blocks, all elements at once. -/
def blockProduct (block : WideBlock × LevelBlock) : Single :=
  takeLost (block.1.commonScale block.2 * Single.ofInt (levelSum (block.1.terms block.2))) block

/-- The product of two rows of blocks, all elements of a block at once. -/
def plainRowProduct (weights : List WideBlock) (row : List LevelBlock) : Single :=
  Single.sum ((weights.zip row).map blockProduct)

end WideBlock

/-! ### Tensors -/

namespace Tensor

/-- The product of a row with each row of a tensor. -/
def products (weights : Tensor) (row : List Single) : List Single :=
  match weights.levelRows?, weights.wideRows? with
  | some rows, _ =>
    let blocks := (partsOf 32 (row.length / 32) row).map LevelBlock.ofNumbers
    rows.map (LevelBlock.rowProduct · blocks)
  | none, some rows =>
    let blocks := (partsOf 256 (row.length / 256) row).map LevelBlock.ofManyNumbers
    if weights.kind = .q2K then rows.map (WideBlock.plainRowProduct · blocks)
    else rows.map (WideBlock.rowProduct · blocks)
  | none, none => weights.rows.map (product row)

/-- There is a product for each row of the tensor. -/
theorem length_products (weights : Tensor) (row : List Single) :
    (weights.products row).length = weights.rowCount := by
  unfold products
  split
  · next rows found => simpa using length_of_levelRows? found
  · next rows _ found =>
    split <;> simpa using length_of_wideRows? found
  · simp [rows, length_partsOf]

end Tensor

end PromptLoop
