import PromptLoop.Number.Rounding

/-!
# Single precision numbers

`Single` is a single precision number as its 32 bits, so a NaN keeps its sign: the ranking of
candidates in `PromptLoop.Sampling` tells the two signs apart. Arithmetic on numbers is the core
library's arithmetic on `Float32`. Where NaN is concerned the rules are those of the hardware the
program runs on: an operand that is NaN passes through, the left one first, and an operation without
a meaningful value makes the negative quiet NaN.

Comparison is that of numbers, false whenever NaN is involved. `Single.rank` is the other order, total
on all bit patterns: negative NaN below every number and positive NaN above.
-/

namespace PromptLoop

/-- A single precision number. -/
structure Single where
  /-- The bit pattern: sign, eight exponent bits, twenty-three fraction bits. -/
  bits : UInt32
  deriving DecidableEq, Repr, Inhabited

namespace Single

/-- The number zero. -/
def zero : Single := ⟨0⟩

/-- The number one. -/
def one : Single := ⟨0x3f800000⟩

/-- Positive infinity. -/
def infinity : Single := ⟨0x7f800000⟩

/-- Negative infinity. -/
def negInfinity : Single := ⟨0xff800000⟩

/-- The positive quiet NaN, the one that texts denote. -/
def nan : Single := ⟨0x7fc00000⟩

/-- The NaN that an operation without a meaningful value makes. -/
def invalid : Single := ⟨0xffc00000⟩

/-- The least positive number with a full mantissa. -/
def leastNormal : Single := ⟨0x00800000⟩

/-- The code of a number, its bits without the sign. -/
def code (x : Single) : Nat := (x.bits &&& 0x7fffffff).toNat

/-- Whether the sign bit is set. -/
def isNegative (x : Single) : Bool := 0x80000000 ≤ x.bits

/-- Whether the pattern is a NaN. -/
def isNaN (x : Single) : Bool := Format.single.infinity < x.code

/-- Whether the pattern is an infinity of either sign. -/
def isInfinite (x : Single) : Bool := x.code = Format.single.infinity

/-- The number of a code with a sign. -/
def ofCode (negative : Bool) (code : Nat) : Single :=
  ⟨if negative then 0x80000000 ||| UInt32.ofNat code else UInt32.ofNat code⟩

/-- The number with the other sign. -/
def negate (x : Single) : Single := ⟨x.bits ^^^ 0x80000000⟩

/-- The nearest number to a natural number. -/
def ofNat (n : Nat) : Single := ofCode false (Format.single.nearest n 1)

/-- The core library's view of the number, which forgets the sign of NaN. -/
def toFloat32 (x : Single) : Float32 := Float32.ofBits x.bits

/-- The same NaN with its quiet bit set. -/
def quieted (x : Single) : Single := ⟨x.bits ||| 0x00400000⟩

/-- Lifts an operation on numbers to one on all patterns. -/
def lift (op : Float32 → Float32 → Float32) (x y : Single) : Single :=
  if x.isNaN then x.quieted
  else if y.isNaN then y.quieted
  else
    let r := op x.toFloat32 y.toFloat32
    if r.isNaN then invalid else ⟨r.toBits⟩

instance : Add Single := ⟨lift (· + ·)⟩
instance : Sub Single := ⟨lift (· - ·)⟩
instance : Mul Single := ⟨lift (· * ·)⟩
instance : Div Single := ⟨lift (· / ·)⟩

instance : LT Single := ⟨fun x y => x.toFloat32 < y.toFloat32⟩
instance : LE Single := ⟨fun x y => x.toFloat32 ≤ y.toFloat32⟩

instance (x y : Single) : Decidable (x < y) :=
  inferInstanceAs (Decidable (x.toFloat32 < y.toFloat32))

instance (x y : Single) : Decidable (x ≤ y) :=
  inferInstanceAs (Decidable (x.toFloat32 ≤ y.toFloat32))

/-- The larger of two numbers; a NaN loses to anything. -/
def larger (x y : Single) : Single :=
  if x.isNaN then y else if y.isNaN then x else if x < y then y else x

/-- The sum of a list, added from the left. -/
def sum (xs : List Single) : Single := xs.foldl (· + ·) zero

/-- The place of a pattern in the total order of all patterns: sign and magnitude read as one
integer, so that negative zero comes just before zero and NaN lies at the two ends. -/
def rank (x : Single) : Int := if x.isNegative then -1 - (x.code : Int) else x.code

/-- The next number toward zero from a positive number. -/
def pred (x : Single) : Single := ⟨x.bits - 1⟩

/-- The double precision number of the same value. Every single precision number has one. -/
def widen (x : Single) : Float :=
  let sign : Nat := if x.isNegative then 1 <<< 63 else 0
  let magnitude :=
    if x.isNaN then 0x7ff8000000000000
    else if x.isInfinite then Format.double.infinity
    else
      let (mantissa, place) := Format.single.parts x.code
      Format.double.nearestScaled mantissa place
  Float.ofBits (UInt64.ofNat (sign + magnitude))

/-- The nearest single precision number to a double precision number. -/
def narrow (x : Float) : Single :=
  let bits := x.toBits.toNat
  let code := bits % (1 <<< 63)
  if Format.double.infinity < code then nan
  else
    let (mantissa, place) := Format.double.parts code
    ofCode (1 <<< 63 ≤ bits)
      (if code = Format.double.infinity then Format.single.infinity
        else Format.single.nearestScaled mantissa place)

end Single

end PromptLoop
