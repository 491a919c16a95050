import PromptLoop.Number.Single

/-!
# The natural logarithm in single precision

`Single.ln` evaluates `ln x` the way the C mathematics library does it for single precision. The
argument is written as `z * 2 ^ k` with `z` between about 0.7 and 1.4, a table gives for each of the
sixteen ranges of `z` a number `c` near its middle as the pair of `1 / c` and `ln c`, and a cubic
polynomial covers `ln (z / c)`. The computation runs in double precision and is rounded once at the
end; as with `Single.exp`, the constants and the order of the operations are part of the result.
-/

namespace PromptLoop

namespace Logarithm

/-- The pairs of `1 / c` and `ln c` for the sixteen ranges, as double precision bit patterns. -/
def centres : Array (UInt64 × UInt64) :=
  #[
    (0x3ff661ec79f8f3be, 0xbfd57bf7808caade),
    (0x3ff571ed4aaf883d, 0xbfd2bef0a7c06ddb),
    (0x3ff49539f0f010b0, 0xbfd01eae7f513a67),
    (0x3ff3c995b0b80385, 0xbfcb31d8a68224e9),
    (0x3ff30d190c8864a5, 0xbfc6574f0ac07758),
    (0x3ff25e227b0b8ea0, 0xbfc1aa2bc79c8100),
    (0x3ff1bb4a4a1a343f, 0xbfba4e76ce8c0e5e),
    (0x3ff12358f08ae5ba, 0xbfb1973c5a611ccc),
    (0x3ff0953f419900a7, 0xbfa252f438e10c1e),
    (0x3ff0000000000000, 0x0000000000000000),
    (0x3fee608cfd9a47ac, 0x3faaa5aa5df25984),
    (0x3feca4b31f026aa0, 0x3fbc5e53aa362eb4),
    (0x3feb2036576afce6, 0x3fc526e57720db08),
    (0x3fe9c2d163a1aa2d, 0x3fcbc2860d224770),
    (0x3fe886e6037841ed, 0x3fd1058bc8a07ee1),
    (0x3fe767dcf5534862, 0x3fd4043057b6ee09)
  ]

/-- The number `ln 2`. -/
def lnTwo : Float := Float.ofBits 0x3fe62e42fefa39ef

/-- The coefficients of the polynomial for `ln (1 + r)`, of the fourth power, the cube and the
square. -/
def quartic : Float := Float.ofBits 0xbfd00ea348b88334
@[inherit_doc quartic] def cubic : Float := Float.ofBits 0x3fd5575b0be00b6a
@[inherit_doc quartic] def quadratic : Float := Float.ofBits 0xbfdffffef20a4123

/-- The pattern of the least `z` of the first range; ranges and powers of two are counted from it. -/
def origin : Int := 0x3f330000

/-- The logarithm of the positive number with a full mantissa whose bit pattern, possibly shifted to
make room for a mantissa that was not full, is `pattern`. -/
def evaluate (pattern : Int) : Float :=
  let offset := pattern - origin
  let (reciprocal, lnCentre) := centres.getD (offset / 0x00080000 % 16).toNat (0, 0)
  let k := offset / 0x00800000
  let z : Single := ⟨UInt32.ofNat (pattern - k * 0x00800000).toNat⟩
  let r := z.widen * Float.ofBits reciprocal - 1
  let base := Float.ofBits lnCentre + Float.ofInt k * lnTwo
  let square := r * r
  let high := quartic * square + (cubic * r + quadratic)
  high * square + (base + r)

end Logarithm

namespace Single

/-- The number `2 ^ 23`, which fills the mantissa of any positive number. -/
def fillMantissa : Single := ⟨0x4b000000⟩

/-- The natural logarithm. -/
def ln (x : Single) : Single :=
  if x.isNaN then x.quieted
  else if x.code = 0 then negInfinity
  else if x.isNegative then invalid
  else if x.isInfinite then infinity
  else if x = one then zero
  else if x < leastNormal then
    narrow (Logarithm.evaluate ((x * fillMantissa).code - 23 * 0x00800000))
  else narrow (Logarithm.evaluate x.code)

end Single

end PromptLoop
