import PromptLoop.Number.Single

/-!
# The exponential function in single precision

`Single.exp` evaluates `exp x` the way the C mathematics library does it for single precision. The
argument is written as `k * ln 2 / 32 + r` with a whole number `k` and a small `r`, the power
`2 ^ (k / 32)` is looked up and scaled, a cubic polynomial covers `2 ^ r`, and the whole computation
runs in double precision and is rounded once at the end. The polynomial's error is below the rounding
error of single precision but not zero, so the constants and the order of the operations are part of
the result.
-/

namespace PromptLoop

namespace Exponential

/-- The powers `2 ^ (i / 32)` for `i` from 0 to 31, as double precision bit patterns. -/
def powers : Array UInt64 :=
  #[
    0x3ff0000000000000, 0x3ff059b0d3158574, 0x3ff0b5586cf9890f, 0x3ff11301d0125b51,
    0x3ff172b83c7d517b, 0x3ff1d4873168b9aa, 0x3ff2387a6e756238, 0x3ff29e9df51fdee1,
    0x3ff306fe0a31b715, 0x3ff371a7373aa9cb, 0x3ff3dea64c123422, 0x3ff44e086061892d,
    0x3ff4bfdad5362a27, 0x3ff5342b569d4f82, 0x3ff5ab07dd485429, 0x3ff6247eb03a5585,
    0x3ff6a09e667f3bcd, 0x3ff71f75e8ec5f74, 0x3ff7a11473eb0187, 0x3ff82589994cce13,
    0x3ff8ace5422aa0db, 0x3ff93737b0cdc5e5, 0x3ff9c49182a3f090, 0x3ffa5503b23e255d,
    0x3ffae89f995ad3ad, 0x3ffb7f76f2fb5e47, 0x3ffc199bdd85529c, 0x3ffcb720dcef9069,
    0x3ffd5818dcfba487, 0x3ffdfc97337b9b5f, 0x3ffea4afa2a490da, 0x3fff50765b6e4540
  ]

/-- The number `32 / ln 2`. -/
def stepsPerUnit : Float := Float.ofBits 0x40471547652b82fe

/-- The number `1.5 * 2 ^ 52`. Double precision numbers around it are the whole numbers, so adding it
rounds the other summand to a whole number. -/
def shift : Float := Float.ofBits 0x4338000000000000

/-- The coefficients of the polynomial for `2 ^ (r / 32)`, of the cube, the square and the first
power. -/
def cubic : Float := Float.ofBits 0x3ebc6af84b912394
@[inherit_doc cubic] def quadratic : Float := Float.ofBits 0x3f2ebfce50fac4f3
@[inherit_doc cubic] def linear : Float := Float.ofBits 0x3f962e42ff0c52d6

/-- The power `2 ^ (k / 32)` for a whole number `k` of moderate size: the table entry with the whole
part of `k / 32` added to its exponent. -/
def powerOfTwo (k : Int) : Float :=
  let entry := powers.getD (k % 32).toNat 0
  Float.ofBits (UInt64.ofNat ((entry.toNat : Int) + k / 32 * 0x0010000000000000).toNat)

/-- The exponential of a double precision number of moderate size. -/
def evaluate (x : Float) : Float :=
  let z := stepsPerUnit * x
  let shifted := z + shift
  let k : Int := (shifted.toBits.toNat : Int) - 0x4338000000000000
  let r := z - (shifted - shift)
  let high := cubic * r + quadratic
  let low := linear * r + 1
  (high * (r * r) + low) * powerOfTwo k

end Exponential

namespace Single

/-- The largest number whose exponential is finite. -/
def expOverflow : Single := ⟨0x42b17217⟩

/-- The least number whose exponential is not rounded to zero. -/
def expUnderflow : Single := ⟨0xc2cff1b4⟩

/-- The exponential function. -/
def exp (x : Single) : Single :=
  if x.isNaN then x.quieted
  else if expOverflow < x then infinity
  else if x < expUnderflow then zero
  else narrow (Exponential.evaluate x.widen)

end Single

end PromptLoop
