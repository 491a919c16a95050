import PromptLoop.Number.Single

/-!
# Weighted draws

A `Wheel` turns a random word into an index so that an index comes up in proportion to its weight. The
weights are single precision numbers and are added up from the left; the boundaries between indices are
the partial sums. A draw is a point between zero and the total, and its index is the number of
boundaries at or below the point.

Not all weights make a wheel. `Wheel.Fault` tells apart those that are no weights from those that are too
large to be added up.
-/

namespace PromptLoop

/-- A wheel of weighted indices. -/
structure Wheel where
  /-- The partial sums of the weights, without the sum of none and the sum of all. -/
  boundaries : List Single
  /-- The length of the range that points are drawn from. -/
  scale : Single
  deriving DecidableEq, Repr

namespace Wheel

/-- The largest fraction that a draw can make, `1 - 2 ^ -23`. -/
def largestFraction : Single := ⟨0x3f7ffffe⟩

/-- The partial sums of weights that follow a given sum, and the sum of all. -/
def partialSums (sum : Single) : List Single → List Single × Single
  | [] => ([], sum)
  | w :: ws =>
    let (sums, total) := partialSums (sum + w) ws
    (sum :: sums, total)

/-- The range for a total: the total itself unless the largest point would round up to it, in which
case the next number below. -/
def scaleFor (total : Single) : Single :=
  if total ≤ total * largestFraction then total.pred else total

/-- Why weights make no wheel. -/
inductive Fault where
  /-- There are none, one of them is negative or NaN, or all are zero. -/
  | unfit
  /-- Their sum is infinite. -/
  | overflow
  deriving DecidableEq, Repr

/-- The wheel of a list of weights. -/
def ofWeights : List Single → Except Fault Wheel
  | [] => .error .unfit
  | w :: ws =>
    if (w :: ws).all (fun x => Single.zero ≤ x) then
      let (boundaries, total) := partialSums w ws
      if total.code = 0 then .error .unfit
      else if total.isInfinite then .error .overflow
      else .ok ⟨boundaries, scaleFor total⟩
    else .error .unfit

/-- The point of a random word: its upper twenty-three bits as a fraction of the range. -/
def point (wheel : Wheel) (word : UInt32) : Single :=
  (Single.mk ((word >>> 9) ||| 0x3f800000) - Single.one) * wheel.scale

/-- The index of a random word. -/
def index (wheel : Wheel) (word : UInt32) : Nat :=
  wheel.boundaries.countP fun b => b ≤ wheel.point word

end Wheel

end PromptLoop
