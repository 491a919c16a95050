import PromptLoop.Tokenizer.PieceTable

/-!
# The number of tokens

The tokens of a text can be cut to a greatest number, repeated, and filled up to a number with tokens that
stand for nothing. `length_cut` and `length_le_filled` say what cutting and filling do to the number.
-/

namespace PromptLoop

/-- The end of a text at which something happens. -/
inductive Side where
  /-- The start. -/
  | left
  /-- The end. -/
  | right
  deriving DecidableEq, Repr

/-! ### Cutting -/

/-- A greatest number of tokens. -/
structure Cutting where
  /-- The number. -/
  limit : Nat
  /-- The end at which tokens are cut off. -/
  side : Side
  /-- Whether tokens are to be cut off a second text, which is never there. -/
  ofSecondText : Bool
  deriving DecidableEq, Repr

namespace Cutting

/-- The tokens that are kept. -/
def keep (c : Cutting) (tokens : List Token) : List Token :=
  match c.side with
  | .left => tokens.drop (tokens.length - c.limit)
  | .right => tokens.take c.limit

/-- Cuts tokens. -/
def apply (c : Cutting) (tokens : List Token) : Except EncodeFault (List Token) :=
  if c.ofSecondText ∧ 0 < c.limit ∧ c.limit < tokens.length then .error .noSecondText else .ok (c.keep tokens)

/-- No more tokens are kept than the limit says, and none are cut off that fit. -/
theorem length_cut (c : Cutting) (tokens : List Token) :
    (c.keep tokens).length = min c.limit tokens.length := by
  unfold keep
  split
  · rw [List.length_drop]
    omega
  · exact List.length_take

end Cutting

/-! ### Filling -/

/-- A least number of tokens. -/
structure Filling where
  /-- The number, if it is not just that of the tokens. -/
  least : Option Nat
  /-- The least number is made a multiple of this, if there is one and it is not zero. -/
  multiple : Option Nat
  /-- The end at which tokens are put. -/
  side : Side
  /-- The token that stands for nothing. -/
  token : Token
  deriving DecidableEq, Repr

namespace Filling

/-- The next multiple of a number. -/
def roundUp (n : Nat) : Option Nat → Nat
  | none | some 0 => n
  | some multiple => if n % multiple = 0 then n else n + (multiple - n % multiple)

/-- Fills tokens up. -/
def apply (f : Filling) (tokens : List Token) : List Token :=
  let length := roundUp (f.least.getD tokens.length) f.multiple
  let more := List.replicate (length - tokens.length) f.token
  match f.side with
  | .left => more ++ tokens
  | .right => tokens ++ more

/-- Filling up takes nothing away. -/
theorem length_le_filled (f : Filling) (tokens : List Token) : tokens.length ≤ (f.apply tokens).length := by
  unfold apply
  dsimp only
  split <;> simp

end Filling

end PromptLoop
