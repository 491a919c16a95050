import PromptLoop.Number.Shortest
import PromptLoop.Text.Quoted

/-!
# Values in a GGUF file

The metadata of a GGUF file gives keys values of a dozen kinds. `GgufValue.describe` names a value with its
kind, for messages about values of the wrong kind.
-/

namespace PromptLoop

/-- The width of a whole number. -/
inductive WordWidth where
  /-- One byte. -/
  | one
  /-- Two bytes. -/
  | two
  /-- Four bytes. -/
  | four
  /-- Eight bytes. -/
  | eight
  deriving DecidableEq, Repr

/-- The number of bytes of a whole number. -/
def WordWidth.bytes : WordWidth → Nat
  | one => 1
  | two => 2
  | four => 4
  | eight => 8

/-- The kind of a value. -/
inductive GgufKind where
  /-- A whole number without a sign. -/
  | unsigned (width : WordWidth)
  /-- A whole number with a sign. -/
  | signed (width : WordWidth)
  /-- A single precision number. -/
  | single
  /-- A double precision number. -/
  | double
  /-- A truth value. -/
  | boolean
  /-- A text. -/
  | text
  /-- A list of values of one kind. -/
  | array
  deriving DecidableEq, Repr

/-- A value. -/
inductive GgufValue where
  /-- A whole number without a sign. -/
  | unsigned (width : WordWidth) (n : Nat)
  /-- A whole number with a sign. -/
  | signed (width : WordWidth) (n : Int)
  /-- A single precision number. -/
  | single (x : Single)
  /-- A double precision number, as its bits. -/
  | double (bits : UInt64)
  /-- A truth value. -/
  | boolean (b : Bool)
  /-- A text. -/
  | text (s : String)
  /-- A list of values. -/
  | array (items : List GgufValue)

/-- The kind with a code. -/
def GgufKind.ofCode? : Nat → Option GgufKind
  | 0 => some (.unsigned .one)
  | 1 => some (.signed .one)
  | 2 => some (.unsigned .two)
  | 3 => some (.signed .two)
  | 4 => some (.unsigned .four)
  | 5 => some (.signed .four)
  | 6 => some .single
  | 7 => some .boolean
  | 8 => some .text
  | 9 => some .array
  | 10 => some (.unsigned .eight)
  | 11 => some (.signed .eight)
  | 12 => some .double
  | _ => none

namespace GgufValue

/-- The number of bits of a whole number, in digits. -/
def bitsText (width : WordWidth) : String := toString (8 * width.bytes)

mutual

/-- The value with the name of its kind. -/
def describe : GgufValue → String
  | unsigned width n => "U" ++ bitsText width ++ "(" ++ toString n ++ ")"
  | signed width n => "I" ++ bitsText width ++ "(" ++ toString n ++ ")"
  | single x => "F32(" ++ Format.single.describe x.isNegative x.code ++ ")"
  | double bits =>
    "F64(" ++ Format.double.describe (1 <<< 63 ≤ bits.toNat) (bits.toNat % (1 <<< 63)) ++ ")"
  | boolean b => "Bool(" ++ toString b ++ ")"
  | text s => "String(" ++ Quoted.text s ++ ")"
  | array items => "Array([" ++ ", ".intercalate (describeAll items) ++ "])"

/-- The values with the names of their kinds. -/
def describeAll : List GgufValue → List String
  | [] => []
  | v :: vs => v.describe :: describeAll vs

end

end GgufValue

end PromptLoop
