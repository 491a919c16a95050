import PromptLoop.Error
import PromptLoop.Text.Blank
import PromptLoop.Text.LetterCase

/-!
# Model variants

A model comes in four sizes and two kinds of training, so there are eight variants. The label of a
variant is its size, a hyphen and its training. Reading a label ignores blanks around it and letter
case, and nothing else.
-/

namespace PromptLoop

/-- The sizes of the model. -/
inductive ModelSize where
  /-- One billion parameters. -/
  | gemma1B
  /-- Four billion parameters. -/
  | gemma4B
  /-- Twelve billion parameters. -/
  | gemma12B
  /-- Twenty-seven billion parameters. -/
  | gemma27B
  deriving DecidableEq, Repr

/-- The kinds of training. -/
inductive Training where
  /-- Trained to answer within turn markers. -/
  | instructionTuned
  /-- Trained to continue a text. -/
  | pretrained
  deriving DecidableEq, Repr

namespace ModelSize

/-- The sizes, smallest first. -/
def all : List ModelSize := [gemma1B, gemma4B, gemma12B, gemma27B]

/-- The label of a size. -/
def label : ModelSize → String
  | gemma1B => "1b"
  | gemma4B => "4b"
  | gemma12B => "12b"
  | gemma27B => "27b"

/-- The number of tokens that a model of a size can take into account. -/
def contextLength : ModelSize → Nat
  | gemma1B => 32768
  | gemma4B | gemma12B | gemma27B => 131072

/-- The size with a label. -/
def ofLabel? (label : String) : Option ModelSize := all.find? fun s => s.label = label

end ModelSize

namespace Training

/-- The kinds of training. -/
def all : List Training := [instructionTuned, pretrained]

/-- The label of a kind of training. -/
def label : Training → String
  | instructionTuned => "it"
  | pretrained => "pt"

/-- The kind of training with a label. -/
def ofLabel? (label : String) : Option Training := all.find? fun t => t.label = label

end Training

/-- A variant of the model. -/
structure ModelVariant where
  /-- The size. -/
  size : ModelSize
  /-- The kind of training. -/
  training : Training
  deriving DecidableEq, Repr

namespace ModelVariant

/-- The label of a variant. -/
def label (v : ModelVariant) : String := v.size.label ++ "-" ++ v.training.label

/-- Cuts a text at its last hyphen. -/
def cutAtLastHyphen? (text : List Char) : Option (List Char × List Char) :=
  if text.contains '-' then
    let back := text.reverse
    some ((back.dropWhile (· ≠ '-')).drop 1 |>.reverse, (back.takeWhile (· ≠ '-')).reverse)
  else none

/-- The variant with a label in lower case. -/
def ofLabel? (label : List Char) : Option ModelVariant := do
  let (size, training) ← cutAtLastHyphen? label
  return ⟨← ModelSize.ofLabel? (String.ofList size), ← Training.ofLabel? (String.ofList training)⟩

/-- Reads a label as a user gives it. -/
def parse (raw : String) : Except ConfigError ModelVariant :=
  match ofLabel? (LetterCase.lowercase (trimBlank raw.toList)) with
  | some v => .ok v
  | none => .error (.unknownModel raw)

end ModelVariant

end PromptLoop
