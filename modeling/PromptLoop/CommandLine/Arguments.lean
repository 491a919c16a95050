import PromptLoop.CommandLine.Flag
import PromptLoop.Config.Fields
import PromptLoop.Number.Decimal

/-!
# Reading the command line

Arguments are read from left to right. A flag may have its value joined to it by an equals sign, or take
the next argument as its value if that has no dash in front. A flag is settled, its value checked and
entered, as soon as it is certain that no value follows: with its own argument if a value is joined to
it, else when the next flag comes or the arguments end. So of several faults the first is reported, with
one exception: an argument that is not understood is reported in place of a fault of the flag before it.

A flag may be given once. After two dashes alone no argument is understood.
-/

namespace PromptLoop

/-- What a command line says. -/
structure CommandLine where
  /-- The configuration file. -/
  config : Option String := none
  /-- The fields that are set. -/
  fields : Fields := {}
  deriving DecidableEq, Repr

/-- Why a command line is not carried out. -/
inductive CommandLineError where
  /-- It asks for the usage text. -/
  | helpWanted
  /-- An argument is not understood. -/
  | unknownArgument (argument : String)
  /-- The wish for the usage text has a value. -/
  | needlessValue
  /-- A flag has no value. -/
  | missingValue (flag : Flag)
  /-- A flag is given twice. -/
  | repeatedFlag (flag : Flag)
  /-- A flag does not take the value that it has. -/
  | refusedValue (flag : Flag) (value : String)
  /-- The value of a flag is not a number, or one that is out of range. -/
  | malformedNumber (flag : Flag) (value : String)
  deriving DecidableEq, Repr

/-- The text of a command line error. -/
def CommandLineError.message : CommandLineError → String
  | helpWanted => "the usage text is wanted"
  | unknownArgument argument => s!"unexpected argument '{argument}' found"
  | needlessValue => "unexpected value for '--help' found; no more were expected"
  | missingValue flag => s!"a value is required for '--{flag.name}' but none was supplied"
  | repeatedFlag flag => s!"the argument '--{flag.name}' cannot be used multiple times"
  | refusedValue flag value | malformedNumber flag value =>
    s!"invalid value '{value}' for '--{flag.name}'"

/-! ### Arguments -/

/-- An argument, by its form. -/
inductive Argument where
  /-- Two dashes. -/
  | separator
  /-- The wish for the usage text. -/
  | help
  /-- The wish for the usage text with a value joined to it. -/
  | helpWithValue
  /-- A flag, with the value that is joined to it. -/
  | flag (flag : Flag) (value : Option String)
  /-- Dashes that lead to no flag. -/
  | unknown
  /-- A text without a dash in front, or a dash alone. -/
  | plain
  deriving DecidableEq, Repr

namespace Argument

/-- An argument with two dashes, by its name and the value that is joined to it. -/
def ofName (name : String) (value : Option String) : Argument :=
  if name = "help" then if value.isSome then .helpWithValue else .help
  else
    match Flag.ofName? name with
    | some named => .flag named value
    | none => .unknown

/-- Whether a character joins a value to a flag. -/
def isJoint (c : Char) : Bool := c = '='

/-- The form of an argument. -/
def ofText (text : String) : Argument :=
  match text.toList with
  | ['-', '-'] => .separator
  | '-' :: '-' :: rest =>
    ofName (String.ofList (rest.takeWhile (!isJoint ·)))
      ((rest.dropWhile (!isJoint ·)).tail?.map String.ofList)
  | ['-'] => .plain
  | '-' :: 'h' :: _ => .help
  | '-' :: _ => .unknown
  | _ => .plain

end Argument

/-! ### Values -/

/-- Reads a whole number of digits up to a limit. -/
def digitsUpTo? (limit : Nat) (digits : List Char) : Option Nat :=
  if digits.isEmpty || !digits.all Char.isDigit then none
  else
    let n := natOfDigits digits
    if n ≤ limit then some n else none

/-- Reads a count. A plus may stand in front. -/
def countOfText? (text : String) : Option Nat :=
  match text.toList with
  | '+' :: digits => digitsUpTo? largestCount digits
  | digits => digitsUpTo? largestCount digits

/-- Reads a level. A plus may stand in front, and a minus in front of zero. -/
def levelOfText? (text : String) : Option Nat :=
  match text.toList with
  | '+' :: digits => digitsUpTo? largestLevel digits
  | '-' :: digits => digitsUpTo? 0 digits
  | digits => digitsUpTo? largestLevel digits

/-- Reads a truth value. -/
def truthOfText? : String → Option Bool
  | "true" => some true
  | "false" => some false
  | _ => none

namespace CommandLine

/-- Whether a flag is given. -/
def isGiven (line : CommandLine) : Flag → Bool
  | .config => line.config.isSome
  | .tokenizer => line.fields.loader.tokenizer.isSome
  | .weights => line.fields.loader.weights.isSome
  | .model => line.fields.loader.model.isSome
  | .hfRepo => line.fields.loader.hfRepo.isSome
  | .maxTokens => line.fields.inference.maxTokens.isSome
  | .maxGeneratedTokens => line.fields.inference.maxGeneratedTokens.isSome
  | .temperature => line.fields.inference.temperature.isSome
  | .topK => line.fields.inference.topK.isSome
  | .deterministic => line.fields.inference.deterministic.isSome
  | .multiturn => line.fields.inference.multiturn.isSome
  | .numThreads => line.fields.app.numThreads.isSome
  | .verbosity => line.fields.app.verbosity.isSome

/-- Enters the value of a flag, if it is one that the flag takes. -/
def enter? (line : CommandLine) (value : String) : Flag → Option CommandLine
  | .config => if value.isEmpty then none else some { line with config := value }
  | .tokenizer => some { line with fields.loader.tokenizer := value }
  | .weights => some { line with fields.loader.weights := value }
  | .model => some { line with fields.loader.model := value }
  | .hfRepo => some { line with fields.loader.hfRepo := value }
  | .maxTokens =>
    (countOfText? value).map fun n => { line with fields.inference.maxTokens := n }
  | .maxGeneratedTokens =>
    (countOfText? value).map fun n => { line with fields.inference.maxGeneratedTokens := n }
  | .temperature =>
    (Single.ofText? value).map fun x => { line with fields.inference.temperature := x }
  | .topK => (countOfText? value).map fun n => { line with fields.inference.topK := n }
  | .deterministic =>
    (truthOfText? value).map fun b => { line with fields.inference.deterministic := b }
  | .multiturn => (truthOfText? value).map fun b => { line with fields.inference.multiturn := b }
  | .numThreads => (countOfText? value).map fun n => { line with fields.app.numThreads := n }
  | .verbosity => (levelOfText? value).map fun n => { line with fields.app.verbosity := n }

/-- A flag whose value may still follow. -/
structure OpenFlag where
  /-- The flag. -/
  flag : Flag
  /-- The value, if it has come. -/
  value : Option String
  deriving DecidableEq, Repr

/-- Settles a flag. -/
def settle (line : CommandLine) (given : OpenFlag) : Except CommandLineError CommandLine :=
  match given.value.or given.flag.impliedValue? with
  | none => .error (.missingValue given.flag)
  | some value =>
    if line.isGiven given.flag then .error (.repeatedFlag given.flag)
    else
      match line.enter? value given.flag with
      | some line => .ok line
      | none =>
        if given.flag.isNumeric then .error (.malformedNumber given.flag value)
        else .error (.refusedValue given.flag value)

/-- Settles the open flag, if there is one. -/
def settleOpen (line : CommandLine) : Option OpenFlag → Except CommandLineError CommandLine
  | none => .ok line
  | some given => line.settle given

/-- Reads arguments onto a command line with a flag that may be open. -/
def readFrom (line : CommandLine) (current : Option OpenFlag) :
    List String → Except CommandLineError CommandLine
  | [] => line.settleOpen current
  | argument :: rest =>
    match Argument.ofText argument with
    | .separator =>
      match rest with
      | [] => line.settleOpen current
      | extra :: _ => .error (.unknownArgument extra)
    | .help => (line.settleOpen current).bind fun _ => .error .helpWanted
    | .helpWithValue => .error .needlessValue
    | .unknown => .error (.unknownArgument argument)
    | .flag flag none => do
      let line ← line.settleOpen current
      line.readFrom (some ⟨flag, none⟩) rest
    | .flag flag (some value) => do
      let line ← line.settleOpen current
      let line ← line.settle ⟨flag, some value⟩
      line.readFrom none rest
    | .plain =>
      match current with
      | some ⟨flag, none⟩ => line.readFrom (some ⟨flag, some argument⟩) rest
      | _ => .error (.unknownArgument argument)

/-- Reads the arguments of a program. -/
def read (arguments : List String) : Except CommandLineError CommandLine :=
  readFrom {} none arguments

end CommandLine

end PromptLoop
