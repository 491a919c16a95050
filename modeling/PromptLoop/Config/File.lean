import PromptLoop.Config.Fields
import PromptLoop.Toml.Reader

/-!
# Configuration files

A configuration file is a TOML document with up to three tables, one for each group of fields. A key
that names no field is refused, and so is a value of the wrong kind. Whole numbers have to fit their
field; a temperature may be written as a whole number.

A group may also be written as an array of the values of all its fields in order; values after the last
field are passed over.
-/

namespace PromptLoop

namespace Toml

/-- The text of a string. -/
def string? : Toml → Option String
  | .string text => some (String.ofList text)
  | _ => none

/-- The truth value of a boolean. -/
def boolean? : Toml → Option Bool
  | .boolean b => some b
  | _ => none

/-- The value of a whole number that is neither negative nor larger than a limit. -/
def natUpTo? (limit : Nat) : Toml → Option Nat
  | .integer n => if 0 ≤ n ∧ n ≤ limit then some n.toNat else none
  | _ => none

/-- The value of a number in single precision. -/
def single? : Toml → Option Single
  | .integer n => some (Single.ofCode (n < 0) (Format.single.nearest n.natAbs 1))
  | .float bits => some (Single.narrow (Float.ofBits bits))
  | _ => none

/-- The entries of a table, or the items of an array under the given keys. -/
def entries? (keys : List String) : Toml → Option (List (String × Toml))
  | .table _ entries => some (entries.map fun (k, v) => (String.ofList k, v))
  | .array items => if items.length < keys.length then none else some (keys.zip items)
  | _ => none

end Toml

namespace LoaderFields

/-- The keys of the fields, in order. -/
def keys : List String := ["tokenizer", "weights", "model", "hf_repo"]

/-- Sets a field from a file. -/
def set (f : LoaderFields) (entry : String × Toml) : Option LoaderFields :=
  match entry.1 with
  | "tokenizer" => entry.2.string?.map fun v => { f with tokenizer := some v }
  | "weights" => entry.2.string?.map fun v => { f with weights := some v }
  | "model" => entry.2.string?.map fun v => { f with model := some v }
  | "hf_repo" => entry.2.string?.map fun v => { f with hfRepo := some v }
  | _ => none

/-- The fields that a value sets. -/
def ofToml? (value : Toml) : Option LoaderFields := (value.entries? keys).bind (·.foldlM set {})

end LoaderFields

namespace InferenceFields

/-- The keys of the fields, in order. -/
def keys : List String :=
  ["max_tokens", "max_generated_tokens", "temperature", "top_k", "deterministic", "multiturn"]

/-- Sets a field from a file. -/
def set (f : InferenceFields) (entry : String × Toml) : Option InferenceFields :=
  match entry.1 with
  | "max_tokens" => (entry.2.natUpTo? largestCount).map fun v => { f with maxTokens := some v }
  | "max_generated_tokens" =>
    (entry.2.natUpTo? largestCount).map fun v => { f with maxGeneratedTokens := some v }
  | "temperature" => entry.2.single?.map fun v => { f with temperature := some v }
  | "top_k" => (entry.2.natUpTo? largestCount).map fun v => { f with topK := some v }
  | "deterministic" => entry.2.boolean?.map fun v => { f with deterministic := some v }
  | "multiturn" => entry.2.boolean?.map fun v => { f with multiturn := some v }
  | _ => none

/-- The fields that a value sets. -/
def ofToml? (value : Toml) : Option InferenceFields :=
  (value.entries? keys).bind (·.foldlM set {})

end InferenceFields

namespace AppFields

/-- The keys of the fields, in order. -/
def keys : List String := ["num_threads", "verbosity"]

/-- Sets a field from a file. -/
def set (f : AppFields) (entry : String × Toml) : Option AppFields :=
  match entry.1 with
  | "num_threads" => (entry.2.natUpTo? largestCount).map fun v => { f with numThreads := some v }
  | "verbosity" => (entry.2.natUpTo? largestLevel).map fun v => { f with verbosity := some v }
  | _ => none

/-- The fields that a value sets. -/
def ofToml? (value : Toml) : Option AppFields := (value.entries? keys).bind (·.foldlM set {})

end AppFields

namespace Fields

/-- Sets a group of fields from a file. -/
def set (f : Fields) (entry : Toml.Key × Toml) : Option Fields :=
  match String.ofList entry.1 with
  | "loader" => (LoaderFields.ofToml? entry.2).map fun v => { f with loader := v }
  | "inference" => (InferenceFields.ofToml? entry.2).map fun v => { f with inference := v }
  | "app" => (AppFields.ofToml? entry.2).map fun v => { f with app := v }
  | _ => none

/-- The fields that a configuration file sets. -/
def ofText? (text : String) : Option Fields := (Toml.read? text).bind (·.foldlM set unset)

end Fields

end PromptLoop
