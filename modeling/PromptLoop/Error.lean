/-!
# What can go wrong

`ConfigError` is a configuration that is refused before a session starts; `SessionError` is whatever
is reported as the reason for an early end. Each constructor is a cause with the values that belong to it,
and the wording is in one function per type.

A `Panic` is not reported: whoever runs into one breaks off where it stands, and so does everyone that
waits for its answer. A `Halt` is an early end of either kind.
-/

namespace PromptLoop

/-- A configuration that is refused. -/
inductive ConfigError where
  /-- A flag without a default is not set anywhere. -/
  | missing (flag : String)
  /-- The model label names no known variant. -/
  | unknownModel (label : String)
  /-- The token budget is larger than the model's context. -/
  | maxTokensTooLarge (maxTokens contextLength : Nat)
  /-- One turn may generate more tokens than the session may hold. -/
  | generatedExceedsBudget (generated maxTokens : Nat)
  /-- A value lies outside its range. -/
  | outOfRange (reason : String)
  /-- The configuration file cannot be read or does not have the expected shape. -/
  | file (path detail : String)
  deriving DecidableEq, Repr

/-- The text of a configuration error. -/
def ConfigError.message : ConfigError → String
  | .missing flag => s!"Missing --{flag} flag"
  | .unknownModel label =>
    s!"Invalid --model '{label}': expected <size>-it or <size>-pt with size one of 1b, 4b, 12b, 27b"
  | .maxTokensTooLarge maxTokens contextLength =>
    s!"max_tokens ({maxTokens}) is larger than the maximum sequence length ({contextLength})"
  | .generatedExceedsBudget generated maxTokens =>
    s!"max_generated_tokens ({generated}) is larger than max_tokens ({maxTokens})"
  | .outOfRange reason => reason
  | .file path detail => s!"Failed to read config file {path}: {detail}"

/-- What is reported when a session ends early. -/
inductive SessionError where
  /-- The configuration is refused. -/
  | config (error : ConfigError)
  /-- The tokenizer has no encoding for a prompt. -/
  | encode (detail : String)
  /-- The tokenizer cannot show a token. -/
  | decode (token : Nat) (detail : String)
  /-- The generator cannot go on. -/
  | generation (detail : String)
  /-- The model or its tokenizer cannot be loaded. -/
  | modelLoad (detail : String)
  /-- The console takes no more text. -/
  | io (detail : String)
  deriving DecidableEq, Repr

namespace SessionError

/-- The text of a session error. -/
def message : SessionError → String
  | config error => "Invalid args: " ++ error.message
  | encode detail => "Tokenizer failed to encode prompt: " ++ detail
  | decode token detail => s!"Tokenizer failed to decode token {token}: {detail}"
  | generation detail => "Generation failed: " ++ detail
  | modelLoad detail => "Model load failed: " ++ detail
  | io detail => "IO error: " ++ detail

/-- Whether the usage text is shown with the error: the configuration can be mended on the command
line, anything else cannot. -/
def wantsHelp : SessionError → Bool
  | config _ => true
  | _ => false

end SessionError

/-- Why the program breaks off. -/
inductive Panic where
  /-- The weights of a random draw have an infinite sum. -/
  | infiniteTotal
  deriving DecidableEq, Repr

/-- The text of a panic. -/
def Panic.message : Panic → String
  | .infiniteTotal => "Uniform::new: range overflow"

/-- An early end. -/
inductive Halt where
  /-- An error is reported. -/
  | error (error : SessionError)
  /-- The program breaks off. -/
  | panic (panic : Panic)
  deriving DecidableEq, Repr

instance : Coe SessionError Halt := ⟨.error⟩
instance : Coe Panic Halt := ⟨.panic⟩

end PromptLoop
