import PromptLoop.CommandLine.Arguments
import PromptLoop.Config.File
import PromptLoop.Config.Settings
import PromptLoop.Files

/-!
# From a command line to settings

If the command line names a configuration file, its fields are laid over those of the file. A file that
cannot be read, is not text or does not describe a configuration is an error, also if the command line
sets all fields.
-/

namespace PromptLoop

namespace Fields

/-- What is wrong with a file whose bytes are not UTF-8. -/
def notText : String := "stream did not contain valid UTF-8"

/-- What is wrong with a text that does not describe a configuration. -/
def notConfiguration : String := "not a configuration"

/-- The fields that the configuration file at a path sets. -/
def ofFile (files : FileSystem) (path : String) : Except ConfigError Fields :=
  match files.find path with
  | .error e => .error (.file path e.message)
  | .ok .directory => .error (.file path "Is a directory (os error 21)")
  | .ok (.file (.bytes data)) =>
    match Line.text? data with
    | none => .error (.file path notText)
    | some text =>
      match ofText? text with
      | none => .error (.file path notConfiguration)
      | some fields => .ok fields
  | .ok (.file (.tokenizer _)) => .error (.file path notConfiguration)
  | .ok (.file (.weights _)) => .error (.file path notText)

end Fields

namespace CommandLine

/-- The fields of the configuration file, if the command line names one. -/
def fileFields (files : FileSystem) (line : CommandLine) : Except ConfigError (Option Fields) :=
  match line.config with
  | none => .ok none
  | some path => (Fields.ofFile files path).map some

/-- The settings that a command line leads to. -/
def settings (files : FileSystem) (defaultThreads : Nat) (line : CommandLine) :
    Except ConfigError Settings := do
  let file ← line.fileFields files
  Settings.resolve defaultThreads file line.fields

end CommandLine

end PromptLoop
