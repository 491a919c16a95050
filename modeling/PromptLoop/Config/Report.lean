import PromptLoop.Config.Settings

/-!
# The printed configuration

At the start of a session the settings are printed as rows of a label and a value. The most talkative
level adds rows about the machine, whose values are given from outside as texts.
-/

namespace PromptLoop

/-- What a printed configuration says about the machine. -/
structure MachineFacts where
  /-- The current date and time. -/
  dateTime : String
  /-- The number of cores. -/
  cores : String
  deriving DecidableEq, Repr

namespace Report

/-- The number of columns that a label takes. -/
def labelWidth : Nat := 30

/-- A label and a value side by side. -/
def cells (label value : String) : String :=
  label ++ String.ofList (List.replicate (labelWidth - label.length) ' ') ++ ": " ++ value

/-- A row of a label and a value. -/
def row (label value : String) : String := cells label value ++ "\n"

/-- The text of a truth value. -/
def truth (b : Bool) : String := if b then "true" else "false"

/-- The label of the number of threads. -/
def threadsLabel : String := "Number of threads"

/-- The label of the current date and time. -/
def timeLabel : String := "Date & Time"

/-- The label of the number of cores. -/
def coresLabel : String := "Hardware concurrency"

/-- The rows that are always printed. -/
def settingsRows (s : Settings) : List (String × String) :=
  [ ("Tokenizer", s.loader.tokenizer),
    ("Weights", s.loader.weights),
    ("Model", s.loader.model.label),
    ("Max tokens", toString s.inference.maxTokens),
    ("Max generated tokens", toString s.inference.maxGeneratedTokens),
    ("Temperature", s.inference.temperature.toText),
    ("Top-k", toString s.inference.topK),
    ("Deterministic", truth s.inference.deterministic),
    ("Multiturn", truth s.inference.multiturn),
    (threadsLabel, toString s.app.numThreads),
    ("Verbosity", toString s.app.verbosity) ]

/-- The rows that the most talkative level adds. -/
def machineRows (s : Settings) (facts : MachineFacts) : List (String × String) :=
  [ (timeLabel, facts.dateTime),
    (coresLabel, facts.cores),
    ("Context length", toString s.loader.model.size.contextLength),
    ("Weight format", "GGUF (quantized)") ]

/-- The printed configuration. -/
def render (s : Settings) (verbosity : Nat) (facts : MachineFacts) : String :=
  let rows := settingsRows s ++ if 2 ≤ verbosity then machineRows s facts else []
  String.join (rows.map fun (label, value) => row label value)

end Report

end PromptLoop
