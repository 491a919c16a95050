import PromptLoop.CommandLine.Flag

/-!
# The usage text

The usage text lists the flags in groups. Within a group the explanations stand in a column beside the
flags. If the flags of a group take much of the line and an explanation does not fit beside them, then
all explanations of the group stand below their flags instead. Lines are never broken.
-/

namespace PromptLoop

/-- A flag and its explanation, as the usage text shows them. -/
structure UsageRow where
  /-- A short form, or blanks. -/
  short : String
  /-- The flag with its value. -/
  spelling : String
  /-- What the flag is for. -/
  explanation : String
  deriving DecidableEq, Repr

/-- A group of flags. -/
structure UsageGroup where
  /-- The heading. -/
  heading : String
  /-- The flags. -/
  rows : List UsageRow
  deriving DecidableEq, Repr

namespace Flag

/-- What stands for the value of a flag. -/
def valueName : Flag → String
  | config => "PATH"
  | weights => "WEIGHTS"
  | flag => flag.name.toUpper

/-- A flag with its value, in brackets if the value may be left out. -/
def spelling (flag : Flag) : String :=
  let value := "<" ++ flag.valueName ++ ">"
  "--" ++ flag.name ++ " " ++ if flag.impliedValue?.isSome then "[" ++ value ++ "]" else value

/-- What a flag is for. -/
def explanation : Flag → String
  | config => "TOML file with [loader], [inference] and [app] sections; flags win"
  | tokenizer => "Path to tokenizer.json"
  | weights => "Path to the GGUF weights"
  | model => "Model variant: 1b-it, 1b-pt, 4b-it, 4b-pt, 12b-it, 12b-pt, 27b-it, 27b-pt"
  | hfRepo => "HuggingFace repo to fetch tokenizer.json from when it is missing locally"
  | maxTokens => "Maximum number of tokens in the session before the REPL exits"
  | maxGeneratedTokens => "Maximum number of tokens generated per turn"
  | temperature => ""
  | topK => ""
  | deterministic => "Fixed-seed sampling for reproducible output [possible values: true, false]"
  | multiturn => "Keep the conversation context across turns [possible values: true, false]"
  | numThreads => "Number of generation worker threads"
  | verbosity => "0 = generated text only, 1 = prompts and banner, 2 = timing and config"

/-- The row of a flag. -/
def usageRow (flag : Flag) : UsageRow := ⟨"    ", flag.spelling, flag.explanation⟩

end Flag

namespace UsageRow

/-- The row of the wish for the usage text. -/
def help : UsageRow := ⟨"-h, ", "--help", "Print help"⟩

end UsageRow

namespace UsageGroup

/-- The number of columns of a line. -/
def lineWidth : Nat := 100

/-- Blanks. -/
def blanks (n : Nat) : String := String.ofList (List.replicate n ' ')

/-- The number of columns of the longest flag. -/
def width (g : UsageGroup) : Nat := (g.rows.map (·.spelling.length)).foldl max 0

/-- The column that the explanations start in if they stand beside the flags: after two blanks, the short
form, the flag and two more blanks. -/
def column (g : UsageGroup) : Nat := 2 + 4 + g.width + 2

/-- Whether the explanations stand below the flags: the flags take more than two fifths of the line, and
an explanation does not fit into the rest. -/
def isStacked (g : UsageGroup) : Bool :=
  2 * lineWidth < 5 * g.column && g.rows.any fun row => lineWidth < g.column + row.explanation.length

/-- The text of a row. -/
def renderRow (g : UsageGroup) (row : UsageRow) : String :=
  "  " ++ row.short ++ row.spelling ++
    (if g.isStacked then "\n" ++ blanks 10 else blanks (g.width - row.spelling.length + 2)) ++
    row.explanation

/-- The text of a group. -/
def render (g : UsageGroup) : String :=
  "\n".intercalate ((g.heading ++ ":") :: g.rows.map g.renderRow)

end UsageGroup

namespace Usage

/-- The name that the program is called by. -/
def programName : String := "textgen_repl"

/-- What the program is for. -/
def about : String := "Interactive text generation with a local quantized Gemma model"

/-- The line that shows the form of a call. -/
def synopsis : String := "Usage: " ++ programName ++ " [OPTIONS]"

/-- How a session is used. -/
def closing : String := "Enter an instruction and press enter (%Q quits, %C clears the context)."

/-- The groups of flags. -/
def groups : List UsageGroup :=
  [ ⟨"Options", [Flag.config.usageRow, .help]⟩,
    ⟨"Model Loading Arguments",
      [Flag.tokenizer, .weights, .model, .hfRepo].map (·.usageRow)⟩,
    ⟨"Inference Arguments",
      [Flag.maxTokens, .maxGeneratedTokens, .temperature, .topK, .deterministic, .multiturn].map
        (·.usageRow)⟩,
    ⟨"Application Arguments", [Flag.numThreads, .verbosity].map (·.usageRow)⟩ ]

/-- The usage text. -/
def text : String :=
  "\n\n".intercalate ([about, synopsis] ++ groups.map UsageGroup.render ++ [closing]) ++ "\n"

end Usage

end PromptLoop
