import PromptLoop.CommandLine.Resolve
import PromptLoop.CommandLine.Usage
import PromptLoop.Config.Report
import PromptLoop.Conversation
import PromptLoop.Engine.Load

/-!
# The program

The program reads its command line, resolves its settings, loads a model and then holds one conversation
on its input. `Program.start` is everything up to the first line of input: it gives either a conversation
that is ready to run, or the outcome of a program that ends before it. `Program.run` is the whole.

A command line that is not understood ends the program with code two, a panic with code 101, and whatever
else goes wrong with code one. A message about a faulty configuration comes with the usage text.
-/

namespace PromptLoop

/-- What the program does not decide itself. -/
structure Machine where
  /-- The number of worker threads unless configured. -/
  defaultThreads : Nat
  /-- What the printed configuration says about the machine. -/
  facts : MachineFacts
  /-- The random stream of sessions that are not deterministic. -/
  entropy : Rng
  /-- The speed of a turn with a number of tokens. -/
  speed : Nat → String
  /-- How the likeliest tokens are selected. -/
  selection : Selection

/-- How the program ends. -/
structure Outcome where
  /-- The exit code. -/
  exitCode : Nat
  /-- The outputs. -/
  console : Console
  deriving DecidableEq, Repr

namespace Program

/-! ### Texts -/

/-- What clears the screen. -/
def clearScreen : String := "\x1b[2J\x1b[1;1H"

/-- The banner. -/
def banner : String :=
  "  _            _\n" ++
  " | |_ _____  _| |_ __ _  ___ _ __    _ __ ___ _ __ | |\n" ++
  " | __/ _ \\ \\/ / __/ _` |/ _ \\ '_ \\  | '__/ _ \\ '_ \\| |\n" ++
  " | ||  __/>  <| || (_| |  __/ | | | | | |  __/ |_) | |\n" ++
  "  \\__\\___/_/\\_\\\\__\\__, |\\___|_| |_| |_|  \\___| .__/|_|\n" ++
  "                  |___/                      |_|\n"

/-- How a session is used, with examples. -/
def instructions : String :=
  "*Usage*\n" ++
  "  " ++ Usage.closing ++ "\n" ++
  "\n" ++
  "*Examples*\n" ++
  "  - Write an email to grandma thanking her for the cookies.\n" ++
  "  - What are some historical attractions to visit around Massachusetts?\n" ++
  "  - Compute the nth fibonacci number in javascript.\n"

/-- What is printed before the first line of input. -/
def greeting (settings : Settings) (facts : MachineFacts) : String :=
  if settings.app.verbosity = 0 then ""
  else
    clearScreen ++ banner ++ "\n" ++ Report.render settings settings.app.verbosity facts ++ "\n" ++
      instructions ++ "\n"

/-- The message about an error, after the usage text if that helps. -/
def complaint (error : SessionError) : String :=
  (if error.wantsHelp then Usage.text ++ "\n" else "") ++ "\n" ++ error.message ++ "\n"

/-- The message about a command line that is not understood. -/
def commandLineComplaint (error : CommandLineError) : String :=
  "error: " ++ error.message ++ "\n\n" ++ Usage.synopsis ++ "\n\nFor more information, try '--help'.\n"

/-! ### Outcomes -/

/-- Ends the program because of an error. -/
def fail (error : SessionError) (console : Console) : Outcome :=
  ⟨1, (console.note (complaint error)).2⟩

/-- Ends the program because of a panic. Where in the program it happened is not told here. -/
def crash (panic : Panic) (console : Console) : Outcome := ⟨101, (console.note (panic.message ++ "\n")).2⟩

/-- Ends the program because of its command line. -/
def decline (error : CommandLineError) (console : Console) : Outcome :=
  match error with
  | .helpWanted => ⟨0, (console.answer Usage.text).2⟩
  | error => ⟨2, (console.note (commandLineComplaint error)).2⟩

/-! ### Runs -/

/-- A conversation that is ready to run. -/
structure Ready where
  /-- The conversation. -/
  conversation : Conversation Cache StreamDecoder Unit
  /-- Its state. -/
  state : ConversationState Cache Unit
  /-- What is printed before it. -/
  greeting : String

/-- The conversation with a loaded model. -/
def ready (machine : Machine) (settings : Settings) (loaded : LoadedEngine) : Ready where
  conversation :=
    { generator := (loaded.engine machine.selection).generator
      tokenizer := loaded.tokenizer
      style := ⟨settings.loader.model.training, loaded.special.bos⟩
      eos := loaded.special.eos
      verbosity := settings.app.verbosity
      settings := settings.inference
      accept := fun _ => true
      policy := .always
      speed := machine.speed }
  state :=
    .start settings.inference (if settings.inference.deterministic then Rng.fixed else machine.entropy)
      Cache.empty ()
  greeting := greeting settings machine.facts

/-- Loads what the settings name. -/
def load (machine : Machine) (files : FileSystem) (settings : Settings) : Except SessionError Ready :=
  match LoadedEngine.load files settings.loader with
  | .error e => .error (.modelLoad e.message)
  | .ok loaded => .ok (ready machine settings loaded)

/-- The paths that `start` may follow, as far as the files that are known tell. -/
def paths (machine : Machine) (files : FileSystem) (arguments : List String) : List String :=
  match CommandLine.read arguments with
  | .error _ => []
  | .ok line =>
    line.config.toList ++
      match line.settings files machine.defaultThreads with
      | .error _ => []
      | .ok settings =>
        settings.loader.weights ::
          LoadedEngine.tokenizerPaths settings.loader.tokenizer settings.loader.weights

/-- Everything up to the first line of input. -/
def start (machine : Machine) (files : FileSystem) (arguments : List String) (console : Console) :
    Except Outcome Ready :=
  match CommandLine.read arguments with
  | .error e => .error (decline e console)
  | .ok line =>
    match line.settings files machine.defaultThreads with
    | .error e => .error (fail (.config e) console)
    | .ok settings =>
      match load machine files settings with
      | .error e => .error (fail e console)
      | .ok ready => .ok ready

/-- Prints the greeting and holds the conversation. -/
def converse (r : Ready) (input : List UInt8) (console : Console) : Outcome :=
  match console.answer r.greeting with
  | (.error e, console) => fail e console
  | (.ok (), console) =>
    let ended := r.conversation.run input r.state console
    match ended.result with
    | .ok _ => ⟨0, ended.console⟩
    | .error (.error e) => fail e ended.console
    | .error (.panic p) => crash p ended.console

/-- The whole program. -/
def run (machine : Machine) (files : FileSystem) (arguments : List String) (input : List UInt8)
    (console : Console) : Outcome :=
  match start machine files arguments console with
  | .error outcome => outcome
  | .ok r => converse r input console

end Program

end PromptLoop
