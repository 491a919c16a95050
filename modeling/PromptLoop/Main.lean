import PromptLoop.Program
import PromptLoop.Threads

/-!
# The command

The command gathers what the program asks for, the arguments, the files and the input, and puts out what
the program gives. Files are handed over as bytes, of which only the first are looked at.
-/

namespace PromptLoop

namespace Host

/-- The number of bytes that are looked at of each file. -/
def readLimit : USize := 1048576

/-- What a path leads to. -/
def readPath (path : String) : IO (Except FileError FileNode) := do
  if let some fault := pathFault? path then return .error fault
  try
    let handle ← IO.FS.Handle.mk path .read
    let data ← handle.read readLimit
    return .ok (.file (.bytes data.toList))
  catch
    | .noFileOrDirectory .. => return .error .notFound
    | .inappropriateType .. => return .ok .directory
    | e => return .error (.refused (toString e))

/-- The files at some paths. -/
def readFiles (paths : List String) : IO FileSystem := do
  let nodes ← paths.mapM fun path => return (path, ← readPath path)
  return ⟨fun path => (nodes.lookup path).getD (.error .notFound)⟩

/-- The files that a program looks at: a configuration file first, then those that it names. -/
def gatherFiles (machine : Machine) (arguments : List String) : IO FileSystem := do
  let known ← readFiles (Program.paths machine ⟨fun _ => .error .notFound⟩ arguments)
  readFiles (Program.paths machine known arguments)

/-- The number of cores, or one if it cannot be found out. -/
def countCores : IO Nat := do
  try
    let lines := (← IO.FS.readFile "/proc/cpuinfo").splitOn "\n"
    return max 1 (lines.countP (·.startsWith "processor"))
  catch _ => return 1

/-- The machine that the command runs on. -/
def thisMachine : IO Machine := do
  let cores ← countCores
  let bytes ← IO.getRandomBytes 8
  let seed : UInt64 := bytes.toList.foldl (fun n b => n <<< 8 ||| b.toUInt64) 0
  return ⟨Threads.defaultWorkers cores, ⟨"unknown", toString cores⟩, Rng.ofSeed seed, fun _ => "0.00", .earliest⟩

/-- The rest of an input stream. -/
partial def readRest (input : IO.FS.Stream) : IO (List UInt8) := do
  let data ← input.read readLimit
  if data.isEmpty then return [] else return data.toList ++ (← readRest input)

/-- Puts out what the program has written. -/
def putOut (outcome : Outcome) : IO UInt32 := do
  (← IO.getStdout).write ⟨outcome.console.out.written.toArray⟩
  (← IO.getStderr).write ⟨outcome.console.err.written.toArray⟩
  return outcome.exitCode.toUInt32

end Host

end PromptLoop

open PromptLoop Host in
/-- The command. -/
def main (arguments : List String) : IO UInt32 := do
  let machine ← thisMachine
  let files ← gatherFiles machine arguments
  let console := Console.fresh none none
  match Program.start machine files arguments console with
  | .error outcome => putOut outcome
  | .ok ready => putOut (Program.converse ready (← readRest (← IO.getStdin)) console)
