/-!
# Commands

A line typed at the prompt is a command or a text. The two commands are a percent sign and a letter in
either case, exactly; everything else is a text to answer. The end of the input counts as the command
to quit.
-/

namespace PromptLoop

/-- What a line asks for. -/
inductive Command where
  /-- End the session. -/
  | quit
  /-- Forget the conversation so far and go on. -/
  | clear
  /-- Answer a text. -/
  | prompt (text : String)
  deriving DecidableEq, Repr

namespace Command

/-- Whether a character ends a line. -/
def isLineEnd (c : Char) : Bool := c = '\n' || c = '\r'

/-- A line without the line-ending characters at its end. -/
def body (line : String) : String :=
  String.ofList (line.toList.reverse.dropWhile isLineEnd).reverse

/-- The command of a text without its line ending. -/
def ofBody (text : String) : Command :=
  if text = "%q" ∨ text = "%Q" then quit
  else if text = "%c" ∨ text = "%C" then clear
  else prompt text

/-- The command of a line as it was read. -/
def ofLine (line : String) : Command := ofBody (body line)

/-- The command of the next line, if there is one. -/
def ofInput : Option String → Command
  | none => quit
  | some line => ofLine line

end Command

end PromptLoop
