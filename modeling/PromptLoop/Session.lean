/-!
# Session counters

A `Session` counts tokens: since the context was last forgotten, and within the current turn. The
prompt of a turn is counted first, so the counters say where in a turn the session is: still in the
prompt, at its last token, at the first token of the answer, or later.
-/

namespace PromptLoop

/-- The stages of a session. -/
inductive Phase where
  /-- Waiting for a line. -/
  | awaitingInput
  /-- Reading a prompt. -/
  | prefilling
  /-- Showing an answer. -/
  | streaming
  /-- Between the end of a turn and the next line. -/
  | turnComplete
  /-- At the end of the session. -/
  | terminated
  deriving DecidableEq, Repr

/-- Why a session ended in good order. -/
inductive Termination where
  /-- The user asked for it. -/
  | quitCommand
  /-- There are no more lines. -/
  | endOfInput
  /-- The token budget is used up. -/
  | budgetExhausted
  deriving DecidableEq, Repr

/-- The counters of a session. -/
structure Session where
  /-- The number of tokens since the context was last forgotten. -/
  contextPos : Nat
  /-- The number of tokens of the current turn. -/
  turnPos : Nat
  /-- The number of tokens of the current turn's prompt. -/
  promptSize : Nat
  /-- Whether the context is kept from turn to turn. -/
  multiturn : Bool
  /-- Whether random numbers come from the fixed seed. -/
  deterministic : Bool
  deriving DecidableEq, Repr

namespace Session

/-- The counters at the start of a session. -/
def start (multiturn deterministic : Bool) : Session := ⟨0, 0, 0, multiturn, deterministic⟩

/-- Starts a turn with a prompt of the given size. -/
def beginTurn (s : Session) (promptSize : Nat) : Session :=
  { s with turnPos := 0, promptSize := promptSize }

/-- Counts a token. -/
def advance (s : Session) : Session :=
  { s with contextPos := s.contextPos + 1, turnPos := s.turnPos + 1 }

/-- Forgets the context. The counters of the turn stay. -/
def resetContext (s : Session) : Session := { s with contextPos := 0 }

/-- Whether more tokens of the prompt follow. -/
def inPrefill (s : Session) : Bool := s.turnPos < s.promptSize

/-- Whether the last token counted was the first of the answer. -/
def isFirstOfAnswer (s : Session) : Bool := s.turnPos = s.promptSize + 1

/-- The stage that the counters imply while a turn runs. -/
def phase (s : Session) : Phase := if s.turnPos ≤ s.promptSize then .prefilling else .streaming

/-- Whether the context holds as many tokens as the session may hold. -/
def budgetExhausted (s : Session) (maxTokens : Nat) : Bool := maxTokens ≤ s.contextPos

end Session

end PromptLoop
