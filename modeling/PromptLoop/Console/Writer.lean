import PromptLoop.Console.Line
import PromptLoop.Error

/-!
# Writers

A `Writer` is one of the two outputs of a session, seen as the bytes it has taken. It may have a
capacity. A write that fits is taken whole; of one that does not fit, the writer takes what it has room
for and the write fails. So what a writer has taken is always the beginning of what was written.
-/

namespace PromptLoop

/-- An output of a session. -/
structure Writer where
  /-- The bytes taken so far. -/
  written : List UInt8
  /-- The number of bytes taken in total before writes fail, if there is a limit. -/
  capacity : Option Nat
  deriving DecidableEq, Repr

namespace Writer

/-- A writer that has taken nothing yet. -/
def fresh (capacity : Option Nat) : Writer := ⟨[], capacity⟩

/-- The error of a write that does not fit. -/
def full : SessionError := .io "writer full"

/-- The bytes of a write that there is room for. -/
def room (w : Writer) (bytes : List UInt8) : List UInt8 :=
  match w.capacity with
  | none => bytes
  | some n => bytes.take (n - w.written.length)

/-- Whether a write fits. -/
def fits (w : Writer) (bytes : List UInt8) : Bool :=
  match w.capacity with
  | none => true
  | some n => bytes.isEmpty || w.written.length + bytes.length ≤ n

/-- Writes bytes. -/
def writeBytes (w : Writer) (bytes : List UInt8) : Except SessionError Unit × Writer :=
  (if w.fits bytes then .ok () else .error full, { w with written := w.written ++ w.room bytes })

/-- What a writer has taken is the beginning of what was written to it. -/
theorem written_writeBytes (w : Writer) (bytes : List UInt8) :
    (w.writeBytes bytes).2.written <+: w.written ++ bytes := by
  rw [writeBytes, List.prefix_append_right_inj, room]
  split
  · exact List.prefix_rfl
  · exact List.take_prefix _ _

/-- A write succeeds exactly if the writer takes all of it. -/
theorem writeBytes_eq_ok_iff (w : Writer) (bytes : List UInt8) :
    (w.writeBytes bytes).1 = .ok () ↔ (w.writeBytes bytes).2.written = w.written ++ bytes := by
  obtain ⟨written, _ | n⟩ := w
  · simp [writeBytes, fits, room]
  · cases bytes with
    | nil => simp [writeBytes, fits, room]
    | cons b bs =>
      by_cases h : written.length + (bs.length + 1) ≤ n
      · have : bs.length + 1 ≤ n - written.length := by omega
        simp [writeBytes, fits, room, h, List.take_of_length_le, this]
      · have short : (List.take (n - written.length) (b :: bs)).length < (b :: bs).length := by
          rw [List.length_take, List.length_cons]
          omega
        simp only [writeBytes, fits, room, List.isEmpty_cons, Bool.false_or, List.length_cons, h,
          decide_false, Bool.false_eq_true, if_false, List.append_cancel_left_eq, reduceCtorEq,
          false_iff]
        exact fun whole => absurd (congrArg List.length whole) (Nat.ne_of_lt short)

/-- Writes a text. -/
def write (w : Writer) (text : String) : Except SessionError Unit × Writer :=
  w.writeBytes (Line.bytes text)

end Writer

/-- The outputs of a session. -/
structure Console where
  /-- The output for text that answers. -/
  out : Writer
  /-- The output for progress and notes. -/
  err : Writer
  deriving DecidableEq, Repr

namespace Console

/-- A console that has taken nothing yet, with optional capacities. -/
def fresh (outCapacity errCapacity : Option Nat) : Console :=
  ⟨Writer.fresh outCapacity, Writer.fresh errCapacity⟩

/-- Writes to the output for answers. -/
def answer (c : Console) (text : String) : Except SessionError Unit × Console :=
  let (result, out) := c.out.write text
  (result, { c with out := out })

/-- Writes to the output for progress and notes. -/
def note (c : Console) (text : String) : Except SessionError Unit × Console :=
  let (result, err) := c.err.write text
  (result, { c with err := err })

end Console

end PromptLoop
