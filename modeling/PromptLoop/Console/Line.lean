/-!
# Input lines

Input arrives as bytes. A line runs up to and including the next newline byte, or to the end of the
input; `lines` cuts an input into its lines and loses nothing. A line is text only if its bytes are
UTF-8.
-/

namespace PromptLoop

namespace Line

/-- The newline byte. -/
def newline : UInt8 := 10

/-- Puts a byte in front of the lines of the bytes after it. -/
def consByte (b : UInt8) : List (List UInt8) → List (List UInt8)
  | [] => [[b]]
  | line :: rest => if b = newline then [b] :: line :: rest else (b :: line) :: rest

/-- The lines of an input, each with its newline. -/
def lines (input : List UInt8) : List (List UInt8) := input.foldr consByte []

/-- The text of a line, if its bytes are UTF-8. -/
def text? (line : List UInt8) : Option String := String.fromUTF8? ⟨line.toArray⟩

/-- The bytes of a text. -/
def bytes (text : String) : List UInt8 := text.toUTF8.data.toList

theorem flatten_consByte (b : UInt8) (ls : List (List UInt8)) :
    (consByte b ls).flatten = b :: ls.flatten := by
  cases ls with
  | nil => rfl
  | cons line rest => by_cases h : b = newline <;> simp [consByte, h]

/-- The lines of an input, put together again, are the input. -/
theorem flatten_lines (input : List UInt8) : (lines input).flatten = input := by
  induction input with
  | nil => rfl
  | cons b bs ih => rw [lines, List.foldr_cons, flatten_consByte, ← lines, ih]

/-- The bytes of a text are that text. -/
theorem text?_bytes (text : String) : text? (bytes text) = some text := by
  unfold text? bytes String.fromUTF8?
  split
  · rfl
  · next invalid => exact absurd text.isValidUTF8 invalid

end Line

end PromptLoop
