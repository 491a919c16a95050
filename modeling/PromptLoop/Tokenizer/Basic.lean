import PromptLoop.Error
import PromptLoop.Token

/-!
# Tokenizers

A tokenizer turns texts into tokens, and tokens back into text one at a time. Going back needs a state,
because a token may end in the middle of a character: then there is nothing to show yet, and the text
comes with the token that completes it. Every turn starts with a fresh state.
-/

namespace PromptLoop

/-- A tokenizer whose decoder has states of type `δ`. -/
structure Tokenizer (δ : Type) where
  /-- The tokens of a text. -/
  encode : String → Except SessionError (List Token)
  /-- The state before the first token of a turn. -/
  fresh : δ
  /-- The text that a token completes, if it completes any, and the state after it. -/
  step : δ → Token → Except SessionError (Option String) × δ

namespace Tokenizer

variable {δ : Type}

/-- Steps through a list of tokens. A failed step does not stop the steps after it. -/
def steps (t : Tokenizer δ) : δ → List Token → List (Except SessionError (Option String))
  | _, [] => []
  | state, token :: tokens =>
    let (result, after) := t.step state token
    result :: t.steps after tokens

end Tokenizer

end PromptLoop
