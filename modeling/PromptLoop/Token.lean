/-!
# Tokens

Tokens are known by their ids, the places of the pieces in a vocabulary.
-/

namespace PromptLoop

/-- A token id. -/
abbrev Token := Nat

end PromptLoop
