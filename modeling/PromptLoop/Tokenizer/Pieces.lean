import PromptLoop.Tokenizer.Basic

/-!
# A tokenizer of characters and listed pieces

The plainest tokenizer: the tokens of a text are the codes of its characters, which have to be ASCII,
and the pieces of some further tokens are listed one by one. It has no state. It stands in for a trained
tokenizer wherever only the flow of tokens matters.
-/

namespace PromptLoop

/-- The listed pieces. A token may be listed without a piece, as one that never completes a text. -/
abbrev PieceList := List (Token × Option String)

namespace PieceList

/-- The hexadecimal digits of a character's code, in capitals and at least four. -/
def codeDigits (c : Char) : String :=
  let digits := (Nat.toDigits 16 c.toNat).map Char.toUpper
  String.ofList (List.replicate (4 - digits.length) '0' ++ digits)

/-- The token of a character. The codes below three are tokens of their own. -/
def encodeChar (c : Char) : Except SessionError Token :=
  if 3 ≤ c.toNat ∧ c.toNat ≤ 127 then .ok c.toNat
  else .error (.encode ("unsupported char U+" ++ codeDigits c))

/-- The text of a token. -/
def piece (pieces : PieceList) (token : Token) : Except SessionError (Option String) :=
  match pieces.lookup token with
  | some listed => .ok listed
  | none =>
    if token = 2 then .ok (some "")
    else if 3 ≤ token ∧ token ≤ 255 then .ok (some (String.singleton (Char.ofNat token)))
    else .error (.decode token "unknown id")

/-- The tokenizer of a list of pieces. -/
def tokenizer (pieces : PieceList) : Tokenizer Unit where
  encode text := text.toList.mapM encodeChar
  fresh := ()
  step _ token := (pieces.piece token, ())

end PieceList

end PromptLoop
