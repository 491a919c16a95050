import PromptLoop.Tokenizer.Basic
import PromptLoop.Tokenizer.PieceTable
import PromptLoop.Tokenizer.Rendering

/-!
# Decoding one token at a time

Text is shown as soon as it is complete. The decoder keeps a window of recent tokens and the text of the
part of it that has been shown. A new token is put into the window and the whole window is decoded; if
its text is longer than what has been shown and does not end in the middle of a character, the rest is
new text, and the window moves on to the tokens that were new.

A window whose text ends with the replacement character is taken to end in the middle of a character.
If more tokens make a text that does not continue what has been shown, decoding fails.
-/

namespace PromptLoop

/-- The state of a stream of tokens. -/
structure StreamDecoder where
  /-- The tokens of the window. -/
  window : List Token
  /-- The text that has been shown of the window. -/
  shown : List Char
  /-- The number of tokens at the start of the window that leave it next. -/
  settled : Nat
  deriving DecidableEq, Repr

namespace StreamDecoder

/-- The state before the first token. -/
def fresh : StreamDecoder := ⟨[], [], 0⟩

/-- The number of bytes of a text. -/
def byteLength (text : List Char) : Nat := text.foldr (fun c n => c.utf8Size + n) 0

/-- Whether a text ends with the replacement character. -/
def endsOpen (text : List Char) : Bool := text.getLast? = some replacementChar

/-- Takes the text of the window for shown, if nothing else is and the text is complete. -/
def settle (decode : List Token → List Char) (d : StreamDecoder) : StreamDecoder :=
  let text := decode d.window
  if d.shown.isEmpty && !d.window.isEmpty && !endsOpen text then
    { d with shown := text, settled := d.window.length }
  else d

/-- The error of a window that does not continue what has been shown. -/
def invalidContinuation (token : Token) (shown text : List Char) : SessionError :=
  .decode token
    (s!"Invalid prefix encountered while decoding stream. Token ID: {token}, Expected prefix: '" ++
      String.ofList shown ++ "', Actual string: '" ++ String.ofList text ++ "'")

/-- The state after new text: the window without the settled tokens, all of it shown. -/
def moveOn (decode : List Token → List Char) (d : StreamDecoder) : StreamDecoder :=
  let window := d.window.drop d.settled
  { window := window, shown := decode window, settled := d.window.length - d.settled }

/-- Decodes one token, given the text of every list of tokens. -/
def step (decode : List Token → List Char) (d : StreamDecoder) (token : Token) :
    Except SessionError (Option (List Char)) × StreamDecoder :=
  let d := d.settle decode
  let d := { d with window := d.window ++ [token] }
  let text := decode d.window
  if byteLength d.shown < byteLength text && !endsOpen text then
    if d.shown.isPrefixOf text then (.ok (some (text.drop d.shown.length)), d.moveOn decode)
    else (.error (invalidContinuation token d.shown text), d)
  else (.ok none, d)

end StreamDecoder

namespace Tokenizer

/-- The tokenizer that encodes and decodes whole texts as given. -/
def streaming (encode : String → Except EncodeFault (List Token)) (decode : List Token → List Char) :
    Tokenizer StreamDecoder where
  encode text := (encode text).mapError fun fault => .encode fault.message
  fresh := .fresh
  step d token :=
    let (result, after) := d.step decode token
    (result.map (Option.map String.ofList), after)

end Tokenizer

end PromptLoop
