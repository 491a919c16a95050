import PromptLoop.Error
import PromptLoop.Model.Variant
import PromptLoop.Token

/-!
# Prompts

A prompt is what the model reads in one turn. For an instruction-tuned model the user's text stands
between turn markers, after the marker that ends the previous answer if there is one; a pretrained model
reads the text as it is. The first prompt of a context opens with the token for the beginning of a text,
which the tokenizer never adds.
-/

namespace PromptLoop

namespace TurnMarker

/-- What opens the user's part of a turn. -/
def startOfUser : String := "<start_of_turn>user\n"

/-- What closes a part of a turn. -/
def endOfTurn : String := "<end_of_turn>\n"

/-- What opens the model's part of a turn. -/
def startOfModel : String := "<start_of_turn>model\n"

end TurnMarker

/-- The prompt of one turn. -/
structure Prompt where
  /-- The text with its turn markers. -/
  templated : String
  /-- The token ids. -/
  tokens : List Token
  deriving DecidableEq, Repr

/-- How prompts are made. -/
structure PromptStyle where
  /-- The kind of training of the model. -/
  training : Training
  /-- The token for the beginning of a text. -/
  bos : Token
  deriving DecidableEq, Repr

namespace PromptStyle

/-- The text with its turn markers, at a position in the context. -/
def template (style : PromptStyle) (text : String) (contextPos : Nat) : String :=
  match style.training with
  | .pretrained => text
  | .instructionTuned =>
    (if 0 < contextPos then TurnMarker.endOfTurn else "") ++
      TurnMarker.startOfUser ++ text ++ TurnMarker.endOfTurn ++ TurnMarker.startOfModel

/-- The token ids of a prompt, given those of its text. -/
def opened (style : PromptStyle) (tokens : List Token) (contextPos : Nat) : List Token :=
  if contextPos = 0 then style.bos :: tokens else tokens

/-- The prompt of a text at a position in the context. -/
def build (style : PromptStyle) (encode : String → Except SessionError (List Token))
    (text : String) (contextPos : Nat) : Except SessionError Prompt :=
  let templated := style.template text contextPos
  match encode templated with
  | .ok tokens => .ok ⟨templated, style.opened tokens contextPos⟩
  | .error e => .error e

theorem opened_eq (style : PromptStyle) (tokens : List Token) (contextPos : Nat) :
    style.opened tokens contextPos = (if contextPos = 0 then [style.bos] else []) ++ tokens := by
  unfold opened
  split <;> rfl

section Building

variable {style : PromptStyle} {encode : String → Except SessionError (List Token)} {text : String}
  {contextPos : Nat}

/-- There is a prompt if the text with its turn markers has an encoding. -/
theorem build_eq_ok_iff {prompt : Prompt} : style.build encode text contextPos = .ok prompt ↔
    ∃ tokens, encode (style.template text contextPos) = .ok tokens ∧
      prompt = ⟨style.template text contextPos, style.opened tokens contextPos⟩ := by
  unfold build
  dsimp only
  cases encode (style.template text contextPos) with
  | ok tokens =>
    constructor
    · exact fun built => ⟨tokens, rfl, (Except.ok.inj built).symm⟩
    · rintro ⟨tokens', same, rfl⟩
      rw [Except.ok.inj same]
  | error => exact ⟨nofun, nofun⟩

theorem build_eq_error_iff {error : SessionError} : style.build encode text contextPos = .error error ↔
    encode (style.template text contextPos) = .error error := by
  unfold build
  dsimp only
  cases encode (style.template text contextPos) with
  | ok => exact ⟨nofun, nofun⟩
  | error => exact ⟨fun same => congrArg _ (Except.error.inj same), fun same => congrArg _ (Except.error.inj same)⟩

end Building

end PromptStyle

end PromptLoop
