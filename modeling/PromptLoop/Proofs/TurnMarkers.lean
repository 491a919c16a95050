import PromptLoop.Proofs.Loading
import PromptLoop.Proofs.Vocabularies
import PromptLoop.Prompt

/-!
# Turn markers

A model that is tuned for instructions is loaded only with a tokenizer that has tokens for both turn markers,
since its prompts spell the markers out. But to have a token is not to be encoded as that token: the encoder
goes by the added pieces, not by the pieces of the model. A marker that is looked for in texts as they are is
encoded as its token, if that is not cut off, repeated or filled up; if its token comes from nothing else, a
marker that is not looked for never is, and no prompt has its token (`LoadedEngine.markers_encoded`).
-/

namespace PromptLoop

namespace LoadedEngine

/-- A turn marker, with the token that has been looked up for it. -/
inductive IsMarker (l : LoadedEngine) : String → Token → Prop
  /-- The marker that starts a part of a turn. -/
  | start {token : Token} (known : l.special.startOfTurn = some token) :
      IsMarker l SpecialTokens.startOfTurnPiece token
  /-- The marker that ends a part of a turn. -/
  | stop {token : Token} (known : l.special.endOfTurn = some token) :
      IsMarker l SpecialTokens.endOfTurnPiece token

namespace IsMarker

variable {l : LoadedEngine} {marker : String} {token : Token}

theorem token? (h : l.IsMarker marker token) {training : Training} (checked : l.Checked training) :
    l.trained.token? marker = some token := by
  cases h with
  | start known => exact checked.startOfTurn.trans known
  | stop known => exact checked.endOfTurn.trans known

theorem ne_empty (h : l.IsMarker marker token) : marker ≠ "" := by
  cases h <;> decide

/-- Every prompt of a model that is tuned for instructions spells both markers out. -/
theorem infix_template (h : l.IsMarker marker token) (bos : Token) (text : String) (position : Nat) :
    marker.toList <:+: (PromptStyle.template ⟨.instructionTuned, bos⟩ text position).toList := by
  unfold PromptStyle.template
  dsimp only
  rw [String.toList_append, String.toList_append]
  cases h with
  | start =>
    have opens : SpecialTokens.startOfTurnPiece.toList <:+: TurnMarker.startOfModel.toList := by decide +kernel
    exact opens.trans (List.suffix_append _ _).isInfix
  | stop =>
    have closes : SpecialTokens.endOfTurnPiece.toList <:+: TurnMarker.endOfTurn.toList := by decide +kernel
    exact (closes.trans (List.suffix_append _ _).isInfix).trans (List.prefix_append _ _).isInfix

end IsMarker

/-- **Turn markers.** What is loaded for a model that is tuned for instructions has tokens for both turn
markers. A marker that is looked for in texts as they are is encoded as its token alone exactly if the token
alone is left alone in the end; if the token comes from nothing else, no other marker is encoded so. A marker
that is found wherever it stands has its token in every prompt; one that is not looked for, and whose token
comes from nothing else, has it in no text at all. -/
theorem markers_encoded {files : FileSystem} {settings : LoaderSettings} {l : LoadedEngine}
    (loaded : load files settings = .ok l) (tuned : settings.model.training = .instructionTuned) :
    (∃ startToken endToken, l.IsMarker SpecialTokens.startOfTurnPiece startToken ∧
      l.IsMarker SpecialTokens.endOfTurnPiece endToken) ∧
    ∀ marker token, l.IsMarker marker token →
      (l.trained.LooksFor marker →
        (l.tokenizer.encode marker = .ok [token] ↔ l.trained.resize [token] = .ok [token])) ∧
      (l.trained.Confines marker token →
        (l.tokenizer.encode marker = .ok [token] ↔
          l.trained.LooksFor marker ∧ l.trained.resize [token] = .ok [token])) ∧
      (l.trained.Finds marker → l.trained.KeepsAll → ∀ text position prompt,
        PromptStyle.build ⟨settings.model.training, l.special.bos⟩ l.tokenizer.encode text position = .ok prompt →
          token ∈ prompt.tokens) ∧
      (l.trained.Confines marker token → ¬ l.trained.LooksFor marker → ∀ text tokens,
        l.tokenizer.encode text = .ok tokens → token ∉ tokens) := by
  have checked := checked_of_load loaded
  refine ⟨?_, fun marker token isMarker => ?_⟩
  · obtain ⟨startToken, endToken, started, ended⟩ := checked.markers tuned
    exact ⟨startToken, endToken, .start started, .stop ended⟩
  have known := isMarker.token? checked
  have alone : l.trained.LooksFor marker →
      (l.tokenizer.encode marker = .ok [token] ↔ l.trained.resize [token] = .ok [token]) := by
    intro looks
    rw [show l.tokenizer = l.trained.tokenizer from rfl, TrainedTokenizer.tokenizer_encode_eq_ok,
      TrainedTokenizer.encode_piece looks checked.assembled isMarker.ne_empty known]
  refine ⟨alone, fun confines => ?_, fun finds keeps text position prompt built => ?_,
    fun confines unsought text tokens encoded mem => ?_⟩
  · constructor
    · intro encoded
      have looks := (confines.stands (TrainedTokenizer.tokenizer_encode_eq_ok.mp encoded)
        (List.mem_singleton_self token)).1
      exact ⟨looks, (alone looks).mp encoded⟩
    · exact fun ⟨looks, same⟩ => (alone looks).mpr same
  · obtain ⟨tokens, encoded, rfl⟩ := PromptStyle.build_eq_ok_iff.mp built
    rw [tuned] at encoded ⊢
    rw [PromptStyle.opened_eq]
    exact List.mem_append_right _ (finds.mem_of_stands checked.assembled keeps known
      (TrainedTokenizer.tokenizer_encode_eq_ok.mp encoded) (isMarker.infix_template _ text position))
  · exact unsought (confines.stands (TrainedTokenizer.tokenizer_encode_eq_ok.mp encoded) mem).1

/-- A vocabulary whose turn markers are special. -/
def markedVocabulary : Vocabulary :=
  ⟨["<bos>", "<eos>", "<start_of_turn>", "<end_of_turn>", "t", "u", "r", "n"],
    ["<bos>", "<eos>", "<start_of_turn>", "<end_of_turn>"]⟩

/-- The same vocabulary without special turn markers. -/
def unmarkedVocabulary : Vocabulary := { markedVocabulary with special := ["<bos>", "<eos>"] }

/-- What is loaded with such a vocabulary. -/
def turnEngine (v : Vocabulary) : LoadedEngine :=
  .ofVocabulary ⟨8, Single.zero, none, []⟩ v ⟨0, 1, some 2, some 3⟩

/-- The files that it is loaded from. -/
def turnFiles (v : Vocabulary) : FileSystem := .ofVocabulary ⟨8, Single.zero, none, []⟩ v

theorem marked_markers_encoded :
    load (turnFiles markedVocabulary) (.forVocabulary .instructionTuned) = .ok (turnEngine markedVocabulary) ∧
    (turnEngine markedVocabulary).tokenizer.encode SpecialTokens.startOfTurnPiece = .ok [2] ∧
    (turnEngine markedVocabulary).tokenizer.encode SpecialTokens.endOfTurnPiece = .ok [3] ∧
    ∀ text position prompt, PromptStyle.build ⟨.instructionTuned, 0⟩ (turnEngine markedVocabulary).tokenizer.encode
      text position = .ok prompt → 2 ∈ prompt.tokens ∧ 3 ∈ prompt.tokens := by
  have loaded : load (turnFiles markedVocabulary) (.forVocabulary .instructionTuned) =
      .ok (turnEngine markedVocabulary) := load_ofVocabulary _ rfl rfl
  obtain ⟨-, encoded⟩ := markers_encoded loaded rfl
  obtain ⟨alone, -, inPrompts, -⟩ := encoded _ 2 (.start rfl)
  obtain ⟨alone', -, inPrompts', -⟩ := encoded _ 3 (.stop rfl)
  have finds : markedVocabulary.trained.Finds SpecialTokens.startOfTurnPiece :=
    Vocabulary.finds (by decide) ⟨'<', by decide, by decide⟩ (by decide +kernel)
  have finds' : markedVocabulary.trained.Finds SpecialTokens.endOfTurnPiece :=
    Vocabulary.finds (by decide) ⟨'<', by decide, by decide⟩ (by decide +kernel)
  have keeps := Vocabulary.keepsAll markedVocabulary
  exact ⟨loaded, (alone finds.looksFor).mpr (Vocabulary.resize_eq _ _),
    (alone' finds'.looksFor).mpr (Vocabulary.resize_eq _ _), fun text position prompt built =>
      ⟨inPrompts finds keeps text position prompt built, inPrompts' finds' keeps text position prompt built⟩⟩

/-- Turn markers that have tokens but are not special: the model is loaded, and neither the marker nor a prompt
that spells it out has its token. -/
theorem unmarked_not_encoded :
    load (turnFiles unmarkedVocabulary) (.forVocabulary .instructionTuned) = .ok (turnEngine unmarkedVocabulary) ∧
    (turnEngine unmarkedVocabulary).special.startOfTurn = some 2 ∧
    (turnEngine unmarkedVocabulary).tokenizer.encode SpecialTokens.startOfTurnPiece = .ok [4, 6, 4, 4, 5, 6, 7] ∧
    (turnEngine unmarkedVocabulary).tokenizer.encode SpecialTokens.startOfTurnPiece ≠ .ok [2] ∧
    ∃ prompt, PromptStyle.build ⟨.instructionTuned, 0⟩ (turnEngine unmarkedVocabulary).tokenizer.encode "" 0 =
      .ok prompt ∧ 2 ∉ prompt.tokens := by
  have spelt : (turnEngine unmarkedVocabulary).tokenizer.encode SpecialTokens.startOfTurnPiece =
      .ok [4, 6, 4, 4, 5, 6, 7] := by decide +kernel
  refine ⟨load_ofVocabulary _ rfl rfl, rfl, spelt, ?_, ?_⟩
  · rw [spelt]
    decide
  · exact ⟨_, rfl, by decide +kernel⟩

end LoadedEngine

end PromptLoop
