import PromptLoop.Engine.Load
import PromptLoop.Proofs.Spelling

/-!
# What has been loaded

Loading ends with a check of the tokenizer: it has to have the pieces that the model depends on. What has
passed the check has tokens for them (`LoadedEngine.Checked`). How its tokenizer encodes texts that these
pieces stand in is not checked.
-/

namespace PromptLoop

/-- The tokenizer of a file has pieces that have been added to those of its model. -/
theorem TokenizerFile.isAssembled {bytes : List UInt8} {t : TrainedTokenizer} (h : read? bytes = some t) :
    t.IsAssembled := by
  simp only [read?, ofJson?, Option.bind_eq_bind, Option.bind_eq_some_iff] at h
  obtain ⟨-, -, -, -, -, -, draft, -, described⟩ := h
  obtain ⟨model, -, rfl⟩ := Option.map_eq_some_iff.mp described
  exact ⟨draft.added, rfl⟩

namespace LoadedEngine

/-- What has passed the check of a tokenizer against the training of a model. -/
structure Checked (l : LoadedEngine) (training : Training) : Prop where
  assembled : l.trained.IsAssembled
  bos : l.trained.token? SpecialTokens.bosPiece = some l.special.bos
  eos : l.trained.token? SpecialTokens.eosPiece = some l.special.eos
  startOfTurn : l.trained.token? SpecialTokens.startOfTurnPiece = l.special.startOfTurn
  endOfTurn : l.trained.token? SpecialTokens.endOfTurnPiece = l.special.endOfTurn
  markers : training = .instructionTuned →
    ∃ startToken endToken, l.special.startOfTurn = some startToken ∧ l.special.endOfTurn = some endToken

theorem isAssembled_of_openTokenizer {files : FileSystem} {configured weights : String} {t : TrainedTokenizer}
    (h : openTokenizer files configured weights = .ok t) : t.IsAssembled := by
  unfold openTokenizer at h
  split at h
  · cases h
  split at h
  · next trained read =>
    obtain rfl := Except.ok.inj h
    unfold readTokenizer? at read
    split at read
    · obtain rfl := Option.some.inj read
      exact ⟨_, rfl⟩
    · exact TokenizerFile.isAssembled read
    · cases read
  · cases h

/-- **What has been loaded** has passed the check. -/
theorem checked_of_load {files : FileSystem} {settings : LoaderSettings} {l : LoadedEngine}
    (h : load files settings = .ok l) : l.Checked settings.model.training := by
  unfold load at h
  obtain ⟨model, -, h⟩ := exists_of_bind h
  obtain ⟨trained, opened, h⟩ := exists_of_bind h
  obtain ⟨special, found, h⟩ := exists_of_bind h
  obtain ⟨⟨⟩, markers, h⟩ := exists_of_bind h
  obtain rfl := Except.ok.inj h
  have assembled := isAssembled_of_openTokenizer opened
  unfold SpecialTokens.ofTokenizer at found
  split at found
  · next bos eos bosToken eosToken =>
    obtain rfl := Except.ok.inj found
    refine ⟨assembled, bosToken, eosToken, rfl, rfl, fun tuned => ?_⟩
    rw [tuned] at markers
    unfold SpecialTokens.checkTurnMarkers at markers
    split at markers
    · next untuned => cases untuned
    · next startToken endToken _ started ended => exact ⟨startToken, endToken, started, ended⟩
    · cases markers
  · cases found
  · cases found

end LoadedEngine

/-! ### Tables and vocabularies -/

/-- Files that a model and a tokenizer can be loaded from: every path leads to a vocabulary, but for one, which
leads to the table of a model. -/
def FileSystem.ofVocabulary (table : TableModel) (v : Vocabulary) : FileSystem where
  find path := .ok (.file (if path = "model.gguf" then .weights ⟨none, some table⟩ else .tokenizer v))

/-- The settings to load from such files with. -/
def LoaderSettings.forVocabulary (training : Training) : LoaderSettings where
  tokenizer := "tokenizer.json"
  weights := "model.gguf"
  model := ⟨.gemma1B, training⟩
  hfRepo := none

/-- What is loaded from such files. -/
def LoadedEngine.ofVocabulary (table : TableModel) (v : Vocabulary) (special : SpecialTokens) : LoadedEngine :=
  ⟨table.toModel, v.trained, special⟩

theorem LoadedEngine.load_ofVocabulary (table : TableModel) {v : Vocabulary} {special : SpecialTokens}
    {training : Training} (found : SpecialTokens.ofTokenizer v.trained = .ok special)
    (markers : special.checkTurnMarkers training = .ok ()) :
    load (.ofVocabulary table v) (.forVocabulary training) = .ok (.ofVocabulary table v special) := by
  have weights : openWeights (.ofVocabulary table v) "model.gguf" = .ok table.toModel := rfl
  have tokenizer : openTokenizer (.ofVocabulary table v) "tokenizer.json" "model.gguf" = .ok v.trained := rfl
  simp only [load, LoaderSettings.forVocabulary, weights, tokenizer, found, markers, bind, Except.bind]
  rfl

end PromptLoop
