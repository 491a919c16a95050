import PromptLoop.Proofs.Exchanges
import PromptLoop.Proofs.Loading
import PromptLoop.Proofs.Vocabularies
import PromptLoop.Program

/-!
# How prompts open

The prompt of a call at the start of a context opens with the token for the beginning of a text, which is put
before the tokens of its text; prompts further on do not have it put before them. But the text of a prompt has
what the user typed in it, and a piece that stands there is recognised like any other. So the token is in its
place and nowhere else (`Call.OpensOnce`) exactly if it is not among the tokens of the text; and if the
tokenizer reserves it for its piece, exactly if the user has not spelt that piece
(`Conversation.run_opens_iff`).
-/

namespace PromptLoop

variable {γ δ π : Type}

/-- The token for the beginning of a text is the first of a prompt at the start of a context and occurs in it
once; in a prompt further on it does not occur. -/
def Call.OpensOnce (bos : Token) (call : Call) : Prop :=
  if call.startPos = 0 then call.prompt.head? = some bos ∧ call.prompt.count bos = 1 else bos ∉ call.prompt

instance (bos : Token) (call : Call) : Decidable (call.OpensOnce bos) := by
  unfold Call.OpensOnce
  infer_instance

namespace Conversation

variable {c : Conversation γ δ π} {body : String} {position : Nat}

theorem Prompts.opensOnce_iff {call : Call} (prompts : c.Prompts body call.startPos call.prompt) :
    ∃ tokens, c.tokenizer.encode (c.promptText body call.startPos) = .ok tokens ∧
      (call.OpensOnce c.style.bos ↔ c.style.bos ∉ tokens) := by
  obtain ⟨tokens, encoded, same⟩ := prompts
  refine ⟨tokens, encoded, ?_⟩
  unfold Call.OpensOnce
  rw [same]
  by_cases start : call.startPos = 0
  · rw [if_pos start, if_pos start, List.singleton_append, List.head?_cons, List.count_cons_self,
      ← List.count_eq_zero]
    exact ⟨fun h => Nat.succ.inj h.2, fun none => ⟨rfl, congrArg Nat.succ none⟩⟩
  · rw [if_neg start, if_neg start, List.nil_append]

/-! ### Calls and lines -/

theorem Called.prompts {text : String} {s : ConversationState γ π} {prompt : Prompt}
    {ended : CourseEnd γ (Turn δ π)} {served : Served γ π} (called : Called c text s prompt ended served)
    {call : Call} (made : served.call = some call) : c.Prompts text call.startPos call.prompt := by
  obtain rfl := Option.some.inj (called.call.symm.trans made)
  exact prompts_of_build called.built

theorem turn_prompts {text : String} {s : ConversationState γ π} {console : Console} {call : Call}
    (made : (c.turn text s console).call = some call) : c.Prompts text call.startPos call.prompt := by
  rcases c.turn_cases text s console with uncalled | ⟨prompt, console', -, called⟩
  · rw [uncalled.call] at made
    cases made
  · exact called.prompts made

/-- A call is made for a line: the line asks for an answer to a body, and the prompt of the call is that of
the body. -/
def MadeFor (c : Conversation γ δ π) (call : Call) (line : List UInt8) (body : String) : Prop :=
  Line.Asks line body ∧ c.Prompts body call.startPos call.prompt

theorem turnOf_madeFor {top : LoopTop γ π} {console : Console} {text : String} {call : Call}
    (command : top.command = .ok (.prompt text)) (made : call ∈ (c.turnOf text top console).call.toList) :
    ∃ line ∈ top.lines, ∃ body, c.MadeFor call line body := by
  have asks := top.lines_of_command
  rw [command] at asks
  obtain ⟨line, lines, asks⟩ := asks
  refine ⟨line, ?_, text, asks, turn_prompts (Option.mem_toList.mp made)⟩
  rw [lines]
  exact List.mem_cons_self

/-- Every call of a run is made for a line of its input. -/
theorem run_madeFor (c : Conversation γ δ π) (input : List UInt8) (s : ConversationState γ π)
    (console : Console) :
    ∀ call ∈ (c.run input s console).calls, ∃ line ∈ Line.lines input, ∃ body, c.MadeFor call line body := by
  obtain ⟨calls, top, last, ⟨⟨before, lines⟩, sofar⟩, ends, same⟩ := runFrom_ends (c := c)
    (P := fun calls top => (∃ before, Line.lines input = before ++ top.lines) ∧
      ∀ call ∈ calls, ∃ line ∈ Line.lines input, ∃ body, c.MadeFor call line body)
    (fun calls top call top' goes ⟨⟨before, lines⟩, sofar⟩ => by
      obtain ⟨line, first⟩ := goes.exists_line
      refine ⟨⟨before ++ [line], by rw [lines, first, List.append_assoc]; rfl⟩, fun call mem => ?_⟩
      rcases List.mem_append.mp mem with mem | mem
      · exact sofar call mem
      · cases goes with
        | cleared => cases mem
        | served _ command =>
          obtain ⟨line, here, made⟩ := turnOf_madeFor command mem
          exact ⟨line, lines ▸ List.mem_append_right before here, made⟩)
    ⟨Line.lines input, s, console⟩ ⟨⟨[], rfl⟩, List.forall_mem_nil _⟩
  have same : c.run input s console = afterCalls calls last := same
  rw [same]
  intro call mem
  rcases List.mem_append.mp mem with mem | mem
  · exact sofar call mem
  cases ends with
  | overBudget => cases mem
  | unmarked => cases mem
  | quits => cases mem
  | failed _ command =>
    rw [afterCall, stop, List.append_nil] at mem
    obtain ⟨line, here, made⟩ := turnOf_madeFor command mem
    exact ⟨line, lines ▸ List.mem_append_right before here, made⟩

/-! ### Pieces in the text of a prompt -/

/-- No end of a text is the beginning of a piece or begins with it, so that the piece starts nowhere in it. -/
def StartsNowhere (piece text : List Char) : Prop :=
  ∀ i < text.length, ¬ text.drop i <+: piece ∧ ¬ piece <+: text.drop i

instance (piece text : List Char) : Decidable (StartsNowhere piece text) :=
  inferInstanceAs (Decidable (∀ i < text.length, ¬ text.drop i <+: piece ∧ ¬ piece <+: text.drop i))

/-- A piece that starts nowhere in a text stands behind it if it stands in both together. -/
theorem StartsNowhere.infix_append_iff {piece text : List Char} (h : StartsNowhere piece text)
    (more : List Char) : piece <:+: text ++ more ↔ piece <:+: more := by
  constructor
  · induction text with
    | nil => exact id
    | cons c text ih =>
      intro stands
      rcases List.infix_cons_iff.mp stands with starts | later
      · have here := h 0 (Nat.succ_pos _)
        rcases List.prefix_or_prefix_of_prefix starts (List.prefix_append (c :: text) more) with short | long
        · exact absurd short here.2
        · exact absurd long here.1
      · exact ih (fun i bound => h (i + 1) (Nat.succ_lt_succ bound)) later
  · exact fun stands => stands.trans (List.suffix_append text more).isInfix

/-- The same from the other end. -/
theorem StartsNowhere.append_infix_iff {piece text : List Char} (h : StartsNowhere piece.reverse text.reverse)
    (more : List Char) : piece <:+: more ++ text ↔ piece <:+: more := by
  rw [← List.reverse_infix, List.reverse_append, h.infix_append_iff, List.reverse_infix]

/-- The piece for the beginning of a text stands in the text of a prompt only where the user has spelt it. -/
theorem bosPiece_infix_iff (c : Conversation γ δ π) (body : String) (position : Nat) :
    SpecialTokens.bosPiece.toList <:+: (c.promptText body position).toList ↔
      SpecialTokens.bosPiece.toList <:+: body.toList := by
  unfold promptText
  cases c.style.training with
  | pretrained => exact Iff.rfl
  | instructionTuned =>
    dsimp only
    rw [String.toList_append, String.toList_append, String.toList_append, List.append_assoc,
      StartsNowhere.append_infix_iff (by decide +kernel)]
    by_cases later : 0 < position
    · rw [if_pos later, String.toList_append, StartsNowhere.infix_append_iff (by decide +kernel)]
    · rw [if_neg later, String.toList_append, StartsNowhere.infix_append_iff (by decide +kernel)]

/-! ### Calls of what has been loaded -/

/-- A conversation has the tokenizer that has been loaded, and the token for the beginning of a text. -/
structure Speaks (c : Conversation γ StreamDecoder π) (l : LoadedEngine) : Prop where
  tokenizer : c.tokenizer = l.tokenizer
  bos : c.style.bos = l.special.bos

/-- The conversation of the program has what has been loaded. -/
theorem speaks_of_ready (machine : Machine) (settings : Settings) (l : LoadedEngine) :
    (Program.ready machine settings l).conversation.Speaks l :=
  ⟨rfl, rfl⟩

/-- **How prompts open.** Every call of a run is made for a line of its input, and the token for the beginning
of a text is in its place in the prompt and nowhere else exactly if it is not among the tokens of the text of
the prompt. If the tokenizer reserves the token for its piece, that is exactly if the piece does not stand in
what the user typed. -/
theorem run_opens_iff {files : FileSystem} {settings : LoaderSettings} {l : LoadedEngine}
    (loaded : LoadedEngine.load files settings = .ok l) (c : Conversation γ StreamDecoder π) (speaks : c.Speaks l)
    (input : List UInt8) (s : ConversationState γ π) (console : Console) :
    ∀ call ∈ (c.run input s console).calls, ∃ line ∈ Line.lines input, ∃ body tokens, Line.Asks line body ∧
      l.tokenizer.encode (c.promptText body call.startPos) = .ok tokens ∧
      (call.OpensOnce l.special.bos ↔ l.special.bos ∉ tokens) ∧
      (l.trained.Reserves SpecialTokens.bosPiece l.special.bos →
        (call.OpensOnce l.special.bos ↔ ¬ SpecialTokens.bosPiece.toList <:+: body.toList)) := by
  intro call mem
  have checked := LoadedEngine.checked_of_load loaded
  obtain ⟨line, here, body, asks, prompts⟩ := c.run_madeFor input s console call mem
  obtain ⟨tokens, encoded, opens⟩ := prompts.opensOnce_iff
  rw [speaks.tokenizer] at encoded
  rw [speaks.bos] at opens
  refine ⟨line, here, body, tokens, asks, encoded, opens, fun reserves => ?_⟩
  rw [opens, reserves.mem_iff checked.assembled checked.bos (TrainedTokenizer.tokenizer_encode_eq_ok.mp encoded),
    c.bosPiece_infix_iff body call.startPos]

/-- A model of three tokens, with pieces for the beginning of a text, for the end of a sequence and for a
letter. -/
def spelledEngine : LoadedEngine :=
  .ofVocabulary ⟨3, Single.zero, none, []⟩ ⟨["<bos>", "<eos>", "a"], ["<bos>", "<eos>"]⟩ ⟨0, 1, none, none⟩

theorem spelledEngine_loaded :
    LoadedEngine.load (.ofVocabulary ⟨3, Single.zero, none, []⟩ ⟨["<bos>", "<eos>", "a"], ["<bos>", "<eos>"]⟩)
      (.forVocabulary .pretrained) = .ok spelledEngine :=
  LoadedEngine.load_ofVocabulary _ rfl rfl

theorem spelledEngine_reserves : spelledEngine.trained.Reserves SpecialTokens.bosPiece 0 where
  finds := Vocabulary.finds (by decide) ⟨'<', by decide, by decide⟩ (by decide +kernel)
  keepsAll := Vocabulary.keepsAll _
  confines := Vocabulary.confines (by decide) (by decide) rfl (by decide) (PieceTable.ne_bytePiece (by decide))

/-- A conversation with that model in which every answer ends at once. -/
def spelledTalk : Conversation Cache StreamDecoder Unit where
  generator := (spelledEngine.engine .earliest).generator
  tokenizer := spelledEngine.tokenizer
  style := ⟨.pretrained, spelledEngine.special.bos⟩
  eos := spelledEngine.special.eos
  verbosity := 0
  settings := ⟨100, 1, Single.one, 1, true, false⟩
  accept := fun _ => false
  policy := .always
  speed := fun _ => ""

/-- The run on one line. -/
def spelledRun (text : String) : Run Cache Unit :=
  spelledTalk.run (Line.bytes (text ++ "\n")) (.start spelledTalk.settings Rng.fixed Cache.empty ())
    (.fresh none none)

theorem spelled_run_opens_iff :
    LoadedEngine.load (.ofVocabulary ⟨3, Single.zero, none, []⟩ ⟨["<bos>", "<eos>", "a"], ["<bos>", "<eos>"]⟩)
      (.forVocabulary .pretrained) = .ok spelledEngine ∧ spelledTalk.Speaks spelledEngine ∧
    spelledEngine.trained.Reserves SpecialTokens.bosPiece 0 ∧
    (∃ call ∈ (spelledRun "a").calls, call.OpensOnce 0) ∧
    ∃ call ∈ (spelledRun "a<bos>").calls, ¬ call.OpensOnce 0 := by
  have speaks : spelledTalk.Speaks spelledEngine := ⟨rfl, rfl⟩
  have body_eq : ∀ {text body}, Line.Asks (Line.bytes text) body → body = Command.body text := by
    rintro text body ⟨⟨text', isText, rfl⟩, -⟩
    rw [Line.text?_bytes] at isText
    rw [Option.some.inj isText]
  have opens := run_opens_iff spelledEngine_loaded spelledTalk speaks
  have one : ∀ text, (spelledRun text).calls.length = 1 → ∃ call, call ∈ (spelledRun text).calls := by
    intro text one
    obtain ⟨call, same⟩ := List.length_eq_one_iff.mp one
    exact ⟨call, same ▸ List.mem_singleton_self call⟩
  refine ⟨spelledEngine_loaded, speaks, spelledEngine_reserves, ?_, ?_⟩
  · obtain ⟨call, mem⟩ := one "a" (by decide +kernel)
    obtain ⟨line, here, body, -, asks, -, -, iff⟩ := opens (Line.bytes "a\n") _ _ call mem
    obtain rfl : line = Line.bytes "a\n" := List.mem_singleton.mp here
    refine ⟨call, mem, (iff spelledEngine_reserves).mpr ?_⟩
    rw [body_eq asks]
    decide +kernel
  · obtain ⟨call, mem⟩ := one "a<bos>" (by decide +kernel)
    obtain ⟨line, here, body, -, asks, -, -, iff⟩ := opens (Line.bytes "a<bos>\n") _ _ call mem
    obtain rfl : line = Line.bytes "a<bos>\n" := List.mem_singleton.mp here
    refine ⟨call, mem, fun once => (iff spelledEngine_reserves).mp once ?_⟩
    rw [body_eq asks]
    decide +kernel

/-- The piece for the beginning of a text, typed by the user at the start of a context: its token is in the
prompt twice. -/
theorem spelled_not_opensOnce :
    LoadedEngine.load (.ofVocabulary ⟨3, Single.zero, none, []⟩ ⟨["<bos>", "<eos>", "a"], ["<bos>", "<eos>"]⟩)
      (.forVocabulary .pretrained) = .ok spelledEngine ∧ spelledTalk.Speaks spelledEngine ∧
    ∃ call ∈ (spelledRun "<bos>").calls, call.startPos = 0 ∧ call.prompt = [0, 0] ∧
      ¬ call.OpensOnce spelledEngine.special.bos :=
  ⟨spelledEngine_loaded, ⟨rfl, rfl⟩, by decide +kernel⟩

end Conversation

end PromptLoop
