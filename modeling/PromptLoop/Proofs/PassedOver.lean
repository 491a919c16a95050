import PromptLoop.Proofs.History
import PromptLoop.Proofs.Seams

/-!
# Texts that are passed over

A text that has no encoding, or whose prompt has no tokens or more than are left of the budget, does not
come to the generator (`Conversation.Withholds`). Serving it leaves the session as it is but for its stage,
draws no random word and prints nothing to the output for answers (`Conversation.turn_untouched`).

A line whose prompt is passed over could as well not be there: if the outputs have no limit, a run on the
other lines of its input makes the same calls and ends in the same way and in the same state
(`Conversation.run_without`). All that is different is what is printed.
-/

namespace PromptLoop

variable {γ δ π : Type}

/-- The run on lines that are not read yet. -/
def LoopTop.withLines (top : LoopTop γ π) (lines : List (List UInt8)) : LoopTop γ π :=
  { top with lines := lines }

theorem Round.of_goesOnWith {wished : Option Call → LoopTop γ π → Bool} {round : Round γ π}
    (h : round.goesOnWith wished = true) : ∃ call top, round = .goesOn call top ∧ wished call top = true := by
  cases round with
  | ends => cases h
  | goesOn call top => exact ⟨call, top, rfl, h⟩

namespace Conversation

variable {c : Conversation γ δ π} {s : ConversationState γ π} {k : Console} {text : String}

/-! ### Texts -/

/-- The prompt for a text at a position is passed over: it has no tokens, or more than are left of the
budget. -/
def Skips (c : Conversation γ δ π) (text : String) (position : Nat) : Prop :=
  ∃ prompt, c.Prompts text position prompt ∧
    (prompt = [] ∨ c.settings.maxTokens - position < prompt.length)

/-- A text at a position does not come to the generator. -/
def Withholds (c : Conversation γ δ π) (text : String) (position : Nat) : Prop :=
  (∃ error, c.tokenizer.encode (c.promptText text position) = .error error) ∨ c.Skips text position

/-- Serving a text called no generator, left the session, the random stream, the generator and the policy
as they were, and printed nothing to the output for answers. -/
structure Untouched (s : ConversationState γ π) (k : Console) (served : Served γ π) : Prop where
  call : served.call = none
  session : served.state.session = s.session
  rng : served.state.rng = s.rng
  generator : served.state.generator = s.generator
  policy : served.state.policy = s.policy
  out : served.console.out = k.out

theorem build_of_error {position : Nat} {error : SessionError}
    (h : c.tokenizer.encode (c.promptText text position) = .error error) :
    c.style.build c.tokenizer.encode text position = .error error :=
  PromptStyle.build_eq_error_iff.mpr (c.template_eq text position ▸ h)

theorem build_of_prompts {position : Nat} {prompt : List Token} (h : c.Prompts text position prompt) :
    c.style.build c.tokenizer.encode text position = .ok ⟨c.promptText text position, prompt⟩ := by
  obtain ⟨tokens, encoded, rfl⟩ := h
  rw [← template_eq] at encoded ⊢
  rw [← PromptStyle.opened_eq]
  exact PromptStyle.build_eq_ok_iff.mpr ⟨tokens, encoded, rfl⟩

theorem summarize_of_no_call (speed : String) {served : Served γ π} (h : served.call = none) :
    c.summarize speed served = served := by
  unfold summarize
  rw [h]
  split
  · next call => cases call
  · rfl

theorem serve_of_error {error : SessionError}
    (h : c.tokenizer.encode (c.promptText text s.session.contextPos) = .error error) :
    c.serve text s k = ⟨.error error, s.atPhase .prefilling, k, none⟩ := by
  rw [serve]
  dsimp only
  rw [show c.style.build _ text (s.atPhase .prefilling).session.contextPos = _ from build_of_error h]

theorem serve_of_skips (h : c.Skips text s.session.contextPos) :
    ∃ result phase k', c.serve text s k = ⟨result, s.atPhase phase, k', none⟩ ∧ k'.out = k.out ∧
      (k.Works → result = .ok () ∧ k'.Works) := by
  obtain ⟨prompt, prompts, passes⟩ := h
  rw [serve]
  dsimp only
  rw [show c.style.build _ text (s.atPhase .prefilling).session.contextPos = _ from build_of_prompts prompts]
  dsimp only
  by_cases empty : prompt.isEmpty = true
  · rw [if_pos empty]
    exact ⟨_, _, _, rfl, rfl, fun works => ⟨rfl, works⟩⟩
  have long : c.settings.maxTokens - (s.atPhase .prefilling).session.contextPos < prompt.length :=
    passes.resolve_left fun none => empty (List.isEmpty_iff.mpr none)
  rw [if_neg empty, if_pos long]
  have noted := fun works : k.Works => works.note (tooLongNote prompt.length
    (c.settings.maxTokens - (s.atPhase .prefilling).session.contextPos) c.settings.maxTokens)
  have out : (k.note (tooLongNote prompt.length
    (c.settings.maxTokens - (s.atPhase .prefilling).session.contextPos) c.settings.maxTokens)).2.out = k.out :=
      rfl
  rcases hk : k.note _ with ⟨error | ⟨⟩, k'⟩ <;> rw [hk] at noted out
  · exact ⟨_, _, _, rfl, out, fun works => by cases (noted works).1⟩
  · exact ⟨_, _, _, rfl, out, fun works => ⟨rfl, (noted works).2⟩⟩

/-- A text whose prompt is passed over changes nothing but the stage and what is noted. -/
theorem turn_of_skips (h : c.Skips text s.session.contextPos) :
    ∃ result phase k', c.turn text s k = ⟨result, s.atPhase phase, k', none⟩ ∧ k'.out = k.out ∧
      (k.Works → result = .ok () ∧ k'.Works) := by
  obtain ⟨result, phase, k', served, rest⟩ := serve_of_skips (k := k) h
  refine ⟨result, phase, k', ?_, rest⟩
  rw [turn, served]
  exact summarize_of_no_call _ rfl

/-- **A text that does not come to the generator** leaves the session as it was. -/
theorem turn_untouched (h : c.Withholds text s.session.contextPos) : Untouched s k (c.turn text s k) := by
  rcases h with ⟨error, failed⟩ | skips
  · rw [turn, serve_of_error failed]
    dsimp only
    rw [summarize_of_no_call _ rfl]
    exact ⟨rfl, rfl, rfl, rfl, rfl, rfl⟩
  · obtain ⟨result, phase, k', same, out, -⟩ := turn_of_skips (k := k) skips
    rw [same]
    exact ⟨rfl, rfl, rfl, rfl, rfl, out⟩

/-! ### Runs -/

theorem command_of_asks {line : List UInt8} {rest : List (List UInt8)} (asks : Line.Asks line text) :
    (⟨line :: rest, s, k⟩ : LoopTop γ π).command = .ok (.prompt text) := by
  obtain ⟨⟨whole, isText, body⟩, other⟩ := asks
  simp only [List.mem_cons, List.not_mem_nil, or_false, not_or] at other
  obtain ⟨notQ, notQ', notC, notC'⟩ := other
  simp only [LoopTop.command, isText, Command.ofLine, Command.ofBody, body, notQ, notQ', notC, notC', or_self,
    if_false]

/-- A line whose prompt is passed over makes no difference to what comes after it. -/
theorem runFrom_skipped (works : k.Works) {line : List UInt8} (asks : Line.Asks line text)
    (skips : c.Skips text s.session.contextPos) (after : List (List UInt8)) :
    ∃ k', c.runFrom ⟨line :: after, s, k⟩ = { c.runFrom ⟨after, s, k⟩ with console := k' } := by
  by_cases exhausted : s.session.budgetExhausted c.settings.maxTokens = true
  · -- The line is not read at all.
    refine ⟨(c.runFrom ⟨after, s, k⟩).console, ?_⟩
    rw [runFrom_eq_runAfter, runFrom_eq_runAfter, round, round, if_pos exhausted, if_pos exhausted]
  · obtain ⟨marked, works₁⟩ := works.answer (inputMark c.verbosity)
    rcases hk : k.answer (inputMark c.verbosity) with ⟨result, k₁⟩
    rw [hk] at marked works₁
    obtain rfl := marked
    have skips' : c.Skips text (s.atPhase .awaitingInput).session.contextPos := skips
    obtain ⟨result, phase, k₂, turn, -, done⟩ := turn_of_skips (k := k₁) skips'
    obtain ⟨rfl, works₂⟩ := done works₁
    have goes : c.round ⟨line :: after, s, k⟩ = .goesOn none ⟨after, s.atPhase phase, k₂⟩ := by
      rw [round, if_neg exhausted, hk, command_of_asks asks]
      dsimp only [act]
      rw [turn]
      rfl
    obtain ⟨k', same, -⟩ := runFrom_working (c := c) (s := s) after works works₂
    refine ⟨k', ?_⟩
    rw [runFrom_eq_runAfter, goes, runAfter, runFrom_atPhase, same]
    rfl

/-- How a run comes to a line does not depend on the line or on what is after it. -/
theorem Reaches.withLines {top top' : LoopTop γ π} {calls : List Call} (h : c.Reaches top calls top') :
    ∃ before, top.lines = before ++ top'.lines ∧
      ∀ rest, c.Reaches (top.withLines (before ++ rest)) calls (top'.withLines rest) := by
  induction h with
  | refl => exact ⟨[], rfl, fun rest => .refl⟩
  | @head top next last call calls round _ ih =>
    obtain ⟨before, same, reaches⟩ := ih
    have goes := goesOn_of_round round
    obtain ⟨line, first⟩ := goes.exists_line
    refine ⟨line :: before, by rw [first, same]; rfl, fun rest => ?_⟩
    obtain ⟨lines, s, k⟩ := top
    obtain rfl : lines = line :: next.lines := first
    exact .head (goes.withRest (before ++ rest)).round (reaches rest)

theorem Reaches.works {top top' : LoopTop γ π} {calls : List Call} (h : c.Reaches top calls top')
    (works : top.console.Works) : top'.console.Works := by
  induction h with
  | refl => exact works
  | head round _ ih => exact ih ((goesOn_of_round round).works works)

/-- A run comes to a line, after the lines before it, and the prompt for that line is passed over. -/
def PassesOverLine (c : Conversation γ δ π) (top : LoopTop γ π) (line : List UInt8)
    (after : List (List UInt8)) : Prop :=
  ∃ calls here text, c.Reaches top calls here ∧ here.lines = line :: after ∧ Line.Asks line text ∧
    c.Skips text here.state.session.contextPos

/-- **Texts that are passed over.** A text that has no encoding, or whose prompt has no tokens or more than
are left of the budget, leaves the session as it was, whatever the outputs are. If the outputs have no
limit, a run without a line whose prompt is passed over makes the same calls, with the same events, and
ends with the same result in the same state. -/
theorem run_without (c : Conversation γ δ π) :
    (∀ text s k, c.Withholds text s.session.contextPos → Untouched s k (c.turn text s k)) ∧
      ∀ input s k before line after, k.Works → Line.lines input = before ++ line :: after →
        c.PassesOverLine ⟨Line.lines input, s, k⟩ line after →
        let r := c.run input s k
        let r' := c.run (before.flatten ++ after.flatten) s k
        r'.result = r.result ∧ r'.calls = r.calls ∧ r'.state = r.state := by
  refine ⟨fun text s k h => turn_untouched h, ?_⟩
  rintro input s k before line after works lines ⟨calls, here, text, reaches, here_lines, asks, skips⟩ r r'
  obtain ⟨before', same, onward⟩ := reaches.withLines
  have same : Line.lines input = before' ++ here.lines := same
  obtain rfl : before = before' := by
    rw [here_lines, lines] at same
    exact List.append_cancel_right same
  -- Both runs come to the same place, one with the line and one without it.
  obtain ⟨k', skipped⟩ := runFrom_skipped (reaches.works works) asks skips after
  have here_eq : here = ⟨line :: after, here.state, here.console⟩ := by
    rw [← here_lines]
  have whole : r = afterCalls calls { c.runFrom ⟨after, here.state, here.console⟩ with console := k' } := by
    rw [← skipped, ← here_eq]
    exact reaches.rest
  have others : r' = afterCalls calls (c.runFrom ⟨after, here.state, here.console⟩) := by
    have onward := (onward after).rest
    show c.runLines (Line.lines (before.flatten ++ after.flatten)) s k = _
    rw [Line.lines_without lines]
    exact onward
  rw [whole, others]
  exact ⟨rfl, rfl, rfl⟩

/-- A session that is silent, keeps its context and has a token for every character of a text. -/
def silentSpelling : Conversation Cache Unit Unit :=
  { silent 1 2 ⟨6, 10, Single.one, 1, false, true⟩ with
    tokenizer := ⟨fun text => .ok (text.toList.map fun _ => 2), (), fun _ _ => (.ok none, ())⟩ }

/-- A text, a text that is longer than what is left of the budget, and a text. -/
def silentSpellingStart : LoopTop Cache Unit :=
  ⟨Line.lines (Line.bytes "a\naaaa\nb\n"), .start silentSpelling.settings Rng.fixed Cache.empty (),
    .fresh none none⟩

theorem silentSpelling_run_without :
    let c := silentSpelling
    let s := silentSpellingStart.state
    let k := silentSpellingStart.console
    ∃ here : ConversationState Cache Unit, here.session.contextPos = 3 ∧
      Untouched here k (c.turn "aaaa" here k) ∧
      (c.run (Line.bytes "a\naaaa\nb\n") s k).result = (c.run (Line.bytes "a\nb\n") s k).result ∧
      (c.run (Line.bytes "a\naaaa\nb\n") s k).calls = (c.run (Line.bytes "a\nb\n") s k).calls ∧
      (c.run (Line.bytes "a\naaaa\nb\n") s k).state = (c.run (Line.bytes "a\nb\n") s k).state := by
  intro c s k
  obtain ⟨untouched, without⟩ := run_without c
  -- The first round, as one closed computation.
  obtain ⟨call, here, first, place⟩ := Round.of_goesOnWith
    (show (c.round silentSpellingStart).goesOnWith (fun _ top =>
      decide (top.lines = [Line.bytes "aaaa\n", Line.bytes "b\n"]) &&
        decide (top.state.session.contextPos = 3)) = true by decide +kernel)
  simp only [Bool.and_eq_true, decide_eq_true_eq] at place
  obtain ⟨lines, position⟩ := place
  have skips : c.Skips "aaaa" here.state.session.contextPos := by
    rw [position]
    exact ⟨[2, 2, 2, 2], ⟨[2, 2, 2, 2], by decide +kernel, rfl⟩, .inr (by decide)⟩
  have asks : Line.Asks (Line.bytes "aaaa\n") "aaaa" :=
    ⟨⟨"aaaa\n", Line.text?_bytes "aaaa\n", by decide +kernel⟩, by decide⟩
  have all := without (Line.bytes "a\naaaa\nb\n") s k [Line.bytes "a\n"] (Line.bytes "aaaa\n")
    [Line.bytes "b\n"] Console.works_fresh (by decide +kernel)
    ⟨call.toList ++ [], here, "aaaa", .head first .refl, lines, asks, skips⟩
  exact ⟨here.state, position, untouched "aaaa" here.state k (.inr skips),
    all.1.symm, all.2.1.symm, all.2.2.symm⟩

end Conversation

end PromptLoop
