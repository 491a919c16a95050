import Mathlib.Data.List.Basic
import PromptLoop.Turn

/-!
# Instants of a random stream

What happens to the random stream of a session is told as a list of instants: a word is drawn, an event
reaches the turn, or the conversation rests between two lines. Every instant has the random stream after
it.

`Elapses` says when such a list is in order: a drawn word is the next word of the stream, the end of a
sequence starts the stream over where a session calls for that, and nothing else changes the stream.
`Paired` says that every drawn word is for the token that is heard next. Both hold of a list if they hold
of its parts. What follows from them for every point of the list is the account of the stream, `Rng.Accounted`.
-/

namespace PromptLoop

/-- Something that happens in a session. -/
inductive Incident where
  /-- A word is drawn. -/
  | drew (word : UInt32)
  /-- An event reaches the turn. -/
  | heard (receipt : Receipt)
  /-- A round of the conversation is over. -/
  | rested

/-- An incident, with the random stream after it. -/
structure Instant where
  /-- What happens. -/
  incident : Incident
  /-- The random stream after it. -/
  rng : Rng

namespace Incident

/-- Whether the random stream starts over: an end of a sequence is heard after the tokens of the prompt
but the last, in a deterministic session that does not keep its context. -/
def startsOver (eos : Token) (settings : InferenceSettings) : Incident → Bool
  | heard r =>
    r.event.token == eos && decide (r.session.promptSize ≤ r.session.turnPos) &&
      (settings.deterministic && !settings.multiturn)
  | drew _ => false
  | rested => false

/-- The words that are drawn. -/
def words : Incident → List UInt32
  | drew word => [word]
  | heard _ => []
  | rested => []

/-- The random stream after an incident. -/
def rngAfter (eos : Token) (settings : InferenceSettings) (incident : Incident) (rng : Rng) : Rng :=
  match incident with
  | drew _ => rng.advance
  | incident => if incident.startsOver eos settings then Rng.fixed else rng

end Incident

/-- The receipt of the event that is heard, if one is. -/
def Instant.receipt? (m : Instant) : Option Receipt :=
  match m.incident with
  | .heard r => some r
  | _ => none

/-! ### Stretches -/

/-- What is known of a random stream: where it started and which words were drawn since. -/
structure Stretch where
  /-- The stream at its start. -/
  start : Rng
  /-- The words drawn since, in order. -/
  words : List UInt32

namespace Stretch

variable {eos : Token} {settings : InferenceSettings}

/-- The stretch after an incident. -/
def next (eos : Token) (settings : InferenceSettings) (stretch : Stretch) (incident : Incident) : Stretch :=
  if incident.startsOver eos settings then ⟨Rng.fixed, []⟩
  else ⟨stretch.start, stretch.words ++ incident.words⟩

/-- The stretch after some instants. -/
def after (eos : Token) (settings : InferenceSettings) (stretch : Stretch) (instants : List Instant) : Stretch :=
  instants.foldl (fun stretch m => stretch.next eos settings m.incident) stretch

/-- The words of a stretch are the words of the stream from its start, and bring it to the given state. -/
def LeadsTo (stretch : Stretch) (rng : Rng) : Prop :=
  stretch.start.draws stretch.words.length = (stretch.words, rng)

end Stretch

theorem Rng.draws_concat {n : Nat} {rng rng' : Rng} {words : List UInt32} (h : rng.draws n = (words, rng')) :
    rng.draws (n + 1) = (words ++ [rng'.word], rng'.advance) := by
  induction n generalizing rng words with
  | zero =>
    obtain ⟨rfl, rfl⟩ := Prod.mk.inj h
    rfl
  | succ n ih =>
    rw [draws] at h
    rcases hd : rng.advance.draws n with ⟨others, after⟩
    rw [hd] at h
    obtain ⟨rfl, rfl⟩ := Prod.mk.inj h
    rw [draws, ih hd]
    rfl

/-! ### Instants in order -/

/-- An instant comes after a random stream: its own stream is what its incident makes of that one, and a
word that it draws is the next word. -/
structure Instant.Follows (eos : Token) (settings : InferenceSettings) (rng : Rng) (m : Instant) : Prop where
  word : ∀ word, m.incident = .drew word → word = rng.word
  after : m.rng = m.incident.rngAfter eos settings rng

/-- Instants follow one another, from one state of the random stream to another. -/
def Elapses (eos : Token) (settings : InferenceSettings) (rng : Rng) : List Instant → Rng → Prop
  | [], rng' => rng' = rng
  | m :: instants, rng' => m.Follows eos settings rng ∧ Elapses eos settings m.rng instants rng'

section

variable {eos : Token} {settings : InferenceSettings} {rng rng' rng'' : Rng} {instants instants' : List Instant}

theorem Elapses.append (h : Elapses eos settings rng instants rng')
    (h' : Elapses eos settings rng' instants' rng'') :
    Elapses eos settings rng (instants ++ instants') rng'' := by
  induction instants generalizing rng with
  | nil =>
    cases h
    exact h'
  | cons m instants ih =>
    obtain ⟨follows, rest⟩ := h
    exact ⟨follows, ih rest⟩

theorem Elapses.split {before after : List Instant} {m : Instant}
    (h : Elapses eos settings rng (before ++ m :: after) rng') :
    ∃ prior, Elapses eos settings rng before prior ∧ m.Follows eos settings prior ∧
      Elapses eos settings rng (before ++ [m]) m.rng := by
  induction before generalizing rng with
  | nil =>
    obtain ⟨follows, -⟩ := h
    exact ⟨rng, rfl, follows, follows, rfl⟩
  | cons first before ih =>
    obtain ⟨follows, rest⟩ := h
    obtain ⟨prior, elapses, next, upto⟩ := ih rest
    exact ⟨prior, ⟨follows, elapses⟩, next, follows, upto⟩

/-- The random stream that a list of instants leads to is that of its last instant. -/
theorem Elapses.foldl (h : Elapses eos settings rng instants rng') :
    instants.foldl (fun _ m => m.rng) rng = rng' := by
  induction instants generalizing rng with
  | nil => exact h.symm
  | cons m instants ih => exact ih h.2

theorem Stretch.LeadsTo.next {stretch : Stretch} {m : Instant} (leads : stretch.LeadsTo rng)
    (follows : m.Follows eos settings rng) : (stretch.next eos settings m.incident).LeadsTo m.rng := by
  obtain ⟨word, after⟩ := follows
  rw [after]
  have silent : ∀ {incident : Incident}, incident.words = [] →
      (stretch.next eos settings incident).LeadsTo
        (if incident.startsOver eos settings then Rng.fixed else rng) := by
    intro incident none
    by_cases starts : incident.startsOver eos settings = true
    · rw [Stretch.next, if_pos starts, if_pos starts]
      rfl
    · rw [Stretch.next, if_neg starts, if_neg starts, none, List.append_nil]
      exact leads
  rcases hi : m.incident with w | r | _
  · obtain rfl := word w hi
    have drawn := Rng.draws_concat leads
    simpa [Stretch.next, Incident.startsOver, LeadsTo, Incident.words, Incident.rngAfter] using drawn
  · exact silent rfl
  · exact silent rfl

/-- **The random stream is what the words drawn since it last started make of it.** -/
theorem Elapses.leadsTo {stretch : Stretch} (h : Elapses eos settings rng instants rng')
    (leads : stretch.LeadsTo rng) : (stretch.after eos settings instants).LeadsTo rng' := by
  induction instants generalizing rng stretch with
  | nil =>
    cases h
    exact leads
  | cons m instants ih =>
    obtain ⟨follows, rest⟩ := h
    exact ih rest (leads.next follows)

/-- In a session that keeps its context, or is not deterministic, a stretch does not end. -/
theorem Stretch.after_of_keeps (keeps : settings.multiturn = true ∨ settings.deterministic = false)
    (stretch : Stretch) (instants : List Instant) :
    stretch.after eos settings instants =
      ⟨stretch.start, stretch.words ++ instants.flatMap (·.incident.words)⟩ := by
  have never : ∀ incident : Incident, incident.startsOver eos settings = false := by
    intro incident
    cases incident with
    | heard r => rcases keeps with keeps | keeps <;> simp [Incident.startsOver, keeps]
    | drew _ => rfl
    | rested => rfl
  induction instants generalizing stretch with
  | nil => simp [Stretch.after]
  | cons m instants ih =>
    have first : stretch.next eos settings m.incident =
        ⟨stretch.start, stretch.words ++ m.incident.words⟩ := by
      rw [Stretch.next, never, if_neg Bool.false_ne_true]
    have rest := ih (stretch.next eos settings m.incident)
    rw [first] at rest
    rw [List.flatMap_cons, ← List.append_assoc]
    refine Eq.trans ?_ rest
    rw [← first]
    rfl

end

/-! ### Words and tokens -/

/-- The next instant is a token after the prompt. -/
def NextIsGenerated (instants : List Instant) : Prop :=
  ∃ r after, instants = ⟨.heard r, r.rng⟩ :: after ∧ r.session.promptSize < r.session.turnPos

/-- Every drawn word is for the token that is heard next, and there were at least two to choose from. -/
def Paired (choices : Nat) : List Instant → Prop
  | [] => True
  | m :: instants =>
    (∀ word, m.incident = .drew word → 2 ≤ choices ∧ NextIsGenerated instants) ∧ Paired choices instants

section

variable {choices : Nat} {instants instants' : List Instant}

theorem Paired.nil (choices : Nat) : Paired choices [] := trivial

/-- An event may be heard at any time. -/
theorem Paired.heard (h : Paired choices instants) (r : Receipt) (rng : Rng) :
    Paired choices (⟨.heard r, rng⟩ :: instants) :=
  ⟨fun _ drew => (by cases drew), h⟩

theorem Paired.append (h : Paired choices instants) (h' : Paired choices instants') :
    Paired choices (instants ++ instants') := by
  induction instants with
  | nil => exact h'
  | cons m instants ih =>
    obtain ⟨first, rest⟩ := h
    refine ⟨?_, ih rest⟩
    intro word drew
    obtain ⟨several, r, after, rfl, generated⟩ := first word drew
    exact ⟨several, r, after ++ instants', rfl, generated⟩

theorem Paired.of_append {before : List Instant} (h : Paired choices (before ++ instants)) :
    Paired choices instants := by
  induction before with
  | nil => exact h
  | cons _ _ ih => exact ih h.2

end

/-! ### The account -/

/-- The account of a random stream, at every instant since it was given. -/
structure Rng.Accounted (eos : Token) (settings : InferenceSettings) (choices : Nat) (rng : Rng)
    (instants : List Instant) : Prop where
  /-- The stream is what the words drawn since it last started make of it. -/
  stretch : ∀ before m after, instants = before ++ m :: after →
    (Stretch.after eos settings ⟨rng, []⟩ (before ++ [m])).LeadsTo m.rng
  /-- It is advanced by drawing, started over where a sequence ends, and not changed by anything else. -/
  changes : ∀ before m after, instants = before ++ m :: after →
    m.rng = m.incident.rngAfter eos settings (before.foldl (fun _ m => m.rng) rng)
  /-- One word at most is drawn for a token after the prompt, and only if there are two to choose from;
  no words are drawn for anything else. -/
  draws : ∀ before m after word, instants = before ++ m :: after → m.incident = .drew word →
    2 ≤ choices ∧ NextIsGenerated after
  /-- If the session keeps its context, or is not deterministic, all words are drawn from the stream that
  was given, without a break. -/
  unbroken : settings.multiturn = true ∨ settings.deterministic = false →
    ∀ before m after, instants = before ++ m :: after →
      (Stretch.mk rng ((before ++ [m]).flatMap (·.incident.words))).LeadsTo m.rng

/-- Instants in order have an account. -/
theorem Elapses.accounted {eos : Token} {settings : InferenceSettings} {choices : Nat} {rng rng' : Rng}
    {instants : List Instant} (h : Elapses eos settings rng instants rng') (paired : Paired choices instants) :
    Rng.Accounted eos settings choices rng instants := by
  have leads : ∀ before m after, instants = before ++ m :: after →
      (Stretch.after eos settings ⟨rng, []⟩ (before ++ [m])).LeadsTo m.rng := by
    rintro before m after rfl
    obtain ⟨prior, -, -, upto⟩ := h.split
    exact upto.leadsTo rfl
  constructor
  · exact leads
  · rintro before m after rfl
    obtain ⟨prior, elapses, follows, -⟩ := h.split
    rw [elapses.foldl]
    exact follows.after
  · rintro before m after word rfl drew
    exact paired.of_append.1 word drew
  · intro keeps before m after listed
    have stretch := leads before m after listed
    rwa [Stretch.after_of_keeps keeps, List.nil_append] at stretch

end PromptLoop
