/-!
# Stretches of a text

Looking for something in a text cuts it into spans: what is looked for, and what is between. A `Finder`
says how many characters at some place are a match; matches are taken from the left and do not overlap.
An empty match counts unless it follows right after another match.

A text can then be split at its matches, which are left out, kept by themselves, or kept with what stands
before or after them. The spans of a text cover it (`covered_all`).
-/

namespace PromptLoop

/-- How many characters are a match at a place, given the characters before it, the nearest first, and those
after it. -/
abbrev Finder := List Char → List Char → Option Nat

/-- A stretch of a text. -/
structure Span where
  /-- The number of characters. -/
  length : Nat
  /-- Whether it is a match. -/
  found : Bool
  deriving DecidableEq, Repr

namespace Span

/-- The span between two matches, unless it is empty. -/
def between (length : Nat) : List Span := if length = 0 then [] else [⟨length, false⟩]

/-- The spans of what is left of a text, given what is before it, how much of that is no match, how many
characters are left of a match under way and whether a match has just ended. -/
def scan (find : Finder) : List Char → Nat → Nat → Bool → List Char → List Span
  | before, run, _, ended, [] =>
    match find before [] with
    | some _ => if ended then between run else between run ++ [⟨0, true⟩]
    | none => between run
  | before, run, skip + 1, _, c :: rest => scan find (c :: before) run skip true rest
  | before, run, 0, ended, c :: rest =>
    match find before (c :: rest) with
    | some (more + 1) => between run ++ ⟨more + 1, true⟩ :: scan find (c :: before) 0 more true rest
    | some 0 =>
      if ended then scan find (c :: before) (run + 1) 0 false rest
      else between run ++ ⟨0, true⟩ :: scan find (c :: before) 1 0 false rest
    | none => scan find (c :: before) (run + 1) 0 false rest

/-- The spans of a text. An empty text has none. -/
def all (find : Finder) (text : List Char) : List Span :=
  if text.isEmpty then [] else scan find [] 0 0 false text

/-- Whether a finder finds no more characters than there are. -/
def Fits (find : Finder) : Prop := ∀ before after length, find before after = some length → length ≤ after.length

/-- The number of characters that spans cover. -/
def covered (spans : List Span) : Nat := spans.foldr (fun s n => s.length + n) 0

@[simp] theorem covered_nil : covered [] = 0 := rfl

@[simp] theorem covered_cons (s : Span) (spans : List Span) : covered (s :: spans) = s.length + covered spans :=
  rfl

@[simp] theorem covered_append (spans others : List Span) :
    covered (spans ++ others) = covered spans + covered others := by
  induction spans with
  | nil => simp
  | cons s spans ih => simp [ih, Nat.add_assoc]

@[simp] theorem covered_between (length : Nat) : covered (between length) = length := by
  unfold between
  split <;> simp_all

/-- The spans of what is left of a text cover it, apart from the match under way. -/
theorem covered_scan {find : Finder} (fits : Fits find) (before : List Char) (run skip : Nat) (ended : Bool)
    (rest : List Char) (enough : skip ≤ rest.length) :
    covered (scan find before run skip ended rest) + skip = run + rest.length := by
  fun_induction scan find before run skip ended rest with
  | case1 | case2 | case3 => simp_all
  | case4 before run skip ended c rest ih =>
    have := ih (by simpa using enough)
    simp only [List.length_cons]
    omega
  | case5 before run ended c rest more found ih =>
    have long := fits _ _ _ found
    simp only [List.length_cons] at long
    have := ih (Nat.le_of_succ_le_succ long)
    simp only [covered_append, covered_cons, covered_between, List.length_cons]
    omega
  | case6 before run c rest found ih =>
    have := ih (Nat.zero_le _)
    simp only [List.length_cons]
    omega
  | case7 before run ended c rest found notEnded ih =>
    have := ih (Nat.zero_le _)
    simp only [covered_append, covered_cons, covered_between, List.length_cons]
    omega
  | case8 before run ended c rest notFound ih =>
    have := ih (Nat.zero_le _)
    simp only [List.length_cons]
    omega

/-- The spans of a text cover it. -/
theorem covered_all {find : Finder} (fits : Fits find) (text : List Char) :
    covered (all find text) = text.length := by
  unfold all
  split
  · simp_all
  · simpa using covered_scan fits [] 0 0 false text (Nat.zero_le _)

/-- The finder of the single characters of a kind. -/
def finder (isFound : Char → Bool) : Finder
  | _, c :: _ => if isFound c then some 1 else none
  | _, [] => none

/-- The same spans with matches and what is between exchanged. -/
def inverted (spans : List Span) : List Span := spans.map fun s => { s with found := !s.found }

end Span

/-! ### Splitting at matches -/

/-- What becomes of the matches that a text is split at. -/
inductive Splitting where
  /-- They are left out. -/
  | removed
  /-- Each stands by itself. -/
  | isolated
  /-- The first of several in a row belongs to what is before it. -/
  | withPrevious
  /-- The last of several in a row belongs to what is after it. -/
  | withNext
  /-- Several in a row stand together. -/
  | contiguous
  deriving DecidableEq, Repr

namespace Splitting

/-- Joins each match with the span before it, unless that is a match. Spans that have been dealt with are
given, the latest first, and whether the latest is a match. -/
def joinBack : List Span → Bool → List Span → List Span
  | done, _, [] => done.reverse
  | [], _, s :: rest => joinBack [s] s.found rest
  | d :: done, ended, s :: rest =>
    if s.found && !ended then joinBack ({ d with length := d.length + s.length } :: done) true rest
    else joinBack (s :: d :: done) s.found rest

/-- Joins spans of one kind in a row. -/
def joinAlike : List Span → List Span
  | [] => []
  | s :: rest =>
    match joinAlike rest with
    | next :: others =>
      if s.found = next.found then { next with length := s.length + next.length } :: others
      else s :: next :: others
    | [] => [s]

/-- The parts that a text is split into, each with whether it is kept. -/
def parts (splitting : Splitting) (spans : List Span) : List (Nat × Bool) :=
  match splitting with
  | removed => spans.map fun s => (s.length, !s.found)
  | isolated => spans.map fun s => (s.length, true)
  | withPrevious => (joinBack [] false spans).map fun s => (s.length, true)
  | withNext => (joinBack [] false spans.reverse).reverse.map fun s => (s.length, true)
  | contiguous => (joinAlike spans).map fun s => (s.length, true)

end Splitting

/-- The kept parts of a list. -/
def keptParts {α : Type} : List (Nat × Bool) → List α → List (List α)
  | [], _ => []
  | (length, true) :: parts, items => items.take length :: keptParts parts (items.drop length)
  | (length, false) :: parts, items => keptParts parts (items.drop length)

end PromptLoop
