import PromptLoop.Text.Category

/-!
# Clusters of characters

What a reader takes for one character may be written with several: a letter with the marks on it, a syllable
with its parts, a picture that is made up of pictures. A text is cut into such clusters from left to right,
and whether a character joins the cluster before it depends on how both join their neighbours. The lengths
of all clusters add up to that of the text (`sum_lengths`).
-/

namespace PromptLoop

namespace Cluster

/-! ### Kinds of characters -/

/-- How a character joins its neighbours. -/
inductive Joint where
  /-- The first character of a line break of two. -/
  | carriageReturn
  /-- The second character of a line break of two. -/
  | lineFeed
  /-- A character that stands alone. -/
  | control
  /-- A mark that joins what is before it. -/
  | extending
  /-- The mark that joins what is before it and after it. -/
  | joiner
  /-- A mark that takes room and joins what is before it. -/
  | spacing
  /-- A mark that joins what is after it. -/
  | leading
  /-- Half of a flag. -/
  | flag
  /-- The first part of a syllable. -/
  | firstPart
  /-- The second part of a syllable. -/
  | secondPart
  /-- The third part of a syllable. -/
  | thirdPart
  /-- A syllable of two parts. -/
  | openSyllable
  /-- A syllable of three parts. -/
  | closedSyllable
  /-- A picture. -/
  | picture
  /-- Any other character. -/
  | other
  deriving DecidableEq, Repr

/-- The ranges of codes of marks that join what is after them. -/
def leading : List (Nat × Nat) :=
  [(0x600, 0x605), (0x6dd, 0x6dd), (0x70f, 0x70f), (0x890, 0x891), (0x8e2, 0x8e2), (0xd4e, 0xd4e),
    (0x110bd, 0x110bd), (0x110cd, 0x110cd), (0x111c2, 0x111c3), (0x113d1, 0x113d1), (0x1193f, 0x1193f),
    (0x11941, 0x11941), (0x11a3a, 0x11a3a), (0x11a84, 0x11a89), (0x11d46, 0x11d46), (0x11f02, 0x11f02)]

/-- The ranges of codes of marks that take room but join nothing. -/
def detached : List (Nat × Nat) :=
  [(0x102b, 0x102c), (0x1038, 0x1038), (0x1062, 0x1064), (0x1067, 0x106d), (0x1083, 0x1083),
    (0x1087, 0x108c), (0x108f, 0x108f), (0x109a, 0x109c), (0x1a61, 0x1a61), (0x1a63, 0x1a64),
    (0xaa7b, 0xaa7b), (0xaa7d, 0xaa7d), (0x11720, 0x11721)]

/-- The ranges of codes without a character that count as controls. -/
def reserved : List (Nat × Nat) :=
  [(0x2065, 0x2065), (0xfff0, 0xfff8), (0xe0000, 0xe001f), (0xe0080, 0xe00ff), (0xe01f0, 0xe0fff)]

/-- The ranges of codes of parts of syllables, with their place in the syllable. -/
def parts : List (Nat × Nat × Joint) :=
  [(0x1100, 0x115f, .firstPart), (0xa960, 0xa97c, .firstPart), (0x1160, 0x11a7, .secondPart),
    (0xd7b0, 0xd7c6, .secondPart), (0x11a8, 0x11ff, .thirdPart), (0xd7cb, 0xd7fb, .thirdPart)]

/-- The ranges of codes of pictures. -/
def pictures : List (Nat × Nat) :=
  [(0xa9, 0xa9), (0xae, 0xae), (0x203c, 0x203c), (0x2049, 0x2049), (0x2122, 0x2122), (0x2139, 0x2139),
    (0x2194, 0x2199), (0x21a9, 0x21aa), (0x231a, 0x231b), (0x2328, 0x2328), (0x2388, 0x2388),
    (0x23cf, 0x23cf), (0x23e9, 0x23f3), (0x23f8, 0x23fa), (0x24c2, 0x24c2), (0x25aa, 0x25ab),
    (0x25b6, 0x25b6), (0x25c0, 0x25c0), (0x25fb, 0x25fe), (0x2600, 0x2605), (0x2607, 0x2612),
    (0x2614, 0x2685), (0x2690, 0x2705), (0x2708, 0x2712), (0x2714, 0x2714), (0x2716, 0x2716),
    (0x271d, 0x271d), (0x2721, 0x2721), (0x2728, 0x2728), (0x2733, 0x2734), (0x2744, 0x2744),
    (0x2747, 0x2747), (0x274c, 0x274c), (0x274e, 0x274e), (0x2753, 0x2755), (0x2757, 0x2757),
    (0x2763, 0x2767), (0x2795, 0x2797), (0x27a1, 0x27a1), (0x27b0, 0x27b0), (0x27bf, 0x27bf),
    (0x2934, 0x2935), (0x2b05, 0x2b07), (0x2b1b, 0x2b1c), (0x2b50, 0x2b50), (0x2b55, 0x2b55),
    (0x3030, 0x3030), (0x303d, 0x303d), (0x3297, 0x3297), (0x3299, 0x3299), (0x1f000, 0x1f0ff),
    (0x1f10d, 0x1f10f), (0x1f12f, 0x1f12f), (0x1f16c, 0x1f171), (0x1f17e, 0x1f17f), (0x1f18e, 0x1f18e),
    (0x1f191, 0x1f19a), (0x1f1ad, 0x1f1e5), (0x1f201, 0x1f20f), (0x1f21a, 0x1f21a), (0x1f22f, 0x1f22f),
    (0x1f232, 0x1f23a), (0x1f23c, 0x1f23f), (0x1f249, 0x1f3fa), (0x1f400, 0x1f53d), (0x1f546, 0x1f64f),
    (0x1f680, 0x1f6ff), (0x1f774, 0x1f77f), (0x1f7d5, 0x1f7ff), (0x1f80c, 0x1f80f), (0x1f848, 0x1f84f),
    (0x1f85a, 0x1f85f), (0x1f888, 0x1f88f), (0x1f8ae, 0x1f8ff), (0x1f90c, 0x1f93a), (0x1f93c, 0x1f945),
    (0x1f947, 0x1faff), (0x1fc00, 0x1fffd)]

/-- The part of a syllable that a code is, if it is one. A whole syllable is open if its code is a multiple of
28 away from the first. -/
def syllable? (code : Nat) : Option Joint :=
  if 0xac00 ≤ code ∧ code ≤ 0xd7a3 then
    some (if (code - 0xac00) % 28 = 0 then .openSyllable else .closedSyllable)
  else (parts.find? fun (first, last, _) => first ≤ code && code ≤ last).map fun (_, _, joint) => joint

/-- How a character joins its neighbours. -/
def joint (c : Char) : Joint :=
  let category := Category.of c
  if c = '\r' then .carriageReturn
  else if c = '\n' then .lineFeed
  else if c.toNat = 0x200d then .joiner
  else if isWithin leading c then .leading
  else if isExtending c || isWithin [(0x1f3fb, 0x1f3ff)] c then .extending
  else if [⟨.other, 'c'⟩, ⟨.other, 'f'⟩, ⟨.separator, 'l'⟩, ⟨.separator, 'p'⟩].contains category
      || isWithin reserved c then .control
  else if category = ⟨.mark, 'c'⟩ then (if isWithin detached c then .other else .spacing)
  else if isWithin [(0xe33, 0xe33), (0xeb3, 0xeb3)] c then .spacing
  else if isWithin [(0x1f1e6, 0x1f1ff)] c then .flag
  else if isWithin pictures c then .picture
  else (syllable? c.toNat).getD .other

/-! ### Cutting -/

/-- What has to be known of the cluster under way. -/
structure Ending where
  /-- How its last character joins its neighbours. -/
  last : Joint
  /-- Whether it ends with a picture, marks that extend it and at most one joiner. -/
  afterPicture : Bool
  /-- Whether its last character is a first half of a flag. -/
  halfFlag : Bool
  deriving DecidableEq, Repr

namespace Ending

/-- A cluster of one character. -/
def ofFirst (j : Joint) : Ending := ⟨j, j = .picture, j = .flag⟩

/-- Whether parts of syllables belong together. -/
def joinsSyllable : Joint → Joint → Bool
  | .firstPart, j => [.firstPart, .secondPart, .openSyllable, .closedSyllable].contains j
  | .openSyllable, j | .secondPart, j => [.secondPart, .thirdPart].contains j
  | .closedSyllable, j | .thirdPart, j => j = .thirdPart
  | _, _ => false

/-- Whether a character stands alone. -/
def isAlone (j : Joint) : Bool := [.control, .carriageReturn, .lineFeed].contains j

/-- Whether the next character joins the cluster. -/
def joins (e : Ending) (j : Joint) : Bool :=
  if isAlone e.last || isAlone j then e.last = .carriageReturn && j = .lineFeed
  else
    [.extending, .joiner, .spacing].contains j || e.last = .leading || joinsSyllable e.last j ||
      (e.last = .joiner && e.afterPicture && j = .picture) || (e.halfFlag && j = .flag)

/-- The cluster with the next character. -/
def push (e : Ending) (j : Joint) : Ending :=
  let staysPicture := e.afterPicture && e.last != .joiner && [.extending, .joiner].contains j
  ⟨j, j = .picture || staysPicture, j = .flag && !e.halfFlag⟩

end Ending

/-- The lengths of the clusters of what is left of a text, given the cluster under way and its length. -/
def lengthsFrom (e : Ending) (length : Nat) : List Char → List Nat
  | [] => [length]
  | c :: rest =>
    let j := joint c
    if e.joins j then lengthsFrom (e.push j) (length + 1) rest
    else length :: lengthsFrom (.ofFirst j) 1 rest

/-- The lengths of the clusters of a text. -/
def lengths : List Char → List Nat
  | [] => []
  | c :: rest => lengthsFrom (.ofFirst (joint c)) 1 rest

/-- The clusters of what is left of a text cover it and the cluster under way. -/
theorem sum_lengthsFrom (e : Ending) (length : Nat) (text : List Char) :
    (lengthsFrom e length text).foldr (· + ·) 0 = length + text.length := by
  induction text generalizing e length with
  | nil => simp [lengthsFrom]
  | cons c rest ih =>
    simp only [lengthsFrom]
    split <;> simp [ih] <;> omega

/-- The clusters of a text cover it. -/
theorem sum_lengths (text : List Char) : (lengths text).foldr (· + ·) 0 = text.length := by
  cases text with
  | nil => rfl
  | cons c rest => simp [lengths, sum_lengthsFrom, Nat.add_comm]

end Cluster

end PromptLoop
