import PromptLoop.Text.Category
import PromptLoop.Text.Cluster
import PromptLoop.Text.LetterCase
import PromptLoop.Text.Script
import PromptLoop.Text.Span

/-!
# Regular expressions

An expression describes texts. At a place in a text it may match in several ways, which it prefers one to
the other: `Expression.ways` lists where each way ends, the preferred first. A repetition prefers more
rounds or, if it is reluctant, fewer; a round that takes no character is the last. The match at a place is
the preferred way, which need not be the longest.
-/

namespace PromptLoop

/-! ### Sets of characters -/

/-- A set of characters. -/
inductive CharSet where
  /-- One character. -/
  | one (c : Char)
  /-- The characters from one to another. -/
  | range (first last : Char)
  /-- The characters of a group of categories. -/
  | group (g : CategoryGroup)
  /-- The characters of a category. -/
  | category (c : Category)
  /-- The characters of a script. -/
  | script (name : String)
  /-- The blank characters. -/
  | blank
  /-- The characters that are part of words. -/
  | wordPart
  /-- The characters of either of two sets. -/
  | either (a b : CharSet)
  /-- The characters of both of two sets. -/
  | both (a b : CharSet)
  /-- The characters that are not in a set. -/
  | not (a : CharSet)
  /-- The characters of a set in any letter case. -/
  | anyCase (a : CharSet)
  deriving DecidableEq, Repr

namespace CharSet

/-- The capital of an ASCII letter, or the character itself. -/
def capital (c : Char) : Char := c.toUpper

/-- Whether a set has a character. -/
def contains : CharSet → Char → Bool
  | one a, c => c = a
  | range first last, c => first ≤ c && c ≤ last
  | group g, c => isOfGroup g c
  | category k, c => Category.of c = k
  | script name, c => Script.of? c = some name
  | blank, c => isBlank c
  | wordPart, c => isWordPart c
  | either a b, c => a.contains c || b.contains c
  | both a b, c => a.contains c && b.contains c
  | not a, c => !a.contains c
  | anyCase a, c => a.contains c || a.contains (capital c) || (LetterCase.lower c).any a.contains

/-- The set without characters. -/
def none : CharSet := both (one 'a') (one 'b')

/-- The characters of any of some sets. -/
def anyOf : List CharSet → CharSet
  | [] => none
  | [a] => a
  | a :: rest => either a (anyOf rest)

end CharSet

/-! ### Expressions -/

/-- A place between two characters, or at an end of a text. -/
inductive Edge where
  /-- The start of the text. -/
  | textStart
  /-- The end of the text. -/
  | textEnd
  /-- The end of the text, or a newline that ends it. -/
  | lastLineEnd
  /-- The start of a line. -/
  | lineStart
  /-- The end of a line. -/
  | lineEnd
  /-- The start or the end of a word. -/
  | wordEdge
  /-- Any place but the start and the end of a word. -/
  | noWordEdge
  deriving DecidableEq, Repr

/-- A regular expression. -/
inductive Expression where
  /-- The empty text. -/
  | nothing
  /-- One character of a set. -/
  | oneOf (set : CharSet)
  /-- One expression after the other. -/
  | inOrder (first second : Expression)
  /-- Either expression, rather the first. -/
  | choice (first second : Expression)
  /-- A number of rounds, from a least to a most; rather few if reluctant. -/
  | rounds (body : Expression) (least : Nat) (most : Option Nat) (reluctant : Bool)
  /-- The preferred way of an expression and no other. -/
  | settled (body : Expression)
  /-- No character, where an expression matches, or does not, what comes next. -/
  | ahead (wanted : Bool) (body : Expression)
  /-- No character, where an expression matches, or does not, what comes before. -/
  | behind (wanted : Bool) (body : Expression)
  /-- No character, at an edge. -/
  | at (edge : Edge)
  /-- A cluster of characters. -/
  | cluster
  /-- An expression whose text is kept under a number. -/
  | group (number : Nat) (body : Expression)
  /-- The text that is kept under a number, perhaps in another letter case. -/
  | again (number : Nat) (anyCase : Bool)
  deriving DecidableEq, Repr

/-- A position in a text: the characters before it, the nearest first, and those after it. -/
structure Position where
  /-- What is before the place, the nearest first. -/
  before : List Char
  /-- What is after the place. -/
  after : List Char
  /-- The texts that groups have taken on the way, the latest first. -/
  kept : List (Nat × List Char)
  deriving DecidableEq, Repr

namespace Position

/-- The place at the start of a text, or after some characters. -/
def start (before after : List Char) : Position := ⟨before, after, []⟩

/-- The place after the next character, if that is of a set. -/
def pass (set : CharSet) (p : Position) : List Position :=
  match p.after with
  | c :: rest => if set.contains c then [{ p with before := c :: p.before, after := rest }] else []
  | [] => []

/-- The place after a number of characters. -/
def skip (count : Nat) (p : Position) : Position :=
  { p with before := (p.after.take count).reverse ++ p.before, after := p.after.drop count }

/-- The place between some characters and all places before it, the nearest first. -/
def backward (kept : List (Nat × List Char)) : List Char → List Char → List Position
  | [], after => [⟨[], after, kept⟩]
  | c :: before, after => ⟨c :: before, after, kept⟩ :: backward kept before (c :: after)

/-- Whether a character that need not be there is part of a word and does not only join or part letters. -/
def isInWord (c : Option Char) : Bool := c.any fun c => isWordPart c && !isWithin [(0x200c, 0x200d)] c

/-- Whether a place is at an edge. There is no line after a newline that ends the text. -/
def isAt (p : Position) : Edge → Bool
  | .textStart => p.before.isEmpty
  | .textEnd => p.after.isEmpty
  | .lastLineEnd => p.after.isEmpty || p.after = ['\n']
  | .lineStart => p.before.isEmpty || (p.before.head? = some '\n' && !p.after.isEmpty)
  | .lineEnd => p.after.head?.all (· = '\n')
  | .wordEdge => isInWord p.before.head? != isInWord p.after.head?
  | .noWordEdge => isInWord p.before.head? == isInWord p.after.head?

/-- A later place where the text between is kept under a number. -/
def keep (number : Nat) (p q : Position) : Position :=
  { q with kept := (number, p.after.take (p.after.length - q.after.length)) :: q.kept }

/-- Whether two characters are the same, perhaps in another letter case. -/
def isSame (anyCase : Bool) (a b : Char) : Bool := a = b || (anyCase && LetterCase.lower a = LetterCase.lower b)

/-- The place after a text that comes next. -/
def passText (anyCase : Bool) (text : List Char) (p : Position) : List Position :=
  let next := p.after.take text.length
  if next.length = text.length && (text.zip next).all fun (a, b) => isSame anyCase a b then [p.skip text.length]
  else []

end Position

namespace Expression

/-- The places after rounds of a step, the preferred first. The first number bounds the rounds that take a
character. -/
def afterRounds (step : Position → List Position) (reluctant : Bool) :
    Nat → Nat → Option Nat → Position → List Position
  | 0, least, _, p => if least = 0 then [p] else []
  | bound + 1, least, most, p =>
    let more := if most = some 0 then []
      else (step p).flatMap fun q =>
        if q.after.length = p.after.length then [q]
        else afterRounds step reluctant bound (least - 1) (most.map (· - 1)) q
    if 0 < least then more else if reluctant then p :: more else more ++ [p]

/-- Where the ways in which an expression matches at a place end, the preferred first. -/
def ways : Expression → Position → List Position
  | nothing, p => [p]
  | oneOf set, p => p.pass set
  | inOrder a b, p => (a.ways p).flatMap b.ways
  | choice a b, p => a.ways p ++ b.ways p
  | rounds body least most reluctant, p =>
    afterRounds body.ways reluctant (p.after.length + 1) least most p
  | settled body, p => (body.ways p).head?.toList
  | ahead wanted body, p =>
    match body.ways p with
    | [] => if wanted then [] else [p]
    | q :: _ => if wanted then [{ p with kept := q.kept }] else []
  | behind wanted body, p =>
    let matched := (Position.backward p.kept p.before p.after).any fun q =>
      (body.ways q).any fun r => r.after.length = p.after.length
    if matched = wanted then [p] else []
  | .at edge, p => if p.isAt edge then [p] else []
  | cluster, p => if p.after.isEmpty then [] else [p.skip ((Cluster.lengths p.after).headD 0)]
  | group number body, p => (body.ways p).map (p.keep number)
  | again number anyCase, p => ((p.kept.lookup number).map fun text => p.passText anyCase text).getD []

/-- The finder of the matches of an expression. -/
def finder (e : Expression) : Finder := fun before after =>
  (e.ways (.start before after)).head?.map fun p => after.length - p.after.length

/-- One expression after the other. -/
def sequence : List Expression → Expression
  | [] => nothing
  | [e] => e
  | e :: rest => inOrder e (sequence rest)

/-- Any of some expressions, rather the earlier. -/
def anyOf : List Expression → Expression
  | [] => oneOf CharSet.none
  | [e] => e
  | e :: rest => choice e (anyOf rest)

/-- The text of some characters. -/
def text (cs : List Char) : Expression := sequence (cs.map fun c => oneOf (.one c))

/-- One or more characters of a set, as many as there are. -/
def run (set : CharSet) : Expression := rounds (oneOf set) 1 none false

end Expression

/-! ### What is looked for -/

/-- What is looked for in a text. -/
inductive Pattern where
  /-- A given text. -/
  | text (cs : List Char)
  /-- The matches of an expression. -/
  | expression (e : Expression)
  deriving DecidableEq, Repr

namespace Pattern

/-- The finder of a pattern. -/
def finder : Pattern → Finder
  | text cs => fun _ after => if cs.isPrefixOf after then some cs.length else none
  | expression e => e.finder

/-- The spans of a text. -/
def spans (p : Pattern) (cs : List Char) : List Span := Span.all p.finder cs

/-- A text with other characters in the place of each match. -/
def replace (p : Pattern) (content : List Char) (cs : List Char) : List Char :=
  go (p.spans cs) cs
where
  /-- Goes through the spans of what is left of the text. -/
  go : List Span → List Char → List Char
    | [], _ => []
    | s :: rest, cs => (if s.found then content else cs.take s.length) ++ go rest (cs.drop s.length)

end Pattern

end PromptLoop
