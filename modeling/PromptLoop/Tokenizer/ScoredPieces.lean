import PromptLoop.Tokenizer.PieceTable

/-!
# Pieces with scores

Every piece has a score, and a word is cut into the pieces whose scores have the greatest sum. A character
that is no piece counts as unknown, with a score that is lower than any; a cut that is found later takes
the place of an earlier one only if its sum is greater. Unknown characters in a row are joined. Where they
are no piece even so, the pieces for their bytes stand for them, or the token for unknown characters.

The best cut of all beginnings of a word is found from left to right: `Cut` says how the best cut up to
some place ends.
-/

namespace PromptLoop

/-- Pieces with scores. -/
structure ScoredPieces where
  /-- The pieces with their scores, in the order of their tokens. Of two entries for one piece the later
  counts. -/
  entries : List (String × Float)
  /-- The token for what is unknown. -/
  unknown : Option Token
  /-- Whether unknown characters fall back on the pieces for their bytes. -/
  byteFallback : Bool

namespace ScoredPieces

/-- The tokens of the pieces. -/
def table (s : ScoredPieces) : PieceTable := .ofPieces (s.entries.map (·.1))

/-- The piece of a token. -/
def piece? (s : ScoredPieces) (token : Token) : Option String := (s.entries[token]?).map (·.1)

/-- How much lower than all others the score of what is unknown is. -/
def penalty : Float := 10

/-- The lowest score. -/
def lowest (s : ScoredPieces) : Float :=
  s.entries.foldl (fun least (_, score) => if score < least then score else least) (1.0 / 0.0)

/-- The score of what is unknown. -/
def unknownScore (s : ScoredPieces) : Float := s.lowest - penalty

/-! ### The best cut -/

/-- How a cut of the beginning of a word ends. -/
structure Cut where
  /-- The sum of the scores. -/
  total : Float
  /-- The number of characters of the last part. -/
  length : Nat
  /-- The token of the last part. -/
  token : Token

/-- Whether a cut takes the place of another one up to the same place. -/
def Cut.improves (c : Cut) (known : Option Cut) : Bool :=
  match known with
  | some k => k.total < c.total
  | none => true

/-- A piece that a text starts with, by its length, as token and score. -/
def partOf? (s : ScoredPieces) (text : List Char) (length : Nat) : Option (Token × Float) :=
  (s.table.token? (String.ofList (text.take length))).bind fun token =>
    (s.entries[token]?).map fun (_, score) => (token, score)

/-- The best cut up to the end of a part, given that before the part, the text from the part on and the
best cut that is known. -/
def relax (s : ScoredPieces) (total : Float) (text : List Char) (length : Nat) (known : Option Cut) :
    Except EncodeFault (Option Cut) :=
  let improved (c : Cut) : Option Cut := if c.improves known then some c else known
  match s.partOf? text length with
  | some (token, score) => .ok (improved ⟨score + total, length, token⟩)
  | none =>
    if length = 1 then
      match s.unknown with
      | some token => .ok (improved ⟨s.unknownScore + total, 1, token⟩)
      | none => if (Cut.mk (s.unknownScore + total) 1 0).improves known then .error .noUnknownToken else .ok known
    else .ok known

/-- The best cuts up to each place of what is left of a word, given the sum of the best cut before it and the
best cuts that are known. -/
def bestCuts (s : ScoredPieces) : Float → List Char → List (Option Cut) → Except EncodeFault (List Cut)
  | _, [], _ => .ok []
  | total, c :: rest, known => do
    let cuts ← (known.zipIdx 1).mapM fun (cut, length) => s.relax total (c :: rest) length cut
    match cuts with
    | some cut :: others => return cut :: (← s.bestCuts cut.total rest others)
    | _ => .ok []

/-- The lengths and tokens of the parts of a word, the last first, given the best cuts up to each place, the
last first. The number is that of the characters of a part that has been counted. -/
def partsOf : Nat → List Cut → List (Nat × Token)
  | _, [] => []
  | skip + 1, _ :: cuts => partsOf skip cuts
  | 0, cut :: cuts => (cut.length, cut.token) :: partsOf (cut.length - 1) cuts

/-- Joins parts with one token in a row. -/
def joinAlike (token : Option Token) : List (Nat × Token) → List (Nat × Token)
  | [] => []
  | (length, t) :: rest =>
    match joinAlike token rest with
    | (more, u) :: others =>
      if some t = token ∧ t = u then (length + more, t) :: others else (length, t) :: (more, u) :: others
    | [] => [(length, t)]

/-- The parts of a word. -/
def parts (s : ScoredPieces) (word : List Char) : Except EncodeFault (List (List Char)) := do
  let cuts ← s.bestCuts 0 word (List.replicate word.length none)
  let lengths := (joinAlike s.unknown (partsOf 0 cuts.reverse).reverse).map (·.1)
  return cutBy lengths word
where
  /-- Cuts a list into parts of some lengths. -/
  cutBy : List Nat → List Char → List (List Char)
    | [], _ => []
    | length :: rest, cs => cs.take length :: cutBy rest (cs.drop length)

/-! ### Tokens -/

/-- The tokens of a part. -/
def encodePart (s : ScoredPieces) (part : List Char) : Except EncodeFault (List Token) :=
  match s.table.token? (String.ofList part), if s.byteFallback then s.table.byteTokens? part else none,
    s.unknown with
  | some token, _, _ => .ok [token]
  | none, some tokens, _ => .ok tokens
  | none, none, some token => .ok [token]
  | none, none, none => .error .noUnknownToken

/-- The tokens of a word. -/
def encode (s : ScoredPieces) (word : List Char) : Except EncodeFault (List Token) := do
  let parts ← s.parts word
  return (← parts.mapM s.encodePart).flatten

end ScoredPieces

end PromptLoop
