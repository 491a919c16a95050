import PromptLoop.Text.Category
import PromptLoop.Text.Passage
import PromptLoop.Tokenizer.PieceModel

/-!
# Added pieces

Some pieces are added to those of a model: they are recognised in a text before anything else, the leftmost
first and of several the longest, and some of them are special, which means that they are never shown. A
piece that the model has keeps its token; the others get the tokens after those of the model.

An added piece may ask to be a word of its own, may take the blanks before or after it, and may be
recognised only in what the other added pieces leave of a text, after that has been respelled.
-/

namespace PromptLoop

/-- A piece that is recognised before anything else. -/
structure AddedPiece where
  /-- The piece. -/
  text : String
  /-- Whether it is never shown. -/
  special : Bool
  /-- Whether it is recognised only in what the other added pieces leave of a text. -/
  late : Bool
  /-- Whether it is recognised only where no part of a word is beside it. -/
  asWord : Bool
  /-- Whether it takes the blanks before it. -/
  takesBefore : Bool
  /-- Whether it takes the blanks after it. -/
  takesAfter : Bool
  deriving DecidableEq, Repr

/-- Added pieces. -/
structure AddedPieces where
  /-- The special pieces, the first of each text. -/
  special : List AddedPiece
  /-- The pieces that have been added, with their tokens. -/
  entries : List (AddedPiece × Token)
  deriving DecidableEq, Repr

namespace AddedPiece

/-- A special piece. -/
def ofSpecial (text : String) : AddedPiece := ⟨text, true, false, false, false, false⟩

end AddedPiece

namespace AddedPieces

/-! ### Looking up -/

/-- The token of a text that has been added. -/
def added? (a : AddedPieces) (text : String) : Option Token :=
  (a.entries.find? fun (p, _) => p.text == text).map (·.2)

/-- The token of a text that has been added or is a piece of the model. -/
def token? (a : AddedPieces) (model : PieceModel) (text : String) : Option Token :=
  match a.added? text with
  | some token => some token
  | none => model.token? text

/-- The added piece of a token: of several the last. -/
def piece? (a : AddedPieces) (token : Token) : Option AddedPiece :=
  (a.entries.reverse.find? fun (_, t) => t == token).map (·.1)

/-- Whether a text is never shown. -/
def isSpecial (a : AddedPieces) (text : String) : Bool := a.special.any (·.text == text)

/-! ### Adding -/

/-- Adds a special piece, unless there is one of its text. -/
def insertSpecial (pieces : List AddedPiece) (p : AddedPiece) : List AddedPiece :=
  if p.special && !p.text.isEmpty && !pieces.any (·.text == p.text) then pieces ++ [p] else pieces

/-- Adds a piece that is neither empty nor there already. What is given and kept besides is the token for the
next text that is new. -/
def insert (model : PieceModel) : AddedPieces × Token → AddedPiece → AddedPieces × Token
  | (a, next), p =>
    if p.text.isEmpty || a.entries.any (fun (q, _) => q == p) then (a, next)
    else
      match a.token? model p.text with
      | some token => ({ a with entries := a.entries ++ [(p, token)] }, next)
      | none => ({ a with entries := a.entries ++ [(p, next)] }, next + 1)

/-- Adds pieces to those of a model. -/
def ofList (model : PieceModel) (pieces : List AddedPiece) : AddedPieces :=
  (pieces.foldl (insert model) (⟨pieces.foldl insertSpecial [], []⟩, model.size)).1

/-! ### Finding -/

/-- The pieces that are looked for: the special ones, and the others in the order of their addition. -/
def wanted (a : AddedPieces) : List AddedPiece :=
  a.special ++ (a.entries.map (·.1)).filter fun p => !a.isSpecial p.text

/-- The tokens of pieces that are looked for at one stage, with their characters as they are then spelt. -/
def patterns (a : AddedPieces) (model : PieceModel) (late : Bool) (spell : List Char → List Char) :
    List (List Char × Token) :=
  (a.wanted.filter fun p => p.late = late).filterMap fun p =>
    let cs := spell p.text.toList
    if cs.isEmpty then none else (a.token? model p.text).map (cs, ·)

/-- A piece that has been found: where it starts, where it stops, and its token. -/
structure Found where
  /-- The place of the first character. -/
  start : Nat
  /-- The place after the last character. -/
  stop : Nat
  /-- The token. -/
  token : Token
  deriving DecidableEq, Repr

/-- The longer of two patterns, the first if they are of one length. -/
def longer (a b : List Char × Token) : List Char × Token := if a.1.length < b.1.length then b else a

/-- The longest pattern that a text starts with. -/
def matchAt? (patterns : List (List Char × Token)) (text : List Char) : Option (List Char × Token) :=
  match patterns.filter fun p => p.1.isPrefixOf text with
  | [] => none
  | p :: ps => some (ps.foldl longer p)

/-- The pieces in what is left of a text, given its place and the number of characters of a piece that has
been found. -/
def find (patterns : List (List Char × Token)) : Nat → Nat → List Char → List Found
  | _, _, [] => []
  | place, skip + 1, _ :: rest => find patterns (place + 1) skip rest
  | place, 0, c :: rest =>
    match matchAt? patterns (c :: rest) with
    | some (cs, token) => ⟨place, place + cs.length, token⟩ :: find patterns (place + 1) (cs.length - 1) rest
    | none => find patterns (place + 1) 0 rest

/-! ### Cutting -/

/-- A part of a text. -/
inductive Segment where
  /-- An added piece. -/
  | piece (token : Token)
  /-- Characters without an added piece. -/
  | plain (p : Passage)
  deriving DecidableEq, Repr

/-- Whether a place of a text is no part of a word. The place before the first character is none. -/
def isFree (text : List Char) (place : Nat) : Bool := !(text[place]?).any isWordPart

/-- Whether a piece that has been found is recognised. -/
def isRecognised (p : AddedPiece) (text : List Char) (f : Found) : Bool :=
  !p.asWord || ((f.start = 0 || isFree text (f.start - 1)) && isFree text f.stop)

/-- Where a piece starts together with the blanks that it takes, not before a given place. -/
def startOf (p : AddedPiece) (text : List Char) (f : Found) (least : Nat) : Nat :=
  if p.takesBefore then
    max (f.start - ((text.take f.start).reverse.takeWhile isBlank).length) least
  else f.start

/-- Where a piece stops together with the blanks that it takes. -/
def stopOf (p : AddedPiece) (text : List Char) (f : Found) : Nat :=
  if p.takesAfter then f.stop + ((text.drop f.stop).takeWhile isBlank).length else f.stop

/-- The characters from one place of a passage to another, if there are any. -/
def plainPart (p : Passage) (start stop : Nat) : List Segment :=
  if start < stop then [.plain ((p.take stop).drop start)] else []

/-- A piece from one place of a passage to another, unless another piece has taken all its characters. -/
def piecePart (token : Token) (start stop : Nat) : List Segment := if start < stop then [.piece token] else []

/-- The parts of a passage from a place on, given the pieces that have been found. -/
def cutFrom (a : AddedPieces) (p : Passage) : Nat → List Found → List Segment
  | place, [] => plainPart p place p.length
  | place, f :: found =>
    match a.piece? f.token with
    | none => a.cutFrom p place found
    | some piece =>
      if isRecognised piece p.chars f then
        let start := startOf piece p.chars f place
        let stop := stopOf piece p.chars f
        plainPart p place start ++ piecePart f.token start stop ++ a.cutFrom p stop found
      else a.cutFrom p place found

/-- Cuts a passage at the pieces among some patterns. -/
def cut (a : AddedPieces) (patterns : List (List Char × Token)) (p : Passage) : List Segment :=
  a.cutFrom p 0 (find patterns 0 0 p.chars)

end AddedPieces

end PromptLoop
