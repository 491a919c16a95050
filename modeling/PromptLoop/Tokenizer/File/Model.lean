import PromptLoop.Json.Entry
import PromptLoop.Tokenizer.PieceModel

/-!
# Piece models in files

A piece model is an object that says of what kind it is. If it does not, it is of the first kind that its
entries suffice for. Entries that a kind does not know are passed over.

Merges are given as pairs of pieces, or as strings with a space between the two pieces; a string may also be
a note on the version of the list. All the pieces that merges speak of have to be there.

Some files ask for merges to be left out at random. Such merges are never carried out here, which is the
only way that does not depend on chance if all of them are to be left out.
-/

namespace PromptLoop

namespace PieceModel

/-! ### Tables -/

/-- Pieces with their tokens, the last entries first. -/
def table? (json : Json) : Option PieceTable := do
  let pieces ← (← json.entries?).mapM fun (piece, v) => v.word?.map (piece, ·)
  return pieces.reverse

/-! ### Merges -/

/-- A merge that is given as a pair of pieces. -/
def mergePair? (json : Json) : Option (List Char × List Char) := do
  let (left, right) ← json.pair?
  return (← left.chars?, ← right.chars?)

/-- A merge that is given as a string. -/
def mergeLine? (line : List Char) : Option (List Char × List Char) :=
  match (String.ofList line).splitOn " " with
  | [left, right] => some (left.toList, right.toList)
  | _ => none

/-- Whether a string is a note on the version of the list of merges. -/
def isVersionNote (line : List Char) : Bool := "#version".toList.isPrefixOf line

/-- The merges as pairs of pieces. -/
def mergePairs? (json : Json) : Option (List (List Char × List Char)) :=
  match json.each? mergePair? with
  | some pairs => some pairs
  | none => do
    let lines ← json.each? Json.chars?
    (lines.filter fun line => !isVersionNote line).mapM mergeLine?

/-- A merge of two pieces, the second of which starts with a mark of some length. -/
def merge? (table : PieceTable) (markLength : Nat) (pair : List Char × List Char) : Option Merge := do
  return ⟨← table.token? (String.ofList pair.1), ← table.token? (String.ofList pair.2),
    ← table.token? (String.ofList (pair.1 ++ pair.2.drop markLength))⟩

/-- Whether merges are left out at random, given the chance. A chance that is none is refused. -/
def leavesOut? (chance : Option Float) : Option Bool :=
  match chance with
  | none => some false
  | some chance =>
    let p := chance.toFloat32
    if 0 ≤ p ∧ p ≤ 1 then some (p != 0) else none

/-- Pieces with merges. -/
def merging? (json : Json) : Option PieceModel := do
  let table ← json.required? "vocab" table?
  let pairs ← json.required? "merges" mergePairs?
  let leavesOut ← leavesOut? (← json.optional? "dropout" Json.double?)
  let unknown ← json.optional? "unk_token" Json.string?
  let fused ← json.optional? "fuse_unk" Json.boolean?
  let byteFallback ← json.optional? "byte_fallback" Json.boolean?
  let keepsPieces ← json.optional? "ignore_merges" Json.boolean?
  let markBefore ← json.optional? "continuing_subword_prefix" Json.chars?
  let markBehind ← json.optional? "end_of_word_suffix" Json.chars?
  let merges ← pairs.mapM (merge? table (markBefore.getD []).length)
  return .merging {
    table := table
    merges := if leavesOut then [] else merges
    unknown := unknown.map fun piece => ⟨piece, fused.getD false⟩
    byteFallback := byteFallback.getD false
    keepsPieces := keepsPieces.getD false && !leavesOut
    markBefore := markBefore.getD []
    markBehind := markBehind.getD [] }

/-! ### Other kinds -/

/-- Pieces that words are cut into. -/
def wordParts? (json : Json) : Option PieceModel := do
  let table ← json.required? "vocab" table?
  let unknown ← json.required? "unk_token" Json.string?
  let mark ← json.required? "continuing_subword_prefix" Json.chars?
  let longest ← json.required? "max_input_chars_per_word" Json.count?
  return .wordParts ⟨table, unknown, mark, longest⟩

/-- Pieces that are whole words. -/
def wholeWords? (json : Json) : Option PieceModel := do
  return .wholeWords ⟨← json.required? "vocab" table?, ← json.required? "unk_token" Json.string?⟩

/-- A piece with its score. -/
def scoredPiece? (json : Json) : Option (String × Float) := do
  let (piece, score) ← json.pair?
  return (← piece.string?, ← score.double?)

/-- Pieces with scores. -/
def scored? (json : Json) : Option PieceModel := do
  let entries ← json.required? "vocab" (Json.each? scoredPiece?)
  let unknown ← json.optional? "unk_id" Json.count?
  let byteFallback ← json.orDefault? "byte_fallback" Json.boolean? false
  if unknown.all (· < entries.length) then return .scored ⟨entries, unknown, byteFallback⟩ else none

/-- The kinds of piece models. -/
def kinds : List (String × (Json → Option PieceModel)) :=
  [("BPE", merging?), ("WordPiece", wordParts?), ("WordLevel", wholeWords?), ("Unigram", scored?)]

/-- The piece model of a value. -/
def ofJson? (json : Json) : Option PieceModel :=
  match json.occurrences "type" with
  | 0 => kinds.findSome? fun (_, read) => read json
  | 1 => do (← kinds.lookup (← json.required? "type" Json.choice?)) json
  | _ => none

end PieceModel

end PromptLoop
