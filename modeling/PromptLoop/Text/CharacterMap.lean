import PromptLoop.Console.Line
import PromptLoop.Number.Bytes
import PromptLoop.Reader
import PromptLoop.Text.Cluster
import PromptLoop.Text.Passage

/-!
# Compiled maps of characters

A map of characters says what some clusters and characters are respelled to. It is compiled into a tree that
is walked byte by byte and a row of texts that end with a zero byte. The nodes of the tree are words in one
array: from a node, the next byte of a text leads to the node whose place is the exclusive or of the byte
with where the node points; that node belongs to the byte if it is labelled with it. Where a text may end,
one more node holds the place of what it is respelled to.

The shortest beginning of a cluster that the map knows decides, even if the cluster is longer.
-/

namespace PromptLoop

/-- A map of characters. -/
structure CharacterMap where
  /-- The nodes of the tree. -/
  nodes : Array Nat
  /-- The bytes of the texts. -/
  texts : List UInt8
  deriving DecidableEq, Repr

namespace CharacterMap

/-! ### Nodes -/

/-- Whether a text may end at a node. -/
def isEnd (node : Nat) : Bool := (node >>> 8) % 2 = 1

/-- Where a node points. A bit says whether the number is counted in units of 256. -/
def target (node : Nat) : Nat := (node >>> 10) * (if (node >>> 9) % 2 = 1 then 1 <<< 8 else 1)

/-- The byte that a node is labelled with; no byte if it holds a place. -/
def label (node : Nat) : Nat := node % (1 <<< 8) + (node >>> 31) % 2 * (1 <<< 31)

/-- The place that a node holds. -/
def place (node : Nat) : Nat := node % (1 <<< 31)

/-- The place of what the shortest beginning of some bytes is respelled to, given where the latest node
points. -/
def find? (m : CharacterMap) : Nat → List UInt8 → Option Nat
  | _, [] => none
  | points, b :: rest => do
    let here := points ^^^ b.toNat
    let node ← m.nodes[here]?
    if b = 0 ∨ label node ≠ b.toNat then none
    else
      let points := here ^^^ target node
      if isEnd node then (m.nodes[points]?).map place else m.find? points rest

/-! ### Texts -/

/-- The text at a place of the row of texts. -/
def textAt (m : CharacterMap) (place : Nat) : List Char :=
  ((Line.text? ((m.texts.drop place).takeWhile (· != 0))).map String.toList).getD []

/-- What the shortest beginning of a text that the map knows is respelled to. -/
def respelled? (m : CharacterMap) (text : List Char) : Option (List Char) := do
  let root ← m.nodes[0]?
  return m.textAt (← m.find? (target root) (Line.bytes (String.ofList text)))

/-! ### Passages -/

/-- The number of bytes from which on a cluster is respelled by its characters only. -/
def longCluster : Nat := 6

/-- Characters in the place of others. Those that are more stem from where the last one does. -/
def inPlaceOf : Nat → Passage → List Char → Passage
  | _, _, [] => []
  | place, [], c :: cs => ⟨c, place⟩ :: inPlaceOf place [] cs
  | _, a :: p, c :: cs => ⟨c, a.origin⟩ :: inPlaceOf a.origin p cs

/-- A passage respelled as a whole, if the map knows a beginning of it. -/
def whole? (m : CharacterMap) (p : Passage) : Option Passage := (m.respelled? p.chars).map (inPlaceOf 0 p)

/-- A cluster respelled as a whole, or else character by character. -/
def applyCluster (m : CharacterMap) (cluster : Passage) : Passage :=
  let isShort := (Line.bytes (String.ofList cluster.chars)).length < longCluster
  match if isShort then m.whole? cluster else none with
  | some p => p
  | none => cluster.flatMap fun a => (m.whole? [a]).getD [a]

/-- Respells a passage. -/
def apply (m : CharacterMap) (p : Passage) : Passage :=
  (keptParts ((Cluster.lengths p.chars).map fun length => (length, true)) p).flatMap m.applyCluster

/-! ### Reading -/

/-- The map that bytes denote: the number of bytes of the tree, the tree, and the texts. -/
def ofBytes? (bytes : List UInt8) : Option CharacterMap := do
  let (size, rest) ← Reader.word 4 bytes
  let (nodes, texts) ← Reader.times (Reader.word 4) (size / 4) [] rest
  let _ ← Line.text? texts
  return ⟨nodes.toArray, texts⟩

end CharacterMap

end PromptLoop
