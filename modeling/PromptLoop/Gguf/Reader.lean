import PromptLoop.Gguf.TensorKind
import PromptLoop.Number.Bytes
import PromptLoop.Gguf.Value
import PromptLoop.Reader
import PromptLoop.Text.Lossy

/-!
# Reading GGUF files

A GGUF file starts with a mark and a version. Then come metadata, values under keys, and descriptions of
tensors, each with its name, shape and kind and the place of its elements; the elements follow, from the
next multiple of an alignment on. Numbers have their lowest byte first. The first version counts with
four bytes where the later ones have eight.
-/

namespace PromptLoop

/-- The description of a tensor. -/
structure TensorInfo where
  /-- The name. -/
  name : String
  /-- The length in each dimension, that of the rows last. -/
  shape : List Nat
  /-- How the elements are stored. -/
  kind : TensorKind
  /-- Where the elements start, counted from the start of all elements. -/
  place : Nat
  deriving DecidableEq, Repr

/-- The contents of a GGUF file. -/
structure GgufFile where
  /-- The metadata. Of two values of one key the later counts. -/
  metadata : List (String × GgufValue)
  /-- The tensors. Of two tensors of one name the later counts. -/
  tensors : List TensorInfo
  /-- The bytes of the file. -/
  bytes : List UInt8
  /-- Where the elements start. -/
  start : Nat

namespace GgufFile

/-! ### Numbers and texts -/

/-- The number of bytes of a count, by version. -/
def countSize (version : Nat) : Nat := if version = 1 then 4 else 8

/-- Reads a text, without the zero bytes at its end. -/
def text (version : Nat) : Reader UInt8 String := fun bytes => do
  let (length, rest) ← Reader.word (countSize version) bytes
  let (content, rest) ← Reader.take length rest
  return (Lossy.text (content.reverse.dropWhile (· = 0)).reverse, rest)

/-! ### Metadata -/

/-- Reads a value of a kind. The number bounds how deep arrays are nested. -/
def value (version : Nat) : Nat → GgufKind → Reader UInt8 GgufValue
  | _, .unsigned width, bytes =>
    (Reader.word width.bytes bytes).map fun (n, rest) => (.unsigned width n, rest)
  | _, .signed width, bytes =>
    (Reader.word width.bytes bytes).map fun (n, rest) => (.signed width (withSign width.bytes n), rest)
  | _, .single, bytes => (Reader.word 4 bytes).map fun (n, rest) => (.single ⟨UInt32.ofNat n⟩, rest)
  | _, .double, bytes => (Reader.word 8 bytes).map fun (n, rest) => (.double (UInt64.ofNat n), rest)
  | _, .boolean, bytes => do
    let (n, rest) ← Reader.word 1 bytes
    if n = 0 then return (.boolean false, rest)
    else if n = 1 then return (.boolean true, rest)
    else none
  | _, .text, bytes => (text version bytes).map fun (s, rest) => (.text s, rest)
  | 0, .array, _ => none
  | depth + 1, .array, bytes => do
    let (code, rest) ← Reader.word 4 bytes
    let kind ← GgufKind.ofCode? code
    let (count, rest) ← Reader.word (countSize version) rest
    let (items, rest) ← Reader.times (value version depth kind) count [] rest
    return (.array items, rest)

/-- Reads a key and its value. -/
def entry (version : Nat) : Reader UInt8 (String × GgufValue) := fun bytes => do
  let (key, rest) ← text version bytes
  let (code, rest) ← Reader.word 4 rest
  let kind ← GgufKind.ofCode? code
  let (v, rest) ← value version rest.length kind rest
  return ((key, v), rest)

/-! ### Tensors -/

/-- Reads the description of a tensor. The lengths are stored with that of the rows first. -/
def tensorInfo (version : Nat) : Reader UInt8 TensorInfo := fun bytes => do
  let (name, rest) ← text version bytes
  let (dimensions, rest) ← Reader.word 4 rest
  let (lengths, rest) ← Reader.times (Reader.word (countSize version)) dimensions [] rest
  let (code, rest) ← Reader.word 4 rest
  let kind ← TensorKind.ofCode? code
  let (place, rest) ← Reader.word 8 rest
  return (⟨name, lengths.reverse, kind, place⟩, rest)

/-- The last value of a key. -/
def valueOf? (metadata : List (String × GgufValue)) (key : String) : Option GgufValue :=
  metadata.reverse.lookup key

/-- The alignment of the elements unless the metadata give one. -/
def usualAlignment : Nat := 32

/-- The alignment of the elements. -/
def alignment (metadata : List (String × GgufValue)) : Nat :=
  match valueOf? metadata "general.alignment" with
  | some (.unsigned .eight _) => usualAlignment
  | some (.unsigned _ n) => n
  | some (.signed .eight _) => usualAlignment
  | some (.signed _ n) => if 0 ≤ n then n.toNat else usualAlignment
  | _ => usualAlignment

/-- The next multiple of an alignment. -/
def aligned (place alignment : Nat) : Nat := (place + alignment - 1) / alignment * alignment

/-! ### Files -/

/-- The two forms of the mark that a file starts with. -/
def marks : List Nat := [0x46554747, 0x47475546]

/-- Reads a file. -/
def read? (bytes : List UInt8) : Option GgufFile := do
  let (mark, rest) ← Reader.word 4 bytes
  let (version, rest) ← Reader.word 4 rest
  if marks.contains mark ∧ 1 ≤ version ∧ version ≤ 3 then
    let (tensorCount, rest) ← Reader.word (countSize version) rest
    let (entryCount, rest) ← Reader.word (countSize version) rest
    let (metadata, rest) ← Reader.times (entry version) entryCount [] rest
    let (tensors, rest) ← Reader.times (tensorInfo version) tensorCount [] rest
    let start := aligned (bytes.length - rest.length) (alignment metadata)
    return ⟨metadata, tensors, bytes, start⟩
  else none

/-- The value of a key. -/
def value? (g : GgufFile) (key : String) : Option GgufValue := valueOf? g.metadata key

/-- The tensor of a name. -/
def tensor? (g : GgufFile) (name : String) : Option TensorInfo :=
  g.tensors.reverse.find? (·.name == name)

end GgufFile

end PromptLoop
