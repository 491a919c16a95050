import PromptLoop.Json.Entry
import PromptLoop.Text.Base64
import PromptLoop.Text.Expression.Reader
import PromptLoop.Tokenizer.Boundary
import PromptLoop.Tokenizer.Rendering

/-!
# Steps in files

Steps of respelling, of finding boundaries and of rendering are objects that say of what kind they are; a
list of steps is an object too, and may be nested. A few kinds are also known by their entries alone.
-/

namespace PromptLoop

/-! ### Parts of steps -/

/-- The kind that an object says it is of. -/
def Json.kind? (json : Json) : Option String := json.required? "type" Json.choice?

/-- A pattern: a text or a regular expression. -/
def Pattern.ofJson? (json : Json) : Option Pattern :=
  match json.choiceWith? with
  | some ("String", .string cs) => some (.text cs)
  | some ("Regex", .string cs) => (Expression.read? (String.ofList cs)).map .expression
  | _ => none

/-- What becomes of matches that a text is split at. -/
def Splitting.ofJson? (json : Json) : Option Splitting := do
  [("Removed", .removed), ("Isolated", .isolated), ("MergedWithPrevious", .withPrevious),
    ("MergedWithNext", .withNext), ("Contiguous", .contiguous)].lookup (← json.choice?)

/-- When a mark for a space is put before a passage. -/
def Marking.ofJson? (json : Json) : Option Marking := do
  [("first", .first), ("never", .never), ("always", .always)].lookup (← json.choice?)

/-- A mark for spaces, when it is put before a passage, and whether passages are split before it. -/
def spaceMark? (json : Json) : Option (Char × Marking × Bool) := do
  let mark ← json.required? "replacement" Json.char?
  let marking ← json.orDefault? "prepend_scheme" Marking.ofJson? .always
  let marks ← json.optional? "add_prefix_space" Json.boolean?
  let splits ← json.optional? "split" Json.boolean?
  let _ ← json.optional? "str_rep" Json.string?
  if marks = some false ∧ marking ≠ .never then none else return (mark, marking, splits.getD true)

/-- Whether passages start with a space and whether they are cut into words before their bytes are shown. -/
def byteSteps? (json : Json) : Option (Bool × Bool) := do
  let startsWithSpace ← json.required? "add_prefix_space" Json.boolean?
  let _ ← json.required? "trim_offsets" Json.boolean?
  return (startsWithSpace, ← json.orDefault? "use_regex" Json.boolean? true)

/-- A pattern and what its matches are changed to. -/
def replacement? (json : Json) : Option (Pattern × List Char) := do
  return (← json.required? "pattern" Pattern.ofJson?, ← json.required? "content" Json.chars?)

/-- The steps of a list of steps under some key. -/
def stepsUnder? {σ : Type} (key : String) (read : Json → Option (List σ)) (json : Json) : Option (List σ) :=
  (json.required? key (Json.each? read)).map List.flatten

/-! ### Respelling -/

namespace Respelling

/-- The steps that make texts plain: hidden characters, ideographs, marks and capitals. -/
def plain? (json : Json) : Option Respelling := do
  let clean ← json.required? "clean_text" Json.boolean?
  let ideographs ← json.required? "handle_chinese_chars" Json.boolean?
  let marks ← json.optional? "strip_accents" Json.boolean?
  let lower ← json.required? "lowercase" Json.boolean?
  return (if clean then [.clean] else []) ++ (if ideographs then [.spaceIdeographs] else []) ++
    (if marks.getD lower then [.normalForm ⟨false, false⟩, .dropNonspacing] else []) ++
    (if lower then [.lowercase] else [])

/-- A step that trims. -/
def trim? (json : Json) : Option Respelling := do
  return [.trim (← json.required? "strip_left" Json.boolean?) (← json.required? "strip_right" Json.boolean?)]

/-- A step that respells by a compiled map. -/
def mapped? (json : Json) : Option Respelling := do
  let text ← json.required? "precompiled_charsmap" Json.chars?
  return [.mapped (← CharacterMap.ofBytes? (← Base64.read? text))]

/-- A step that replaces. -/
def replace? (json : Json) : Option Respelling := do
  let (pattern, content) ← replacement? json
  return [.replace pattern content]

/-- A step that puts characters before a text. -/
def prepend? (json : Json) : Option Respelling := do return [.prepend (← json.required? "prepend" Json.chars?)]

/-- The kinds of single steps. -/
def kinds : List (String × (Json → Option Respelling)) :=
  [("BertNormalizer", plain?), ("Strip", trim?), ("StripAccents", fun _ => some [.dropMarks]),
    ("NFC", fun _ => some [.normalForm ⟨false, true⟩]), ("NFD", fun _ => some [.normalForm ⟨false, false⟩]),
    ("NFKC", fun _ => some [.normalForm ⟨true, true⟩]), ("NFKD", fun _ => some [.normalForm ⟨true, false⟩]),
    ("Lowercase", fun _ => some [.lowercase]), ("Nmt", fun _ => some [.plainSpaces]),
    ("Precompiled", mapped?), ("Replace", replace?), ("Prepend", prepend?),
    ("ByteLevel", fun _ => some [.bytes])]

/-- The steps of a value. The number bounds how deep lists of steps are nested. -/
def read? : Nat → Json → Option Respelling
  | 0, _ => none
  | depth + 1, json =>
    let steps := stepsUnder? "normalizers" (read? depth)
    match json.kind?, json.kind?.bind fun kind => kinds.lookup kind with
    | some "Sequence", _ => steps json
    | _, some read => read json
    | _, none => [plain?, trim?, steps, mapped?, replace?, prepend?].findSome? fun read => read json

/-- The steps of a value. -/
def ofJson? (json : Json) : Option Respelling := read? Json.depthLimit json

end Respelling

/-! ### Boundaries -/

namespace Boundaries

/-- Splits at single characters of a set. -/
def atEach (set : CharSet) (splitting : Splitting) : BoundaryStep :=
  .split (BoundaryStep.single set) false splitting

/-- A step that shows bytes. -/
def bytes? (json : Json) : Option Boundaries := do
  let (startsWithSpace, cutsWords) ← byteSteps? json
  return [.bytes startsWithSpace cutsWords]

/-- A step that splits at a character. -/
def delimiter? (json : Json) : Option Boundaries := do
  return [atEach (.one (← json.required? "delimiter" Json.char?)) .removed]

/-- A step that marks spaces. -/
def marks? (json : Json) : Option Boundaries := do
  let (mark, marking, splits) ← spaceMark? json
  return [.marks mark marking splits]

/-- A step that splits at a pattern. -/
def split? (json : Json) : Option Boundaries := do
  let pattern ← json.required? "pattern" Pattern.ofJson?
  let splitting ← json.required? "behavior" Splitting.ofJson?
  return [.split pattern (← json.required? "invert" Json.boolean?) splitting]

/-- A step that splits at punctuation marks. -/
def punctuation? (json : Json) : Option Boundaries := do
  return [atEach BoundaryStep.punctuation (← json.orDefault? "behavior" Splitting.ofJson? .isolated)]

/-- A step that splits at digits. -/
def digits? (json : Json) : Option Boundaries := do
  let single ← json.required? "individual_digits" Json.boolean?
  return [atEach (.group .number) (if single then .isolated else .contiguous)]

/-- A step that cuts into passages of a length. -/
def lengths? (json : Json) : Option Boundaries := do return [.lengths (← json.orDefault? "length" Json.count? 5)]

/-- The kinds of single steps. -/
def kinds : List (String × (Json → Option Boundaries)) :=
  [("BertPreTokenizer", fun _ => some [atEach .blank .removed, atEach BoundaryStep.punctuation .isolated]),
    ("ByteLevel", bytes?), ("CharDelimiterSplit", delimiter?), ("Metaspace", marks?),
    ("Whitespace", fun _ => some [.split (.expression BoundaryStep.wordOrMarks) true .removed]),
    ("WhitespaceSplit", fun _ => some [atEach .blank .removed]), ("Split", split?),
    ("Punctuation", punctuation?), ("Digits", digits?), ("UnicodeScripts", fun _ => some [.scripts]),
    ("FixedLength", lengths?)]

/-- The steps of a value. The number bounds how deep lists of steps are nested. -/
def read? : Nat → Json → Option Boundaries
  | 0, _ => none
  | depth + 1, json => do
    let kind ← json.kind?
    if kind = "Sequence" then stepsUnder? "pretokenizers" (read? depth) json
    else (← kinds.lookup kind) json

/-- The steps of a value. -/
def ofJson? (json : Json) : Option Boundaries := read? Json.depthLimit json

end Boundaries

/-! ### Rendering -/

namespace Rendering

/-- A step that deals with marks for the ends of words. -/
def endMark? (json : Json) : Option (List RenderingStep) := do
  return [.endMark (← json.required? "suffix" Json.chars?)]

/-- A step that reads characters as bytes. -/
def bytes? (json : Json) : Option (List RenderingStep) := (byteSteps? json).map fun _ => [.bytes]

/-- A step that joins the parts of words. -/
def joinMark? (json : Json) : Option (List RenderingStep) := do
  return [.joinMark (← json.required? "prefix" Json.chars?) (← json.required? "cleanup" Json.boolean?)]

/-- A step that shows marks for spaces. -/
def spaces? (json : Json) : Option (List RenderingStep) := do
  let (mark, marking, _) ← spaceMark? json
  return [.spaceMark mark (marking = .never)]

/-- A step that leaves out repetitions. -/
def collapse? (json : Json) : Option (List RenderingStep) := do
  return [.collapse (← json.required? "pad_token" Json.chars?)
    (← json.required? "word_delimiter_token" Json.chars?) (← json.required? "cleanup" Json.boolean?)]

/-- A step that replaces. -/
def replace? (json : Json) : Option (List RenderingStep) := do
  let (pattern, content) ← replacement? json
  return [.replace pattern content]

/-- A step that takes characters off the ends of pieces. -/
def strip? (json : Json) : Option (List RenderingStep) := do
  return [.strip (← json.required? "content" Json.char?) (← json.required? "start" Json.count?)
    (← json.required? "stop" Json.count?)]

/-- The kinds of single steps. -/
def kinds : List (String × (Json → Option (List RenderingStep))) :=
  [("BPEDecoder", endMark?), ("ByteLevel", bytes?), ("WordPiece", joinMark?), ("Metaspace", spaces?),
    ("CTC", collapse?), ("Replace", replace?), ("Fuse", fun _ => some [.fuse]), ("Strip", strip?),
    ("ByteFallback", fun _ => some [.byteFallback])]

/-- The kinds that are known by their entries, in order. -/
def known : List (Json → Option (List RenderingStep)) := [endMark?, joinMark?, collapse?, replace?, strip?]

/-- The steps of a value. The number bounds how deep lists of steps are nested. -/
def read? : Nat → Json → Option (List RenderingStep)
  | 0, _ => none
  | depth + 1, json =>
    match json.kind?, json.kind?.bind fun kind => kinds.lookup kind with
    | some "Sequence", _ => stepsUnder? "decoders" (read? depth) json
    | _, some read => read json
    | _, none => known.findSome? fun read => read json

/-- The rendering of a value. -/
def ofJson? (json : Json) : Option Rendering := (read? Json.depthLimit json).map some

end Rendering

end PromptLoop
