import PromptLoop.Engine.Model
import PromptLoop.Tokenizer.Trained

/-!
# Files

A `FileSystem` says what a path leads to, and that is all that a program knows of its files. Some files
are given by what they hold, a tokenizer or a model, rather than by their bytes.

A `FileTree` is a file system that lists files by path below a working directory; every place that such
a path goes through is a directory. Paths are followed part by part, as an operating system does: a dot
stays, two dots go back, and only a directory can be gone through. Two dots can also leave the working
directory; what is outside of it has no name that leads back.
-/

namespace PromptLoop

/-- What a file of model weights holds. -/
structure WeightsFile where
  /-- A key that its description lacks. -/
  lacking : Option String
  /-- The model, unless the file describes one without having its weights. -/
  table : Option TableModel
  deriving DecidableEq, Repr

/-- What a file holds. -/
inductive FileContent where
  /-- Plain bytes. -/
  | bytes (data : List UInt8)
  /-- A tokenizer. -/
  | tokenizer (vocabulary : Vocabulary)
  /-- Model weights. -/
  | weights (file : WeightsFile)
  deriving DecidableEq, Repr

/-- What a path leads to. -/
inductive FileNode where
  /-- A file. -/
  | file (content : FileContent)
  /-- A directory. -/
  | directory
  deriving DecidableEq, Repr

/-- Why a path leads nowhere. -/
inductive FileError where
  /-- A part of the path does not exist. -/
  | notFound
  /-- A part of the path that is gone through is a file. -/
  | notDirectory
  /-- The path or a part of it is longer than any that can exist. -/
  | nameTooLong
  /-- The path has a character that no path can have. -/
  | nulCharacter
  /-- The operating system has another reason. -/
  | refused (reason : String)
  deriving DecidableEq, Repr

/-- The text of a file error. -/
def FileError.message : FileError → String
  | notFound => "No such file or directory (os error 2)"
  | notDirectory => "Not a directory (os error 20)"
  | nameTooLong => "File name too long (os error 36)"
  | nulCharacter => "file name contained an unexpected NUL byte"
  | refused reason => reason

/-- The files that a program can read. -/
structure FileSystem where
  /-- What a path leads to. -/
  find : String → Except FileError FileNode

namespace FileSystem

/-- Whether a path leads anywhere. -/
def leadsAnywhere (files : FileSystem) (path : String) : Bool :=
  match files.find path with
  | .ok _ => true
  | .error _ => false

end FileSystem

/-! ### Paths -/

/-- The parts of a path. A slash at the end stands for one more part, the directory itself. -/
def pathParts (path : String) : List String :=
  let parts := (path.splitOn "/").filter fun part => !part.isEmpty
  if path.toList.getLast? = some '/' then parts ++ ["."] else parts

/-- The path of another file in the directory of a file. -/
def siblingPath (path name : String) : String :=
  (if path.startsWith "/" then "/" else "") ++ "/".intercalate ((pathParts path).dropLast ++ [name])

/-- The number of bytes that a path may have. -/
def longestPath : Nat := 4095

/-- The number of bytes that a part of a path may have. -/
def longestName : Nat := 255

/-- What is wrong with a path, wherever it might lead. -/
def pathFault? (path : String) : Option FileError :=
  if path.contains '\x00' then some .nulCharacter
  else if path.isEmpty then some .notFound
  else if longestPath < path.utf8ByteSize then some .nameTooLong
  else none

/-! ### Trees of files -/

/-- The files and directories below a working directory, each by the names that lead to it. -/
structure FileTree where
  /-- The files. -/
  files : List (List String × FileContent)
  /-- The directories. -/
  directories : List (List String)
  deriving DecidableEq, Repr

/-- Where a path has led so far. -/
inductive Place where
  /-- A directory, by the names that lead to it from the working directory. -/
  | below (names : List String)
  /-- Somewhere outside of the working directory. -/
  | outside
  deriving DecidableEq, Repr

namespace Place

/-- The directory that a directory is in. -/
def parent : Place → Place
  | below [] => outside
  | below names => below names.dropLast
  | outside => outside

end Place

namespace FileTree

/-- The names that lead to where a part of a path leads. -/
def advance (names : List String) (part : String) : List String :=
  if part = "." then names else if part = ".." then names.dropLast else names ++ [part]

/-- The places that parts of a path go through, from a directory on. -/
def placesThrough : List String → List String → List (List String)
  | _, [] | _, [_] => []
  | names, part :: rest => advance names part :: placesThrough (advance names part) rest

/-- The tree of files given by paths. Of two files with one path the later counts. -/
def ofPaths (files : List (String × FileContent)) : FileTree where
  files := files.reverse.map fun (path, content) => ((pathParts path).foldl advance [], content)
  directories := [] :: files.flatMap fun (path, _) => placesThrough [] (pathParts path)

/-- The file that names lead to. -/
def fileAt? (t : FileTree) (names : List String) : Option FileContent := t.files.lookup names

/-- Follows parts of a path from a place. -/
def follow (t : FileTree) : Place → List String → Except FileError FileNode
  | _, [] => .ok .directory
  | place, part :: rest =>
    if part = "." then t.follow place rest
    else if part = ".." then t.follow place.parent rest
    else if longestName < part.utf8ByteSize then .error .nameTooLong
    else
      match place with
      | .outside => .error .notFound
      | .below names =>
        let here := names ++ [part]
        match t.fileAt? here with
        | some content => if rest.isEmpty then .ok (.file content) else .error .notDirectory
        | none => if t.directories.contains here then t.follow (.below here) rest else .error .notFound

/-- What a path leads to. An absolute path starts outside of the tree. -/
def find (t : FileTree) (path : String) : Except FileError FileNode :=
  match pathFault? path with
  | some fault => .error fault
  | none => t.follow (if path.startsWith "/" then .outside else .below []) (pathParts path)

/-- The tree as a file system. -/
def fileSystem (t : FileTree) : FileSystem := ⟨t.find⟩

end FileTree

end PromptLoop
