import PromptLoop.Number.Rounding
import PromptLoop.Toml.Moment

/-!
# TOML values and tables

A TOML document is a table, given piece by piece: headers open tables, and assignments put values at
paths. What may still be added to a table depends on how it came about, so tables remember their origin.

* A header opens a table once. It may open a table that so far was only implied by longer headers.
* A path with dots makes the tables along it, and may add to tables that such paths have made.
* An inline table is complete.
* A key is assigned once.

A header in double brackets, for a table in an array of tables, is refused.
-/

namespace PromptLoop

/-- How a table came about. -/
inductive TableOrigin where
  /-- A header opened it. -/
  | header
  /-- A longer header implied it. -/
  | implied
  /-- A path with dots made it. -/
  | dotted
  /-- It was written as a value. -/
  | inline
  deriving DecidableEq, Repr

/-- A TOML value. -/
inductive Toml where
  /-- A string. -/
  | string (text : List Char)
  /-- A whole number. -/
  | integer (n : Int)
  /-- A number with a fraction or an exponent, or a special one, as the bits of a double precision
  number. -/
  | float (bits : UInt64)
  /-- A truth value. -/
  | boolean (b : Bool)
  /-- A date or a time. -/
  | moment (m : Moment)
  /-- An array. -/
  | array (items : List Toml)
  /-- A table, with the keys in the order of their appearance. -/
  | table (origin : TableOrigin) (entries : List (List Char × Toml))

namespace Toml

/-- A key. -/
abbrev Key := List Char

/-- The entries of a table. -/
abbrev Entries := List (Key × Toml)

/-- The entries with another value for a key that is there. -/
def replace (key : Key) (value : Toml) (entries : Entries) : Entries :=
  entries.map fun (k, v) => if k = key then (k, value) else (k, v)

/-- Puts a value at a path below a table. -/
def assign (value : Toml) : List Key → Entries → Option Entries
  | [], _ => none
  | [key], entries =>
    match entries.lookup key with
    | some _ => none
    | none => some (entries ++ [(key, value)])
  | key :: path, entries =>
    match entries.lookup key with
    | some (.table .dotted below) =>
      (assign value path below).map fun below => replace key (.table .dotted below) entries
    | some _ => none
    | none => (assign value path []).map fun below => entries ++ [(key, .table .dotted below)]

/-- Puts a value at a path below the table that a header opened. -/
def assignUnder (path : List Key) (value : Toml) : List Key → Entries → Option Entries
  | [], entries => assign value path entries
  | key :: header, entries =>
    match entries.lookup key with
    | some (.table origin below) =>
      (assignUnder path value header below).map fun below =>
        replace key (.table origin below) entries
    | _ => none

/-- Opens a table by a header. -/
def openTable : List Key → Entries → Option Entries
  | [], _ => none
  | [key], entries =>
    match entries.lookup key with
    | some (.table .implied below) => some (replace key (.table .header below) entries)
    | some _ => none
    | none => some (entries ++ [(key, .table .header [])])
  | key :: path, entries =>
    match entries.lookup key with
    | some (.table .inline _) => none
    | some (.table origin below) =>
      (openTable path below).map fun below => replace key (.table origin below) entries
    | some _ => none
    | none => (openTable path []).map fun below => entries ++ [(key, .table .implied below)]

end Toml

/-- A piece of a TOML document. -/
inductive TomlStatement where
  /-- A header. -/
  | header (path : List Toml.Key)
  /-- An assignment. -/
  | assignment (path : List Toml.Key) (value : Toml)

namespace Toml

/-- Carries out the statements of a document below a header. -/
def build : List Key → List TomlStatement → Entries → Option Entries
  | _, [], entries => some entries
  | _, .header path :: rest, entries => (openTable path entries).bind (build path rest)
  | header, .assignment path value :: rest, entries =>
    (assignUnder path value header entries).bind (build header rest)

/-- The entries of an inline table. -/
def inlineEntries (assignments : List (List Key × Toml)) : Option Entries :=
  assignments.foldlM (fun entries (path, value) => assign value path entries) []

/-- The entries of a document. -/
def ofStatements (statements : List TomlStatement) : Option Entries := build [] statements []

end Toml

end PromptLoop
