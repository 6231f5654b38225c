import BatchedSave.Document.Basic

/-!
# Tables of TOML

How assignments and headers build up tables. A table is defined once: by its header, by dotted
keys, or by a value. A header also implies the tables on its way, which may still get a header of
their own.
-/
namespace BatchedSave.Toml

/-- How a table came to be. -/
inductive Making where
  | header | implied | dotted
  deriving DecidableEq, Repr

inductive Node where
  | value (d : Document)
  | table (made : Making) (entries : List (String × Node))
  /-- A list of tables; the last one is being filled. -/
  | tables (elements : List (List (String × Node)))

abbrev Entries := List (String × Node)

namespace Entries

/-- Puts a node in the place of an entry, or at the end. -/
def put (key : String) (node : Node) : Entries → Entries
  | [] => [(key, node)]
  | (other, found) :: rest =>
    if other == key then (key, node) :: rest else (other, found) :: put key node rest

/-- Assigns a value to a key. The tables that the key names on its way must not have a header. -/
def assign? : List String → Document → Entries → Option Entries
  | [], _, _ => none
  | [key], d, entries =>
    match entries.lookup key with
    | none => some (put key (.value d) entries)
    | some _ => none
  | key :: path, d, entries =>
    match entries.lookup key with
    | none => (assign? path d []).map fun inner => put key (.table .dotted inner) entries
    | some (.table made inner) =>
      if made = .header then none
      else (assign? path d inner).map fun inner => put key (.table made inner) entries
    | some _ => none

/-- Changes the table at the end of a path. -/
def at? (change : Entries → Option Entries) : List String → Entries → Option Entries
  | [], entries => change entries
  | key :: path, entries =>
    match entries.lookup key with
    | none => (at? change path []).map fun inner => put key (.table .implied inner) entries
    | some (.table made inner) =>
      (at? change path inner).map fun inner => put key (.table made inner) entries
    | some (.tables elements) =>
      match elements.getLast? with
      | some last =>
        (at? change path last).map fun last =>
          put key (.tables (elements.dropLast ++ [last])) entries
      | none => none
    | some (.value _) => none

/-- Defines a table by its header. -/
def define? (key : String) (entries : Entries) : Option Entries :=
  match entries.lookup key with
  | none => some (put key (.table .header []) entries)
  | some (.table .implied inner) => some (put key (.table .header inner) entries)
  | some _ => none

/-- Adds a table to a list of tables. -/
def addElement? (key : String) (entries : Entries) : Option Entries :=
  match entries.lookup key with
  | none => some (put key (.tables [[]]) entries)
  | some (.tables elements) => some (put key (.tables (elements ++ [[]])) entries)
  | some _ => none

end Entries

mutual

def Node.toDocument : Node → Document
  | .value d => d
  | .table _ entries => .record (entriesToDocument entries)
  | .tables elements => .list (elementsToDocument elements)

def entriesToDocument : List (String × Node) → List (Option String × Document)
  | [] => []
  | entry :: entries => entryToDocument entry :: entriesToDocument entries

def entryToDocument : String × Node → Option String × Document
  | (key, node) => (some key, node.toDocument)

def elementsToDocument : List (List (String × Node)) → List Document
  | [] => []
  | entries :: elements => .record (entriesToDocument entries) :: elementsToDocument elements

end

/-- One line of a document. -/
inductive Line where
  | assignment (key : List String) (value : Document)
  | header (path : List String)
  | element (path : List String)

/-- The tables read so far and the path that assignments are relative to. -/
structure Build where
  root : Entries := []
  path : List String := []

namespace Build

def add? (b : Build) : Line → Option Build
  | .assignment key value => do
    return { b with root := ← b.root.at? (Entries.assign? key value) b.path }
  | .header path => do
    return ⟨← b.root.at? (Entries.define? (← path.getLast?)) path.dropLast, path⟩
  | .element path => do
    return ⟨← b.root.at? (Entries.addElement? (← path.getLast?)) path.dropLast, path⟩

end Build

/-- The document of all lines. -/
def document? (lines : List Line) : Option Document := do
  let b ← lines.foldlM Build.add? {}
  return (Node.table .header b.root).toDocument

end BatchedSave.Toml
