/-! Configuration documents: a tree of tables. A table is opened by a header, implied by a longer
header, made by a key of several parts, or written between braces, and this decides what may still
be added to it. -/
namespace SqlEmit.Toml

inductive TableKind where
  /-- Opened by a header of its own. -/
  | opened
  /-- On the way to a table with a header. -/
  | implied
  /-- On the way to the value of a key with several parts. -/
  | dotted
  /-- Written between braces, with all it has. -/
  | closed
  deriving DecidableEq

inductive Node where
  | text (value : String)
  | integer (value : Int)
  | bool (value : Bool)
  | real
  | moment
  | array (items : List Node)
  | table (kind : TableKind) (entries : List (String × Node))
  /-- Tables under one repeated header. -/
  | tables (items : List (List (String × Node)))

abbrev Entries := List (String × Node)

/-- Arrays and tables without contents. -/
def Node.isEmpty : Node → Bool
  | .array items => items.isEmpty
  | .table _ entries => entries.isEmpty
  | .tables items => items.isEmpty
  | _ => false

namespace Entries

def put (entries : Entries) (name : String) (node : Node) : Entries :=
  entries.map fun entry => if entry.1 = name then (name, node) else entry

/-- Edits the table at the end of a path. Tables that are missing on the way are made of the kind
`fresh`; of several tables under one header the last is meant. Nothing is added between braces,
and a key of several parts does not lead into a table with a header. -/
def editAt (fresh : TableKind) (edit : TableKind → Entries → Option Entries) :
    List String → TableKind → Entries → Option Entries
  | [], kind, entries => edit kind entries
  | name :: path, _, entries =>
    match entries.lookup name with
    | none => do return entries ++ [(name, .table fresh (← editAt fresh edit path fresh []))]
    | some (.table kind inner) =>
      if kind = .closed ∨ (fresh = .dotted ∧ kind = .opened) then none
      else do return entries.put name (.table kind (← editAt fresh edit path kind inner))
    | some (.tables items) => do
      let inner ← editAt fresh edit path .opened (← items.getLast?)
      return entries.put name (.tables (items.dropLast ++ [inner]))
    | some _ => none

def add (entries : Entries) (name : String) (node : Node) : Option Entries :=
  if (entries.lookup name).isSome then none else some (entries ++ [(name, node)])

/-- Gives a key a value. The last table on the way of a key with several parts must come from such
a key too. -/
def assign (key : List String) (node : Node) (kind : TableKind) (entries : Entries) : Option Entries := do
  let name ← key.getLast?
  let path := key.dropLast
  editAt .dotted (fun last inner => if path ≠ [] ∧ last ≠ .dotted then none else inner.add name node)
    path kind entries

/-- Opens the table of a header. It may be implied already, but not more. -/
def openTable (name : String) (entries : Entries) : Option Entries :=
  match entries.lookup name with
  | none => some (entries ++ [(name, .table .opened [])])
  | some (.table .implied inner) => some (entries.put name (.table .opened inner))
  | some _ => none

/-- Adds a table to those under a repeated header. -/
def addTable (name : String) (entries : Entries) : Option Entries :=
  match entries.lookup name with
  | none => some (entries ++ [(name, .tables [[]])])
  | some (.tables items) => some (entries.put name (.tables (items ++ [[]])))
  | some _ => none

end Entries

/-- One line of a document, or several that belong together. -/
inductive Line where
  | header (path : List String)
  | repeatedHeader (path : List String)
  | assignment (key : List String) (node : Node)

structure Document where
  entries : Entries
  /-- The table that assignments go to. -/
  current : List String

namespace Document

def empty : Document := ⟨[], []⟩

def openAt (doc : Document) (path : List String) (edit : String → Entries → Option Entries) :
    Option Document := do
  let name ← path.getLast?
  return ⟨← doc.entries.editAt .implied (fun _ => edit name) path.dropLast .opened, path⟩

def add (doc : Document) : Line → Option Document
  | .header path => doc.openAt path Entries.openTable
  | .repeatedHeader path => doc.openAt path Entries.addTable
  | .assignment key node => do
    return { doc with
      entries := ← doc.entries.editAt .implied (Entries.assign key node) doc.current .opened }

end Document

end SqlEmit.Toml
