import DualServer.Config.Document

/-!
Tables while a TOML document is being read. A table remembers how it came about, because that
decides what may still be added: one that only a longer header mentioned is implicit, one made by a
dotted key is dotted as well, one written in braces is closed. `assign` adds a value under a dotted
key, `openTable` and `openElement` do what the two kinds of header ask for.
-/

namespace DualServer.Toml

open DualServer.Config (Document)

structure Origin where
  implicit : Bool
  dotted : Bool
  deriving DecidableEq, Repr

inductive Node
  | leaf (value : Document)
  | array (items : List Node)
  | closed (entries : List (String × Node))
  | table (origin : Origin) (entries : List (String × Node))
  | tables (elements : List Node)

abbrev Entries := List (String × Node)

mutual

def Node.document : Node → Document
  | .leaf value => value
  | .array items => .array (documents items)
  | .closed entries => .table (documentEntries entries)
  | .table _ entries => .table (documentEntries entries)
  | .tables elements => .array (documents elements)

def documents : List Node → List Document
  | [] => []
  | node :: rest => node.document :: documents rest

def documentEntries : List (String × Node) → List (String × Document)
  | [] => []
  | (key, node) :: rest => (key, node.document) :: documentEntries rest

end

namespace Entries

/-- The entries with the node at `key` replaced, or put at the end where there was none. -/
def alter (key : String) (f : Option Node → Option Node) : Entries → Option Entries
  | [] => (f none).map fun node => [(key, node)]
  | (k, node) :: rest =>
    if k = key then (f (some node)).map fun node => (k, node) :: rest
    else (alter key f rest).map ((k, node) :: ·)

def get? (entries : Entries) (key : String) : Option Node :=
  (entries.find? (·.1 == key)).map (·.2)

/-- The entries with one more; the key has to be new. -/
def insertNew (entries : Entries) (key : String) (node : Node) : Option Entries :=
  entries.alter key fun
    | none => some node
    | some _ => none

end Entries

def alterLast (f : Node → Option Node) (nodes : List Node) : Option (List Node) :=
  match nodes.getLast? with
  | none => none
  | some last => (f last).map fun node => nodes.dropLast ++ [node]

/-- Adds a value below a table of the given origin, under the dotted key `path` and `key`. Only
tables made by dotted keys may be entered, and a plain key only goes to a table that is not one. -/
def assignFrom (dottedKey : Bool) (origin : Origin) (entries : Entries) (path : List String)
    (key : String) (value : Node) : Option Entries :=
  match path with
  | [] => if origin.dotted = dottedKey then entries.insertNew key value else none
  | step :: path =>
    entries.alter step fun
      | none => (assignFrom dottedKey ⟨true, true⟩ [] path key value).map (.table ⟨true, true⟩)
      | some (.table inner below) =>
        if inner.implicit then (assignFrom dottedKey inner below path key value).map (.table inner)
        else none
      | some (.tables elements) =>
        let inside : Node → Option Node
          | .table inner below =>
            (assignFrom dottedKey inner below path key value).map (.table inner)
          | _ => none
        (alterLast inside elements).map .tables
      | some _ => none

def assign (origin : Origin) (entries : Entries) (path : List String) (key : String)
    (value : Node) : Option Entries :=
  assignFrom (!path.isEmpty) origin entries path key value

/-- Changes the table at a path, making implicit tables on the way; an array of tables stands for
its last element. -/
def alterAt (origin : Origin) (entries : Entries) (path : List String)
    (f : Origin → Entries → Option (Origin × Entries)) : Option (Origin × Entries) :=
  match path with
  | [] => f origin entries
  | step :: path =>
    let inside : Node → Option Node
      | .table inner below =>
        (alterAt inner below path f).map fun (inner, below) => .table inner below
      | _ => none
    (entries.alter step fun
      | none => inside (.table ⟨true, false⟩ [])
      | some (.tables elements) => (alterLast inside elements).map .tables
      | some node => inside node).map fun entries => (origin, entries)

def written : Origin := ⟨false, false⟩

/-- A header for a table: it is new, or was only mentioned by longer headers. -/
def openTable (root : Entries) (path : List String) : Option Entries :=
  match path.getLast? with
  | none => none
  | some key =>
    (alterAt written root path.dropLast fun origin entries =>
      (entries.alter key fun
        | none => some (.table written [])
        | some (.table inner below) =>
          if inner.implicit && !inner.dotted then some (.table written below) else none
        | some _ => none).map fun entries => (origin, entries)).map (·.2)

def openElement (root : Entries) (path : List String) : Option Entries :=
  match path.getLast? with
  | none => none
  | some key =>
    (alterAt written root path.dropLast fun origin entries =>
      (entries.alter key fun
        | none => some (.tables [.table written []])
        | some (.tables elements) => some (.tables (elements ++ [.table written []]))
        | some _ => none).map fun entries => (origin, entries)).map (·.2)

def assignBelow (root : Entries) (header path : List String) (key : String) (value : Node) :
    Option Entries :=
  (alterAt written root header fun origin entries =>
    (assign origin entries path key value).map fun entries => (origin, entries)).map (·.2)

end DualServer.Toml
