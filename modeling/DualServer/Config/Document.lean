/-!
Trees of plain data, the common shape of the formats that settings are written in. A section of
settings is a table, an array read by position, or a date, which counts as a table without any of
the keys.
-/

namespace DualServer.Config

/-- A tree of plain data. Numbers with a fraction and dates carry nothing that settings use. -/
inductive Document
  | null
  | bool (value : Bool)
  | int (value : Int)
  | float
  | date
  | text (value : String)
  | array (items : List Document)
  | table (entries : List (String × Document))
  deriving Inhabited, Repr

namespace Document

/-- How a section finds a key: by its name, or by the position it has in its section. -/
inductive Section
  | keyed (entries : List (String × Document))
  | listed (items : List Document)

/-- The document as a section, if it is of a kind that can be one. -/
def section? : Document → Option Section
  | table entries => some (.keyed entries)
  | array items => some (.listed items)
  | date => some (.keyed [])
  | _ => none

def Section.find? (s : Section) (position : Nat) (key : String) : Option Document :=
  match s with
  | .keyed entries => (entries.find? (·.1 == key)).map (·.2)
  | .listed items => items[position]?

/-- The value of a key by its reader, or the default where the key is missing. -/
def Section.get {α : Type} (s : Section) (position : Nat) (key : String) (default : α)
    (read : Document → Option α) : Option α :=
  match s.find? position key with
  | none => some default
  | some document => read document

def bool? : Document → Option Bool
  | bool value => some value
  | _ => none

def text? : Document → Option String
  | text value => some value
  | _ => none

def texts? : Document → Option (List String)
  | array items => items.mapM text?
  | _ => none

def below? (limit : Nat) : Document → Option Nat
  | int (.ofNat n) => if n < limit then some n else none
  | _ => none

def uint16? (d : Document) : Option UInt16 := (d.below? UInt16.size).map UInt16.ofNat

def uint32? (d : Document) : Option UInt32 := (d.below? UInt32.size).map UInt32.ofNat

def uint64? (d : Document) : Option UInt64 := (d.below? UInt64.size).map UInt64.ofNat

def optional? {α : Type} (read : Document → Option α) : Document → Option (Option α)
  | null => some none
  | d => (read d).map some

end Document

end DualServer.Config
