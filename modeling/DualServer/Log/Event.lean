import DualServer.Text.Quoted

/-!
Log events: a level, the part of the server that speaks, a message, and named fields. A span is
kept in the same list, with its name for a message. As JSON, an entry has its fields, the message
among them, by name, and then its level.
-/

namespace DualServer.Log

open DualServer.Text

inductive Level
  | trace
  | debug
  | info
  | warn
  | error
  deriving DecidableEq, Repr

namespace Level

def name : Level → String
  | trace => "TRACE"
  | debug => "DEBUG"
  | info => "INFO"
  | warn => "WARN"
  | error => "ERROR"

def rank : Level → Nat
  | error => 1
  | warn => 2
  | info => 3
  | debug => 4
  | trace => 5

end Level

/-- The value of a field. A literal text is quoted when the log is written as text. -/
inductive FieldValue
  | shown (text : String)
  | literal (text : String)
  | number (n : Nat)
  | flag (b : Bool)
  deriving DecidableEq, Repr

inductive Kind
  | event
  | span
  deriving DecidableEq, Repr

structure Entry where
  level : Level
  source : String
  message : String
  fields : List (String × FieldValue) := []
  kind : Kind := .event
  deriving DecidableEq, Repr

def FieldValue.text : FieldValue → String
  | shown text => text
  | literal text => text
  | number n => toString n
  | flag b => if b then "true" else "false"

def FieldValue.lineText : FieldValue → String
  | literal text => quoted text
  | value => value.text

def Entry.line (e : Entry) : String :=
  let fields := e.fields.map fun (name, value) => " " ++ name ++ "=" ++ value.lineText
  e.level.name ++ " " ++ e.source ++ ": " ++ e.message ++ String.join fields

def Entry.field? (e : Entry) (name : String) : Option String :=
  (e.fields.find? (·.1 == name)).map (·.2.text)

def FieldValue.json : FieldValue → String
  | number n => toString n
  | flag b => if b then "true" else "false"
  | value => jsonString value.text

def Entry.sortedFields (e : Entry) : List (String × FieldValue) :=
  (("message", FieldValue.shown e.message) :: e.fields).mergeSort fun a b => a.1 ≤ b.1

def Entry.json (e : Entry) : String :=
  let fields := e.sortedFields.map fun (name, value) => jsonString name ++ ":" ++ value.json
  "\x7b\"fields\":\x7b" ++ String.intercalate "," fields ++ "\x7d,\"level\":" ++
    jsonString e.level.name ++ "\x7d"

end DualServer.Log
