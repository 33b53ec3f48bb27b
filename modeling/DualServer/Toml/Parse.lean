import DualServer.Toml.Lexical
import DualServer.Toml.Node

/-!
TOML documents: values nested up to a limit, and lines that are headers or key and value.
-/

namespace DualServer.Toml

open DualServer.Config (Document)

/-- The items of an array after its opening bracket. -/
def readItems (read : List Char → Option (Node × List Char)) (fuel : Nat) (cs : List Char) :
    Option (List Node × List Char) :=
  match fuel with
  | 0 => none
  | fuel + 1 =>
    match skipSpace (cs.length + 1) cs with
    | ']' :: rest => some ([], rest)
    | cs => do
      let (item, rest) ← read cs
      match skipSpace (rest.length + 1) rest with
      | ',' :: rest =>
        let (items, rest) ← readItems read fuel rest
        return (item :: items, rest)
      | ']' :: rest => return ([item], rest)
      | _ => none

/-- The entries of a table in braces, blanks before them skipped. -/
def readPairs (read : List Char → Option (Node × List Char)) (fuel : Nat) (entries : Entries)
    (cs : List Char) : Option (Entries × List Char) :=
  match fuel with
  | 0 => none
  | fuel + 1 => do
    let (path, key, rest) ← readKey cs
    let rest ← mark '=' rest
    let (value, rest) ← read (skipBlanks rest)
    let entries ← assign written entries path key value
    match skipBlanks rest with
    | ',' :: rest => readPairs read fuel entries rest
    | '\x7d' :: rest => return (entries, rest)
    | _ => none

def readValue (depth : Nat) (cs : List Char) : Option (Node × List Char) :=
  match cs with
  | '[' :: rest =>
    match depth with
    | 0 => none
    | depth + 1 =>
      (readItems (readValue depth) (cs.length + 1) rest).map fun (items, rest) =>
        (.array items, rest)
  | '\x7b' :: rest =>
    match depth with
    | 0 => none
    | depth + 1 =>
      match skipBlanks rest with
      | '\x7d' :: rest => some (.closed [], rest)
      | rest =>
        (readPairs (readValue depth) (cs.length + 1) [] rest).map fun (entries, rest) =>
          (.closed entries, rest)
  | 't' :: 'r' :: 'u' :: 'e' :: rest => some (.leaf (.bool true), rest)
  | 'f' :: 'a' :: 'l' :: 's' :: 'e' :: rest => some (.leaf (.bool false), rest)
  | c :: _ =>
    if c = '\x22' || c = '\x27' then
      (readString cs).map fun (text, rest) => (.leaf (.text (String.ofList text)), rest)
    else
      (readNumber cs).map fun (number, rest) =>
        (.leaf (match number with
          | .int value => .int value
          | .float => .float
          | .date => .date), rest)
  | [] => none

structure Reader where
  root : Entries := []
  header : List String := []

/-- The end of a header: its closing bracket or brackets, and the end of the line. -/
def closeHeader (marks cs : List Char) : Option (List Char) :=
  (marks.foldlM (fun cs c => mark c cs) cs).bind finishLine

def readLine (r : Reader) (cs : List Char) : Option (Reader × List Char) :=
  match cs with
  | '#' :: _ => (finishLine cs).map (r, ·)
  | '\n' :: rest => some (r, rest)
  | '\r' :: rest => (mark '\n' rest).map (r, ·)
  | '[' :: '[' :: rest => do
    let (path, key, rest) ← readKey rest
    let rest ← closeHeader [']', ']'] rest
    let header := path ++ [key]
    let root ← openElement r.root header
    return ({ root, header }, rest)
  | '[' :: rest => do
    let (path, key, rest) ← readKey rest
    let rest ← closeHeader [']'] rest
    let header := path ++ [key]
    let root ← openTable r.root header
    return ({ root, header }, rest)
  | cs => do
    let (path, key, rest) ← readKey cs
    let rest ← mark '=' rest
    let (value, rest) ← readValue depthLimit (skipBlanks rest)
    let rest ← finishLine rest
    let root ← assignBelow r.root r.header path key value
    return ({ r with root }, rest)

def readLines (fuel : Nat) (r : Reader) (cs : List Char) : Option Reader :=
  match fuel with
  | 0 => none
  | fuel + 1 =>
    match skipBlanks cs with
    | [] => some r
    | cs => do
      let (r, rest) ← readLine r cs
      readLines fuel r rest

/-- The data of a TOML text; a byte order mark in front is passed over. -/
def parse? (s : String) : Option Document :=
  let cs := match s.toList with
    | '\uFEFF' :: rest => rest
    | cs => cs
  (readLines (cs.length + 1) {} cs).map fun r => .table (documentEntries r.root)

end DualServer.Toml
