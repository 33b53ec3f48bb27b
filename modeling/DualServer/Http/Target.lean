import DualServer.Text.Split

/-!
Request targets: a path with an optional query, an absolute URI, a bare authority, or `*`. A
fragment is cut off. What the rest of the server looks at is the path.
-/

namespace DualServer.Http

open DualServer.Text

def isPathChar (c : Char) : Bool :=
  let n := c.toNat
  n == 0x21 || n == 0x22 || (0x24 ≤ n && n ≤ 0x3B) || n == 0x3D || (0x40 ≤ n && n ≤ 0x5F) ||
    (0x61 ≤ n && n ≤ 0x7E) || n ≥ 0x7F

def isQueryChar (c : Char) : Bool :=
  let n := c.toNat
  n == 0x21 || (0x24 ≤ n && n ≤ 0x3B) || n == 0x3D || n ≥ 0x3F

/-- The characters before the first of the given marks, and the rest from that mark on. -/
def untilAny (marks : List Char) (cs : List Char) : List Char × List Char :=
  (cs.takeWhile (!marks.contains ·), cs.dropWhile (!marks.contains ·))

/-- The path of a path with query, if both hold allowed characters only. -/
def pathOf? (cs : List Char) : Option (List Char) :=
  let (path, rest) := untilAny ['?', '#'] cs
  let query := match rest with
    | '?' :: query => (untilAny ['#'] query).1
    | _ => []
  if path.all isPathChar && query.all isQueryChar then some path else none

structure AuthorityScan where
  colons : Nat := 0
  percent : Bool := false
  opened : Bool := false
  closed : Bool := false
  endsAtSign : Bool := false

def isAuthorityChar (c : Char) : Bool := c.isAlphanum || "!$&'()*+,-.:;=@[]_~".toList.contains c

def AuthorityScan.step (s : AuthorityScan) (c : Char) : Option AuthorityScan :=
  let s := { s with endsAtSign := false }
  if c = ':' then if 8 ≤ s.colons then none else some { s with colons := s.colons + 1 }
  else if c = '[' then if s.percent || s.opened then none else some { s with opened := true }
  else if c = ']' then
    if !s.opened || s.closed then none
    else some { s with closed := true, colons := 0, percent := false }
  else if c = '@' then some { s with colons := 0, percent := false, endsAtSign := true }
  else if c = '%' then some { s with percent := true }
  else if isAuthorityChar c then some s
  else none

def isAuthority (cs : List Char) : Bool :=
  match cs.foldlM AuthorityScan.step {} with
  | none => false
  | some s => !cs.isEmpty && s.opened == s.closed && s.colons ≤ 1 && !s.endsAtSign && !s.percent

def schemeFront? (cs : List Char) : Option (List Char) :=
  let scheme := cs.takeWhile fun c => c.isAlphanum || "+-.".toList.contains c
  match cs.drop scheme.length with
  | ':' :: '/' :: '/' :: rest => if scheme.isEmpty || 64 < scheme.length then none else some rest
  | _ => none

/-- The path of a request target, or `none` for a text that is no target. -/
def targetPath? (s : String) : Option String :=
  if s.utf8ByteSize = 0 || 65534 < s.utf8ByteSize then none
  else match s.toList with
    | ['*'] => some "*"
    | '/' :: rest => (pathOf? ('/' :: rest)).map String.ofList
    | cs => match schemeFront? cs with
      | none => if isAuthority cs then some "" else none
      | some rest =>
        let (authority, after) := untilAny ['/', '?', '#'] rest
        if isAuthority authority then
          (pathOf? after).map fun path => if path.isEmpty then "/" else String.ofList path
        else none

end DualServer.Http
