import DualServer.Basic
import DualServer.Url.Host

/-!
Which texts are absolute URLs, and the host such a URL has. The special schemes take any number of
slashes before their host and need one; `file` may do without; other schemes have a host only after
two slashes.
-/

namespace DualServer.Url

open DualServer.Text

inductive SchemeKind
  | special
  | file
  | other
  deriving DecidableEq, Repr

def SchemeKind.ofName (name : String) : SchemeKind :=
  if name == "file" then .file
  else if ["http", "https", "ws", "wss", "ftp"].contains name then .special
  else .other

/-- The scheme before the first colon, in lower case, and what follows. -/
def splitScheme (cs : List Char) : Option (String × List Char) := do
  let (front, rest) ← splitFirst ':' cs
  let first ← front.head?
  if first.isAlpha && front.all (fun c => c.isAlphanum || "+-.".toList.contains c) then
    some (lowerAscii (String.ofList front), rest)
  else none

def endsAuthority (kind : SchemeKind) (c : Char) : Bool :=
  c = '/' || c = '?' || c = '#' || (kind ≠ .other && c = '\\')

def afterLastAt (cs : List Char) : Option (List Char × List Char) :=
  let host := (cs.reverse.takeWhile (· ≠ '@')).reverse
  if host.length = cs.length then none else some (cs.take (cs.length - host.length - 1), host)

/-- The characters of a host, up to a colon outside brackets, and the rest from that colon on. -/
def hostFront (inside : Bool) : List Char → List Char × List Char
  | [] => ([], [])
  | c :: rest =>
    if c = ':' && !inside then ([], c :: rest)
    else
      let within := c = '[' || (c ≠ ']' && inside)
      let (host, after) := hostFront within rest
      (c :: host, after)

/-- Whether the text after the host is empty or a colon with a port, possibly empty, up to 65535. -/
def isPortPart : List Char → Bool
  | [] => true
  | ':' :: digits => digits.all Char.isDigit &&
      Net.numberOf 10 (digits.map fun c => c.toNat - 48) < 65536
  | _ => false

def authorityHost? (kind : SchemeKind) (cs : List Char) : Option Url := do
  let authority := cs.takeWhile fun c => !endsAuthority kind c
  let after := cs.drop authority.length
  let (user, rest) := match afterLastAt authority with
    | none => (none, authority)
    | some (user, rest) => (some user, rest)
  if user = some [] && rest.isEmpty && !after.isEmpty then none
  let (hostChars, port) := hostFront false rest
  let host ← if kind = .special then specialHost? hostChars else opaqueHost? hostChars
  let credentials := user.any fun cs => cs ≠ [] && cs ≠ [':']
  if host.isEmpty && (!port.isEmpty || credentials) then none
  if isPortPart port then
    some ⟨if host.isEmpty then none else some (String.ofList host)⟩
  else none

/-- A drive letter at the front, which is part of a path and no host. -/
def isDrive : List Char → Bool
  | [c, d] => c.isAlpha && (d = ':' || d = '|')
  | _ => false

/-- The host of a `file` URL after its scheme. -/
def fileHost? (cs : List Char) : Option Url :=
  let slash (c : Char) : Bool := c = '/' || c = '\\'
  match cs with
  | a :: b :: rest =>
    if slash a && slash b then
      let host := rest.takeWhile fun c => !endsAuthority .file c
      if host.isEmpty || isDrive host then some ⟨none⟩
      else do
        let host ← specialHost? host
        some ⟨if host = "localhost".toList then none else some (String.ofList host)⟩
    else some ⟨none⟩
  | _ => some ⟨none⟩

/-- The characters without controls and blanks at the ends, and without tabs and line ends. -/
def tidy (cs : List Char) : List Char :=
  let trim (cs : List Char) := cs.dropWhile (·.toNat ≤ 0x20)
  (trim (trim cs).reverse).reverse.filter fun c => c ≠ '\t' && c ≠ '\n' && c ≠ '\r'

def parse? (s : String) : Option Url := do
  let (scheme, rest) ← splitScheme (tidy s.toList)
  match SchemeKind.ofName scheme with
  | .special => authorityHost? .special (rest.dropWhile fun c => c = '/' || c = '\\')
  | .file => fileHost? rest
  | .other => match rest with
    | '/' :: '/' :: rest => authorityHost? .other rest
    | _ => some ⟨none⟩

/-- The reader that the program runs with. Of the rules for host names in other scripts it has the
mapping and the encoding, but none for joiners, for bidirectional text or for composition. -/
instance : UrlReader := ⟨parse?⟩

end DualServer.Url
