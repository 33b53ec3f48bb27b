import DualServer.Net.Address.Text
import DualServer.Text.Printable
import DualServer.Text.Split
import DualServer.Url.Mapping
import DualServer.Url.Punycode

/-!
Hosts of URLs. A host in brackets is a version 6 address. Any other host of a special scheme has its
percent escapes undone and its labels mapped and encoded in ASCII; if its last label is a number it
has to be a version 4 address in one of the loose forms. Other schemes keep the host as it is.
-/

namespace DualServer.Url

open DualServer.Text DualServer.Net

/-- The bytes of a text with each `%` and two hexadecimal digits replaced by that byte. -/
def percentDecode : List Char → Bytes
  | '%' :: a :: b :: rest =>
    match hexValue? a, hexValue? b with
    | some high, some low => UInt8.ofNat (16 * high + low) :: percentDecode rest
    | _, _ => 0x25 :: percentDecode (a :: b :: rest)
  | c :: rest => utf8 (String.singleton c) ++ percentDecode rest
  | [] => []

def isDenied (c : Char) : Bool :=
  c.toNat ≤ 0x20 || c.toNat == 0x7F || "%#/:<>?@[\\]^`\x7b|\x7d".toList.contains c

/-- A label that may stand for itself: mapped, visible, and not led by a combining character. -/
def isLabel (cs : List Char) : Bool :=
  cs.all (fun c => !isHidden c && c ≠ '\uFFFD' && mapChar c == [c]) && !(cs.head?.any isExtending)

def labelToAscii? (cs : List Char) : Option (List Char) :=
  match dropFront? "xn--".toList cs with
  | some body => do
    let decoded ← Punycode.decode? body
    if decoded.all (·.toNat < 128) || !isLabel decoded then none else some cs
  | none =>
    if cs.all (·.toNat < 128) then (if cs.any isDenied then none else some cs)
    else if !isLabel cs || cs.any isDenied then none
    else some ("xn--".toList ++ Punycode.encode cs)

def domainToAscii? (cs : List Char) : Option (List Char) := do
  let mapped := (cs.flatMap mapChar).map fun c => if c = '\u3002' then '.' else c
  let labels ← (splitAll '.' mapped).mapM labelToAscii?
  return ['.'].intercalate labels

/-- A part of a loose version 4 address: `none` for no number, `some none` for one too large. -/
def looseNumber? (cs : List Char) : Option (Option Nat) :=
  let (base, digits) := match cs with
    | '0' :: 'x' :: rest => (16, rest)
    | '0' :: 'X' :: rest => (16, rest)
    | '0' :: c :: rest => (8, c :: rest)
    | _ => (10, cs)
  if cs.isEmpty then none
  else match digits.mapM (digitOf? base) with
    | none => none
    | some ds => let n := numberOf base ds; some (if n < UInt32.size then some n else none)

def endsInNumber (labels : List (List Char)) : Bool :=
  let last := match labels.reverse with
    | [] :: before :: _ => some before
    | [[]] => none
    | last :: _ => some last
    | [] => none
  match last with
  | none => false
  | some cs => (!cs.isEmpty && cs.all Char.isDigit) || (looseNumber? cs).isSome

/-- The version 4 address of one to four loose numbers; the last fills the remaining octets. -/
def looseV4? (labels : List (List Char)) : Option (BitVec 32) := do
  let labels := if labels.getLast? = some [] then labels.dropLast else labels
  if 4 < labels.length then none
  let numbers ← labels.mapM fun label => (looseNumber? label).join
  let last ← numbers.getLast?
  let leading := numbers.dropLast
  if leading.any (255 < ·) || Nat.pow 256 (4 - leading.length) ≤ last then none
  else
    let high := leading.foldl (fun value n => value * 256 + n) 0
    some (BitVec.ofNat 32 (high * Nat.pow 256 (4 - leading.length) + last))

def v6Host (cs : List Char) : Option (List Char) :=
  (complete (readV6 cs)).map fun groups => '[' :: IpAddress.shortGroupChars groups ++ [']']

def bracketedHost? (cs : List Char) : Option (List Char) :=
  if cs.getLast? = some ']' then v6Host cs.dropLast else none

def specialHost? : List Char → Option (List Char)
  | '[' :: rest => bracketedHost? rest
  | cs => do
    let decoded ← decodeChars? (percentDecode cs)
    let ascii ← domainToAscii? decoded
    if ascii.isEmpty then none
    else if endsInNumber (splitAll '.' ascii) then
      (looseV4? (splitAll '.' ascii)).map IpAddress.v4Chars
    else some ascii

def opaqueHost? : List Char → Option (List Char)
  | '[' :: rest => bracketedHost? rest
  | cs =>
    if cs.any fun c => c.toNat = 0 || "\t\n\r #/:<>?@[\\]^|".toList.contains c then none
    else some cs

end DualServer.Url
