import DualServer.Net.Address
import DualServer.Text.Bytes

/-!
The text forms of addresses. Version 4 is four decimal octets without leading zeros. Version 6 is
eight groups of up to four hexadecimal digits, `::` for a run of zero groups, and optionally a
version 4 address in place of the last two groups; it is printed with the longest run of at least
two zero groups shortened, the first of equals. A socket address puts brackets around version 6.

Each reader takes the longest front it understands and gives back the rest.
-/

namespace DualServer.Net

open DualServer.Text

/-- A reader's result: the value and the characters after it. -/
abbrev Reading (α : Type) := Option (α × List Char)

def digitOf? (base : Nat) (c : Char) : Option Nat :=
  (hexValue? c).filter (· < base)

def digitsFront (base : Nat) : List Char → List Nat × List Char
  | [] => ([], [])
  | c :: rest =>
    match digitOf? base c with
    | some d => let (ds, after) := digitsFront base rest; (d :: ds, after)
    | none => ([], c :: rest)

def numberOf (base : Nat) (ds : List Nat) : Nat := ds.foldl (fun n d => n * base + d) 0

/-- A decimal octet: one to three digits, no leading zero, at most 255. -/
def readOctet (cs : List Char) : Reading Nat :=
  let (ds, rest) := digitsFront 10 cs
  let value := numberOf 10 ds
  if ds.length = 0 ∨ 3 < ds.length ∨ (ds.head? = some 0 ∧ ds.length ≠ 1) ∨ 255 < value then none
  else some (value, rest)

def readGroup (cs : List Char) : Reading Nat :=
  let (ds, rest) := digitsFront 16 cs
  if ds.length = 0 ∨ 4 < ds.length then none else some (numberOf 16 ds, rest)

def readMark (mark : Char) : List Char → Reading Unit
  | c :: rest => if c = mark then some ((), rest) else none
  | [] => none

def readV4 (cs : List Char) : Option (List Nat × List Char) := do
  let (a, cs) ← readOctet cs
  let (_, cs) ← readMark '.' cs
  let (b, cs) ← readOctet cs
  let (_, cs) ← readMark '.' cs
  let (c, cs) ← readOctet cs
  let (_, cs) ← readMark '.' cs
  let (d, cs) ← readOctet cs
  return ([a, b, c, d], cs)

/-- What stands before an item: a colon, except before the first. -/
def afterColon (first : Bool) (cs : List Char) : Option (List Char) :=
  if first then some cs else (readMark ':' cs).map (·.2)

/-- Up to `room` groups between colons, the last two possibly written as a version 4 address. The
flag tells whether they were. -/
def readGroups (room : Nat) (first : Bool) (cs : List Char) : List Nat × Bool × List Char :=
  match room with
  | 0 => ([], false, cs)
  | room + 1 =>
    match (if room = 0 then none else (afterColon first cs).bind readV4) with
    | some ([a, b, c, d], rest) => ([a * 256 + b, c * 256 + d], true, rest)
    | _ =>
      match (afterColon first cs).bind readGroup with
      | none => ([], false, cs)
      | some (group, rest) =>
        let (groups, embedded, rest) := readGroups room false rest
        (group :: groups, embedded, rest)

def readV6 (cs : List Char) : Reading (List Nat) :=
  let (front, embedded, rest) := readGroups 8 true cs
  if front.length = 8 then some (front, rest)
  else if embedded then none
  else match rest with
    | ':' :: ':' :: rest =>
      let (back, _, rest) := readGroups (7 - front.length) true rest
      some (front ++ List.replicate (8 - front.length - back.length) 0 ++ back, rest)
    | _ => none

def complete {α : Type} : Reading α → Option α
  | some (value, []) => some value
  | _ => none

namespace IpAddress

def ofChars? (cs : List Char) : Option IpAddress :=
  match readV4 cs with
  | some (octets, []) => some (v4 (ofOctets octets))
  | _ => (complete (readV6 cs)).map fun groups => v6 (ofGroups groups)

def ofText? (s : String) : Option IpAddress := ofChars? s.toList

def v4Chars (bits : BitVec 32) : List Char :=
  ['.'].intercalate ((octets bits).map (Nat.toDigits 10))

def zeroRun (groups : List Nat) : Nat := (groups.takeWhile (· == 0)).length

/-- The first longest run of zero groups: where it starts and how long it is. -/
def longestZeroRun (groups : List Nat) : Nat × Nat :=
  (List.range groups.length).foldl (fun best start =>
    let run := zeroRun (groups.drop start)
    if best.2 < run then (start, run) else best) (0, 0)

def groupChars (groups : List Nat) : List Char := [':'].intercalate (groups.map (Nat.toDigits 16))

/-- Groups with the longest run of at least two zeros shortened to `::`. -/
def shortGroupChars (groups : List Nat) : List Char :=
  let (start, run) := longestZeroRun groups
  if 1 < run then
    groupChars (groups.take start) ++ [':', ':'] ++ groupChars (groups.drop (start + run))
  else groupChars groups

/-- The text of a version 6 address; a mapped version 4 address keeps its own form. -/
def v6Chars (bits : BitVec 128) : List Char :=
  match mappedV4? bits with
  | some inner => "::ffff:".toList ++ v4Chars inner
  | none => shortGroupChars (groups bits)

def toChars : IpAddress → List Char
  | v4 bits => v4Chars bits
  | v6 bits => v6Chars bits

def text (a : IpAddress) : String := String.ofList a.toChars

end IpAddress

/-- A port: decimal digits, at most 65535; leading zeros are allowed. -/
def readPort (cs : List Char) : Option (Fin 65536) :=
  let (ds, rest) := digitsFront 10 cs
  let value := numberOf 10 ds
  if ds.length = 0 ∨ rest ≠ [] then none
  else if h : value < 65536 then some ⟨value, h⟩ else none

/-- The scope of a version 6 socket address, `%` and a number below 2^32, read over. -/
def skipScope (cs : List Char) : Option (List Char) :=
  match cs with
  | '%' :: rest =>
    let (ds, after) := digitsFront 10 rest
    if ds.length = 0 ∨ 4294967295 < numberOf 10 ds then none else some after
  | _ => some cs

namespace SocketAddress

def ofChars? (cs : List Char) : Option SocketAddress :=
  match cs with
  | '[' :: rest => do
    let (groups, rest) ← readV6 rest
    let rest ← skipScope rest
    let (_, rest) ← readMark ']' rest
    let (_, rest) ← readMark ':' rest
    let port ← readPort rest
    return ⟨.v6 (IpAddress.ofGroups groups), port.val, port.isLt⟩
  | _ => do
    let (octets, rest) ← readV4 cs
    let (_, rest) ← readMark ':' rest
    let port ← readPort rest
    return ⟨.v4 (IpAddress.ofOctets octets), port.val, port.isLt⟩

def ofText? (s : String) : Option SocketAddress := ofChars? s.toList

def text (a : SocketAddress) : String :=
  match a.ip with
  | .v4 _ => s!"{a.ip.text}:{a.port}"
  | .v6 _ => s!"[{a.ip.text}]:{a.port}"

end SocketAddress

end DualServer.Net
