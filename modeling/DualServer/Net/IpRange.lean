import DualServer.Net.Address.Text
import DualServer.Text.Blank
import DualServer.Text.Quoted
import DualServer.Text.Split

/-!
Ranges of internet addresses in prefix notation. A range keeps the host bits it was written with;
membership compares the leading bits under a mask, with a mapped version 6 peer compared as the
version 4 address it stands for. `maskChecked?` and `containsChecked?` say the same in arithmetic
that refuses to overflow.
-/

namespace DualServer.Net

open DualServer.Text

structure IpRange where
  network : IpAddress
  prefixLength : Nat
  prefixLength_le : prefixLength ≤ network.width
  deriving DecidableEq, Repr

structure IpRangeError where
  text : String
  deriving DecidableEq, Repr

def IpRangeError.message (e : IpRangeError) : String := "invalid IP range " ++ quoted e.text

/-- A number from decimal digits with an optional plus sign, at most `limit`. -/
def boundedNumber? (limit : Nat) (cs : List Char) : Option Nat :=
  let body := match cs with
    | '+' :: rest => rest
    | _ => cs
  let (ds, rest) := digitsFront 10 body
  let value := numberOf 10 ds
  if ds.length = 0 ∨ rest ≠ [] ∨ limit < value then none else some value

namespace IpRange

def mask (width length : Nat) : BitVec width :=
  if length = 0 then 0 else BitVec.allOnes width <<< (width - length)

/-- The mask by a shift that fails from `width` on, and a subtraction that fails below zero. -/
def maskChecked? (width length : Nat) : Option (BitVec width) :=
  if length = 0 then some 0
  else if width < length then none
  else if width ≤ width - length then none
  else some (BitVec.allOnes width <<< (width - length))

def contains (range : IpRange) (peer : IpAddress) : Bool :=
  match range.network, peer.canonical with
  | .v4 network, .v4 address =>
    network &&& mask 32 range.prefixLength == address &&& mask 32 range.prefixLength
  | .v6 network, .v6 address =>
    network &&& mask 128 range.prefixLength == address &&& mask 128 range.prefixLength
  | _, _ => false

/-- Membership in checked arithmetic, `none` where a shift or a subtraction would overflow. -/
def containsChecked? (range : IpRange) (peer : IpAddress) : Option Bool :=
  match range.network, peer.canonical with
  | .v4 network, .v4 address =>
    (maskChecked? 32 range.prefixLength).map fun m => network &&& m == address &&& m
  | .v6 network, .v6 address =>
    (maskChecked? 128 range.prefixLength).map fun m => network &&& m == address &&& m
  | _, _ => some false

/-- The range of an address part and an optional prefix part, blanks around either ignored. -/
def ofParts? (address : List Char) (length : Option (List Char)) : Option IpRange := do
  let network ← IpAddress.ofChars? (trimBlankChars address)
  let prefixLength ← match length with
    | some cs => boundedNumber? 255 (trimBlankChars cs)
    | none => some network.width
  if h : prefixLength ≤ network.width then some ⟨network, prefixLength, h⟩ else none

def ofChars? (cs : List Char) : Option IpRange :=
  match splitFirst '/' cs with
  | some (address, length) => ofParts? address (some length)
  | none => ofParts? cs none

def parse (s : String) : Except IpRangeError IpRange :=
  match ofChars? s.toList with
  | some range => .ok range
  | none => .error ⟨s⟩

/-- The characters of a range: network with host bits kept, and prefix length. -/
def toChars (range : IpRange) : List Char :=
  range.network.toChars ++ '/' :: Nat.toDigits 10 range.prefixLength

def text (range : IpRange) : String := String.ofList range.toChars

end IpRange

end DualServer.Net
