/-!
Internet addresses as bit vectors: version 4 and version 6, sockets addresses, and the text forms of
`Net.Address.Text`. A version 4 address has a mapped form of version 6, `::ffff:a.b.c.d`.
-/

namespace DualServer.Net

inductive IpAddress
  | v4 (bits : BitVec 32)
  | v6 (bits : BitVec 128)
  deriving DecidableEq, Repr

namespace IpAddress

def width : IpAddress → Nat
  | v4 _ => 32
  | v6 _ => 128

/-- The version 4 address that a version 6 address maps, if it is of the form `::ffff:a.b.c.d`. -/
def mappedV4? (bits : BitVec 128) : Option (BitVec 32) :=
  if bits >>> 32 = 0xFFFF#128 then some (bits.setWidth 32) else none

def mapped (bits : BitVec 32) : BitVec 128 := (0xFFFF#128 <<< 32) ||| bits.setWidth 128

def canonical : IpAddress → IpAddress
  | v4 bits => v4 bits
  | v6 bits => match mappedV4? bits with
    | some inner => v4 inner
    | none => v6 bits

def octets (bits : BitVec 32) : List Nat :=
  [24, 16, 8, 0].map fun shift => (bits.toNat >>> shift) % 256

def groups (bits : BitVec 128) : List Nat :=
  [112, 96, 80, 64, 48, 32, 16, 0].map fun shift => (bits.toNat >>> shift) % 65536

def ofDigits (w base : Nat) (digits : List Nat) : BitVec w :=
  BitVec.ofNat w (digits.foldl (fun value digit => value * base + digit) 0)

def ofOctets (octets : List Nat) : BitVec 32 := ofDigits 32 256 octets

def ofGroups (groups : List Nat) : BitVec 128 := ofDigits 128 65536 groups

end IpAddress

structure SocketAddress where
  ip : IpAddress
  port : Nat
  port_lt : port < 65536 := by omega
  deriving DecidableEq, Repr

end DualServer.Net
