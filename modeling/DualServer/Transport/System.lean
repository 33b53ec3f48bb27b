import DualServer.Config.Settings
import DualServer.Net.IpRange
import DualServer.Text.Split
import DualServer.Transport.FileSystem

/-!
What the operating system keeps for the server: the file system, open sockets in it, and the
addresses that listeners hold.
-/

namespace DualServer.Transport

open DualServer.Config DualServer.Net DualServer.Text

/-- Files, open file sockets and addresses in use. A socket may have a name of its own that no file
stands for. `portsGiven` counts the listeners that asked for any port. -/
structure System where
  files : FileSystem := {}
  nextSocket : Nat := 0
  listening : List Nat := []
  names : List (String × Nat) := []
  addresses : List SocketAddress := []
  portsGiven : Nat := 0
  deriving DecidableEq, Repr

/-- An owner or group that is asked for. The largest number asks for nothing. -/
def changedId (asked : Option UInt32) (before : Nat) : Nat :=
  match asked with
  | none => before
  | some id => if id.toNat + 1 = UInt32.size then before else id.toNat

/-- Owner, group and mode under a permission; what it leaves out stays. -/
def Rights.under (r : Rights) (p : SocketPermission) : Rights where
  owner := changedId p.owner r.owner
  group := changedId p.group r.group
  mode := p.mode.toNat % 4096

namespace System

def maxSocketPath : Nat := 107

/-- The next socket opened, with what it leaves among the files. -/
def openSocket (s : System) (files : FileSystem) : System × Nat :=
  ({ s with
      files
      nextSocket := s.nextSocket + 1
      listening := s.listening ++ [s.nextSocket] }, s.nextSocket)

def isNameTaken (s : System) (name : String) : Bool :=
  s.names.any fun (taken, id) => taken == name && s.listening.contains id

/-- A socket with a name that no file stands for. -/
def bindName (s : System) (name : String) : Except Fault (System × Nat) :=
  if maxSocketPath + 1 < name.utf8ByteSize then
    .error (.other "abstract socket name must be shorter than SUN_LEN")
  else if s.isNameTaken name then .error .addressInUse
  else .ok ({ s with names := s.names ++ [(name, s.nextSocket)] }.openSocket s.files)

/-- A socket with a file at a path. -/
def bindFile (s : System) (path : String) : Except Fault (System × Nat) :=
  match s.files.reach path with
  | .error fault => .error fault
  | .ok () =>
    if (s.files.get? (.ofPath path)).isSome then .error .addressInUse
    else if FileSystem.endsInSlash path then .error .notFound
    else match s.files.barred.lookup (.ofPath path) with
      | some fault => .error fault
      | none => .ok (s.openSocket (s.files.put (.ofPath path) (.socket s.nextSocket {})))

/-- A socket at a path. A path that begins with a NUL is a name, and for the empty path the system
takes a name of its own. -/
def bindSocket (s : System) (path : String) : Except Fault (System × Nat) :=
  if path.toList.head? = some '\x00' then s.bindName path
  else if path.toList.contains '\x00' then
    .error (.other "paths must not contain interior null bytes")
  else if maxSocketPath < path.utf8ByteSize then
    .error (.other "path must be shorter than SUN_LEN")
  else if path.isEmpty then .ok (s.openSocket s.files)
  else s.bindFile path

/-- The system after a file socket is closed; its file stays. -/
def closeSocket (s : System) (id : Nat) : System :=
  { s with listening := s.listening.filter (· ≠ id) }

def removeFile (s : System) (path : String) : Except Fault System :=
  (s.files.removeFile path).map fun files => { s with files }

/-- The system without whatever file is in the way at a path. -/
def clear (s : System) (path : String) : Except Fault System :=
  if s.files.exists? path then s.removeFile path else .ok s

/-- Owner, group and mode put on a socket file. -/
def applyPermission (s : System) (path : String) (p : SocketPermission) : Except Fault System :=
  match s.files.find path with
  | .error fault => .error fault
  | .ok (.socket id rights) =>
    .ok { s with files := s.files.put (.ofPath path) (.socket id (rights.under p)) }
  | .ok _ => .ok s

def mayConnect (r : Rights) : Bool :=
  let bit := if r.owner = 0 then 128 else if r.group = 0 then 16 else 2
  (r.mode / bit) % 2 = 1

def canConnect (s : System) (path : String) : Bool :=
  match s.files.find path with
  | .ok (.socket id rights) => s.listening.contains id && mayConnect rights
  | _ => false

def isUnspecified : IpAddress → Bool
  | .v4 a => a = 0
  | .v6 a => a = 0

def collide (a b : SocketAddress) : Bool :=
  a.port = b.port && (a.ip = b.ip || isUnspecified a.ip || isUnspecified b.ip)

/-- What an address text stands for: a socket address, or a host and a port behind the last colon.
Hosts are addresses in text form; names are not looked up. -/
def socketAddress (text : String) : Except Fault SocketAddress :=
  match SocketAddress.ofText? text with
  | some address => .ok address
  | none => match splitFirst ':' text.toList.reverse with
    | none => .error (.other "invalid socket address")
    | some (port, host) =>
      match boundedNumber? 65535 port.reverse with
      | none => .error (.other "invalid port value")
      | some port => match IpAddress.ofChars? host.reverse with
        | some ip => .ok ⟨ip, port % 65536, Nat.mod_lt _ (by decide)⟩
        | none => .error (.other
            "failed to lookup address information: Name or service not known")

def bindAddress (s : System) (text : String) : Except Fault (System × SocketAddress) :=
  match socketAddress text with
  | .error fault => .error fault
  | .ok address =>
    if address.port = 0 then
      let address : SocketAddress := ⟨address.ip, 49152 + s.portsGiven % 16384, by omega⟩
      .ok ({ s with
        addresses := s.addresses ++ [address]
        portsGiven := s.portsGiven + 1 }, address)
    else if s.addresses.any (collide address) then .error .addressInUse
    else .ok ({ s with addresses := s.addresses ++ [address] }, address)

/-- The system after a listener on an address is closed. -/
def closeAddress (s : System) (address : SocketAddress) : System :=
  { s with addresses := s.addresses.filter (· ≠ address) }

end System

end DualServer.Transport
