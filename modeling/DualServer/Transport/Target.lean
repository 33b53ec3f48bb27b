import DualServer.Config.Settings
import DualServer.Text.Split

/-!
Where an interface listens, and over which transport. The transport is chosen from the shape of the
address, the tunnel flag and the TLS switch; only the admin interface is ever tunnelled.
-/

namespace DualServer.Transport

open DualServer.Config DualServer.Text

def tunnelServiceVariable : String := "TUNNEL_SERVICE"

structure Target where
  address : String
  permission : Option SocketPermission := none
  deriving DecidableEq, Repr

namespace Target

def ofSettings (s : Settings) (i : Interface) : Target :=
  ⟨s.listenAddress i, (s.interface i).socket⟩

def socketPath? (t : Target) : Option String :=
  match dropFront? unixMark.toList t.address.toList with
  | some path => some (String.ofList path)
  | none => if t.address.toList.head? = some '/' then some t.address else none

def isUnixSocket (t : Target) : Bool := t.socketPath?.isSome

/-- The address to bind over TCP: a missing host means all addresses of version 4. -/
def tcpAddress (t : Target) : String :=
  match t.address.toList with
  | ':' :: port => "0.0.0.0:" ++ String.ofList port
  | _ => t.address

end Target

/-- What besides the target decides the transport. The service is never the empty text. -/
structure Flags where
  interface : Interface
  tunnelMode : Bool
  tunnelService : Option String
  deriving DecidableEq, Repr

def Flags.make (interface : Interface) (tunnelMode : Bool) (service : Option String) : Flags :=
  ⟨interface, tunnelMode, service.filter (· ≠ "")⟩

def Flags.wantsTunnel (f : Flags) : Bool := f.tunnelMode && f.interface = .admin

inductive Mode
  | unixSocket
  | plainTcp
  | tlsTcp
  | overlayTunnel
  deriving DecidableEq, Repr

namespace Mode

/-- The transport of an interface, decided once before serving. -/
def select (target : Target) (flags : Flags) (tlsEnabled : Bool) : Mode :=
  if target.isUnixSocket then unixSocket
  else if flags.wantsTunnel then overlayTunnel
  else if tlsEnabled then tlsTcp
  else plainTcp

/-- File sockets are guarded by their permissions, every other transport by the gate. -/
def requiresGate (m : Mode) : Bool := m ≠ unixSocket

def name : Mode → String
  | unixSocket => "unix_socket"
  | plainTcp => "plain_tcp"
  | tlsTcp => "tls_tcp"
  | overlayTunnel => "overlay_tunnel"

end Mode

end DualServer.Transport
