import DualServer.Log.Event
import DualServer.Serve.Failure
import DualServer.Transport.System
import DualServer.Transport.Target

/-!
From a target to a listener: a file socket, a tunnel, or an address, in this order of choice. A
refusal is final. A file that stands where a socket is to be is removed first.
-/

namespace DualServer.Transport

open DualServer.Config DualServer.Serve DualServer.Text

structure ListenOptions where
  connectTimeoutSecs : Nat := 300
  maxConnections : Nat := 3
  deriving DecidableEq, Repr

inductive TunnelReply
  | granted
  | refused (text : String)
  | panicked (text : String)
  deriving DecidableEq, Repr

abbrev TunnelFactory := String → ListenOptions → TunnelReply

def unavailableTunnel : TunnelFactory := fun service _ =>
  .refused ("no overlay tunnel backend is available to serve " ++ quoted service)

structure TunnelCall where
  service : String
  options : ListenOptions
  deriving DecidableEq, Repr

inductive Bound
  | unix (path : String) (socket : Nat)
  | tcp (address : Net.SocketAddress)
  | tunnel (service : String)
  deriving DecidableEq, Repr

namespace Bound

/-- The transport of a listener, with or without TLS on it. -/
def mode (b : Bound) (tls : Bool) : Mode :=
  match b with
  | unix _ _ => .unixSocket
  | tunnel _ => .overlayTunnel
  | tcp _ => if tls then .tlsTcp else .plainTcp

def text : Bound → String
  | unix path _ => "unix:" ++ path
  | tcp address => address.text
  | tunnel service => "tunnel:" ++ service

def description (b : Bound) : String := "BoundListener(" ++ quoted b.text ++ ")"

def close (b : Bound) (s : System) : System :=
  match b with
  | unix _ socket => s.closeSocket socket
  | tcp address => s.closeAddress address
  | tunnel _ => s

end Bound

structure Resolution where
  system : System
  result : Except Halt Bound
  calls : List TunnelCall := []
  entries : List Log.Entry := []

def settingUpEntry (flags : Flags) (fields : List (String × Log.FieldValue)) : Log.Entry where
  level := .info
  source := "serve_orchestrator::net::listener"
  message := "Setting up listener"
  fields := ("interface", .shown flags.interface.name) :: fields

def notRemovedEntry (source path : String) (fault : Fault) : Log.Entry where
  level := .debug
  source
  message := "Socket file not removed"
  fields := [("path", .shown path), ("error", .shown fault.message)]

/-- A file socket in place of whatever file was there. If owner or mode cannot be set, the socket
is taken away again. -/
def bindUnix (s : System) (path : String) (permission : Option SocketPermission) : Resolution :=
  let refused (s : System) (fault : Fault) : Resolution :=
    ⟨s, .error (.failure (.bind ("unix:" ++ path) fault)), [], []⟩
  match s.clear path with
  | .error fault => refused s fault
  | .ok cleared => match cleared.bindSocket path with
    | .error fault => refused cleared fault
    | .ok (opened, id) => match permission with
      | none => ⟨opened, .ok (.unix path id), [], []⟩
      | some p => match opened.applyPermission path p with
        | .ok done => ⟨done, .ok (.unix path id), [], []⟩
        | .error fault =>
          let closed := opened.closeSocket id
          let failed : Except Halt Bound := .error (.failure (.permission path fault))
          match closed.removeFile path with
          | .ok removed => ⟨removed, failed, [], []⟩
          | .error notRemoved =>
            ⟨closed, failed, [],
              [notRemovedEntry "serve_orchestrator::net::listener" path notRemoved]⟩

/-- A tunnel from the backend, for a service that has to be named. -/
def bindTunnel (s : System) (factory : TunnelFactory) (options : ListenOptions) (flags : Flags) :
    Resolution :=
  match flags.tunnelService with
  | none => ⟨s, .error (.failure (.configuration
      ("tunnel mode requested but the " ++ tunnelServiceVariable ++
        " environment variable is not set"))), [], []⟩
  | some service =>
    let result : Except Halt Bound := match factory service options with
      | .granted => .ok (.tunnel service)
      | .refused text => .error (.failure (.transport service text))
      | .panicked text => .error (.panic text)
    ⟨s, result, [⟨service, options⟩], [settingUpEntry flags [
      ("service", .shown service), ("transport", .shown Mode.overlayTunnel.name),
      ("connect_timeout_secs", .number options.connectTimeoutSecs),
      ("max_connections", .number options.maxConnections)]]⟩

def bindTcp (s : System) (address : String) : Resolution :=
  match s.bindAddress address with
  | .error fault => ⟨s, .error (.failure (.bind address fault)), [], []⟩
  | .ok (opened, bound) => ⟨opened, .ok (.tcp bound), [], []⟩

def resolve (s : System) (factory : TunnelFactory) (target : Target) (flags : Flags) : Resolution :=
  match target.socketPath? with
  | some path =>
    let r := bindUnix s path target.permission
    { r with entries := settingUpEntry flags [
        ("path", .shown path), ("transport", .shown Mode.unixSocket.name)] :: r.entries }
  | none =>
    if flags.wantsTunnel then bindTunnel s factory {} flags
    else
      let r := bindTcp s target.tcpAddress
      { r with entries := settingUpEntry flags [
          ("address", .shown target.tcpAddress), ("transport", .literal "tcp")] :: r.entries }

end DualServer.Transport
