import DualServer.Basic
import DualServer.Text.Split

/-!
The settings of the server with their defaults, and the views that the rest of the server takes of
them. `InterfaceSettings.blank` is what a section that is written out starts from; the two
interfaces of `ServeSettings.default` differ from it in the port.
-/

namespace DualServer.Config

def memoryDsn : String := "memory"

def unixMark : String := "unix:"

structure UrlSettings where
  selfIssuer : String := ""
  deriving DecidableEq, Repr

structure SocketPermission where
  owner : Option UInt32 := none
  group : Option UInt32 := none
  mode : UInt32 := 493
  deriving DecidableEq, Repr

/-- Where PEM text is found: a file, or base64 text; the file wins. -/
structure PemSource where
  path : Option String := none
  base64 : Option String := none
  deriving DecidableEq, Repr

def PemSource.isSet (s : PemSource) : Bool := s.path.isSome || s.base64.isSome

structure TlsSettings where
  enabled : Bool := false
  cert : PemSource := {}
  key : PemSource := {}
  allowTerminationFrom : List String := []
  deriving DecidableEq, Repr

def TlsSettings.hasMaterial (t : TlsSettings) : Bool := t.cert.isSet && t.key.isSet

structure CorsSettings where
  enabled : Bool := false
  allowedOrigins : List String := []
  allowedMethods : List String := ["GET", "POST", "PUT", "PATCH", "DELETE"]
  allowedHeaders : List String := ["Authorization", "Content-Type"]
  exposedHeaders : List String := ["Content-Type"]
  allowCredentials : Bool := true
  maxAgeSecs : UInt64 := 0
  deriving DecidableEq, Repr

structure RequestLogSettings where
  disableForHealth : Bool := false
  deriving DecidableEq, Repr

structure InterfaceSettings where
  host : String := ""
  port : UInt16 := 0
  socket : Option SocketPermission := none
  tls : Option TlsSettings := none
  cors : CorsSettings := {}
  requestLog : RequestLogSettings := {}
  deriving DecidableEq, Repr

/-- The settings a section starts from when it is written out: port zero. -/
def InterfaceSettings.blank : InterfaceSettings := {}

structure CgroupSettings where
  autoMaxProcs : Bool := false
  deriving DecidableEq, Repr

structure ServeSettings where
  admin : InterfaceSettings := { port := 4445 }
  «public» : InterfaceSettings := { port := 4444 }
  tls : TlsSettings := {}
  shutdownTimeoutSecs : UInt64 := 5
  cgroups : CgroupSettings := {}
  deriving DecidableEq, Repr

/-- Settings of request tracing; an empty provider turns it off. -/
structure TracingSettings where
  provider : String := ""
  serviceName : String := "serve-orchestrator"
  deriving DecidableEq, Repr

structure LogSettings where
  level : String := "info"
  format : String := "text"
  deriving DecidableEq, Repr

structure Settings where
  dsn : String := memoryDsn
  urls : UrlSettings := {}
  serve : ServeSettings := {}
  tracing : TracingSettings := {}
  log : LogSettings := {}
  deriving DecidableEq, Repr

/-- Whether a host names a file socket: it has the mark in front, or is an absolute path. -/
def isSocketHost (host : List Char) : Bool :=
  (Text.dropFront? unixMark.toList host).isSome || host.head? = some '/'

/-- Host and port in one text, with brackets around a host that holds a colon. -/
def hostWithPort (host : List Char) (port : Nat) : List Char :=
  let port := ':' :: Nat.toDigits 10 port
  if host.contains ':' && host.head? ≠ some '[' then '[' :: host ++ ']' :: port else host ++ port

/-- The address to listen on: the host as it is if it names a file socket, else host and port. -/
def InterfaceSettings.listenOn (s : InterfaceSettings) : String :=
  if isSocketHost s.host.toList then s.host
  else String.ofList (hostWithPort s.host.toList s.port.toNat)

namespace Settings

def interface (s : Settings) : Interface → InterfaceSettings
  | .admin => s.serve.admin
  | .public => s.serve.public

/-- The TLS settings in force: the block of the interface before the shared one. -/
def tls (s : Settings) (i : Interface) : TlsSettings := (s.interface i).tls.getD s.serve.tls

def listenAddress (s : Settings) (i : Interface) : String := (s.interface i).listenOn

def cors (s : Settings) (i : Interface) : CorsSettings := (s.interface i).cors

def withCors (s : Settings) (i : Interface) (c : CorsSettings) : Settings :=
  match i with
  | .admin => { s with serve := { s.serve with admin := { s.serve.admin with cors := c } } }
  | .public => { s with serve := { s.serve with «public» := { s.serve.public with cors := c } } }

def isMemory (s : Settings) : Bool := s.dsn == memoryDsn

end Settings

end DualServer.Config
