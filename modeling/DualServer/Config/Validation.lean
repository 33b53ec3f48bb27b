import DualServer.Config.Settings
import DualServer.Http.Message
import DualServer.Net.IpRange

/-!
What makes settings invalid. `violations` lists every problem once, in the order shared TLS block,
admin, public, issuer, drain time; settings are accepted when the list is empty.
-/

namespace DualServer.Config

open DualServer.Text

inductive TlsPlace
  | shared
  | own (interface : Interface)
  deriving DecidableEq, Repr

inductive Violation
  | unpairedMaterial (place : TlsPlace)
  | badRange (place : TlsPlace) (range : String)
  | emptySocketPath (interface : Interface)
  | relativeSocketPath (interface : Interface)
  | badFileMode (interface : Interface) (mode : UInt32)
  | badOrigin (interface : Interface) (origin : String)
  | badIssuer (issuer : String)
  | noDrainTime
  deriving DecidableEq, Repr

def TlsPlace.field : TlsPlace → String
  | shared => "serve.tls"
  | own i => s!"serve.{i.name}.tls"

namespace Violation

def field : Violation → String
  | unpairedMaterial place => place.field
  | badRange place _ => place.field ++ ".allow_termination_from"
  | emptySocketPath i => s!"serve.{i.name}.host"
  | relativeSocketPath i => s!"serve.{i.name}.host"
  | badFileMode i _ => s!"serve.{i.name}.socket.mode"
  | badOrigin i _ => s!"serve.{i.name}.cors.allowed_origins"
  | badIssuer _ => "urls.self_issuer"
  | noDrainTime => "serve.shutdown_timeout_secs"

def message : Violation → String
  | unpairedMaterial _ => "certificate and private key must be configured together"
  | badRange _ range => (Net.IpRangeError.mk range).message
  | emptySocketPath _ => "unix socket path is empty"
  | relativeSocketPath _ => "socket paths must be absolute or use the unix: prefix"
  | badFileMode _ mode => "0o" ++ digits 8 mode.toNat ++ " is not a valid file mode"
  | badOrigin _ origin => "invalid origin " ++ quoted origin
  | badIssuer issuer => quoted issuer ++ " is not a valid URL"
  | noDrainTime => "must be greater than zero"

def text (v : Violation) : String := v.field ++ ": " ++ v.message

end Violation

def isRange (s : String) : Bool := (Net.IpRange.ofChars? s.toList).isSome

def tlsViolations (place : TlsPlace) (t : TlsSettings) : List Violation :=
  (if t.cert.isSet ≠ t.key.isSet then [.unpairedMaterial place] else []) ++
    (t.allowTerminationFrom.filter (!isRange ·)).map (.badRange place)

def hostViolations (i : Interface) (host : String) : List Violation :=
  match dropFront? unixMark.toList host.toList with
  | some path => if path.isEmpty then [.emptySocketPath i] else []
  | none =>
    if host.toList.contains '/' && host.toList.head? ≠ some '/' then [.relativeSocketPath i] else []

def maxFileMode : UInt32 := 4095

def isOrigin (origin : String) : Bool := origin == "*" || Http.isFieldValue origin

def interfaceViolations (i : Interface) (s : InterfaceSettings) : List Violation :=
  hostViolations i s.host ++
    (match s.socket with
      | some permission =>
        if maxFileMode < permission.mode then [.badFileMode i permission.mode] else []
      | none => []) ++
    (match s.tls with
      | some tls => tlsViolations (.own i) tls
      | none => []) ++
    (s.cors.allowedOrigins.filter (!isOrigin ·)).map (.badOrigin i)

variable [UrlReader]

/-- The problem of the issuer: it has to be empty or an absolute URL. -/
def issuerViolations (issuer : String) : List Violation :=
  if !issuer.isEmpty && (UrlReader.read? issuer).isNone then [.badIssuer issuer] else []

def violations (s : Settings) : List Violation :=
  tlsViolations .shared s.serve.tls ++
    interfaceViolations .admin s.serve.admin ++
    interfaceViolations .public s.serve.public ++
    issuerViolations s.urls.selfIssuer ++
    (if s.serve.shutdownTimeoutSecs = 0 then [.noDrainTime] else [])

def Settings.Valid (s : Settings) : Prop := violations s = []

instance (s : Settings) : Decidable s.Valid := inferInstanceAs (Decidable (_ = _))

end DualServer.Config
