import DualServer.Config.Document
import DualServer.Config.Settings

/-!
Settings as a document: every key is written, and an absent value is null.
-/

namespace DualServer.Config

def Document.optional {α : Type} (write : α → Document) : Option α → Document
  | none => .null
  | some a => write a

def Document.texts (items : List String) : Document := .array (items.map .text)

def Document.nat (n : Nat) : Document := .int (.ofNat n)

def PemSource.encode (s : PemSource) : Document := .table [
  ("path", .optional .text s.path),
  ("base64", .optional .text s.base64)]

def TlsSettings.encode (t : TlsSettings) : Document := .table [
  ("enabled", .bool t.enabled),
  ("cert", t.cert.encode),
  ("key", t.key.encode),
  ("allow_termination_from", .texts t.allowTerminationFrom)]

def SocketPermission.encode (p : SocketPermission) : Document := .table [
  ("owner", .optional (fun n : UInt32 => .nat n.toNat) p.owner),
  ("group", .optional (fun n : UInt32 => .nat n.toNat) p.group),
  ("mode", .nat p.mode.toNat)]

def CorsSettings.encode (c : CorsSettings) : Document := .table [
  ("enabled", .bool c.enabled),
  ("allowed_origins", .texts c.allowedOrigins),
  ("allowed_methods", .texts c.allowedMethods),
  ("allowed_headers", .texts c.allowedHeaders),
  ("exposed_headers", .texts c.exposedHeaders),
  ("allow_credentials", .bool c.allowCredentials),
  ("max_age_secs", .nat c.maxAgeSecs.toNat)]

def RequestLogSettings.encode (r : RequestLogSettings) : Document := .table [
  ("disable_for_health", .bool r.disableForHealth)]

def InterfaceSettings.encode (s : InterfaceSettings) : Document := .table [
  ("host", .text s.host),
  ("port", .nat s.port.toNat),
  ("socket", .optional SocketPermission.encode s.socket),
  ("tls", .optional TlsSettings.encode s.tls),
  ("cors", s.cors.encode),
  ("request_log", s.requestLog.encode)]

def CgroupSettings.encode (c : CgroupSettings) : Document := .table [
  ("auto_max_procs", .bool c.autoMaxProcs)]

def ServeSettings.encode (s : ServeSettings) : Document := .table [
  ("admin", s.admin.encode),
  ("public", s.public.encode),
  ("tls", s.tls.encode),
  ("shutdown_timeout_secs", .nat s.shutdownTimeoutSecs.toNat),
  ("cgroups", s.cgroups.encode)]

def UrlSettings.encode (u : UrlSettings) : Document := .table [("self_issuer", .text u.selfIssuer)]

def TracingSettings.encode (t : TracingSettings) : Document := .table [
  ("provider", .text t.provider),
  ("service_name", .text t.serviceName)]

def LogSettings.encode (l : LogSettings) : Document := .table [
  ("level", .text l.level),
  ("format", .text l.format)]

def Settings.encode (s : Settings) : Document := .table [
  ("dsn", .text s.dsn),
  ("urls", s.urls.encode),
  ("serve", s.serve.encode),
  ("tracing", s.tracing.encode),
  ("log", s.log.encode)]

end DualServer.Config
