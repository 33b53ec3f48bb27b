import DualServer.Config.Document
import DualServer.Config.Settings

/-!
Settings from a document. Every reader takes the settings that its section starts from: a key that
the section leaves out keeps that value, and unknown keys are passed over. A section that is left
out altogether keeps the value of its position in the section above it.
-/

namespace DualServer.Config

open Document

def PemSource.decode (d : Document) : Option PemSource := do
  let s ← d.section?
  let path ← s.get 0 "path" none (optional? text?)
  let base64 ← s.get 1 "base64" none (optional? text?)
  return { path, base64 }

def TlsSettings.decode (d : Document) : Option TlsSettings := do
  let s ← d.section?
  let enabled ← s.get 0 "enabled" false bool?
  let cert ← s.get 1 "cert" {} PemSource.decode
  let key ← s.get 2 "key" {} PemSource.decode
  let allowTerminationFrom ← s.get 3 "allow_termination_from" [] texts?
  return { enabled, cert, key, allowTerminationFrom }

def SocketPermission.decode (d : Document) : Option SocketPermission := do
  let s ← d.section?
  let owner ← s.get 0 "owner" none (optional? uint32?)
  let group ← s.get 1 "group" none (optional? uint32?)
  let mode ← s.get 2 "mode" 493 uint32?
  return { owner, group, mode }

def CorsSettings.decode (d : Document) : Option CorsSettings := do
  let base : CorsSettings := {}
  let s ← d.section?
  let enabled ← s.get 0 "enabled" base.enabled bool?
  let allowedOrigins ← s.get 1 "allowed_origins" base.allowedOrigins texts?
  let allowedMethods ← s.get 2 "allowed_methods" base.allowedMethods texts?
  let allowedHeaders ← s.get 3 "allowed_headers" base.allowedHeaders texts?
  let exposedHeaders ← s.get 4 "exposed_headers" base.exposedHeaders texts?
  let allowCredentials ← s.get 5 "allow_credentials" base.allowCredentials bool?
  let maxAgeSecs ← s.get 6 "max_age_secs" base.maxAgeSecs uint64?
  return {
    enabled, allowedOrigins, allowedMethods, allowedHeaders, exposedHeaders, allowCredentials,
    maxAgeSecs }

def RequestLogSettings.decode (d : Document) : Option RequestLogSettings := do
  let s ← d.section?
  let disableForHealth ← s.get 0 "disable_for_health" false bool?
  return { disableForHealth }

def InterfaceSettings.decode (d : Document) : Option InterfaceSettings := do
  let base := InterfaceSettings.blank
  let s ← d.section?
  let host ← s.get 0 "host" base.host text?
  let port ← s.get 1 "port" base.port uint16?
  let socket ← s.get 2 "socket" base.socket (optional? SocketPermission.decode)
  let tls ← s.get 3 "tls" base.tls (optional? TlsSettings.decode)
  let cors ← s.get 4 "cors" base.cors CorsSettings.decode
  let requestLog ← s.get 5 "request_log" base.requestLog RequestLogSettings.decode
  return { host, port, socket, tls, cors, requestLog }

def CgroupSettings.decode (d : Document) : Option CgroupSettings := do
  let s ← d.section?
  let autoMaxProcs ← s.get 0 "auto_max_procs" false bool?
  return { autoMaxProcs }

def ServeSettings.decode (d : Document) : Option ServeSettings := do
  let base : ServeSettings := {}
  let s ← d.section?
  let admin ← s.get 0 "admin" base.admin InterfaceSettings.decode
  let «public» ← s.get 1 "public" base.public InterfaceSettings.decode
  let tls ← s.get 2 "tls" base.tls TlsSettings.decode
  let shutdownTimeoutSecs ← s.get 3 "shutdown_timeout_secs" base.shutdownTimeoutSecs uint64?
  let cgroups ← s.get 4 "cgroups" base.cgroups CgroupSettings.decode
  return { admin, «public», tls, shutdownTimeoutSecs, cgroups }

def UrlSettings.decode (d : Document) : Option UrlSettings := do
  let s ← d.section?
  let selfIssuer ← s.get 0 "self_issuer" "" text?
  return { selfIssuer }

def TracingSettings.decode (d : Document) : Option TracingSettings := do
  let base : TracingSettings := {}
  let s ← d.section?
  let provider ← s.get 0 "provider" base.provider text?
  let serviceName ← s.get 1 "service_name" base.serviceName text?
  return { provider, serviceName }

def LogSettings.decode (d : Document) : Option LogSettings := do
  let base : LogSettings := {}
  let s ← d.section?
  let level ← s.get 0 "level" base.level text?
  let format ← s.get 1 "format" base.format text?
  return { level, format }

def Settings.decode (d : Document) : Option Settings := do
  let base : Settings := {}
  let s ← d.section?
  let dsn ← s.get 0 "dsn" base.dsn text?
  let urls ← s.get 1 "urls" base.urls UrlSettings.decode
  let serve ← s.get 2 "serve" base.serve ServeSettings.decode
  let tracing ← s.get 3 "tracing" base.tracing TracingSettings.decode
  let log ← s.get 4 "log" base.log LogSettings.decode
  return { dsn, urls, serve, tracing, log }

end DualServer.Config
