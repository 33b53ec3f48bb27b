import DualServer.Config.Settings
import DualServer.Pipeline.Paths
import DualServer.Pipeline.Service

/-!
The access log of an interface: two entries for each request whose path is not left out, and an
identifier that the request and its answer carry.
-/

namespace DualServer.Pipeline

open DualServer.Http DualServer.Config

def requestIdField : String := "x-request-id"

/-- A logger: the name it logs under and the paths it leaves out. -/
structure AccessLog where
  service : String
  excluded : List String := []
  deriving DecidableEq, Repr

namespace AccessLog

def exclude (log : AccessLog) (paths : List String) : AccessLog :=
  { log with excluded := log.excluded ++ paths }

def ofSettings (s : Settings) (i : Interface) : AccessLog :=
  let log : AccessLog := ⟨i.name ++ ": " ++ s.urls.selfIssuer, []⟩
  if (s.interface i).requestLog.disableForHealth then
    log.exclude ([Paths.alive, Paths.ready, Paths.version, Paths.metrics].map (i.pathPrefix ++ ·))
  else log

def isExcluded (log : AccessLog) (path : String) : Bool := log.excluded.contains path

def requestId (request : Request) : String :=
  (request.fields.first? requestIdField).getD request.freshId

def identified (request : Request) : Request :=
  if request.fields.has requestIdField then request
  else { request with fields := request.fields.add requestIdField request.freshId }

def startedEntry (log : AccessLog) (request : Request) : Log.Entry where
  level := .debug
  source := "serve_orchestrator::http::middleware::access_log"
  message := "started handling request"
  fields := [("service", .shown log.service),
    ("request_id", .shown (quotedValue (requestId request))), ("method", .shown request.method),
    ("path", .shown request.path)]
where
  /-- A field value between quotes, its quotes and all but visible ASCII escaped. -/
  quotedValue (value : String) : String :=
    "\"" ++ String.join ((Text.utf8 value).map fun b =>
      if b = 0x22 then "\\\""
      else if (0x20 ≤ b && b < 0x7F) || b = 9 then String.singleton (Char.ofNat b.toNat)
      else "\\x" ++ Text.digits 16 b.toNat) ++ "\""

def completedEntry (log : AccessLog) (request : Request) (status : Nat) : Log.Entry where
  level := .info
  source := "serve_orchestrator::http::middleware::access_log"
  message := "completed handling request"
  fields := [("service", .shown log.service),
    ("request_id", .literal ((visible? (requestId request)).getD "")),
    ("method", .shown request.method), ("path", .shown request.path),
    ("remote", .literal ((request.peer.map (·.text)).getD "-")), ("status", .number status)]

/-- Logs a request and marks it and its answer, unless its path is left out. -/
def wrap (log : AccessLog) : Middleware := fun inner request =>
  if log.isExcluded request.path then inner request
  else
    (Run.log (log.startedEntry request)).andThen fun _ =>
    (inner (identified request)).andThen fun response =>
    let response := { response with
      fields := response.fields.set requestIdField (requestId request) }
    (Run.log (log.completedEntry request response.status)).andThen fun _ => .ofValue response

end AccessLog

end DualServer.Pipeline
