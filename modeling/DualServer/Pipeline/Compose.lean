import DualServer.Pipeline.AccessLog
import DualServer.Pipeline.Collector
import DualServer.Pipeline.Cors
import DualServer.Pipeline.Gate

/-!
The stages around the routes of an interface. From the outside in: the gate, unless the transport
does without it; the policy for other origins; the middlewares of the application; the access log;
the metrics. `nested` writes the same order as one expression.
-/

namespace DualServer.Pipeline

open DualServer.Config

/-- One stage. All but the policy for other origins are fixed when the stage is made. -/
inductive Stage
  | gate (gate : Gate)
  | cors (interface : Interface)
  | custom (middleware : Middleware)
  | accessLog (log : AccessLog)
  | metrics (collector : Collector)

namespace Stage

def name : Stage → String
  | gate _ => "reject_insecure"
  | cors _ => "cors"
  | custom _ => "service_locator"
  | accessLog _ => "access_log"
  | metrics _ => "metrics"

def wrap (current : Settings) : Stage → Middleware
  | gate g => g.wrap
  | cors i => corsStage (current.cors i)
  | custom m => m
  | accessLog log => log.wrap
  | metrics collector => collector.wrap

end Stage

end DualServer.Pipeline

namespace DualServer

open DualServer.Config

structure Pipeline where
  interface : Interface
  stages : List Pipeline.Stage
  routes : Pipeline.Router

namespace Pipeline

def stageNames (p : Pipeline) : List String := p.stages.map Stage.name

def hasGate (p : Pipeline) : Bool := p.stageNames.head? = some "reject_insecure"

def router (p : Pipeline) (current : Settings) : Router :=
  p.stages.foldr (fun stage router => router.layer (stage.wrap current)) p.routes

def description (p : Pipeline) : String :=
  let interface := match p.interface with
    | .admin => "Admin"
    | .public => "Public"
  "Pipeline \x7b interface: " ++ interface ++ ", stages: " ++ Text.quotedList p.stageNames ++
    " \x7d"

/-- A list of stages with the gate in front if one is wanted. -/
def stagesOf (gate : Option Gate) (interface : Interface) (custom : List Middleware)
    (log : AccessLog) (collector : Collector) : List Stage :=
  (gate.map Stage.gate).toList ++ [.cors interface] ++ custom.map .custom ++
    [.accessLog log, .metrics collector]

/-- The stages of an interface around its routes, and what is logged on the way. -/
def compose (s : Settings) (interface : Interface) (gateRequired : Bool)
    (custom : List Middleware) (routes : Router) : Pipeline × List Log.Entry :=
  let (gate, ignored) := Gate.make (s.tls interface).enabled (s.tls interface).allowTerminationFrom
  let p : Pipeline := {
    interface
    stages := stagesOf (if gateRequired then some gate else none) interface custom
      (.ofSettings s interface) ⟨interface, Paths.reported⟩
    routes }
  (p, (if gateRequired then ignored else []) ++ [{
    level := .debug
    source := "serve_orchestrator::http::pipeline"
    message := "Pipeline composed"
    fields := [("interface", .shown interface.name),
      ("stages", .shown (Text.quotedList p.stageNames))] }])

def nested (current : Settings) (gate : Option Gate) (interface : Interface)
    (custom : List Middleware) (log : AccessLog) (collector : Collector) (inner : Service) :
    Service :=
  let guarded : Middleware := match gate with
    | some gate => gate.wrap
    | none => id
  guarded (corsStage (current.cors interface)
    (custom.foldr (fun middleware inner => middleware inner) (log.wrap (collector.wrap inner))))

end Pipeline

end DualServer
