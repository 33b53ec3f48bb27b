import DualServer.Pipeline.Conduct

/-!
The pipelines of both interfaces over a history of requests. Middlewares and routes may be others at
each request; the settings that a pipeline is composed from stay, and so does the recorder that both
interfaces report into.
-/

namespace DualServer.Pipeline

open DualServer.Config DualServer.Http

/-- What the pipelines of both interfaces are composed of. -/
structure Pipelines where
  composed : Interface → Settings
  gateRequired : Interface → Bool

/-- A request to an interface, with the settings that are live when it comes and with what the
middlewares and the routes of the application do then. -/
structure Visit where
  interface : Interface
  request : Request
  current : Settings
  custom : List Script
  routes : Router

namespace Pipelines

def pipeline (ps : Pipelines) (v : Visit) : Pipeline :=
  (Pipeline.compose (ps.composed v.interface) v.interface (ps.gateRequired v.interface)
    (v.custom.map Script.wrap) v.routes).1

def run (ps : Pipelines) (v : Visit) : Run Response :=
  ((ps.pipeline v).router v.current).serve v.request

/-- What the recorder shows after some visits. -/
def recorded (ps : Pipelines) (start : Metrics.Series) (visits : List Visit) : Metrics.Series :=
  visits.foldl (fun series v => series.recordAll (ps.run v).samples) start

end Pipelines

end DualServer.Pipeline
