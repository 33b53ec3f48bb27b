import DualServer.Config.Settings
import DualServer.Pipeline.Service
import DualServer.Text.Blank

/-!
Tracing of requests: with a provider, every request gets a span that carries the service name and
the caller's trace context.
-/

namespace DualServer.Pipeline

open DualServer.Http DualServer.Config

structure Tracer where
  provider : Option String := none
  service : String := ""
  deriving DecidableEq, Repr

namespace Tracer

def ofSettings (t : TracingSettings) : Tracer where
  provider := some (Text.trimBlank t.provider) |>.filter (!·.isEmpty)
  service := t.serviceName

def isLoaded (t : Tracer) : Bool := t.provider.isSome

def span (t : Tracer) (request : Request) : Log.Entry where
  level := .info
  source := "serve_orchestrator::observability::tracing"
  message := "http.request"
  fields := [("service", .shown t.service), ("method", .shown request.method),
    ("path", .shown request.path),
    ("traceparent", .literal (((request.fields.first? "traceparent").bind visible?).getD ""))]
  kind := .span

def wrap (t : Tracer) : Middleware := fun inner request =>
  if t.isLoaded then (Run.log (t.span request)).andThen fun _ => inner request
  else inner request

end Tracer

end DualServer.Pipeline
