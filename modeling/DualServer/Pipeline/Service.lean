import DualServer.Http.Message
import DualServer.Log.Event
import DualServer.Metrics.Series

/-!
Services answer requests. What a service does besides answering is listed in order: log entries,
samples, pauses. A service that breaks down keeps what it did before and answers nothing.
-/

namespace DualServer.Pipeline

open DualServer.Http

inductive Effect
  | log (entry : Log.Entry)
  | measure (sample : Metrics.Sample)
  | pause (ms : Nat)
  deriving DecidableEq, Repr

structure Run (α : Type) where
  effects : List Effect
  result : Except String α

namespace Run

def ofValue {α : Type} (a : α) : Run α := ⟨[], .ok a⟩

def panic {α : Type} (message : String) : Run α := ⟨[], .error message⟩

/-- One after the other; a breakdown ends the run. -/
def andThen {α β : Type} (run : Run α) (next : α → Run β) : Run β :=
  match run.result with
  | .error message => ⟨run.effects, .error message⟩
  | .ok a => ⟨run.effects ++ (next a).effects, (next a).result⟩

instance : Monad Run where
  pure := ofValue
  bind := andThen

def log (entry : Log.Entry) : Run Unit := ⟨[.log entry], .ok ()⟩

def measure (sample : Metrics.Sample) : Run Unit := ⟨[.measure sample], .ok ()⟩

def entries {α : Type} (run : Run α) : List Log.Entry :=
  run.effects.filterMap fun
    | .log entry => some entry
    | _ => none

def samples {α : Type} (run : Run α) : List Metrics.Sample :=
  run.effects.filterMap fun
    | .measure sample => some sample
    | _ => none

def pause (ms : Nat) : Run Unit := ⟨if ms = 0 then [] else [.pause ms], .ok ()⟩

end Run

abbrev Service := Request → Run Response

abbrev Middleware := Service → Service

/-- Where a request goes: the service for it, and what is done to the answer on the way out, after
every middleware. -/
structure Endpoint where
  service : Service
  finish : Response → Response := id

structure Router where
  route : Request → Endpoint

namespace Router

def layer (m : Middleware) (r : Router) : Router where
  route request := { r.route request with service := m (r.route request).service }

def serve (r : Router) : Service := fun request =>
  let endpoint := r.route request
  (endpoint.service request).andThen fun response => .ofValue (endpoint.finish response)

end Router

end DualServer.Pipeline
