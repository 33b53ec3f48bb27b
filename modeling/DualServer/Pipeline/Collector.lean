import DualServer.Metrics.Series
import DualServer.Pipeline.Paths
import DualServer.Pipeline.Service

/-!
The metrics of an interface: each request that gets here is counted once, under a path from a fixed
list.
-/

namespace DualServer.Pipeline

open DualServer.Http DualServer.Text

/-- Whether a listed path covers a path: the same, or a part of it that ends at a slash. -/
def covers (listed path : String) : Bool :=
  match dropFront? listed.toList path.toList with
  | none => false
  | some rest => rest.isEmpty || listed.toList.getLast? = some '/' || rest.head? = some '/'

/-- The longest covering entry, the last of equals; the root when none covers. -/
def anonymize (listed : List String) (path : String) : String :=
  ((listed.filter (covers · path)).foldl (fun best entry =>
    match best with
    | none => some entry
    | some b => if b.utf8ByteSize ≤ entry.utf8ByteSize then some entry else some b) none).getD "/"

structure Collector where
  interface : Interface
  listed : List String
  deriving DecidableEq, Repr

def Collector.wrap (c : Collector) : Middleware := fun inner request =>
  let path := anonymize c.listed request.path
  (inner request).andThen fun response =>
  let key := Metrics.requestKey c.interface request.method path response.status
  (Run.measure (.count key)).andThen fun _ =>
  (Run.measure (.duration (Metrics.durationKey c.interface request.method path))).andThen fun _ =>
  .ofValue response

end DualServer.Pipeline
