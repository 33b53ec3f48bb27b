import DualServer.Basic

/-!
Metric series: counters and histograms keyed by name and labels, and the gauge of registered
interfaces. `Series.exposition` is the text form that a scraper reads.
-/

namespace DualServer.Metrics

structure Key where
  name : String
  labels : List (String × String) := []
  deriving DecidableEq, Repr

inductive Sample
  | count (key : Key)
  | duration (key : Key)
  deriving DecidableEq, Repr

def requestsTotal : String := "http_requests_total"

def requestDuration : String := "http_request_duration_seconds"

def interfacesRegistered : String := "http_interfaces_registered"

/-- What is counted for a request: its interface, method, path label and status. -/
def requestKey (i : Interface) (method path : String) (status : Nat) : Key :=
  ⟨requestsTotal, [("interface", i.name), ("method", method), ("path", path),
    ("status", toString status)]⟩

def durationKey (i : Interface) (method path : String) : Key :=
  ⟨requestDuration, [("interface", i.name), ("method", method), ("path", path)]⟩

abbrev Tally := List (Key × Nat)

def Tally.bump (t : Tally) (key : Key) : Tally :=
  match t with
  | [] => [(key, 1)]
  | (k, n) :: rest => if k = key then (k, n + 1) :: rest else (k, n) :: Tally.bump rest key

def Tally.get (t : Tally) (key : Key) : Nat := ((t.find? (·.1 == key)).map (·.2)).getD 0

def Tally.total (t : Tally) : Nat := t.foldr (fun entry n => entry.2 + n) 0

structure Series where
  counters : Tally := []
  durations : Tally := []
  deriving DecidableEq, Repr

def Series.record (s : Series) : Sample → Series
  | .count key => { s with counters := s.counters.bump key }
  | .duration key => { s with durations := s.durations.bump key }

def Series.recordAll (s : Series) (samples : List Sample) : Series := samples.foldl record s

/-- The interfaces that report into the shared metrics, each once. -/
structure Registry where
  interfaces : List Interface := []
  deriving DecidableEq, Repr

namespace Registry

def isRegistered (r : Registry) (i : Interface) : Bool := r.interfaces.contains i

/-- The registry with an interface in it, and whether it is new there. -/
def register (r : Registry) (i : Interface) : Registry × Bool :=
  if r.isRegistered i then (r, false) else (⟨r.interfaces ++ [i]⟩, true)

def description (r : Registry) : String :=
  "MetricsRegistry \x7b interfaces: " ++ toString r.interfaces.length ++ " \x7d"

end Registry

def Key.text (key : Key) : String :=
  let labels := key.labels.map fun (name, value) => name ++ "=" ++ value
  key.name ++ "\x7b" ++ String.intercalate "," labels ++ "\x7d"

def escapeLabel (s : String) : String :=
  String.ofList (s.toList.flatMap fun c =>
    if c = '\\' then ['\\', '\\']
    else if c = '\x22' then ['\\', '\x22']
    else if c = '\n' then ['\\', 'n']
    else [c])

def Key.line (key : Key) (suffix : String) : String :=
  let labels := key.labels.map fun (name, value) => name ++ "=\"" ++ escapeLabel value ++ "\""
  if labels.isEmpty then key.name ++ suffix
  else key.name ++ suffix ++ "\x7b" ++ String.intercalate "," labels ++ "\x7d"

/-- The lines that a scraper reads, without those for quantiles and sums of durations. -/
def Series.exposition (s : Series) (r : Registry) : List String :=
  let described (name help kind : String) (lines : List String) : List String :=
    if lines.isEmpty then []
    else (if help.isEmpty then [] else ["# HELP " ++ name ++ " " ++ help]) ++
      ["# TYPE " ++ name ++ " " ++ kind] ++ lines
  described requestsTotal "Total HTTP requests handled" "counter"
      (s.counters.map fun (key, n) => key.line "" ++ " " ++ toString n) ++
    described interfacesRegistered "" "gauge"
      (if r.interfaces.isEmpty then []
        else [interfacesRegistered ++ " " ++ toString r.interfaces.length]) ++
    described requestDuration "HTTP request latency in seconds" "summary"
      (s.durations.map fun (key, n) => key.line "_count" ++ " " ++ toString n)

end DualServer.Metrics
