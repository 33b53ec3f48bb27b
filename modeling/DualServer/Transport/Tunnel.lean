import DualServer.Log.Event

/-!
A tunnel listener keeps the number of its open connections under a limit. A permit is taken before
the backend is asked for a connection; it travels with the stream that comes of it and comes back
when the stream is dropped. A pending accept holds the permit it has taken, through failures and
pauses, until a stream takes it over or the accept is cancelled.
-/

namespace DualServer.Transport

inductive Accepting
  | idle
  | waiting
  | holding
  deriving DecidableEq, Repr

/-- A tunnel listener: permits left, the accept under way, and the streams it gave out. -/
structure TunnelListener where
  service : String
  available : Nat
  accepting : Accepting := .idle
  streams : List Nat := []
  deriving DecidableEq, Repr

inductive TunnelEvent
  | acceptStarted
  | streamYielded (id : Nat) (peer : String)
  | acceptFailed (text : String)
  | acceptCancelled
  | streamDropped (id : Nat)
  deriving DecidableEq, Repr

namespace TunnelListener

/-- A listener for some connections at a time; it always allows one. -/
def make (service : String) (maxConnections : Nat) : TunnelListener :=
  { service, available := max maxConnections 1 }

def asks (t : TunnelListener) : Bool := t.accepting = .holding

def held (t : TunnelListener) : Nat := if t.asks then 1 else 0

def acceptedEntry (t : TunnelListener) (peer : String) : Log.Entry where
  level := .debug
  source := "serve_orchestrator::net::tunnel"
  message := "Tunnel connection accepted"
  fields := [("service", .shown t.service), ("peer", .shown peer),
    ("available_permits", .number t.available)]

/-- The log entry for an accept that failed and will be tried again. -/
def failedEntry (t : TunnelListener) (text : String) : Log.Entry where
  level := .error
  source := "serve_orchestrator::net::tunnel"
  message := "Tunnel accept failed"
  fields := [("service", .shown t.service), ("error", .shown text)]

/-- One event. What cannot happen in a state leaves it as it is: the backend answers only while it
is asked, and only one accept runs at a time. -/
def step (t : TunnelListener) : TunnelEvent → TunnelListener × List Log.Entry
  | .acceptStarted =>
    match t.accepting, t.available with
    | .idle, n + 1 => ({ t with available := n, accepting := .holding }, [])
    | .idle, 0 => ({ t with accepting := .waiting }, [])
    | _, _ => (t, [])
  | .streamYielded id peer =>
    if t.asks then
      ({ t with accepting := .idle, streams := t.streams ++ [id] }, [t.acceptedEntry peer])
    else (t, [])
  | .acceptFailed text => (t, if t.asks then [t.failedEntry text] else [])
  | .acceptCancelled =>
    ({ t with accepting := .idle, available := t.available + t.held }, [])
  | .streamDropped id =>
    if t.streams.contains id then
      let streams := t.streams.erase id
      if t.accepting = .waiting then ({ t with streams, accepting := .holding }, [])
      else ({ t with streams, available := t.available + 1 }, [])
    else (t, [])

def run (t : TunnelListener) : List TunnelEvent → TunnelListener × List Log.Entry
  | [] => (t, [])
  | event :: rest =>
    let (t', entries) := t.step event
    let (final, later) := t'.run rest
    (final, entries ++ later)

end TunnelListener

inductive Arrival
  | stream (id : Nat) (peer : String)
  | failure (text : String)
  deriving DecidableEq, Repr

def acceptRetryMs : Nat := 1000

/-- What came of an accept with a time limit: the stream, its peer and the time it took, or none. -/
structure AcceptAttempt where
  listener : TunnelListener
  backlog : List Arrival
  accepted : Option (Nat × String × Nat) := none
  entries : List Log.Entry := []
  deriving DecidableEq, Repr

namespace TunnelListener

/-- An accept under way, some time after its start. A failure takes its pause; a pause that ends
with the time limit still lets the backend be asked once more. -/
def acceptFrom (t : TunnelListener) (limit elapsed : Nat) : List Arrival → AcceptAttempt
  | [] => ⟨(t.step .acceptCancelled).1, [], none, []⟩
  | .stream id peer :: rest =>
    if t.asks && elapsed ≤ limit then
      let (t', entries) := t.step (.streamYielded id peer)
      ⟨t', rest, some (id, peer, elapsed), entries⟩
    else ⟨(t.step .acceptCancelled).1, .stream id peer :: rest, none, []⟩
  | .failure text :: rest =>
    if t.asks && elapsed ≤ limit then
      let (t', entries) := t.step (.acceptFailed text)
      let later := t'.acceptFrom limit (elapsed + acceptRetryMs) rest
      { later with entries := entries ++ later.entries }
    else ⟨(t.step .acceptCancelled).1, .failure text :: rest, none, []⟩

/-- An accept that is given up after a time limit. -/
def acceptWithin (t : TunnelListener) (limit : Nat) (backlog : List Arrival) : AcceptAttempt :=
  (t.step .acceptStarted).1.acceptFrom limit 0 backlog

end TunnelListener

end DualServer.Transport
