import DualServer.Log.Event

/-!
A TLS listener takes connections from an inner listener and gives them on when their handshake is
done. Handshakes run beside each other, so one that hangs or fails holds up no other. They outlive
the accept during which they began: cancelling an accept loses nothing.
-/

namespace DualServer.Tls

structure Inner where
  id : Nat
  peer : String
  deriving DecidableEq, Repr

inductive HandshakeEnd
  | done
  | failed (text : String)
  | panicked (text : String)
  deriving DecidableEq, Repr

/-- Where the connections of the inner listener are: in a handshake, past it but not looked at yet,
given on, or thrown away. -/
structure Handshakes where
  running : List Inner := []
  ended : List (Inner × HandshakeEnd) := []
  returned : List Inner := []
  discarded : List Inner := []
  accepting : Bool := false
  deriving DecidableEq, Repr

inductive HandshakeEvent
  | acceptStarted
  | acceptCancelled
  | arrived (connection : Inner)
  | handshakeEnded (id : Nat) (how : HandshakeEnd)
  | looked
  deriving DecidableEq, Repr

namespace Handshakes

def pending (h : Handshakes) : List Inner := h.running ++ h.ended.map (·.1)

def failureEntry (connection : Inner) : HandshakeEnd → List Log.Entry
  | .done => []
  | .failed text => [{
      level := .debug
      source := "serve_orchestrator::net::tls"
      message := "TLS handshake failed"
      fields := [("peer", .shown connection.peer), ("error", .shown text)] }]
  | .panicked text => [{
      level := .warn
      source := "serve_orchestrator::net::tls"
      message := "TLS handshake task failed"
      fields := [("error", .shown text)] }]

/-- One event. New connections and looks at ended handshakes happen only during an accept; a look
at a successful handshake ends the accept, any other look does not. -/
def step (h : Handshakes) : HandshakeEvent → Handshakes × List Log.Entry
  | .acceptStarted => ({ h with accepting := true }, [])
  | .acceptCancelled => ({ h with accepting := false }, [])
  | .arrived connection =>
    if h.accepting then ({ h with running := h.running ++ [connection] }, []) else (h, [])
  | .handshakeEnded id how =>
    match h.running.find? (·.id == id) with
    | none => (h, [])
    | some connection =>
      ({ h with
        running := h.running.erase connection
        ended := h.ended ++ [(connection, how)] }, [])
  | .looked =>
    match h.accepting, h.ended with
    | true, (connection, .done) :: rest =>
      ({ h with ended := rest, returned := h.returned ++ [connection], accepting := false }, [])
    | true, (connection, how) :: rest =>
      ({ h with ended := rest, discarded := h.discarded ++ [connection] },
        failureEntry connection how)
    | _, _ => (h, [])

def run (h : Handshakes) : List HandshakeEvent → Handshakes × List Log.Entry
  | [] => (h, [])
  | event :: rest =>
    let (h', entries) := h.step event
    let (final, later) := h'.run rest
    (final, entries ++ later)

end Handshakes

end DualServer.Tls
