import DualServer.Basic
import DualServer.Transport.Duplex
import DualServer.Transport.Tunnel

/-!
Connections through one tunnel listener, with names for both of their ends. A connection waits in
the backlog until it is accepted; the accepted end gets a name of its own.
-/

namespace DualServer.Transport

structure TunnelLines where
  listener : TunnelListener
  backlog : List Arrival := []
  lines : List Duplex := []
  clients : Named Nat := []
  streams : Named Nat := []
  entries : List Log.Entry := []

namespace TunnelLines

def change (t : TunnelLines) (id : Nat) (f : Duplex → Duplex) : TunnelLines :=
  { t with lines := t.lines.modify id f }

def closeClient (t : TunnelLines) (name : String) : TunnelLines × Bool :=
  match t.clients.get? name with
  | none => (t, false)
  | some id =>
    (({ t with clients := t.clients.erase name } : TunnelLines).change id
      ({ · with clientOpen := false }), true)

/-- An accepted stream is dropped, and its permit comes back; whether there was one. -/
def release (t : TunnelLines) (name : String) : TunnelLines × Bool :=
  match t.streams.get? name with
  | none => (t, false)
  | some id =>
    (({ t with
        listener := (t.listener.step (.streamDropped id)).1
        streams := t.streams.erase name } : TunnelLines).change id
      ({ · with serverOpen := false }), true)

/-- A new connection comes in; an older client of its name leaves. -/
def connect (t : TunnelLines) (name peer : String) : TunnelLines :=
  let t := (t.closeClient name).1
  let id := t.lines.length
  { t with
    lines := t.lines ++ [{}]
    clients := t.clients.put name id
    backlog := t.backlog ++ [.stream id peer] }

def fail (t : TunnelLines) (text : String) : TunnelLines :=
  { t with backlog := t.backlog ++ [.failure text] }

/-- An accept with a time limit: the peer and the time it took. An older stream of the name is
dropped once the new one is there. -/
def accept (t : TunnelLines) (name : String) (limit : Nat) : TunnelLines × Option (String × Nat) :=
  let attempt := t.listener.acceptWithin limit t.backlog
  let t := { t with
    listener := attempt.listener
    backlog := attempt.backlog
    entries := t.entries ++ attempt.entries }
  match attempt.accepted with
  | none => (t, none)
  | some (id, peer, elapsed) =>
    let t := (t.release name).1
    ({ t with streams := t.streams.put name id }, some (peer, elapsed))

/-- Something is done at the end of a connection that has a name among some names. -/
def onLine {α : Type} (t : TunnelLines) (names : Named Nat) (name : String)
    (f : Duplex → Duplex × α) : TunnelLines × Option α :=
  match (names.get? name).bind fun id => t.lines[id]?.map fun line => (id, f line) with
  | none => (t, none)
  | some (id, line, reply) => (t.change id fun _ => line, some reply)

end TunnelLines

end DualServer.Transport
