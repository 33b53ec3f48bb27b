import DualServer.Basic
import DualServer.Serve.Session

/-!
Clients of a session by name: their connections, and the requests that were sent without waiting
for the answer.
-/

namespace DualServer.Serve

open DualServer.Http

structure Visits where
  session : Session
  connections : Named Nat := []
  started : Named Nat := []

namespace Visits

def sleep (v : Visits) (ms : Nat) : Visits := { v with session := v.session.sleep ms }

def trigger (v : Visits) : Visits := { v with session := v.session.trigger }

/-- A new connection under a name; an older one of the name ends. -/
def connect (v : Visits) (name : String) (place : Option Interface) (encrypted : Bool) :
    Visits × Except ConnectFault Unit :=
  match v.session.connect place encrypted with
  | (session, .error fault) => ({ v with session }, .error fault)
  | (session, .ok id) =>
    let session := match v.connections.get? name with
      | some older => session.hangUp older
      | none => session
    ({ v with session, connections := v.connections.put name id }, .ok ())

def waitFor (v : Visits) (id : Nat) : Visits × Reply :=
  let (session, reply) := v.session.await id
  ({ v with session }, reply.getD .late)

def request (v : Visits) (name : String) (request : Request) (waitMs : Nat) :
    Visits × Option Reply :=
  match v.connections.get? name with
  | none => (v, none)
  | some id =>
    let (v, reply) :=
      ({ v with session := v.session.send id request waitMs false } : Visits).waitFor id
    (v, some reply)

/-- A request whose answer is awaited later under a label; the connection is given up for it. -/
def start (v : Visits) (name label : String) (request : Request) (waitMs : Nat) : Visits × Bool :=
  match v.connections.get? name with
  | none => (v, false)
  | some id => ({ v with
      session := v.session.send id request waitMs true
      connections := v.connections.erase name
      started := v.started.put label id }, true)

/-- The answer to a request that was sent earlier. It can be had once. -/
def await (v : Visits) (label : String) : Visits × Option Reply :=
  match v.started.get? label with
  | none => (v, none)
  | some id =>
    let (v, reply) := ({ v with started := v.started.erase label } : Visits).waitFor id
    (v, some reply)

/-- A connection is closed by its client; whether there was one. -/
def close (v : Visits) (name : String) : Visits × Bool :=
  match v.connections.get? name with
  | none => (v, false)
  | some id =>
    ({ v with session := v.session.hangUp id, connections := v.connections.erase name }, true)

end Visits

end DualServer.Serve
