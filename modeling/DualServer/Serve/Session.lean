import DualServer.Config.Live
import DualServer.Http.Wire
import DualServer.Pipeline.Tracer
import DualServer.Serve.Client
import DualServer.Serve.Coordinator
import DualServer.Serve.Task
import DualServer.Tls.Handshakes
import DualServer.Transport.Tunnel

/-!
A server in operation, on a clock of its own: interfaces that accept and drain, clients that
connect, ask and hang up, handlers that pause. Nothing takes time but pauses, retries and time
limits, and the clock moves on only to the next of them.
-/

namespace DualServer.Serve

open DualServer.Http DualServer.Lifecycle DualServer.Pipeline DualServer.Transport

/-- A request on its way through a handler that has paused until `wake`. -/
structure Exchange where
  client : Nat
  request : Request
  effects : List Effect
  result : Except String Response
  wake : Nat

structure Server where
  interface : Interface
  task : Nat
  target : Target
  serving : Serving
  tunnel : Option TunnelListener := none
  handshakes : Tls.Handshakes := {}
  backlog : List Arrival := []
  retryAt : Option Nat := none
  connections : Connections := {}
  deadline : Nat := 0

namespace Server

/-- A server that has not begun to accept. -/
def make (interface : Interface) (task : Nat) (target : Target) (serving : Serving) : Server where
  interface
  task
  target
  serving
  tunnel := match serving.bound with
    | .tunnel service => some (.make service ({} : ListenOptions).maxConnections)
    | .unix _ _ | .tcp _ => none

/-- The tunnel of a server after some events, and what is logged of them. -/
def tunnelled (server : Server) (events : List TunnelEvent) :
    Option TunnelListener × List Log.Entry :=
  match server.tunnel with
  | none => (none, [])
  | some t =>
    let (t, entries) := t.run events
    (some t, entries)

/-- A server that has given up its listener, with all that was not accepted. -/
def stopped (server : Server) (deadline : Nat) : Server :=
  { server with
    connections := server.connections.step .shutdown
    backlog := []
    retryAt := none
    deadline
    tunnel := (server.tunnelled [.acceptCancelled]).1 }

/-- A server with its first accept under way. -/
def listening (server : Server) : Server :=
  { server with tunnel := (server.tunnelled [.acceptStarted]).1 }

end Server

/-- What stays the same during a session. `prepare` is the setup with a text for the metrics. -/
structure Plan where
  prepare : String → Except SetupError Prepared
  mode : ServeMode
  means : Means Host
  tracer : Tracer
  drainMs : Nat

structure Session where
  plan : Plan
  live : Config.Live
  host : Host
  registry : Metrics.Registry
  now : Nat := 0
  series : Metrics.Series := {}
  coordinator : Coordinator := {}
  servers : List Server := []
  clients : List Client := []
  exchanges : List Exchange := []
  acts : List (Interface × TaskAct) := []
  entries : List Log.Entry := []

namespace Session

def client? (s : Session) (id : Nat) : Option Client := s.clients.find? (·.id == id)

def server? (s : Session) (i : Interface) : Option Server := s.servers.find? (·.interface == i)

def changeClient (s : Session) (id : Nat) (f : Client → Client) : Session :=
  { s with clients := s.clients.map fun c => if c.id = id then f c else c }

def changeServers (s : Session) (f : Server → Server) : Session :=
  { s with servers := s.servers.map f }

def changeServer (s : Session) (i : Interface) (f : Server → Server) : Session :=
  s.changeServers fun server => if server.interface = i then f server else server

def log (s : Session) (entries : List Log.Entry) : Session :=
  { s with entries := s.entries ++ entries }

def act (s : Session) (i : Interface) (acts : List TaskAct) : Session :=
  ({ s with acts := s.acts ++ acts.map (i, ·) } : Session).log (acts.filterMap (·.logged i))

def actsOf (s : Session) (i : Interface) : List TaskAct := (s.acts.filter (·.1 == i)).map (·.2)

def states (s : Session) (i : Interface) : List TaskState := statesOf (s.actsOf i)

def isTriggered (s : Session) : Bool := s.coordinator.shutdown.triggered

def isFinished (s : Session) : Bool := s.coordinator.isDone

def endConnection (s : Session) (id : Nat) : Session :=
  match s.client? id with
  | none => s
  | some client =>
    let s := { s with exchanges := s.exchanges.filter (·.client ≠ id) }
    (s.changeClient id Client.cutOff).changeServer client.interface fun server => { server with
      connections := server.connections.step (.closed id)
      tunnel := (server.tunnelled [.streamDropped id]).1 }

/-- The end of a handler: the answer is sent, or the connection ends with a breakdown. Answers
during a drain are the last on their connection. -/
def answer (s : Session) (x : Exchange) : Session :=
  match x.result, s.client? x.client with
  | .ok response, some client =>
    let draining := (s.server? client.interface).any (·.connections.phase ≠ .accepting)
    let closing :=
      draining || Wire.asksToClose x.request.fields || Wire.asksToClose response.fields
    let reply := Reply.answered (Wire.sent x.request closing response)
    let s := s.changeClient x.client fun c => { c with stage := .idle, reply := some reply }
    if closing || client.single then s.endConnection x.client else s
  | _, _ => s.endConnection x.client

def carryOn (s : Session) (x : Exchange) : List Effect → Session
  | [] => s.answer x
  | .log entry :: rest => (s.log [entry]).carryOn x rest
  | .measure sample :: rest =>
    ({ s with series := s.series.record sample } : Session).carryOn x rest
  | .pause ms :: rest =>
    { s with exchanges := s.exchanges ++ [{ x with effects := rest, wake := s.now + ms }] }

/-- What answers on an interface, with the settings and the metrics of the moment. -/
def service (s : Session) (server : Server) : Service := fun request =>
  match s.plan.prepare (String.intercalate "\n" (s.series.exposition s.registry)) with
  | .error _ => .panic "no routes"
  | .ok prepared =>
    let pipeline := (prepared.artifacts.spec server.interface).pipeline
    (Task.router s.plan.tracer pipeline s.live.load server.serving).serve request

/-- A request arrives. It carries the address of its client, if that has one. -/
def handle (s : Session) (client : Client) (request : Request) : Session :=
  match s.server? client.interface with
  | none => s
  | some server =>
    let request := { request with peer := client.address }
    let run := s.service server request
    (s.changeClient client.id ({ · with stage := .busy })).carryOn
      ⟨client.id, request, [], run.result, s.now⟩ run.effects

def accept (s : Session) (i : Interface) (id : Nat) : Session :=
  s.changeServer i fun server => { server with
    connections := server.connections.step (.accepted id) }

/-- The first that is seen of a client on its connection. -/
def welcome (s : Session) (i : Interface) (id : Nat) : Session :=
  match s.client? id, s.server? i with
  | some client, some server =>
    if client.encrypted && !server.serving.tls then s.endConnection id
    else match client.sent with
      | some request =>
        let s := s.handle client request
        if client.present then s else s.endConnection id
      | none =>
        if client.present then s.changeClient id ({ · with stage := .idle }) else s.endConnection id
  | _, _ => s

def serve (s : Session) (i : Interface) (id : Nat) : Session := (s.accept i id).welcome i id

def handshake (s : Session) (i : Interface) (events : List Tls.HandshakeEvent) : Session :=
  match s.server? i with
  | none => s
  | some server =>
    let (handshakes, entries) := server.handshakes.run events
    (s.changeServer i ({ · with handshakes })).log entries

/-- A handshake fails. The accept that waited beside it starts anew, without its pause. -/
def failHandshake (s : Session) (i : Interface) (id : Nat) (text : String) : Session :=
  ((s.handshake i [.handshakeEnded id (.failed text), .looked]).endConnection id).changeServer i
    ({ · with retryAt := none })

/-- What a handshake says about a client that speaks without TLS, about one that left, and about one
that took too long. -/
def notTls : String := "received corrupt message of type InvalidContentType"
def leftEarly : String := "tls handshake eof"
def tooSlow : String := "deadline has elapsed"

def handshakeLimitMs : Nat := 10000

/-- What comes of the handshake with a client, as far as that can be told at once. -/
def shakeHands (s : Session) (i : Interface) (client : Client) : Session :=
  let id := client.id
  if !client.present then s.failHandshake i id leftEarly
  else if client.encrypted then
    (s.handshake i [.handshakeEnded id .done, .looked, .acceptStarted]).serve i id
  else if client.sent.isSome then s.failHandshake i id notTls
  else s.changeClient id ({ · with
    stage := .handshaking
    handshakeEnds := some (s.now + handshakeLimitMs) })

def takeIn (s : Session) (i : Interface) (id : Nat) : Session :=
  match s.client? id, s.server? i with
  | some client, some server =>
    if server.serving.tls then
      (s.handshake i [.acceptStarted, .arrived ⟨id, client.peerShown⟩]).shakeHands i client
    else s.serve i id
  | _, _ => s

def take (s : Session) (i : Interface) (server : Server) (rest : List Arrival) :
    Arrival → Session
  | .failure text =>
    (s.changeServer i fun server => { server with
      backlog := rest
      retryAt := some (s.now + acceptRetryMs) }).log
        (server.tunnelled [.acceptFailed text]).2
  | .stream id peer =>
    let events := [.streamYielded id peer, .acceptStarted]
    ((s.changeServer i fun server => { server with
      backlog := rest
      tunnel := (server.tunnelled events).1 }).log (server.tunnelled events).2).takeIn i id

def accepts (server : Server) : Bool :=
  server.connections.phase = .accepting && server.retryAt.isNone && server.tunnel.all (·.asks)

def takeAll (s : Session) (i : Interface) : Nat → Session
  | 0 => s
  | n + 1 =>
    match s.server? i with
    | none => s
    | some server =>
      if accepts server then
        match server.backlog with
        | [] => s
        | arrival :: rest => (s.take i server rest arrival).takeAll i n
      else s

def giveUp (s : Session) (i : Interface) : Session :=
  match s.server? i with
  | none => s
  | some server =>
    server.connections.opened.foldl endConnection (s.changeServer i fun server => { server with
      connections := server.connections.step .timeout })

def stopAccepting (s : Session) (i : Interface) (server : Server) : Session :=
  let host := { s.host with system := server.serving.bound.close s.host.system }
  let deadline := s.now + s.plan.drainMs
  (({ s with host } : Session).changeServer i (·.stopped deadline)).act i
    (Task.stop i (server.stopped deadline).connections.reported s.plan.drainMs)

def idsAt (s : Session) (i : Interface) (stages : List ClientStage) : List Nat :=
  (s.clients.filter fun c => c.interface == i && stages.contains c.stage).map (·.id)

/-- Who has not been accepted is refused. Idle connections close, and those in use have until the
deadline, if there is any time at all. -/
def closeIdle (s : Session) (i : Interface) (phase : ConnectionPhase) : Session :=
  let refused := (s.idsAt i [.queued, .handshaking]).foldl endConnection s
  if phase = .draining && s.plan.drainMs = 0 then refused.giveUp i
  else (s.idsAt i [.idle]).foldl endConnection refused

def beginDrain (s : Session) (i : Interface) : Session :=
  match s.server? i with
  | none => s
  | some server =>
    if server.connections.phase = .accepting then
      (s.stopAccepting i server).closeIdle i (server.connections.step .shutdown).phase
    else s

/-- The task of a server ends after its drain and is joined. -/
def joinTask (s : Session) (i : Interface) (server : Server) (how : Drained) : Session :=
  let (host, acts) := Task.finish s.plan.means i server.serving.bound how s.host
  let (coordinator, entries) := s.coordinator.join server.task (.ok ())
  (({ s with host, coordinator } : Session).act i acts).log entries

def conclude (s : Session) (i : Interface) : Session :=
  match s.server? i with
  | none => s
  | some server =>
    match server.connections.phase with
    | .done how =>
      if s.coordinator.running.contains server.task then s.joinTask i server how else s
    | _ => s

def interfaces (s : Session) : List Interface := s.servers.map (·.interface)

def beginDrains (s : Session) : Session :=
  if s.isTriggered then s.interfaces.foldl beginDrain s else s

def takeEach (s : Session) : Session :=
  s.servers.foldl (fun s server => s.takeAll server.interface server.backlog.length) s

def concludeAll (s : Session) : Session := s.interfaces.foldl conclude s

def settle (s : Session) : Session := s.beginDrains.takeEach.concludeAll

def setOff (s : Session) : Session :=
  let (shutdown, entries) := s.coordinator.shutdown.trigger
  ({ s with coordinator := { s.coordinator with shutdown } } : Session).log entries

def trigger (s : Session) : Session := s.setOff.settle

def hangUp (s : Session) (id : Nat) : Session :=
  match s.client? id with
  | none => s
  | some client =>
    let s := s.changeClient id ({ · with present := false })
    match client.stage with
    | .queued => s
    | .over => s
    | .handshaking => (s.failHandshake client.interface id leftEarly).settle
    | _ => (s.endConnection id).settle

def send (s : Session) (id : Nat) (request : Request) (waitMs : Nat) (single : Bool) : Session :=
  match s.client? id with
  | none => s
  | some client =>
    let s := s.changeClient id fun c => { c with
      sent := some request
      reply := none
      single
      expires := some (s.now + waitMs) }
    match client.stage with
    | .idle => (s.handle { client with single } request).settle
    | .handshaking => (s.failHandshake client.interface id notTls).settle
    | .over => s.changeClient id Client.cutOff
    | _ => s

def collect (s : Session) (id : Nat) : Session × Option Reply :=
  match (s.client? id).bind (·.reply) with
  | none => (s, none)
  | some reply => (s.changeClient id fun c => { c with sent := none, reply := none }, some reply)

def expire (s : Session) (id : Nat) : Session :=
  (s.changeClient id ({ · with reply := some .late })).hangUp id

def due (s : Session) : List Nat :=
  s.clients.filterMap (fun c => if c.waits then c.expires else none) ++
    s.clients.filterMap (·.handshakeDue) ++
    s.exchanges.map (·.wake) ++ s.servers.filterMap (·.retryAt) ++
    (s.servers.filter (·.connections.phase = .draining)).map (·.deadline)

def expireAll (s : Session) : Session :=
  let expired := s.clients.filter fun c => c.waits && c.expires.any (· ≤ s.now)
  (expired.map (·.id)).foldl expire s

def wake (s : Session) : Session :=
  (s.exchanges.filter (·.wake ≤ s.now)).foldl (fun s x => s.carryOn x x.effects)
    { s with exchanges := s.exchanges.filter (s.now < ·.wake) }

def dropSlow (s : Session) : Session :=
  (s.clients.filter (·.handshakeDue.any (· ≤ s.now))).foldl
    (fun s c => s.failHandshake c.interface c.id tooSlow) s

def retry (s : Session) : Session :=
  s.changeServers fun server =>
    if server.retryAt.any (· ≤ s.now) then { server with retryAt := none } else server

def giveUpLate (s : Session) : Session :=
  let late := s.servers.filter fun server =>
    server.connections.phase = .draining && server.deadline ≤ s.now
  (late.map (·.interface)).foldl giveUp s

/-- The clock moves to a moment. Clients give up first, then handlers go on, then handshakes are
given up and accepts tried again, then drains end. -/
def moveTo (s : Session) (t : Nat) : Session :=
  let woken := ({ s with now := t } : Session).expireAll.wake.settle
  woken.dropSlow.retry.settle.giveUpLate.settle

/-- The clock runs to a moment, or until something holds. `fuel` bounds the number of moments at
which something is due. -/
def runTo (limit : Nat) (stop : Session → Bool) : Nat → Session → Session
  | 0, s => s
  | fuel + 1, s =>
    if stop s then s
    else match (s.due.filter (· ≤ limit)).min? with
      | none => { s with now := max s.now limit }
      | some t => runTo limit stop fuel (s.moveTo (max t s.now))

/-- The clock runs for a time, or until something holds; no more moments can be due than there are
milliseconds. -/
def advance (s : Session) (ms : Nat) (stop : Session → Bool) : Session :=
  runTo (s.now + ms) stop (ms + 2) s

def sleep (s : Session) (ms : Nat) : Session :=
  if ms = 0 then s else { s.advance (ms - 1) (fun _ => false) with now := s.now + ms }

/-- The wait for the answer to a request, as long as the client has patience. -/
def await (s : Session) (id : Nat) : Session × Option Reply :=
  match (s.client? id).bind (·.expires) with
  | none => s.collect id
  | some expires =>
    (s.advance (expires - s.now) fun s => (s.client? id).all (·.reply.isSome)).collect id

def handshakeWaitMs : Nat := 5000

def arrive (s : Session) (i : Interface) (encrypted : Bool)
    (address : Option Net.SocketAddress) : Session × Nat :=
  let id := s.clients.length
  let client : Client := { id, interface := i, encrypted, address }
  let s : Session := { s with clients := s.clients ++ [client] }
  ((s.changeServer i fun server => { server with
    backlog := server.backlog ++ [Arrival.stream id client.peerText] }).settle, id)

/-- What a client has once its connection is on its way: without TLS it has the connection; with
TLS it needs a handshake. -/
def connected (s : Session) (id : Nat) : Session × Except ConnectFault Nat :=
  match s.client? id with
  | none => (s, .error .refused)
  | some client =>
    if !client.encrypted then (s, .ok id)
    else
      let s := s.advance handshakeWaitMs fun s => (s.client? id).all (·.stage ≠ .queued)
      match s.client? id with
      | some { stage := .idle, .. } => (s, .ok id)
      | some { stage := .queued, .. } => (s.hangUp id, .error .tlsTimeout)
      | _ => (s, .error .tls)

def reachable (s : Session) (server : Server) : Bool :=
  match server.serving.bound with
  | .unix path _ => s.host.system.canConnect path
  | .tcp address => server.connections.phase = .accepting && !server.target.address.endsWith ":0" &&
      s.host.system.addresses.contains address
  | .tunnel _ => false

/-- Where a client comes from that connects to a listener: to one at an address, from a port of this
machine that no other client has. -/
def clientAddress (s : Session) (server : Server) : Option Net.SocketAddress :=
  match server.serving.bound with
  | .tcp _ => some ⟨.v4 0x7F000001, 49152 + s.clients.length % 16384, by omega⟩
  | .unix _ _ | .tunnel _ => none

/-- A client connects: to the tunnel, or to the listener of an interface. Over the tunnel a
connection is delivered even when nobody accepts it any longer. -/
def connect (s : Session) (place : Option Interface) (encrypted : Bool) :
    Session × Except ConnectFault Nat :=
  match place with
  | none =>
    match s.servers.find? (·.tunnel.isSome) with
    | none => (s, .error .noListener)
    | some server =>
      if server.connections.phase = .accepting then
        let (s, id) := s.arrive server.interface encrypted none
        s.connected id
      else
        let id := s.clients.length
        let client : Client := { id, interface := server.interface, encrypted, stage := .over }
        ({ s with clients := s.clients ++ [client] } : Session).connected id
  | some i =>
    match s.server? i with
    | none => (s, .error .noListener)
    | some server =>
      if s.reachable server then
        let (s, id) := s.arrive i encrypted (s.clientAddress server)
        s.connected id
      else (s, .error .refused)

def failAccept (s : Session) (text : String) : Session :=
  (s.changeServers fun server =>
    if server.tunnel.isSome && server.connections.phase = .accepting then
      { server with backlog := server.backlog ++ [.failure text] }
    else server).settle

def addServer (s : Session) (server : Server) : Session :=
  { s with servers := s.servers ++ [server] }

/-- A task that has begun in vain is joined at once. -/
def refuse (s : Session) (task : Nat) (halt : Halt) : Session :=
  let (coordinator, entries) := s.coordinator.join task (.error halt)
  ({ s with coordinator } : Session).log entries

def startTask (s : Session) (task : Nat) (spec : InterfaceSpec) : Session :=
  let (host, acts, result) := Task.start s.plan.means spec s.host
  let begun := ({ s with host } : Session).act spec.interface acts
  match result with
  | .ok serving =>
    begun.addServer (Server.make spec.interface task spec.target serving).listening
  | .error halt => begun.refuse task halt

/-- A session before its tasks begin. With `early`, the shutdown has been set off. -/
def idle (plan : Plan) (settings : Config.Settings) (host : Host) (early : Bool)
    (prepared : Prepared) : Session :=
  let specs := prepared.artifacts.select plan.mode
  let alarm := if early then Shutdown.trigger {} else ({}, [])
  let spawned := Coordinator.spawn alarm.1 (specs.map (·.interface))
  { plan
    live := ⟨settings⟩
    host
    registry := prepared.registry
    coordinator := spawned.1
    entries := alarm.2 ++ spawned.2 }

def startTasks (s : Session) (specs : List InterfaceSpec) : Session :=
  specs.zipIdx.foldl (fun s (spec, task) => s.startTask task spec) s

/-- The setup, then all tasks begin. What the setup logs is not part of the session. -/
def start (plan : Plan) (settings : Config.Settings) (host : Host) (early : Bool) :
    Except SetupError Session :=
  (plan.prepare "").map fun prepared =>
    ((idle plan settings host early prepared).startTasks
      (prepared.artifacts.select plan.mode)).settle

/-- What comes to a session from outside: its clients, its tunnel backend, whoever ends it or
changes the settings, and time. -/
inductive SessionEvent
  | connects (place : Option Interface) (encrypted : Bool)
  | sends (client : Nat) (request : Request) (waitMs : Nat) (single : Bool)
  | awaits (client : Nat)
  | hangsUp (client : Nat)
  | acceptFails (text : String)
  | stores (settings : Config.Settings)
  | triggered
  | passes (ms : Nat)

def step (s : Session) : SessionEvent → Session
  | .connects place encrypted => (s.connect place encrypted).1
  | .sends client request waitMs single => s.send client request waitMs single
  | .awaits client => (s.await client).1
  | .hangsUp client => s.hangUp client
  | .acceptFails text => s.failAccept text
  | .stores settings => { s with live := s.live.store settings }
  | .triggered => s.trigger
  | .passes ms => s.sleep ms

def run (s : Session) (events : List SessionEvent) : Session := events.foldl step s

def finish (s : Session) : Session × Nat :=
  let ended := s.trigger.advance s.plan.drainMs isFinished
  (ended, ended.now - s.now)

end Session

end DualServer.Serve
