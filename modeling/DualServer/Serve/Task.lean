import DualServer.Lifecycle.Setup
import DualServer.Pipeline.Tracer
import DualServer.Serve.Connections
import DualServer.Serve.Summary
import DualServer.Tls.Certificates
import DualServer.Transport.Resolver

/-!
The serving task of one interface. Certificates come before the listener, so a task that cannot get
them binds nothing. `Means` is what a task works with; what each of them answers is left open.
-/

namespace DualServer.Serve

open DualServer.Http DualServer.Lifecycle DualServer.Pipeline DualServer.Transport

inductive TaskAct
  | enters (state : TaskState)
  | asksCertificates
  | asksListener
  | logs (entry : Log.Entry)
  deriving DecidableEq, Repr

def TaskAct.logged (i : Interface) : TaskAct → Option Log.Entry
  | enters state => some {
      level := .debug
      source := "serve_orchestrator::http::server"
      message := "Serving task state changed"
      fields := [("interface", .shown i.name), ("state", .shown state.name)] }
  | asksCertificates => none
  | asksListener => none
  | logs entry => some entry

def statesOf (acts : List TaskAct) : List TaskState :=
  acts.filterMap fun
    | .enters state => some state
    | _ => none

/-- The means of serving: where certificates come from, whether TLS can be served with them, how a
listener is made, and how a socket file is removed. Each may change the surroundings. -/
structure Means (World : Type) where
  certificates : World → Interface → World × Except Halt Tls.Material × List Log.Entry
  context : Interface → Tls.Material → Except Halt Unit
  listen : World → Target → Flags → World × Except Halt Bound × List Log.Entry
  removeFile : World → String → World × Option Fault

structure Serving where
  bound : Bound
  tls : Bool
  deriving DecidableEq, Repr

/-- How the requests that come in are marked. -/
def Serving.security (s : Serving) : Security :=
  match s.bound, s.tls with
  | .unix _ _, _ => .plain
  | .tcp _, true => .tls
  | .tunnel _, true => .tls
  | .tcp _, false => .plain
  | .tunnel _, false => .plain

def marking (security : Security) : Middleware := fun inner request =>
  inner { request with security := some security }

/-- How serving went on from there: to a drain with a number of connections at its start, or into a
breakdown. -/
inductive ServingEnd
  | drained (connections : Nat) (how : Drained)
  | panicked (text : String)
  deriving DecidableEq, Repr

namespace Task

variable {World : Type}

/-- Whether a task asks for certificates: file sockets never carry TLS. -/
def wantsTls (spec : InterfaceSpec) : Bool := spec.tlsEnabled && spec.mode ≠ .unixSocket

def secure (m : Means World) (spec : InterfaceSpec) (w : World) :
    World × List TaskAct × Except Halt Bool :=
  if wantsTls spec then
    let (w', material, entries) := m.certificates w spec.interface
    (w', .asksCertificates :: entries.map .logs,
      material.bind fun material => (m.context spec.interface material).map fun _ => true)
  else (w, [], .ok false)

def bind (m : Means World) (spec : InterfaceSpec) (w : World) :
    World × List TaskAct × Except Halt Serving :=
  match secure m spec w with
  | (w', acts, .error halt) => (w', acts, .error halt)
  | (w', acts, .ok tls) =>
    let (w'', bound, entries) := m.listen w' spec.target spec.flags
    (w'', acts ++ .asksListener :: entries.map .logs, bound.map fun bound => ⟨bound, tls⟩)

/-- What answers on a listener: the pipeline, traced, and outside of all the marking of requests. -/
def router (tracer : Tracer) (p : Pipeline) (current : Config.Settings) (s : Serving) : Router :=
  ((p.router current).layer tracer.wrap).layer (marking s.security)

/-- What is said about a public interface that answers without TLS. -/
def plainHttpWarning : String :=
  "HTTPS is disabled; make sure your proxy provides HTTPS and redirects HTTP to HTTPS"

/-- What is said about connections that were closed at the end of a drain. -/
def drainWarning : String := "Drain timeout exceeded; closed remaining connections"

def entry (level : Log.Level) (i : Interface) (message : String)
    (fields : List (String × Log.FieldValue)) : TaskAct :=
  .logs {
    level
    source := "serve_orchestrator::http::server"
    message
    fields := ("interface", .shown i.name) :: fields }

/-- What a task does once its listener is ready. -/
def greet (i : Interface) (s : Serving) : List TaskAct :=
  let mode := s.bound.mode s.tls
  [entry .info i "Serving" [("address", .shown s.bound.text), ("transport", .shown mode.name)],
    .enters .serving] ++
  if i = .public && mode = .plainTcp then [entry .warn i plainHttpWarning []] else []

/-- The beginning of a task, up to serving or to the failure that it ends with. -/
def start (m : Means World) (spec : InterfaceSpec) (w : World) :
    World × List TaskAct × Except Halt Serving :=
  match bind m spec w with
  | (w', acts, .ok serving) =>
    (w', .enters .initializing :: .enters .binding :: acts ++ greet spec.interface serving,
      .ok serving)
  | (w', acts, .error (.failure failure)) =>
    (w', .enters .initializing :: .enters .binding :: acts ++
      [.enters .bindFailed, .enters .terminated], .error (.failure failure))
  | (w', acts, .error (.panic text)) =>
    (w', .enters .initializing :: .enters .binding :: acts, .error (.panic text))

def stop (i : Interface) (connections drainMs : Nat) : List TaskAct :=
  [.enters .shuttingDown,
    .logs {
      level := .info
      source := "serve_orchestrator::http::connections"
      message := "Draining in-flight requests"
      fields := [("interface", .shown i.name), ("connections", .number connections),
        ("timeout_ms", .number drainMs)] }]

def finish (m : Means World) (i : Interface) (bound : Bound) (how : Drained) (w : World) :
    World × List TaskAct :=
  let (w', removal) := match bound with
    | .unix path _ =>
      let (w', fault) := m.removeFile w path
      (w', (fault.map fun fault =>
        TaskAct.logs (notRemovedEntry "serve_orchestrator::http::server" path fault)).toList)
    | _ => (w, [])
  let warning := match how with
    | .completed => []
    | .timedOut aborted => [entry .warn i drainWarning [("aborted", .number aborted)]]
  (w', removal ++ warning ++ [entry .info i "Server stopped" [], .enters .terminated])

def run (m : Means World) (spec : InterfaceSpec) (drainMs : Nat) (ending : ServingEnd) (w : World) :
    World × List TaskAct × Except Halt Unit :=
  match start m spec w with
  | (w', acts, .error halt) => (w', acts, .error halt)
  | (w', acts, .ok serving) =>
    match ending with
    | .panicked text => (w', acts, .error (.panic text))
    | .drained connections how =>
      let (w'', closing) := finish m spec.interface serving.bound how w'
      (w'', acts ++ stop spec.interface connections drainMs ++ closing, .ok ())

end Task

/-- What a server runs on: the operating system, the certificates it loads or makes up, and the
tunnel backend with the requests it has had. -/
structure Host where
  system : System
  certificates : Tls.CertificateStore
  calls : List TunnelCall := []

namespace Host

variable [UrlReader]

def configured (h : Host) (i : Interface) : Host × Except Halt Tls.Material × List Log.Entry :=
  let answer := h.certificates.certificates h.system.files.read i
  ({ h with certificates := answer.store }, answer.material.mapError .failure, answer.entries)

def means (factory : TunnelFactory) : Means Host where
  certificates := configured
  context i material := (material.checkContext i).mapError .failure
  listen h target flags :=
    let r := resolve h.system factory target flags
    ({ h with system := r.system, calls := h.calls ++ r.calls }, r.result, r.entries)
  removeFile h path := match h.system.removeFile path with
    | .ok system => ({ h with system }, none)
    | .error fault => (h, some fault)

end Host

end DualServer.Serve
