import DualServer.Identity
import DualServer.Pipeline.Compose
import DualServer.Pipeline.RouteTable
import DualServer.Transport.Target

/-!
Setting the server up: routes, pipelines and targets of both interfaces are made, whichever of them
is served in the end. `Reads` are the settings at the moments when the setup looks at them.
-/

namespace DualServer.Lifecycle

open DualServer.Config DualServer.Pipeline DualServer.Transport

inductive ServeMode
  | all
  | only (interface : Interface)
  deriving DecidableEq, Repr

namespace ServeMode

def interfaces : ServeMode → List Interface
  | all => Interface.all
  | only i => [i]

def isStandalone (m : ServeMode) : Bool := m ≠ all

end ServeMode

structure Command where
  mode : ServeMode := .all
  tunnelMode : Bool := false
  tunnelService : Option String := none
  deriving DecidableEq, Repr

def Command.flags (c : Command) (i : Interface) : Flags := .make i c.tunnelMode c.tunnelService

/-- What the embedding application adds: routes to those an interface has, and middlewares. -/
structure Application where
  register : Interface → RouteTable → Except RouteFault RouteTable := fun _ table => .ok table
  middlewares : List Middleware := []

structure InterfaceSpec where
  interface : Interface
  pipeline : Pipeline
  target : Target
  flags : Flags
  mode : Mode
  tlsEnabled : Bool

structure Artifacts where
  admin : InterfaceSpec
  «public» : InterfaceSpec

namespace Artifacts

def spec (a : Artifacts) : Interface → InterfaceSpec
  | .admin => a.admin
  | .public => a.public

def select (a : Artifacts) (m : ServeMode) : List InterfaceSpec := m.interfaces.map a.spec

end Artifacts

/-- Why a setup failed. A route that does not fit is a breakdown of the application. -/
inductive SetupError
  | memoryAlone
  | route (fault : RouteFault)
  deriving DecidableEq, Repr

def memoryAloneText : String :=
  "dsn=memory is not supported when serving a single interface; use `serve all` or configure a " ++
    "persistent database"

/-- The settings at the start of the setup and when each pipeline is composed. -/
structure Reads where
  first : Settings
  composing : Interface → Settings

def Reads.steady (s : Settings) : Reads := ⟨s, fun _ => s⟩

structure Prepared where
  artifacts : Artifacts
  registry : Metrics.Registry
  entries : List Log.Entry

def registeredEntry (i : Interface) : Log.Entry where
  level := .debug
  source := "serve_orchestrator::observability::metrics"
  message := "Router registered with metrics registry"
  fields := [("interface", .shown i.name)]

/-- The interfaces registered one after the other, each logged when new. -/
def registerAll (r : Metrics.Registry) : List Interface → Metrics.Registry × List Log.Entry
  | [] => (r, [])
  | i :: rest =>
    let (r', isNew) := r.register i
    let (final, entries) := registerAll r' rest
    (final, (if isNew then [registeredEntry i] else []) ++ entries)

/-- The spec of an interface: target, transport and TLS from the first settings, the pipeline from
those at its composition. -/
def makeSpec (reads : Reads) (command : Command) (custom : List Middleware) (i : Interface)
    (routes : RouteTable) : InterfaceSpec × List Log.Entry :=
  let target := Target.ofSettings reads.first i
  let flags := command.flags i
  let tlsEnabled := (reads.first.tls i).enabled
  let mode := Mode.select target flags tlsEnabled
  let (pipeline, entries) :=
    Pipeline.compose (reads.composing i) i mode.requiresGate custom routes.router
  (⟨i, pipeline, target, flags, mode, tlsEnabled⟩, entries ++ [{
    level := .debug
    source := "serve_orchestrator::lifecycle::startup"
    message := "Interface prepared"
    fields := [("interface", .shown i.name), ("target", .shown target.address),
      ("transport", .shown mode.name)] }])

/-- The setup: nothing is logged or registered when it is refused for the data source. -/
def setup (app : Application) (build : Build) (exposition : String) (registry : Metrics.Registry)
    (command : Command) (reads : Reads) : Except SetupError Prepared :=
  if command.mode.isStandalone && reads.first.isMemory then .error .memoryAlone
  else
    match app.register .admin (Health.routes .admin build exposition) with
    | .error fault => .error (.route fault)
    | .ok adminRoutes =>
      match app.register .public (Health.routes .public build exposition) with
      | .error fault => .error (.route fault)
      | .ok publicRoutes =>
        let greeting : Log.Entry := {
          level := .info
          source := "serve_orchestrator::lifecycle::startup"
          message := build.banner }
        let (registry, registered) := registerAll registry Interface.all
        let spec := makeSpec reads command app.middlewares
        let (adminSpec, adminEntries) := spec .admin adminRoutes
        let (publicSpec, publicEntries) := spec .public publicRoutes
        .ok {
          artifacts := ⟨adminSpec, publicSpec⟩
          registry
          entries := [greeting, (Identity.ofSettings reads.first build).entry] ++ registered ++
            adminEntries ++ publicEntries }

end DualServer.Lifecycle
