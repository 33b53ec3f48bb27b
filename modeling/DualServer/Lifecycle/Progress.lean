import DualServer.Lifecycle.Setup

/-!
The setup one step after the other, with a record of what it has done. `setup` says what comes of
it; what a setup leaves behind when it fails is seen here only.
-/

namespace DualServer.Lifecycle

open DualServer.Pipeline

/-- What a setup has done so far: the interfaces that report into the metrics, those whose routes it
has asked the application for, the specs it has built, and its log. -/
structure Progress where
  registry : Metrics.Registry := {}
  asked : List Interface := []
  built : List InterfaceSpec := []
  entries : List Log.Entry := []

/-- The first that a setup has to say. -/
def greeting (build : Build) : Log.Entry where
  level := .info
  source := "serve_orchestrator::lifecycle::startup"
  message := build.banner

abbrev SetupM := ExceptT SetupError (StateM Progress)

namespace SetupM

/-- The outcome of some steps, and what is done by then. -/
def exec {α : Type} (steps : SetupM α) (p : Progress) : Except SetupError α × Progress :=
  (steps.run.run p).run

def log (entry : Log.Entry) : SetupM Unit :=
  modify fun p => { p with entries := p.entries ++ [entry] }

/-- The routes of an interface: its own, and what the application makes of them. -/
def ask (app : Application) (build : Build) (exposition : String) (i : Interface) :
    SetupM RouteTable := do
  modify fun p => { p with asked := p.asked ++ [i] }
  match app.register i (Health.routes i build exposition) with
  | .ok routes => return routes
  | .error fault => throw (.route fault)

def register (interfaces : List Interface) : SetupM Unit :=
  modify fun p =>
    let (registry, entries) := registerAll p.registry interfaces
    { p with registry, entries := p.entries ++ entries }

def prepare (reads : Reads) (command : Command) (custom : List Middleware) (i : Interface)
    (routes : RouteTable) : SetupM InterfaceSpec := do
  let (spec, entries) := makeSpec reads command custom i routes
  modify fun p => { p with built := p.built ++ [spec], entries := p.entries ++ entries }
  return spec

end SetupM

open SetupM in
/-- The steps of the setup, in their order. -/
def setupSteps (app : Application) (build : Build) (exposition : String) (command : Command)
    (reads : Reads) : SetupM Artifacts :=
  if command.mode.isStandalone && reads.first.isMemory then throw .memoryAlone
  else do
    log (greeting build)
    log (Identity.ofSettings reads.first build).entry
    let adminRoutes ← ask app build exposition .admin
    let publicRoutes ← ask app build exposition .public
    register Interface.all
    let admin ← prepare reads command app.middlewares .admin adminRoutes
    let «public» ← prepare reads command app.middlewares .public publicRoutes
    return ⟨admin, «public»⟩

end DualServer.Lifecycle
