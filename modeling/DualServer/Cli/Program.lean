import DualServer.Cli.Arguments
import DualServer.Config.Live
import DualServer.Log.Event
import DualServer.Log.Filter
import DualServer.Serve.Session
import DualServer.Url.Parse

/-!
A run of the program: the command line, the settings from their file, the setup, and a session that
follows changes of that file and ends with a signal.
-/

namespace DualServer.Cli

open DualServer.Config DualServer.Lifecycle DualServer.Serve DualServer.Transport

structure Environment where
  logFilter : Option String := none
  tunnelService : Option String := none
  processors : Nat := 1
  system : System := {}

/-- A program that got past its command line and settings. It serves in its session, unless the
setup has failed. -/
structure Program where
  arguments : ServeArguments
  settings : Settings
  filter : Log.Filter
  complaints : List String
  before : List Log.Entry
  session : Except Failure Session

namespace Program

def entry (level : Log.Level) (message : String) (fields : List (String × Log.FieldValue)) :
    Log.Entry where
  level
  source := "serve_orchestrator"
  message
  fields

def watcherEntry (level : Log.Level) (message : String)
    (fields : List (String × Log.FieldValue)) : Log.Entry where
  level
  source := "serve_orchestrator::config::watcher"
  message
  fields

/-- The paths that a command line and the settings make the program use: the file with the settings
and the sockets of the interfaces. -/
def pathsUsed (files : FileSystem) (line : List String) : List String :=
  match parse line with
  | .error _ => []
  | .ok arguments =>
    let settings := arguments.config.bind fun path => (Config.load (files.read path)).toOption
    let targets := Interface.all.map (Target.ofSettings (settings.getD {}))
    arguments.config.toList ++ targets.filterMap (·.socketPath?)

/-- The settings: those of the file that is named, or the standard ones. -/
def settingsOf (files : FileSystem) (arguments : ServeArguments) : Except Output Settings :=
  match arguments.config with
  | none => .ok {}
  | some path => (Config.load (files.read path)).mapError fun e =>
      { code := 1, err := "failed to load " ++ path ++ ": " ++ e.message ++ "\n" }

def plan (env : Environment) (arguments : ServeArguments) (settings : Settings) : Plan where
  prepare exposition :=
    setup {} {} exposition {} ⟨arguments.mode, arguments.tunnelMode, env.tunnelService⟩
      (.steady settings)
  mode := arguments.mode
  means := Host.means unavailableTunnel
  tracer := .ofSettings settings.tracing
  drainMs := settings.serve.shutdownTimeoutSecs.toNat * 1000

def setupFailure : SetupError → Failure
  | .memoryAlone => .configuration memoryAloneText
  | .route fault => .configuration fault.message

/-- The beginning of a program, up to serving; or what it prints when it does not get that far. -/
def start (env : Environment) (line : List String) : Except Output Program := do
  let arguments ← (parse line).mapError Stop.output
  let settings ← settingsOf env.system.files arguments
  let plan := plan env arguments settings
  let sizing := if settings.serve.cgroups.autoMaxProcs then
      [entry .info "Sizing worker pool from CPU quota"
        [("worker_threads", .number env.processors)]] else []
  let watching := (arguments.config.map fun path =>
    watcherEntry .info "Config watcher started" [("path", .shown path)]).toList
  let prepared := match plan.prepare "" with
    | .ok prepared => prepared.entries
    | .error _ => []
  return {
    arguments
    settings
    filter := .make settings.log.level env.logFilter
    complaints := Log.Filter.complaints settings.log.level env.logFilter
    before := sizing ++ watching ++ prepared
    session := (Session.start plan settings ⟨env.system, ⟨settings, []⟩, []⟩ false).mapError
      setupFailure }

def entries (p : Program) : List Log.Entry :=
  p.before ++ match p.session with
    | .ok session => session.entries
    | .error _ => []

def visible (p : Program) : List Log.Entry :=
  p.entries.filter fun e => e.kind = .event && p.filter.passes e

def printed (p : Program) (e : Log.Entry) : String :=
  if Text.sameIgnoringCase p.settings.log.format "json" then e.json else e.line

def lines (p : Program) : List String := p.visible.map p.printed

def onSession (p : Program) (f : Session → Session) : Program :=
  { p with session := p.session.map f }

def isServing (p : Program) : Bool :=
  match p.session with
  | .ok session => !session.isFinished
  | .error _ => false

def files (p : Program) (env : Environment) : FileSystem :=
  match p.session with
  | .ok session => session.host.system.files
  | .error _ => env.system.files

/-- The program is told to end. Only the first such word counts, and none counts when the end has
come about otherwise. -/
def signal (p : Program) (name : String) : Program :=
  p.onSession fun session =>
    if session.isTriggered || session.isFinished then session
    else
      let received : Log.Entry := {
        level := .info
        source := "serve_orchestrator::lifecycle::signals"
        message := "Shutdown signal received"
        fields := [("signal", .literal name)] }
      (session.log [received]).trigger

/-- A file is written. If it is the one with the settings, they are loaded anew; settings that are
refused leave the old ones in effect. -/
def write (p : Program) (path : String) (content : Text.Bytes) : Program :=
  p.onSession fun session =>
    let system := { session.host.system with
      files := session.host.system.files.put (.ofPath path) (.file content) }
    let session := { session with host := { session.host with system } }
    if p.arguments.config ≠ some path || session.isFinished then session
    else
      let (live, reload) := session.live.watch .modified (.ok content)
      let noticed := watcherEntry .info "Config file change detected, reloading"
        [("path", .shown path)]
      let refused := match reload with
        | .kept e => [watcherEntry .error
            "Failed to reload config, keeping current configuration" [("error", .shown e.message)]]
        | _ => []
      ({ session with live } : Session).log (noticed :: refused)

def interfaceAt? (session : Session) (path : String) : Option Interface :=
  (session.servers.find? fun server => match server.serving.bound with
    | .unix bound _ => Place.ofPath bound == Place.ofPath path
    | _ => false).map (·.interface)

def answerWaitMs : Nat := 20000

def get (p : Program) (path : String) (request : Http.Request) : Program × Option Reply :=
  match p.session with
  | .error _ => (p, none)
  | .ok session =>
    match (interfaceAt? session path).map fun i => session.connect (some i) false with
    | some (session, .ok id) =>
      let (session, reply) := (session.send id request answerWaitMs false).await id
      ({ p with session := .ok (session.hangUp id) }, reply)
    | _ => (p, none)

/-- The end of the program: all tasks have ended, the last entry is written, and the exit code
tells whether one of them failed. -/
def finish (p : Program) : Program × Nat :=
  match p.session with
  | .error failure =>
    let last := entry .error "Fatal error" [("error", .shown failure.message)]
    ({ p with before := p.before ++ [last] }, 1)
  | .ok session =>
    let session := session.finish.1
    let (last, code) := match session.coordinator.summary.result with
      | .ok () => (entry .info "Shutdown complete" [], 0)
      | .error failure => (entry .error "Fatal error" [("error", .shown failure.message)], 1)
    ({ p with session := .ok (session.log [last]) }, code)

end Program

end DualServer.Cli
