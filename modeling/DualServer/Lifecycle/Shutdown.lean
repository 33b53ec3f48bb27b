import DualServer.Log.Event

/-!
The shutdown flag and who holds it: handles that can set it, and signals that wait for it. A signal
is ready once the flag is set or no handle is left.
-/

namespace DualServer.Lifecycle

structure Shutdown where
  triggered : Bool := false
  handles : List String := ["main"]
  signals : List String := []
  deriving DecidableEq, Repr

inductive ShutdownAction
  | clone (on name : String)
  | subscribe (on name : String)
  | cloneSignal (on name : String)
  | trigger (on : String)
  | isTriggered (on : String)
  | drop (on : String)
  | dropSignal (name : String)
  | receive (name : String)
  deriving DecidableEq, Repr

inductive ShutdownReply
  | noHandle
  | noSignal
  | cloned
  | subscribed
  | logged (times : Nat)
  | flag (value : Bool)
  | dropped
  | ready
  | pending
  deriving DecidableEq, Repr

namespace Shutdown

/-- A name added to a list of names, where it is not there yet. -/
def withName (names : List String) (name : String) : List String :=
  if names.contains name then names else names ++ [name]

def isReady (s : Shutdown) : Bool := s.triggered || s.handles.isEmpty

def triggeredEntry : Log.Entry where
  level := .info
  source := "serve_orchestrator::lifecycle::shutdown"
  message := "Shutdown triggered"

def trigger (s : Shutdown) : Shutdown × List Log.Entry :=
  ({ s with triggered := true }, if s.triggered then [] else [triggeredEntry])

def act (s : Shutdown) : ShutdownAction → Shutdown × ShutdownReply
  | .clone on name =>
    if s.handles.contains on then ({ s with handles := withName s.handles name }, .cloned)
    else (s, .noHandle)
  | .subscribe on name =>
    if s.handles.contains on then ({ s with signals := withName s.signals name }, .subscribed)
    else (s, .noHandle)
  | .cloneSignal on name =>
    if s.signals.contains on then ({ s with signals := withName s.signals name }, .cloned)
    else (s, .noSignal)
  | .trigger on =>
    if s.handles.contains on then (s.trigger.1, .logged s.trigger.2.length) else (s, .noHandle)
  | .isTriggered on => (s, if s.handles.contains on then .flag s.triggered else .noHandle)
  | .drop on => ({ s with handles := s.handles.filter (· ≠ on) }, .dropped)
  | .dropSignal name => ({ s with signals := s.signals.filter (· ≠ name) }, .dropped)
  | .receive name =>
    (s, if !s.signals.contains name then .noSignal else if s.isReady then .ready else .pending)

def run (s : Shutdown) : List ShutdownAction → Shutdown × List ShutdownReply
  | [] => (s, [])
  | action :: rest =>
    let (s', reply) := s.act action
    let (final, replies) := s'.run rest
    (final, reply :: replies)

end Shutdown

end DualServer.Lifecycle
