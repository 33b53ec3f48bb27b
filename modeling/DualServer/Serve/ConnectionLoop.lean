import DualServer.Serve.Connections

/-!
The accept loop of one interface and the tasks it owns, one for each connection. The loop is taken
from one wait to the next: in between tasks end, in any way and any order, and they are joined when
the loop comes to it.
-/

namespace DualServer.Serve

/-- How the task of a connection ends. -/
inductive ConnectionEnd
  | served
  | failed
  | panicked
  | aborted
  deriving DecidableEq, Repr

inductive LoopStage
  | accepting
  | draining
  | aborting (counted : Nat)
  | returned (how : Drained)
  deriving DecidableEq, Repr

namespace LoopStage

def aborts : LoopStage → Bool
  | aborting _ => true
  | _ => false

/-- What the loop returns as soon as it has joined every task. -/
def due : LoopStage → Option Drained
  | draining => some .completed
  | aborting counted => some (.timedOut counted)
  | accepting | returned _ => none

end LoopStage

/-- Connections are numbered as they are accepted. A connection in `released` is over although its
task still runs, and a task in `finished` has ended but is still in the set. -/
structure ConnectionLoop where
  stage : LoopStage := .accepting
  accepted : Nat := 0
  running : List Nat := []
  released : List Nat := []
  finished : List (Nat × ConnectionEnd) := []
  joined : List (Nat × ConnectionEnd) := []
  deriving DecidableEq, Repr

/-- A connection is `released` when it is over, and its task has `ended` some time later. The loop
has taken notice of the shutdown when it is `triggered`. -/
inductive LoopEvent
  | accepted
  | released (id : Nat)
  | ended (id : Nat) (how : ConnectionEnd)
  | triggered
  | polled
  | elapsed
  deriving DecidableEq, Repr

namespace ConnectionLoop

def join (l : ConnectionLoop) : ConnectionLoop :=
  { l with finished := [], joined := l.joined ++ l.finished }

def joinAll (l : ConnectionLoop) (how : Drained) : ConnectionLoop :=
  if l.running = [] then { l.join with stage := .returned how } else l.join

/-- The loop goes on until it has to wait. A drain first waits for every connection to be over, and
joins only then. -/
def poll (l : ConnectionLoop) : ConnectionLoop :=
  match l.stage with
  | .draining => if ∀ id ∈ l.running, id ∈ l.released then l.joinAll .completed else l
  | .aborting counted => l.joinAll (.timedOut counted)
  | .accepting | .returned _ => l

def expire (l : ConnectionLoop) : ConnectionLoop :=
  match l.stage with
  | .draining => { l with stage := .aborting (l.running.length + l.finished.length) }
  | _ => l

/-- One event. At the time limit the drain is polled once more before it is given up, and a task is
aborted only after that. -/
def step (l : ConnectionLoop) : LoopEvent → ConnectionLoop
  | .accepted =>
    if l.stage = .accepting then
      { l.join with accepted := l.accepted + 1, running := l.running ++ [l.accepted] }
    else l
  | .released id =>
    if id ∈ l.running then { l with released := l.released ++ [id] } else l
  | .ended id how =>
    if id ∈ l.running ∧ (how = .aborted → l.stage.aborts) then
      { l with running := l.running.erase id, finished := l.finished ++ [(id, how)] }
    else l
  | .triggered => if l.stage = .accepting then { l with stage := .draining } else l
  | .polled => l.poll
  | .elapsed => if l.stage = .draining then l.poll.expire else l

def run (l : ConnectionLoop) (events : List LoopEvent) : ConnectionLoop := events.foldl step l

/-- All tasks that have ended, joined or not. -/
def ends (l : ConnectionLoop) : List (Nat × ConnectionEnd) := l.joined ++ l.finished

/-- The outcome from the moment that nothing can change it any more. -/
def outcome? (l : ConnectionLoop) : Option Drained :=
  match l.stage with
  | .accepting => none
  | .draining => if l.running = [] then some .completed else none
  | .aborting counted => some (.timedOut counted)
  | .returned how => some how

end ConnectionLoop

end DualServer.Serve
