import DualServer.Lifecycle.Shutdown
import DualServer.Serve.Summary
import DualServer.Text.Quoted

/-!
The coordinator starts one serving task for each interface and joins them in the order of their
ends. The first task that fails sets off the shutdown, so that the others come to an end, too.
-/

namespace DualServer.Serve

open DualServer.Lifecycle

/-- The tasks by number, those not joined yet, the shared shutdown flag, and the outcomes so far. -/
structure Coordinator where
  tasks : List (Nat × Interface) := []
  running : List Nat := []
  shutdown : Shutdown := {}
  summary : Summary := []

namespace Coordinator

def tasksEntry (message : String) (tasks : Nat) : Log.Entry where
  level := .info
  source := "serve_orchestrator::http::server"
  message
  fields := [("tasks", .number tasks)]

def failedEntry (i : Interface) (failure : Failure) : Log.Entry where
  level := .error
  source := "serve_orchestrator::http::server"
  message := "Serving task failed"
  fields := [("interface", .shown i.name), ("error", .shown failure.message)]

def isDone (c : Coordinator) : Bool := c.running.isEmpty

def closing (c : Coordinator) : List Log.Entry :=
  if c.isDone then [tasksEntry "All serving tasks terminated" c.summary.length] else []

def spawn (shutdown : Shutdown) (interfaces : List Interface) : Coordinator × List Log.Entry :=
  let tasks := interfaces.zipIdx.map fun (i, task) => (task, i)
  let c : Coordinator := { tasks, running := tasks.map (·.1), shutdown }
  (c, tasksEntry "Started serving tasks" tasks.length :: c.closing)

def interface? (c : Coordinator) (task : Nat) : Option Interface :=
  (c.tasks.find? (·.1 == task)).map (·.2)

/-- The result that is reported for a task: a breakdown becomes a failure of its interface. -/
def report (task : Nat) (i : Interface) : Except Halt Unit → Except Failure Unit
  | .ok () => .ok ()
  | .error (.failure failure) => .error failure
  | .error (.panic text) => .error (.serving i
      ("task " ++ toString task ++ " panicked with message " ++ Text.quoted text))

/-- A task that ended is joined. A failure is logged and sets off the shutdown at once. -/
def join (c : Coordinator) (task : Nat) (result : Except Halt Unit) :
    Coordinator × List Log.Entry :=
  match c.running.contains task, c.interface? task with
  | true, some i =>
    let reported := report task i result
    let (shutdown, alarm) := match reported with
      | .ok () => (c.shutdown, [])
      | .error failure =>
        let (shutdown, entries) := c.shutdown.trigger
        (shutdown, failedEntry i failure :: entries)
    let joined : Coordinator := { c with
      running := c.running.erase task
      shutdown
      summary := c.summary ++ [⟨i, reported⟩] }
    (joined, alarm ++ joined.closing)
  | _, _ => (c, [])

/-- Tasks joined one after the other, with all that is logged. -/
def joinAll (c : Coordinator) : List (Nat × Except Halt Unit) → Coordinator × List Log.Entry
  | [] => (c, [])
  | (task, result) :: rest =>
    let (c', entries) := c.join task result
    let (final, later) := c'.joinAll rest
    (final, entries ++ later)

def summary? (c : Coordinator) : Option Summary := if c.isDone then some c.summary else none

end Coordinator

abbrev Ending := Nat × Except Halt Unit

inductive JoinEvent
  | ended (task : Nat) (result : Except Halt Unit)
  | joined
  | triggered

/-- A coordinator, the tasks that have ended so far, and how many of them it has joined. -/
structure Joining where
  coordinator : Coordinator
  endings : List Ending := []
  joined : Nat := 0

namespace Joining

def start (shutdown : Shutdown) (interfaces : List Interface) : Joining :=
  ⟨(Coordinator.spawn shutdown interfaces).1, [], 0⟩

def joinedEndings (j : Joining) : List Ending := j.endings.take j.joined

def isTriggered (j : Joining) : Bool := j.coordinator.shutdown.triggered

/-- One event. A task ends once, and a join takes the task that has waited longest. -/
def step (j : Joining) : JoinEvent → Joining
  | .ended task result =>
    if task ∈ j.coordinator.tasks.map (·.1) ∧ task ∉ j.endings.map (·.1) then
      { j with endings := j.endings ++ [(task, result)] }
    else j
  | .joined =>
    match j.endings[j.joined]? with
    | none => j
    | some (task, result) =>
      { j with coordinator := (j.coordinator.join task result).1, joined := j.joined + 1 }
  | .triggered =>
    { j with coordinator := { j.coordinator with shutdown := j.coordinator.shutdown.trigger.1 } }

def run (j : Joining) (events : List JoinEvent) : Joining := events.foldl step j

end Joining

end DualServer.Serve
