import DualServer.Serve.Failure

/-!
The outcome of a run: what became of each serving task, in the order of their ends.
-/

namespace DualServer.Serve

structure Outcome where
  interface : Interface
  result : Except Failure Unit

abbrev Summary := List Outcome

namespace Summary

def outcome? (s : Summary) (i : Interface) : Option Outcome := s.find? (·.interface == i)

def result (s : Summary) : Except Failure Unit :=
  match s.find? (·.result.isOk == false) with
  | some outcome => outcome.result
  | none => .ok ()

end Summary

inductive TaskState
  | initializing
  | binding
  | serving
  | shuttingDown
  | terminated
  | bindFailed
  deriving DecidableEq, Repr

namespace TaskState

def all : List TaskState := [initializing, binding, serving, shuttingDown, terminated, bindFailed]

def name : TaskState → String
  | initializing => "initializing"
  | binding => "binding"
  | serving => "serving"
  | shuttingDown => "shutting_down"
  | terminated => "terminated"
  | bindFailed => "bind_failed"

end TaskState

end DualServer.Serve
