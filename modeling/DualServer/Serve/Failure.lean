import DualServer.Basic

/-!
What ends the serving of an interface.
-/

namespace DualServer.Serve

inductive Failure
  | configuration (text : String)
  | bind (address : String) (source : Fault)
  | permission (path : String) (source : Fault)
  | transport (service source : String)
  | tls (interface : Interface) (reason : String)
  | serving (interface : Interface) (source : String)
  deriving DecidableEq, Repr

namespace Failure

def message : Failure → String
  | configuration text => "configuration error: " ++ text
  | bind address source => "failed to bind " ++ address ++ ": " ++ source.message
  | permission path source =>
    "failed to apply permissions to socket " ++ path ++ ": " ++ source.message
  | transport service source =>
    "tunnel transport failed for service " ++ service ++ ": " ++ source
  | tls interface reason =>
    "tls setup failed for the " ++ interface.name ++ " interface: " ++ reason
  | serving interface source => interface.name ++ " server failed: " ++ source

def cause? : Failure → Option String
  | configuration _ => none
  | bind _ source => some source.message
  | permission _ source => some source.message
  | transport _ source => some source
  | tls _ _ => none
  | serving _ source => some source

end Failure

/-- Why a task came to an end early: a failure it reports, or a breakdown. -/
inductive Halt
  | failure (failure : Failure)
  | panic (text : String)
  deriving DecidableEq, Repr

end DualServer.Serve
