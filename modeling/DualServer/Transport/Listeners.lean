import DualServer.Basic
import DualServer.Transport.Resolver

/-!
Listeners by name on one system. A new listener takes the place of an older one of its name once it
is bound.
-/

namespace DualServer.Transport

open DualServer.Serve

structure Listeners where
  system : System := {}
  bound : Named Bound := []
  calls : List TunnelCall := []

namespace Listeners

/-- A new file or directory, where nothing stands in its way; whether it was made. -/
def make (l : Listeners) (path : String) (entry : FileEntry) : Listeners × Bool :=
  if entry = .directory && l.system.files.exists? path then (l, false)
  else match l.system.files.create path entry with
    | .ok files => ({ l with system := { l.system with files } }, true)
    | .error _ => (l, false)

def close (l : Listeners) (name : String) : Listeners × Bool :=
  match l.bound.get? name with
  | none => (l, false)
  | some bound => ({ l with system := bound.close l.system, bound := l.bound.erase name }, true)

def listen (l : Listeners) (factory : TunnelFactory) (name : String) (target : Target)
    (flags : Flags) : Listeners × Except Halt Bound :=
  let r := resolve l.system factory target flags
  let l := { l with system := r.system, calls := l.calls ++ r.calls }
  match r.result with
  | .error halt => (l, .error halt)
  | .ok bound =>
    let l := (l.close name).1
    ({ l with bound := l.bound.put name bound }, .ok bound)

end Listeners

end DualServer.Transport
