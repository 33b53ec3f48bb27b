import DualServer.Basic
import DualServer.Config.Live

/-!
Handles on live settings. A handle looks at a cell of the memory, and a clone looks at the cell of
its origin, so that what is stored through one of them is seen through all. The watcher of the file
works through a handle, too. A snapshot is taken out of its cell.
-/

namespace DualServer.Config

/-- Handles by name. Every name that no clone has stands for the handle that was there first. -/
structure Handles where
  memory : Nat → Live
  first : Nat := 0
  clones : Named Nat := []
  snapshots : Named Settings := []

inductive HandleAction
  | clone (on name : String)
  | store (on : String) (settings : Settings)
  | load (on : String)
  | snapshot (on name : String)
  | read (name : String)
  | watch (on : String) (event : WatchEvent) (content : FileContent)

inductive HandleReply
  | cloned
  | stored
  | seen (settings : Settings)
  | noSnapshot
  | watched (reload : Reload)
  deriving DecidableEq, Repr

namespace Handles

def make (s : Settings) : Handles := { memory := fun _ => ⟨s⟩ }

def cell (h : Handles) (name : String) : Nat := (h.clones.get? name).getD h.first

def live (h : Handles) (name : String) : Live := h.memory (h.cell name)

def load (h : Handles) (name : String) : Settings := (h.live name).load

/-- The live settings behind a handle replaced, for every handle on the same cell. -/
def put (h : Handles) (name : String) (live : Live) : Handles :=
  { h with memory := fun cell => if cell = h.cell name then live else h.memory cell }

variable [UrlReader]

def act (h : Handles) : HandleAction → Handles × HandleReply
  | .clone on name => ({ h with clones := h.clones.put name (h.cell on) }, .cloned)
  | .store on s => (h.put on ((h.live on).store s), .stored)
  | .load on => (h, .seen (h.load on))
  | .snapshot on name =>
    ({ h with snapshots := h.snapshots.put name (h.load on) }, .seen (h.load on))
  | .read name => (h, ((h.snapshots.get? name).map .seen).getD .noSnapshot)
  | .watch on event content =>
    let (live, reload) := (h.live on).watch event content
    (h.put on live, .watched reload)

def run (h : Handles) (history : List HandleAction) : Handles :=
  history.foldl (fun h action => (h.act action).1) h

end Handles

end DualServer.Config
