/-!
The connections of one interface: accepted until the shutdown, then drained. A closed connection is
still counted until it is reaped, and reaping happens only when another one is accepted or when the
drain comes to its end. A drain that takes too long ends by closing what is open.
-/

namespace DualServer.Serve

inductive Drained
  | completed
  | timedOut (aborted : Nat)
  deriving DecidableEq, Repr

inductive ConnectionPhase
  | accepting
  | draining
  | done (how : Drained)
  deriving DecidableEq, Repr

/-- The connections by what became of them. `reported` is the count given when the drain began,
`openAtDrain` the connections that were open then. -/
structure Connections where
  phase : ConnectionPhase := .accepting
  opened : List Nat := []
  unreaped : List Nat := []
  reaped : List Nat := []
  aborted : List Nat := []
  reported : Nat := 0
  openAtDrain : List Nat := []
  deriving DecidableEq, Repr

inductive ConnectionEvent
  | accepted (id : Nat)
  | closed (id : Nat)
  | shutdown
  | timeout
  deriving DecidableEq, Repr

namespace Connections

def count (c : Connections) : Nat := c.opened.length + c.unreaped.length

def settle (c : Connections) : Connections :=
  if c.phase = .draining && c.opened.isEmpty then
    { c with
      phase := .done .completed
      unreaped := []
      reaped := c.reaped ++ c.unreaped }
  else c

/-- One event. Nothing is accepted once the shutdown has begun. -/
def step (c : Connections) : ConnectionEvent → Connections
  | .accepted id =>
    if c.phase = .accepting then
      { c with
        opened := c.opened ++ [id]
        unreaped := []
        reaped := c.reaped ++ c.unreaped }
    else c
  | .closed id =>
    if c.opened.contains id then
      settle { c with opened := c.opened.erase id, unreaped := c.unreaped ++ [id] }
    else c
  | .shutdown =>
    if c.phase = .accepting then
      settle { c with phase := .draining, reported := c.count, openAtDrain := c.opened }
    else c
  | .timeout =>
    if c.phase = .draining then
      { c with
        phase := .done (.timedOut c.count)
        opened := []
        unreaped := []
        reaped := c.reaped ++ c.unreaped
        aborted := c.opened }
    else c

def run (c : Connections) (events : List ConnectionEvent) : Connections := events.foldl step c

end Connections

end DualServer.Serve
