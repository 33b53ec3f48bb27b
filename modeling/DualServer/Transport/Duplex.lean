/-!
A connection in memory, with a client and a server end. What one end wrote can be read at the other
even after the writer has gone.
-/

namespace DualServer.Transport

/-- What is on its way in both directions, and which ends are still there. `serverShut` says that
the server has ended its direction. -/
structure Duplex where
  toServer : String := ""
  toClient : String := ""
  clientOpen : Bool := true
  serverOpen : Bool := true
  serverShut : Bool := false
  deriving DecidableEq, Repr

inductive Reading
  | data (text : String)
  | ended
  | nothing
  deriving DecidableEq, Repr

namespace Duplex

def clientWrite (d : Duplex) (data : String) : Duplex × Bool :=
  if data.isEmpty then (d, true)
  else if d.serverOpen then ({ d with toServer := d.toServer ++ data }, true)
  else (d, false)

/-- Written by the server, where the client is there to read it and the server has not ended. -/
def serverWrite (d : Duplex) (data : String) : Duplex × Bool :=
  if data.isEmpty then (d, true)
  else if d.clientOpen && !d.serverShut then ({ d with toClient := d.toClient ++ data }, true)
  else (d, false)

def serverEnd (d : Duplex) : Duplex × Bool := ({ d with serverShut := true }, true)

def clientRead (d : Duplex) : Duplex × Reading :=
  if d.toClient ≠ "" then ({ d with toClient := "" }, .data d.toClient)
  else (d, if d.serverOpen && !d.serverShut then .nothing else .ended)

def serverRead (d : Duplex) : Duplex × Reading :=
  if d.toServer ≠ "" then ({ d with toServer := "" }, .data d.toServer)
  else (d, if d.clientOpen then .nothing else .ended)

end Duplex

end DualServer.Transport
