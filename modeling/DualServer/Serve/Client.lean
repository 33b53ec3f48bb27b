import DualServer.Basic
import DualServer.Http.Message

/-!
Clients as the server meets them: where their connection is, what they asked, and what they got.
-/

namespace DualServer.Serve

inductive ClientStage
  | queued
  | handshaking
  | idle
  | busy
  | over
  deriving DecidableEq, Repr

/-- What a client gets for a request: an answer, the end of the connection, or nothing in time. -/
inductive Reply
  | answered (response : Http.Response)
  | cut
  | late
  deriving DecidableEq, Repr

inductive ConnectFault
  | noListener
  | refused
  | tls
  | tlsTimeout
  deriving DecidableEq, Repr

def ConnectFault.message : ConnectFault → String
  | noListener => "no listener"
  | refused => "refused"
  | tls => "tls"
  | tlsTimeout => "tls timeout"

/-- A client with its connection. It has an `address` where it came by way of an address. One that
is `single` hangs up after its answer; `expires` is when it gives up waiting for it, and
`handshakeEnds` when the server gives up its handshake. -/
structure Client where
  id : Nat
  interface : Interface
  encrypted : Bool
  address : Option Net.SocketAddress := none
  stage : ClientStage := .queued
  present : Bool := true
  sent : Option Http.Request := none
  reply : Option Reply := none
  expires : Option Nat := none
  handshakeEnds : Option Nat := none
  single : Bool := false

namespace Client

def waits (c : Client) : Bool := c.sent.isSome && c.reply.isNone

def handshakeDue (c : Client) : Option Nat :=
  if c.stage = .handshaking then c.handshakeEnds else none

/-- How a client is named where only its end of the connection is known. -/
def peerText (c : Client) : String :=
  match c.address with
  | some address => address.text
  | none => "peer"

/-- The same for a reader of programs: a name stands between quotes, and an address does not. -/
def peerShown (c : Client) : String :=
  match c.address with
  | some address => address.text
  | none => Text.quoted c.peerText

def cutOff (c : Client) : Client :=
  { c with
    stage := .over
    reply := if c.waits then some .cut else c.reply }

end Client

end DualServer.Serve
