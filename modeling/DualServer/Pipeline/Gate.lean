import DualServer.Net.IpRange
import DualServer.Pipeline.Paths
import DualServer.Pipeline.Service

/-!
The gate in front of an interface with TLS: a plaintext request passes only if it is a probe, or if
a trusted peer says that it ended TLS for it.
-/

namespace DualServer.Pipeline

open DualServer.Http

structure Gate where
  tlsEnabled : Bool
  trusted : List Net.IpRange
  deriving DecidableEq, Repr

inductive Refusal
  | unknownPeer
  | untrustedPeer
  | notForwardedSecure
  deriving DecidableEq, Repr

def Refusal.reason : Refusal → String
  | unknownPeer => "remote address unknown"
  | untrustedPeer => "remote address is not allowed to terminate TLS"
  | notForwardedSecure => "X-Forwarded-Proto header is missing or not https"

def ignoredRange (e : Net.IpRangeError) : Log.Entry where
  level := .warn
  source := "serve_orchestrator::security::insecure"
  message := "Ignoring TLS termination range"
  fields := [("error", .shown e.message)]

namespace Gate

/-- The gate for a list of ranges; those that do not parse are left out with a warning. -/
def make (tlsEnabled : Bool) (ranges : List String) : Gate × List Log.Entry :=
  let parsed := ranges.map Net.IpRange.parse
  (⟨tlsEnabled, parsed.filterMap Except.toOption⟩,
    parsed.filterMap fun
      | .ok _ => none
      | .error e => some (ignoredRange e))

def check (gate : Gate) (security : Option Security) (path : String)
    (peer : Option Net.IpAddress) (forwardedProto : Option String) : Except Refusal Unit :=
  if security = some .tls || !gate.tlsEnabled || Paths.isProbe path then .ok ()
  else match peer with
    | none => .error .unknownPeer
    | some peer =>
      if !gate.trusted.any (·.contains peer) then .error .untrustedPeer
      else if forwardedProto.any (Text.sameIgnoringCase · "https") then .ok ()
      else .error .notForwardedSecure

def decide (gate : Gate) (request : Request) : Except Refusal Unit :=
  gate.check request.security request.path (request.peer.map (·.ip))
    ((request.fields.first? "x-forwarded-proto").bind visible?)

def peerText : Option Net.SocketAddress → String
  | none => "None"
  | some peer => "Some(" ++ peer.ip.text ++ ")"

def refusedEntry (request : Request) (refusal : Refusal) : Log.Entry where
  level := .warn
  source := "serve_orchestrator::security::insecure"
  message := "Rejected insecure request"
  fields := [("path", .shown request.path), ("peer", .shown (peerText request.peer)),
    ("reason", .literal refusal.reason)]

def refusedResponse (refusal : Refusal) : Response where
  status := 400
  fields := [("content-type", "application/json")]
  body := "\x7b\"error\":\"cannot serve request over insecure http\",\"error_description\":\"" ++
    refusal.reason ++ "\"\x7d"

def wrap (gate : Gate) : Middleware := fun inner request =>
  match gate.decide request with
  | .ok () => inner request
  | .error refusal =>
    (Run.log (refusedEntry request refusal)).andThen fun _ => .ofValue (refusedResponse refusal)

end Gate

end DualServer.Pipeline
