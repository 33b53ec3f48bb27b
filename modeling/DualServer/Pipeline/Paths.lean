import DualServer.Basic
import DualServer.Text.Split

/-!
The paths that routing, the gate and the metrics agree on.
-/

namespace DualServer.Pipeline.Paths

open DualServer.Text

def alive : String := "/health/alive"
def ready : String := "/health/ready"
def version : String := "/version"
def metrics : String := "/metrics/prometheus"

def admin (path : String) : String := "/admin" ++ path

def isProbe (path : String) : Bool :=
  let rest := match dropFront? "/admin".toList path.toList with
    | some rest => String.ofList rest
    | none => path
  rest == alive || rest == ready || rest == metrics

/-- The paths that the metrics report as they are; all others count as the root. -/
def reported : List String := [
  admin "/keys",
  "/.well-known/jwks.json",
  admin "/clients",
  "/oauth2/register",
  "/oauth2/fallbacks/consent",
  "/oauth2/fallbacks/login",
  "/oauth2/fallbacks/logout/callback",
  "/oauth2/fallbacks/logout",
  "/oauth2/fallbacks/error",
  "/oauth2/token",
  "/oauth2/auth",
  "/oauth2/sessions/logout",
  "/userinfo",
  "/.well-known/openid-configuration",
  "/.well-known/jwks.json",
  admin "/oauth2/introspect",
  admin "/oauth2/tokens",
  "/oauth2/revoke",
  admin "/oauth2/auth/requests/consent",
  admin "/oauth2/auth/requests/consent/accept",
  admin "/oauth2/auth/requests/consent/reject",
  admin "/oauth2/auth/requests/login",
  admin "/oauth2/auth/requests/login/accept",
  admin "/oauth2/auth/requests/login/reject",
  admin "/oauth2/auth/requests/logout",
  admin "/oauth2/auth/requests/logout/accept",
  admin "/oauth2/auth/requests/logout/reject",
  admin "/oauth2/auth/sessions/login",
  admin "/oauth2/auth/sessions/consent",
  alive,
  ready,
  admin alive,
  admin ready,
  version,
  admin version,
  metrics,
  admin metrics,
  "/"]

end DualServer.Pipeline.Paths
