import DualServer.Http.Pattern
import DualServer.Pipeline.Paths
import DualServer.Pipeline.Service

/-!
Route tables. A path has handlers by method and perhaps one for any method. A known path without a
handler for the method answers 405 and lists the methods it has; an unknown path answers 404.
Answers on a known path get their length on the way out, and a `HEAD` answer loses its body there.
`Health` has the routes of every interface: alive, ready and version, and on the admin interface the
metrics.
-/

namespace DualServer.Pipeline

open DualServer.Http DualServer.Text

inductive MethodChoice
  | any
  | only (method : String)
  deriving DecidableEq, Repr

structure PathRoutes where
  path : String
  pattern : Pattern
  handlers : List (String × Service) := []
  fallback : Option Service := none

/-- All routes, in the order of their paths' first registration, and what answers on every other
path. -/
structure RouteTable where
  paths : List PathRoutes := []
  elsewhere : Option Service := none

inductive RouteFault
  | noLeadingSlash (path : String)
  | overlap (method path : String)
  | twoFallbacks
  | conflict (path earlier : String)
  | colonSegment
  | starSegment
  deriving DecidableEq, Repr

def RouteFault.message : RouteFault → String
  | noLeadingSlash path =>
    if path.isEmpty then "Paths must start with a `/`. Use \"/\" for root routes"
    else "Paths must start with a `/`"
  | overlap method path =>
    "Overlapping method route. Handler for `" ++ method ++ " " ++ path ++ "` already exists"
  | twoFallbacks => "Cannot merge two `MethodRouter`s that both have a fallback"
  | conflict path earlier =>
    "Invalid route " ++ quoted path ++
      ": Insertion failed due to conflict with previously registered route: " ++ earlier
  | colonSegment =>
    "Path segments must not start with `:`. For capture groups, use `\x7bcapture\x7d`. If you " ++
      "meant to literally match a segment starting with a colon, call `without_v07_checks` on " ++
      "the router."
  | starSegment =>
    "Path segments must not start with `*`. For wildcard capture, use `\x7b*wildcard\x7d`. If " ++
      "you meant to literally match a segment starting with an asterisk, call " ++
      "`without_v07_checks` on the router."

namespace PathRoutes

def add (r : PathRoutes) (choice : MethodChoice) (service : Service) :
    Except RouteFault PathRoutes :=
  match choice with
  | .any =>
    if r.fallback.isSome then .error .twoFallbacks else .ok { r with fallback := some service }
  | .only method =>
    if r.handlers.any (·.1 == method) then .error (.overlap method r.path)
    else .ok { r with handlers := r.handlers ++ [(method, service)] }

/-- The handler for a method; `HEAD` falls back to `GET`. -/
def handler? (r : PathRoutes) (method : String) : Option Service :=
  match r.handlers.find? (·.1 == method) with
  | some (_, service) => some service
  | none =>
    if method == "HEAD" then (r.handlers.find? (·.1 == "GET")).map (·.2) else none

/-- The methods listed for a path, or nothing where any method is taken. -/
def allowed? (r : PathRoutes) : Option String :=
  if r.fallback.isSome then none
  else some (String.intercalate "," (r.handlers.map fun (method, _) =>
    if method == "GET" then "GET,HEAD" else method))

end PathRoutes

def methodNotAllowed : Service := fun _ => .ofValue { status := 405 }

def notFound : Service := fun _ => .ofValue { status := 404 }

/-- A response with its length, unless that is there already. -/
def withLength (r : Response) : Response :=
  { r with fields := r.fields.setIfAbsent "content-length" (toString r.body.utf8ByteSize) }

def withoutBody (r : Response) : Response := { r with body := "" }

/-- What happens to an answer on a known path on the way out. -/
def finishKnown (method : String) (allow : Option String) (r : Response) : Response :=
  if method == "CONNECT" && 200 ≤ r.status && r.status < 300 then withoutBody r
  else
    let fields := match allow with
      | some methods => r.fields.setIfAbsent "allow" methods
      | none => r.fields
    let r := withLength { r with fields }
    if method == "HEAD" then withoutBody r else r

namespace RouteTable

def add (table : RouteTable) (path : String) (choice : MethodChoice) (service : Service) :
    Except RouteFault RouteTable :=
  if path.toList.head? ≠ some '/' then .error (.noLeadingSlash path)
  else
    let segments := splitAll '/' (path.toList.drop 1)
    if segments.any (·.head? = some ':') then .error .colonSegment
    else if segments.any (·.head? = some '*') then .error .starSegment
    else
      let pattern := Pattern.parse path
      match table.paths.find? (·.path == path) with
      | some known => (known.add choice service).map fun extended =>
          { table with paths := table.paths.map fun r => if r.path == path then extended else r }
      | none =>
        match table.paths.find? (·.pattern.conflicts pattern) with
        | some earlier => .error (.conflict path earlier.path)
        | none => (PathRoutes.add ⟨path, pattern, [], none⟩ choice service).map fun r =>
            { table with paths := table.paths ++ [r] }

def find? (table : RouteTable) (path : String) : Option PathRoutes :=
  match path.toList with
  | '/' :: rest =>
    let parts := splitAll '/' rest
    (table.paths.filter (·.pattern.matches parts)).foldl (fun best r =>
      match best with
      | none => some r
      | some b => if r.pattern.before b.pattern then some r else some b) none
  | _ => none

/-- Where a request goes. A target that is no path is answered with a length, too. -/
def router (table : RouteTable) : Router where
  route request :=
    match table.find? request.path with
    | none =>
      let finish := finishKnown request.method none
      match table.elsewhere with
      | some service => { service, finish }
      | none =>
        if request.path.toList.head? = some '/' then { service := notFound }
        else { service := notFound, finish }
    | some r =>
      match r.handler? request.method with
      | some service => { service, finish := finishKnown request.method none }
      | none =>
        { service := r.fallback.getD methodNotAllowed
          finish := finishKnown request.method r.allowed? }

end RouteTable

namespace Health

def answer (key value : String) : Service := fun _ => .ofValue {
  fields := [("content-type", "application/json")]
  body := "\x7b" ++ Text.jsonString key ++ ":" ++ Text.jsonString value ++ "\x7d" }

def scrape (exposition : String) : Service := fun _ => .ofValue {
  fields := [("content-type", "text/plain; version=0.0.4")]
  body := exposition }

def endpoints (i : Interface) (build : Build) (exposition : String) : List (String × Service) :=
  [(Paths.alive, answer "status" "ok"), (Paths.ready, answer "status" "ok"),
    (Paths.version, answer "version" build.version)] ++
  (if i = .admin then [(Paths.metrics, scrape exposition)] else [])

def routes (i : Interface) (build : Build) (exposition : String) : RouteTable where
  paths := (endpoints i build exposition).map fun (path, service) => {
    path := i.pathPrefix ++ path
    pattern := Pattern.parse (i.pathPrefix ++ path)
    handlers := [("GET", service)] }

end Health

end DualServer.Pipeline
