import DualServer.Config.Settings
import DualServer.Pipeline.Service

/-!
The policy for requests from other origins, made from the settings at each request. A policy that
allows credentials cannot have a lone `*` for a list; asking for one is a breakdown.
-/

namespace DualServer.Pipeline

open DualServer.Http DualServer.Config

inductive OriginRule
  | anyOrigin
  | echoed
  | listed (origins : List String)
  deriving DecidableEq, Repr

/-- A policy ready for use; the lists are joined, and absent when empty. -/
structure CorsPolicy where
  origin : OriginRule
  methods : Option String
  headers : Option String
  exposed : Option String
  credentials : Bool
  maxAge : Option Nat
  deriving DecidableEq, Repr

def joined? (items : List String) : Option String :=
  if items.isEmpty then none else some (String.intercalate "," items)

def fieldNames (names : List String) : List String := names.filterMap fieldName?

def methodNames (names : List String) : List String := (names.map Text.upperAscii).filter isToken

namespace CorsPolicy

def originRule (c : CorsSettings) : OriginRule :=
  if c.allowedOrigins.contains "*" then
    if c.allowCredentials then .echoed else .anyOrigin
  else .listed (c.allowedOrigins.filter isFieldValue)

def ofSettings (c : CorsSettings) : CorsPolicy where
  origin := originRule c
  methods := joined? (methodNames c.allowedMethods)
  headers := joined? (fieldNames c.allowedHeaders)
  exposed := joined? (fieldNames c.exposedHeaders)
  credentials := c.allowCredentials
  maxAge := if c.maxAgeSecs = 0 then none else some c.maxAgeSecs.toNat

/-- The header field that may not be a lone `*` beside credentials, if one is. -/
def clash? (p : CorsPolicy) : Option String :=
  if !p.credentials then none
  else if p.headers = some "*" then some "Access-Control-Allow-Headers"
  else if p.methods = some "*" then some "Access-Control-Allow-Methods"
  else if p.origin = .anyOrigin then some "Access-Control-Allow-Origin"
  else if p.exposed = some "*" then some "Access-Control-Expose-Headers"
  else none

def clashMessage (field : String) : String :=
  "Invalid CORS configuration: Cannot combine `Access-Control-Allow-Credentials: true` with `" ++
    field ++ ": *`"

def grantedOrigin (p : CorsPolicy) (origin : Option String) : Option String :=
  match p.origin with
  | .anyOrigin => some "*"
  | .echoed => origin
  | .listed origins => origin.filter (origins.contains ·)

def optionalField (name : String) (value : Option String) : Fields :=
  match value with
  | some value => [(name, value)]
  | none => []

def varyValue : String := "origin, access-control-request-method, access-control-request-headers"

def commonFields (p : CorsPolicy) (request : Request) : Fields :=
  optionalField "access-control-allow-origin" (p.grantedOrigin (request.fields.first? "origin")) ++
    optionalField "access-control-allow-credentials" (if p.credentials then some "true" else none)

def preflight (p : CorsPolicy) (request : Request) : Response where
  fields := p.commonFields request ++
    optionalField "access-control-allow-methods" p.methods ++
    optionalField "access-control-allow-headers" p.headers ++
    optionalField "access-control-max-age" (p.maxAge.map toString) ++ [("vary", varyValue)]

def answerFields (p : CorsPolicy) (request : Request) : Fields :=
  p.commonFields request ++ optionalField "access-control-expose-headers" p.exposed

/-- An answer with the fields of the policy: they replace fields of the same name. -/
def decorate (p : CorsPolicy) (request : Request) (response : Response) : Response :=
  { response with
    fields := (p.answerFields request).foldl (fun fields (name, value) => fields.set name value)
      (response.fields.add "vary" varyValue) }

end CorsPolicy

def corsStage (c : CorsSettings) : Middleware := fun inner request =>
  if !c.enabled then inner request
  else
    let policy := CorsPolicy.ofSettings c
    match policy.clash? with
    | some field => .panic (CorsPolicy.clashMessage field)
    | none =>
      if request.method == "OPTIONS" then .ofValue (policy.preflight request)
      else (inner request).andThen fun response => .ofValue (policy.decorate request response)

end DualServer.Pipeline
