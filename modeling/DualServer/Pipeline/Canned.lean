import DualServer.Http.Message
import DualServer.Pipeline.RouteTable
import DualServer.Text.Split

/-!
Services and middlewares whose answer is laid down beforehand.
-/

namespace DualServer.Pipeline

open DualServer.Http DualServer.Text

/-- A route with a fixed answer, behind which the values of some request fields are told. -/
structure Canned where
  path : String
  choice : MethodChoice := .only "GET"
  response : Response := {}
  echo : List String := []
  delayMs : Nat := 0

namespace Canned

/-- What is told of a request field; made-up identifiers stand under a mark. -/
def told (idMark : String) (fields : Fields) (name : String) : String :=
  let values := (fields.all (lowerAscii name)).map fun v => if isRequestId v then idMark else v
  name ++ "=" ++ String.intercalate "," values ++ ";"

def service (idMark : String) (c : Canned) : Service := fun request =>
  (Run.pause c.delayMs).andThen fun _ => .ofValue { c.response with
    body := c.response.body ++ String.join (c.echo.map (told idMark request.fields)) }

def addAll (idMark : String) (routes : List Canned) (table : RouteTable) :
    Except RouteFault RouteTable :=
  routes.foldlM (fun table c => table.add c.path c.choice (c.service idMark)) table

end Canned

/-- A middleware that adds a field to every request, or to every response, or answers itself. -/
inductive Edit
  | requestField (name value : String)
  | responseField (name value : String)
  | respond (response : Response)

def Edit.wrap (e : Edit) : Middleware := fun inner request =>
  match e with
  | requestField name value => inner { request with fields := request.fields.add name value }
  | responseField name value => (inner request).andThen fun response =>
      .ofValue { response with fields := response.fields.add name value }
  | respond response => .ofValue response

end DualServer.Pipeline
