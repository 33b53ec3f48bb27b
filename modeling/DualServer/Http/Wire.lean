import DualServer.Http.Message
import DualServer.Text.Blank
import DualServer.Text.Split

/-!
What becomes of an answer on a connection that is kept open between requests: it gets a length where
one can have it, its body is left out where none may follow, and the end of the connection is told.
-/

namespace DualServer.Http.Wire

open DualServer.Text

def asksToClose (fields : Fields) : Bool :=
  (fields.all "connection").any fun value =>
    (splitAll ',' value.toList).any fun token =>
      lowerAscii (String.ofList (trimBlankChars token)) == "close"

/-- Whether an answer with a status never has a body or a length. -/
def isBodiless (status : Nat) : Bool := status < 200 || status = 204 || status = 304

def lengthFields (request : Request) (r : Response) : Fields :=
  if isBodiless r.status || (request.method == "HEAD" && r.body.isEmpty) then r.fields
  else r.fields.setIfAbsent "content-length" (toString r.body.utf8ByteSize)

/-- An answer as it is sent, on a connection that ends with it or goes on. -/
def sent (request : Request) (closing : Bool) (r : Response) : Response where
  status := r.status
  fields :=
    let fields := lengthFields request r
    if closing && !asksToClose fields then fields.add "connection" "close" else fields
  body := if isBodiless r.status || request.method == "HEAD" then "" else r.body

def reason : Nat → String
  | 200 => "OK"
  | 201 => "Created"
  | 202 => "Accepted"
  | 204 => "No Content"
  | 301 => "Moved Permanently"
  | 302 => "Found"
  | 304 => "Not Modified"
  | 400 => "Bad Request"
  | 401 => "Unauthorized"
  | 403 => "Forbidden"
  | 404 => "Not Found"
  | 405 => "Method Not Allowed"
  | 418 => "I'm a teapot"
  | 429 => "Too Many Requests"
  | 500 => "Internal Server Error"
  | 502 => "Bad Gateway"
  | 503 => "Service Unavailable"
  | _ => ""

def statusLine (status : Nat) : String := "HTTP/1.1 " ++ toString status ++ " " ++ reason status

end DualServer.Http.Wire
