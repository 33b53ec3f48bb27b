import DualServer.Http.Target
import DualServer.Net.Address.Text
import DualServer.Text.Quoted
import DualServer.Text.Split

/-!
Requests and responses. Header fields are a list of name and value in the order they were added,
with lower-case names; `first?` is the value a single-valued field has. Field values are kept as
text; every byte of a non-ASCII character is allowed in them, so the rule is one on characters.
-/

namespace DualServer.Http

def isTokenChar (c : Char) : Bool :=
  c.isAlphanum || "!#$%&'*+-.^_`|~".toList.contains c

def isToken (s : String) : Bool := !s.isEmpty && s.toList.all isTokenChar

def isValueChar (c : Char) : Bool := (c.toNat ≥ 0x20 && c.toNat ≠ 0x7F) || c = '\t'

def isFieldValue (s : String) : Bool := s.toList.all isValueChar

def isVisible (c : Char) : Bool := (0x20 ≤ c.toNat && c.toNat < 0x7F) || c = '\t'

def visible? (value : String) : Option String :=
  if value.toList.all isVisible then some value else none

def fieldName? (s : String) : Option String :=
  if isToken s && s.utf8ByteSize < 65536 then some (Text.lowerAscii s) else none

abbrev Fields := List (String × String)

namespace Fields

def all (fields : Fields) (name : String) : List String :=
  (fields.filter (·.1 == name)).map (·.2)

def first? (fields : Fields) (name : String) : Option String := (fields.all name).head?

def has (fields : Fields) (name : String) : Bool := fields.any (·.1 == name)

def without (fields : Fields) (name : String) : Fields := fields.filter (·.1 != name)

def add (fields : Fields) (name value : String) : Fields := fields ++ [(name, value)]

/-- The fields with this value as the only one of its name. -/
def set (fields : Fields) (name value : String) : Fields := (fields.without name).add name value

/-- The fields with this value, unless the name is there already. -/
def setIfAbsent (fields : Fields) (name value : String) : Fields :=
  if fields.has name then fields else fields.add name value

def sorted (fields : Fields) : Fields := fields.mergeSort fun a b => a.1 ≤ b.1

end Fields

inductive Security
  | tls
  | plain
  deriving DecidableEq, Repr

/-- A request as the stages of a pipeline see it. `freshId` is the identifier it gets if its sender
gave none. -/
structure Request where
  path : String
  method : String := "GET"
  fields : Fields := []
  body : String := ""
  peer : Option Net.SocketAddress := none
  security : Option Security := none
  freshId : String := "fresh"
  deriving DecidableEq, Repr

structure Response where
  status : Nat := 200
  fields : Fields := []
  body : String := ""
  deriving DecidableEq, Repr

inductive BadRequest
  | target (text : String)
  | fieldValue (text : String)
  | fieldName (text : String)
  | method
  deriving DecidableEq, Repr

def BadRequest.message : BadRequest → String
  | target text => "path " ++ Text.quoted text
  | fieldValue text => "header value " ++ Text.quoted text
  | fieldName text => "header name " ++ Text.quoted text
  | method => "method"

/-- Header fields from pairs of name and value; a bad value is reported before a bad name. -/
def Fields.parse : List (String × String) → Except BadRequest Fields
  | [] => .ok []
  | (name, value) :: rest =>
    if !isFieldValue value then .error (.fieldValue value)
    else match fieldName? name with
      | none => .error (.fieldName name)
      | some name => (Fields.parse rest).map ((name, value) :: ·)

def Request.make (target method : String) (fields : List (String × String)) (body : String) :
    Except BadRequest Request :=
  match targetPath? target with
  | none => .error (.target target)
  | some path => match Fields.parse fields with
    | .error e => .error e
    | .ok fields =>
      if isToken method then .ok { path, method, fields, body } else .error .method

/-- Whether a character fits a place of an identifier that the server makes up for a request:
random, version 4, in lower case with hyphens. -/
def fitsRequestId (c : Char) (place : Nat) : Bool :=
  if [8, 13, 18, 23].contains place then c == '-'
  else if place == 14 then c == '4'
  else if place == 19 then ['8', '9', 'a', 'b'].contains c
  else c.isDigit || ('a' ≤ c && c ≤ 'f')

def isRequestId (s : String) : Bool :=
  s.toList.length == 36 && s.toList.zipIdx.all fun (c, place) => fitsRequestId c place

end DualServer.Http
