/-!
Words that the whole server shares: its two interfaces and its build, what the operating system says
when it refuses something, values by name, and the URLs that it leaves to a library to read.
-/

namespace DualServer

/-- The two HTTP interfaces of the server. -/
inductive Interface
  | admin
  | «public»
  deriving DecidableEq, Repr

namespace Interface

def all : List Interface := [admin, «public»]

def name : Interface → String
  | admin => "admin"
  | .public => "public"

def pathPrefix : Interface → String
  | admin => "/admin"
  | .public => ""

end Interface

/-- What a build of the server says about itself. -/
structure Build where
  version : String := "0.1.0"
  commit : String := "undefined"
  date : String := "undefined"
  deriving DecidableEq, Repr

def Build.banner (b : Build) : String :=
  "serve-orchestrator " ++ b.version ++ " (" ++ b.commit ++ ", built " ++ b.date ++ ")\n" ++
    "Admin and public interfaces are starting. Terminate with Ctrl+C."

/-- What the operating system says when an operation on a file or socket fails. -/
inductive Fault
  | notFound
  | isDirectory
  | notDirectory
  | accessDenied
  | notText
  | addressInUse
  | addressNotAvailable
  | other (text : String)
  deriving DecidableEq, Repr

def Fault.message : Fault → String
  | notFound => "No such file or directory (os error 2)"
  | isDirectory => "Is a directory (os error 21)"
  | notDirectory => "Not a directory (os error 20)"
  | accessDenied => "Permission denied (os error 13)"
  | notText => "stream did not contain valid UTF-8"
  | addressInUse => "Address already in use (os error 98)"
  | addressNotAvailable => "Cannot assign requested address (os error 99)"
  | other text => text

/-- Values by name. A name stands for one value at a time; the latest one comes first. -/
abbrev Named (α : Type) := List (String × α)

namespace Named

variable {α : Type}

def get? (xs : Named α) (name : String) : Option α := (xs.find? (·.1 == name)).map (·.2)

def erase (xs : Named α) (name : String) : Named α := xs.filter (·.1 != name)

def put (xs : Named α) (name : String) (value : α) : Named α := (name, value) :: xs.erase name

@[simp] theorem get?_put_self (xs : Named α) (name : String) (value : α) :
    (xs.put name value).get? name = some value := by
  simp [get?, put]

theorem get?_put_of_ne {xs : Named α} {name other : String} {value : α} (h : other ≠ name) :
    (xs.put name value).get? other = xs.get? other := by
  simp only [get?, put, erase, List.find?_cons_of_neg, beq_iff_eq, h.symm, not_false_eq_true,
    List.find?_filter]
  congr 2
  funext entry
  by_cases hentry : entry.1 = other <;> simp [hentry, h]

end Named

/-- What the server asks of a URL: its host, if it has one. -/
structure Url where
  host : Option String
  deriving DecidableEq, Repr

/-- How texts are read as absolute URLs. -/
class UrlReader where
  read? : String → Option Url

/-- A reader that takes no text for a URL, which is enough where no issuer is set. -/
abbrev UrlReader.none : UrlReader := ⟨fun _ => .none⟩

end DualServer
