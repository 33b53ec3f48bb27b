import DualServer.Basic
import DualServer.Text.Bytes
import DualServer.Text.Split

/-! A file system as far as the server uses it: directories, files and sockets by their place. A
place is a path taken apart, with `.` and `..` worked off; the first part of an absolute one is a
slash, and a relative one keeps the `..` that lead out of the directory it starts from. There are no
links, and an absolute place is never the same as a relative one. -/

namespace DualServer.Transport

open DualServer.Text

abbrev Place := List String

namespace Place

/-- A place that is there in every file system: the root, and what relative paths start from or
lead up to. -/
def isGiven (place : Place) : Bool := place == ["/"] || place.all (· == "..")

def step (place : Place) (part : String) : Place :=
  if part == "." then place
  else if part == ".." then
    if place == ["/"] then place
    else if place.all (· == "..") then place ++ [".."]
    else place.dropLast
  else place ++ [part]

def parts (path : String) : List String :=
  ((splitAll '/' path.toList).map String.ofList).filter (· != "")

def start (path : String) : Place := if path.toList.head? = some '/' then ["/"] else []

def ofPath (path : String) : Place := (parts path).foldl step (start path)

def passing (place : Place) : List String → List Place
  | [] => []
  | part :: parts => place :: passing (place.step part) parts

/-- The places where the parts of a path are looked for, one after the other. -/
def passed (path : String) : List Place := passing (start path) (parts path)

end Place

structure Rights where
  owner : Nat := 0
  group : Nat := 0
  mode : Nat := 493
  deriving DecidableEq, Repr

/-- What is at a place. A socket file knows the socket it was made for. -/
inductive FileEntry
  | directory
  | file (content : Bytes)
  | socket (id : Nat) (rights : Rights)
  deriving DecidableEq, Repr

/-- The entries, and where the system has something against a change, such as rights or a disk that
is full: entries that are `held` are not removed, and none is made at a `barred` place. -/
structure FileSystem where
  entries : List (Place × FileEntry) := []
  held : List (Place × Fault) := []
  barred : List (Place × Fault) := []
  deriving DecidableEq, Repr

namespace FileSystem

def get? (fs : FileSystem) (place : Place) : Option FileEntry :=
  if place.isGiven then some .directory else fs.entries.lookup place

/-- The file system without what is at a place. -/
def erase (fs : FileSystem) (place : Place) : FileSystem :=
  { fs with entries := fs.entries.filter (·.1 != place) }

/-- The file system with something at a place, instead of what was there. -/
def put (fs : FileSystem) (place : Place) (entry : FileEntry) : FileSystem :=
  { fs with entries := (place, entry) :: (fs.erase place).entries }

def maxPath : Nat := 4095

/-- What is wrong with a path before anything is looked up. -/
def refused? (path : String) : Option Fault :=
  if path.isEmpty then some .notFound
  else if path.toList.contains '\x00' then
    some (.other "file name contained an unexpected NUL byte")
  else if maxPath < path.utf8ByteSize then some (.other "File name too long (os error 36)")
  else none

/-- Whether one can get to the last part of a path: all places on the way are directories. -/
def reach (fs : FileSystem) (path : String) : Except Fault Unit :=
  match (Place.passed path).find? fun place => fs.get? place ≠ some .directory with
  | none => .ok ()
  | some place => .error (if (fs.get? place).isSome then .notDirectory else .notFound)

def endsInSlash (path : String) : Bool := path.toList.getLast? = some '/'

def find (fs : FileSystem) (path : String) : Except Fault FileEntry :=
  match refused? path with
  | some fault => .error fault
  | none => match fs.reach path with
    | .error fault => .error fault
    | .ok () => match fs.get? (.ofPath path) with
      | none => .error .notFound
      | some .directory => .ok .directory
      | some entry => if endsInSlash path then .error .notDirectory else .ok entry

def exists? (fs : FileSystem) (path : String) : Bool := (fs.find path).isOk

def noDevice : Fault := .other "No such device or address (os error 6)"

def read (fs : FileSystem) (path : String) : Except Fault Bytes :=
  match fs.find path with
  | .error fault => .error fault
  | .ok .directory => .error .isDirectory
  | .ok (.file content) => .ok content
  | .ok (.socket _ _) => .error noDevice

/-- A new file or directory. A file that is there is written over. -/
def create (fs : FileSystem) (path : String) (entry : FileEntry) : Except Fault FileSystem :=
  let made : Except Fault FileSystem := .ok (fs.put (.ofPath path) entry)
  match refused? path with
  | some fault => .error fault
  | none => match fs.reach path with
    | .error fault => .error fault
    | .ok () =>
      if entry != .directory && endsInSlash path then .error .isDirectory
      else match fs.get? (.ofPath path) with
        | none => match fs.barred.lookup (.ofPath path) with
          | some fault => .error fault
          | none => made
        | some present =>
          if entry = .directory then .error (.other "File exists (os error 17)")
          else match present with
            | .directory => .error .isDirectory
            | .socket _ _ => .error noDevice
            | .file _ => made

def removeFile (fs : FileSystem) (path : String) : Except Fault FileSystem :=
  match fs.find path with
  | .error fault => .error fault
  | .ok .directory => .error .isDirectory
  | .ok _ => match fs.held.lookup (.ofPath path) with
    | some fault => .error fault
    | none => .ok (fs.erase (.ofPath path))

/-- Whether a path leads to a socket, and the mode there. Files and directories have the usual
ones. -/
def status? (fs : FileSystem) (path : String) : Option (Bool × Nat) :=
  match fs.find path with
  | .error _ => none
  | .ok .directory => some (false, 493)
  | .ok (.file _) => some (false, 420)
  | .ok (.socket _ rights) => some (true, rights.mode)

end FileSystem

end DualServer.Transport
