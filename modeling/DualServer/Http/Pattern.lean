import DualServer.Text.Quoted
import DualServer.Text.Split

/-!
Path patterns: segments that are fixed, stand for one segment (`\x7bname\x7d`), or stand for the
rest of the path (`\x7b*name\x7d`). Of two patterns that match a path, the one with the more
definite segment at the first difference is chosen.
-/

namespace DualServer.Http

open DualServer.Text

/-- A segment of a pattern; a capture may have fixed characters before it. -/
inductive Segment
  | fixed (text : List Char)
  | capture (lead : List Char)
  | rest (lead : List Char)
  deriving DecidableEq, Repr

abbrev Pattern := List Segment

def Segment.parse (cs : List Char) : Segment :=
  match splitFirst '\x7b' cs with
  | some (lead, '*' :: _) => .rest lead
  | some (lead, _) => .capture lead
  | none => .fixed cs

def Pattern.parse (path : String) : Pattern :=
  (splitAll '/' (path.toList.drop 1)).map Segment.parse

def Pattern.matches : Pattern → List (List Char) → Bool
  | [], [] => true
  | [.rest lead], path =>
    match dropFront? lead (['/'].intercalate path) with
    | some after => !after.isEmpty
    | none => false
  | segment :: pattern, part :: path =>
    (match segment with
      | .fixed text => part = text
      | .capture lead => (dropFront? lead part).any (!·.isEmpty)
      | .rest _ => false) && Pattern.matches pattern path
  | _, _ => false

def Segment.rank : Segment → Nat
  | fixed _ => 2
  | capture _ => 1
  | rest _ => 0

def Pattern.before : Pattern → Pattern → Bool
  | a :: rest, b :: rest' => if a.rank = b.rank then Pattern.before rest rest' else b.rank < a.rank
  | _, _ => false

/-- Patterns that cannot both be registered: the same up to the names of captures. -/
def Pattern.conflicts (a b : Pattern) : Bool := a = b

end DualServer.Http
