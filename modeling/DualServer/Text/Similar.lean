/-!
How alike two words are: the share of characters that both have at about the same place, and of
those that stand in the same order. Alikeness is a fraction, compared without rounding.
-/

namespace DualServer.Text

structure Likeness where
  numerator : Nat
  denominator : Nat
  deriving DecidableEq, Repr

namespace Likeness

def below (a b : Likeness) : Bool := a.numerator * b.denominator < b.numerator * a.denominator

def threshold : Likeness := ⟨7, 10⟩

end Likeness

/-- The first place from `low` on and before `high` that has a character and is not taken. -/
def freePlace (word : List Char) (taken : List Nat) (c : Char) (low high : Nat) : Option Nat :=
  (word.zipIdx.find? fun (d, place) =>
    low ≤ place && place < high && c = d && !taken.contains place).map (·.2)

/-- The places at which the characters of one word are found again in another, in the order of the
first word: each character looks near its own place and takes the first free one. -/
def foundPlaces (word : List Char) (reach : Nat) (taken : List Nat) :
    List (Char × Nat) → List (Char × Nat)
  | [] => []
  | (c, place) :: rest =>
    match freePlace word taken c (place - reach) (place + reach + 1) with
    | some found => (c, found) :: foundPlaces word reach (found :: taken) rest
    | none => foundPlaces word reach taken rest

def likeness (a b : String) : Likeness :=
  let left := a.toList
  let right := b.toList
  let reach := max left.length right.length / 2 - 1
  let found := foundPlaces right reach [] left.zipIdx
  let ordered := found.mergeSort fun x y => x.2 ≤ y.2
  let moved := (List.zip (found.map (·.1)) (ordered.map (·.1))).countP fun (c, d) => c ≠ d
  let same := found.length
  if same = 0 then ⟨0, 1⟩
  else
    let m := left.length
    let n := right.length
    ⟨same * same * n + same * same * m + (same - moved / 2) * m * n, 3 * m * n * same⟩

/-- A word put before the first one that is more alike. -/
def insertByLikeness (entry : Likeness × String) :
    List (Likeness × String) → List (Likeness × String)
  | [] => [entry]
  | other :: rest =>
    if entry.1.below other.1 then entry :: other :: rest
    else other :: insertByLikeness entry rest

def similarWords (given : String) (words : List String) : List String :=
  let scored := words.map fun word => (likeness given word, word)
  ((scored.filter fun (score, _) => Likeness.threshold.below score).foldl
    (fun list entry => insertByLikeness entry list) []).map (·.2)

end DualServer.Text
