/-!
Cutting character lists at a separator. `splitFirst` keeps everything: the two parts and the
separator concatenate to the input.
-/

namespace DualServer.Text

/-- The characters before the first `mark` and those after it, or `none` if there is no `mark`. -/
def splitFirst (mark : Char) : List Char → Option (List Char × List Char)
  | [] => none
  | c :: rest =>
    if c = mark then some ([], rest)
    else (splitFirst mark rest).map fun (before, after) => (c :: before, after)

theorem splitFirst_append {mark : Char} {before : List Char} (h : mark ∉ before)
    (after : List Char) : splitFirst mark (before ++ mark :: after) = some (before, after) := by
  induction before with
  | nil => simp [splitFirst]
  | cons c before ih =>
    rw [List.mem_cons, not_or] at h
    simp [splitFirst, Ne.symm h.1, ih h.2]

theorem splitFirst_eq_none {mark : Char} {cs : List Char} (h : mark ∉ cs) :
    splitFirst mark cs = none := by
  induction cs with
  | nil => rfl
  | cons c rest ih =>
    rw [List.mem_cons, not_or] at h
    simp [splitFirst, Ne.symm h.1, ih h.2]

/-- The pieces between the marks; always at least one, possibly empty. -/
def splitAll (mark : Char) : List Char → List (List Char)
  | [] => [[]]
  | c :: rest =>
    if c = mark then [] :: splitAll mark rest
    else match splitAll mark rest with
      | [] => [[c]]
      | piece :: pieces => (c :: piece) :: pieces

def dropFront? (front cs : List Char) : Option (List Char) :=
  match front, cs with
  | [], rest => some rest
  | f :: front, c :: rest => if f = c then dropFront? front rest else none
  | _ :: _, [] => none

theorem dropFront?_eq_some {front cs rest : List Char} :
    dropFront? front cs = some rest ↔ cs = front ++ rest := by
  induction front generalizing cs with
  | nil => simp [dropFront?, eq_comm]
  | cons f front ih =>
    cases cs with
    | nil => simp [dropFront?]
    | cons c cs =>
      by_cases h : f = c
      · simp [dropFront?, h, ih]
      · simp [dropFront?, h, Ne.symm h]

/-- ASCII upper case made lower; every other character stays. -/
def lowerAscii (s : String) : String := s.map Char.toLower

/-- ASCII lower case made upper; every other character stays. -/
def upperAscii (s : String) : String := s.map Char.toUpper

def sameIgnoringCase (s t : String) : Bool := lowerAscii s == lowerAscii t

end DualServer.Text
