import DualServer.Text.Bytes

/-!
The part of DER that tells keys and certificates apart: a tag, a length, a content.
-/

namespace DualServer.Tls.Der

open DualServer.Text

structure Element where
  tag : UInt8
  content : Bytes
  deriving DecidableEq, Repr

def bigEndian (bytes : Bytes) : Nat := bytes.foldl (fun n b => n * 256 + b.toNat) 0

def length? : Bytes → Option (Nat × Bytes)
  | [] => none
  | first :: rest =>
    if first < 0x80 then some (first.toNat, rest)
    else
      let size := first.toNat - 0x80
      if size = 0 || 4 < size || rest.length < size then none
      else some (bigEndian (rest.take size), rest.drop size)

def front? : Bytes → Option (Element × Bytes)
  | [] => none
  | tag :: rest => match length? rest with
    | none => none
    | some (size, rest) =>
      if rest.length < size then none else some (⟨tag, rest.take size⟩, rest.drop size)

/-- A number of elements in a row, at most as many as `fuel` says. -/
def elementsUpTo (fuel : Nat) (bytes : Bytes) : Option (List Element) :=
  if bytes.isEmpty then some []
  else match fuel with
    | 0 => none
    | fuel + 1 => match front? bytes with
      | none => none
      | some (e, rest) => (elementsUpTo fuel rest).map (e :: ·)

/-- All elements in a row; every element takes two bytes or more. -/
def elements? (bytes : Bytes) : Option (List Element) := elementsUpTo bytes.length bytes

def sequence? (bytes : Bytes) : Option (List Element) :=
  match front? bytes with
  | some (⟨0x30, content⟩, []) => elements? content
  | _ => none

def Element.sequence? (e : Element) : Option (List Element) :=
  if e.tag = 0x30 then elements? e.content else none

end DualServer.Tls.Der
