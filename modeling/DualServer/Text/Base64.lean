import DualServer.Text.Bytes

/-!
Base64. `encode` writes the standard form with padding; `decode` accepts nothing else and says
which symbol is wrong.
-/

namespace DualServer.Text.Base64

def pad : UInt8 := 61

def symbol (n : Nat) : UInt8 :=
  UInt8.ofNat <|
    if n < 26 then 65 + n
    else if n < 52 then 71 + n
    else if n < 62 then n - 4
    else if n = 62 then 43
    else 47

def value? (b : UInt8) : Option Nat :=
  if 65 ≤ b ∧ b ≤ 90 then some (b.toNat - 65)
  else if 97 ≤ b ∧ b ≤ 122 then some (b.toNat - 71)
  else if 48 ≤ b ∧ b ≤ 57 then some (b.toNat + 4)
  else if b = 43 then some 62
  else if b = 47 then some 63
  else none

def encode : Bytes → Bytes
  | [] => []
  | [a] => [symbol (a.toNat / 4), symbol (a.toNat % 4 * 16), pad, pad]
  | [a, b] =>
    [symbol (a.toNat / 4), symbol (a.toNat % 4 * 16 + b.toNat / 16), symbol (b.toNat % 16 * 4), pad]
  | a :: b :: c :: rest =>
    symbol (a.toNat / 4) :: symbol (a.toNat % 4 * 16 + b.toNat / 16) ::
      symbol (b.toNat % 16 * 4 + c.toNat / 64) :: symbol (c.toNat % 64) :: encode rest

inductive Fault
  | symbol (offset : Nat) (byte : UInt8)
  | length (n : Nat)
  | lastSymbol (offset : Nat) (byte : UInt8)
  | padding
  deriving DecidableEq, Repr

def Fault.message : Fault → String
  | symbol offset byte => s!"Invalid symbol {byte.toNat}, offset {offset}."
  | length n => s!"Invalid input length: {n}"
  | lastSymbol offset byte => s!"Invalid last symbol {byte.toNat}, offset {offset}."
  | padding => "Invalid padding"

def threeBytes (a b c d : Nat) : Bytes :=
  [UInt8.ofNat (a * 4 + b / 16), UInt8.ofNat (b % 16 * 16 + c / 4), UInt8.ofNat (c % 4 * 64 + d)]

def valueAt (offset : Nat) (b : UInt8) : Except Fault Nat :=
  match value? b with
  | some n => .ok n
  | none => .error (.symbol offset b)

structure LastGroup where
  values : List Nat := []
  last : UInt8 := 0
  padding : Nat := 0
  paddingFrom : Nat := 0

def LastGroup.step (base index : Nat) (g : LastGroup) (b : UInt8) : Except Fault LastGroup :=
  if b = pad then
    if index < 2 then .error (.symbol (base + index) b)
    else .ok { g with
      padding := g.padding + 1
      paddingFrom := if g.padding = 0 then index else g.paddingFrom }
  else if 0 < g.padding then .error (.symbol (base + g.paddingFrom) pad)
  else (valueAt (base + index) b).map fun n => { g with values := g.values ++ [n], last := b }

def LastGroup.read (base : Nat) : Nat → LastGroup → Bytes → Except Fault LastGroup
  | _, g, [] => .ok g
  | index, g, b :: rest =>
    match g.step base index b with
    | .error fault => .error fault
    | .ok g => LastGroup.read base (index + 1) g rest

/-- The bytes of the last group. Bits that no byte takes up have to be zero. -/
def lastGroup (base : Nat) (symbols : Bytes) : Except Fault Bytes :=
  match LastGroup.read base 0 {} symbols with
  | .error fault => .error fault
  | .ok g => match g.values with
    | [] => if symbols.isEmpty then .ok [] else .error (.length base)
    | [_] => .error (.length (base + 1))
    | [a, b] =>
      if g.padding ≠ 2 then .error .padding
      else if b % 16 ≠ 0 then .error (.lastSymbol (base + 1) g.last)
      else .ok [UInt8.ofNat (a * 4 + b / 16)]
    | [a, b, c] =>
      if g.padding ≠ 1 then .error .padding
      else if c % 4 ≠ 0 then .error (.lastSymbol (base + 2) g.last)
      else .ok [UInt8.ofNat (a * 4 + b / 16), UInt8.ofNat (b % 16 * 16 + c / 4)]
    | a :: b :: c :: d :: _ => .ok (threeBytes a b c d)

/-- Groups of four symbols; the last group may hold padding. -/
def groups (base : Nat) : Bytes → Except Fault Bytes
  | a :: b :: c :: d :: e :: rest => do
    let va ← valueAt base a
    let vb ← valueAt (base + 1) b
    let vc ← valueAt (base + 2) c
    let vd ← valueAt (base + 3) d
    let bytes ← groups (base + 4) (e :: rest)
    return threeBytes va vb vc vd ++ bytes
  | symbols => lastGroup base symbols

/-- A single symbol after whole groups that is no symbol at all, such as a line end. -/
def straySymbol? (symbols : Bytes) : Option Fault :=
  if symbols.length % 4 = 1 then
    match symbols.getLast? with
    | some b =>
      if b ≠ pad && (value? b).isNone then some (.symbol (symbols.length - 1) b) else none
    | none => none
  else none

def decode (symbols : Bytes) : Except Fault Bytes :=
  match straySymbol? symbols with
  | some fault => .error fault
  | none => groups 0 symbols

end DualServer.Text.Base64
