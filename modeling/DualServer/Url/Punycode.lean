/-!
Punycode: text beyond ASCII written in ASCII. The ASCII characters come first, then a hyphen, then
the positions of the other characters as differences in a number system of base 36 whose digit
thresholds follow a bias.
-/

namespace DualServer.Url.Punycode

def digitChar (d : Nat) : Char := if d < 26 then Char.ofNat (97 + d) else Char.ofNat (22 + d)

def digitValue? (c : Char) : Option Nat :=
  if 'a' ≤ c ∧ c ≤ 'z' then some (c.toNat - 97)
  else if 'A' ≤ c ∧ c ≤ 'Z' then some (c.toNat - 65)
  else if c.isDigit then some (c.toNat - 22)
  else none

/-- The threshold of a digit position `k` (a multiple of 36) under a bias. -/
def threshold (k bias : Nat) : Nat :=
  if k ≤ bias then 1 else if bias + 26 ≤ k then 26 else k - bias

/-- Division by 35 until at most 455 is left; `k` counts 36 a time. -/
def settle (delta k : Nat) : Nat × Nat :=
  if 455 < delta then settle (delta / 35) (k + 36) else (delta, k)
termination_by delta
decreasing_by omega

/-- The bias after a difference of `delta`, with `points` characters placed so far. -/
def adapt (delta points : Nat) (first : Bool) : Nat :=
  let delta := if first then delta / 700 else delta / 2
  let (rest, k) := settle (delta + delta / points) 0
  k + 36 * rest / (rest + 38)

def encodeDigits (fuel q k bias : Nat) : List Char :=
  match fuel with
  | 0 => []
  | fuel + 1 =>
    let t := threshold k bias
    if q < t then [digitChar q]
    else digitChar (t + (q - t) % (36 - t)) :: encodeDigits fuel ((q - t) / (36 - t)) (k + 36) bias

structure EncodeState where
  delta : Nat := 0
  bias : Nat := 72
  handled : Nat
  written : List Char := []

def encodePass (basic n : Nat) (codes : List Nat) (s : EncodeState) : EncodeState :=
  codes.foldl (fun s code =>
    if code < n then { s with delta := s.delta + 1 }
    else if code = n then
      { delta := 0
        bias := adapt s.delta (s.handled + 1) (s.handled == basic)
        handled := s.handled + 1
        written := s.written ++ encodeDigits (s.delta + 1) s.delta 36 s.bias }
    else s) s

def encodeFrom (fuel basic n : Nat) (codes : List Nat) (s : EncodeState) : List Char :=
  match fuel, (codes.filter (n ≤ ·)).min? with
  | fuel + 1, some next =>
    let s := { s with delta := s.delta + (next - n) * (s.handled + 1) }
    let s := encodePass basic next codes s
    encodeFrom fuel basic (next + 1) codes { s with delta := s.delta + 1 }
  | _, _ => s.written

/-- The ASCII form of a label, without the mark in front. -/
def encode (cs : List Char) : List Char :=
  let basic := cs.filter (·.toNat < 128)
  let lead := if basic.isEmpty then [] else basic ++ ['-']
  lead ++ encodeFrom cs.length basic.length 128 (cs.map Char.toNat) { handled := basic.length }

def decodeDigits (i w k bias : Nat) : List Char → Option (Nat × List Char)
  | [] => none
  | c :: rest => do
    let d ← digitValue? c
    let i := i + d * w
    let t := threshold k bias
    if 0xFFFFFFFF < i then none
    else if d < t then some (i, rest)
    else decodeDigits i (w * (36 - t)) (k + 36) bias rest

def decodeFrom (fuel n i bias : Nat) (out : List Char) (cs : List Char) : Option (List Char) :=
  match fuel, cs with
  | _, [] => some out
  | 0, _ => none
  | fuel + 1, cs => do
    let (next, rest) ← decodeDigits i 1 36 bias cs
    let size := out.length + 1
    let code := n + next / size
    let place := next % size
    if 0x10FFFF < code ∨ (0xD800 ≤ code ∧ code ≤ 0xDFFF) then none
    else
      let out := out.take place ++ Char.ofNat code :: out.drop place
      decodeFrom fuel code (place + 1) (adapt (next - i) size (i == 0)) out rest

def decode? (cs : List Char) : Option (List Char) :=
  let tail := (cs.reverse.takeWhile (· ≠ '-')).reverse
  let basic := cs.take (cs.length - tail.length - 1)
  if cs.any (·.toNat ≥ 128) then none
  else decodeFrom cs.length 128 0 72 basic tail

end DualServer.Url.Punycode
