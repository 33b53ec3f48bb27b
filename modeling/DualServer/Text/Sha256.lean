import DualServer.Text.Bytes

/-!
The digest SHA-256: the message padded to blocks of 64 bytes, each block expanded to a schedule of
64 words and mixed into eight chaining words.
-/

namespace DualServer.Text.Sha256

private def initial : List UInt32 := [
  0x6a09e667, 0xbb67ae85, 0x3c6ef372, 0xa54ff53a, 0x510e527f, 0x9b05688c, 0x1f83d9ab, 0x5be0cd19]

private def rounds : List UInt32 := [
  0x428a2f98, 0x71374491, 0xb5c0fbcf, 0xe9b5dba5, 0x3956c25b, 0x59f111f1, 0x923f82a4, 0xab1c5ed5,
  0xd807aa98, 0x12835b01, 0x243185be, 0x550c7dc3, 0x72be5d74, 0x80deb1fe, 0x9bdc06a7, 0xc19bf174,
  0xe49b69c1, 0xefbe4786, 0x0fc19dc6, 0x240ca1cc, 0x2de92c6f, 0x4a7484aa, 0x5cb0a9dc, 0x76f988da,
  0x983e5152, 0xa831c66d, 0xb00327c8, 0xbf597fc7, 0xc6e00bf3, 0xd5a79147, 0x06ca6351, 0x14292967,
  0x27b70a85, 0x2e1b2138, 0x4d2c6dfc, 0x53380d13, 0x650a7354, 0x766a0abb, 0x81c2c92e, 0x92722c85,
  0xa2bfe8a1, 0xa81a664b, 0xc24b8b70, 0xc76c51a3, 0xd192e819, 0xd6990624, 0xf40e3585, 0x106aa070,
  0x19a4c116, 0x1e376c08, 0x2748774c, 0x34b0bcb5, 0x391c0cb3, 0x4ed8aa4a, 0x5b9cca4f, 0x682e6ff3,
  0x748f82ee, 0x78a5636f, 0x84c87814, 0x8cc70208, 0x90befffa, 0xa4506ceb, 0xbef9a3f7, 0xc67178f2]

private def rotate (x n : UInt32) : UInt32 := (x >>> n) ||| (x <<< (32 - n))

/-- The message, a one bit, zeros, and the bit length in eight bytes. -/
def pad (message : Bytes) : Bytes :=
  let zeros := (119 - message.length % 64) % 64
  message ++ [0x80] ++ List.replicate zeros 0 ++
    (List.range 8).map fun i => UInt8.ofNat (message.length * 8 / Nat.pow 256 (7 - i))

private def words : Bytes → List UInt32
  | a :: b :: c :: d :: rest =>
    (a.toUInt32 <<< 24 ||| b.toUInt32 <<< 16 ||| c.toUInt32 <<< 8 ||| d.toUInt32) :: words rest
  | _ => []

private def extend : Nat → List UInt32 → List UInt32
  | 0, latest => latest
  | n + 1, latest =>
    let word (i : Nat) : UInt32 := latest.getD i 0
    let s0 := let x := word 14; rotate x 7 ^^^ rotate x 18 ^^^ (x >>> 3)
    let s1 := let x := word 1; rotate x 17 ^^^ rotate x 19 ^^^ (x >>> 10)
    extend n ((word 15 + s0 + word 6 + s1) :: latest)

private def mix (state : List UInt32) (k w : UInt32) : List UInt32 :=
  match state with
  | [a, b, c, d, e, f, g, h] =>
    let choice := (e &&& f) ^^^ (~~~e &&& g)
    let majority := (a &&& b) ^^^ (a &&& c) ^^^ (b &&& c)
    let t1 := h + (rotate e 6 ^^^ rotate e 11 ^^^ rotate e 25) + choice + k + w
    let t2 := (rotate a 2 ^^^ rotate a 13 ^^^ rotate a 22) + majority
    [t1 + t2, a, b, c, d + t1, e, f, g]
  | other => other

private def compress (state : List UInt32) (block : Bytes) : List UInt32 :=
  let schedule := (extend 48 (words block).reverse).reverse
  let mixed := (rounds.zip schedule).foldl (fun s kw => mix s kw.1 kw.2) state
  state.zipWith (· + ·) mixed

private def blocks (n : Nat) (message : Bytes) : List Bytes :=
  (List.range n).map fun i => (message.drop (64 * i)).take 64

def digest (message : Bytes) : Bytes :=
  let padded := pad message
  let final := (blocks (padded.length / 64) padded).foldl compress initial
  final.flatMap fun (w : UInt32) =>
    [(w >>> 24).toUInt8, (w >>> 16).toUInt8, (w >>> 8).toUInt8, w.toUInt8]

end DualServer.Text.Sha256
