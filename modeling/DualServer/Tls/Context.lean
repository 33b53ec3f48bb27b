import DualServer.Tls.Der

/-!
Whether certificate and key can serve TLS together: the key has to be of a form that is known, the
certificate has to be readable, and the public half of the key has to be the one in the
certificate. A key that does not tell its public half fits every certificate of its kind.
-/

namespace DualServer.Tls.Context

open DualServer.Text

inductive KeyForm
  | tagged
  | rsa
  | curve
  deriving DecidableEq, Repr

/-- A public key: the identifier of its kind, and its bits if they are known. -/
structure PublicKey where
  algorithm : Bytes
  bits : Option Bytes
  deriving DecidableEq, Repr

inductive Fault
  | unknownForm
  | unusableKey
  | badCertificate
  | mismatch
  deriving DecidableEq, Repr

def Fault.message : Fault → String
  | unknownForm => "unknown or invalid key format"
  | unusableKey => "unexpected error: failed to parse private key as RSA, ECDSA, or EdDSA"
  | badCertificate => "invalid peer certificate: BadEncoding"
  | mismatch => "keys may not be consistent: KeyMismatch"

def keyForm? : Bytes → Option KeyForm
  | 0x30 :: size :: rest =>
    let skipped := if size < 0x80 then 0 else size.toNat - 0x80
    match rest.drop skipped with
    | 2 :: 1 :: _ :: 0x30 :: _ => some .tagged
    | 2 :: 1 :: 0 :: 2 :: _ => some .rsa
    | 2 :: 1 :: 1 :: 4 :: _ => some .curve
    | _ => none
  | _ => none

def rsaId : Bytes := [0x2A, 0x86, 0x48, 0x86, 0xF7, 0x0D, 0x01, 0x01, 0x01]
def curveId : Bytes := [0x2A, 0x86, 0x48, 0xCE, 0x3D, 0x02, 0x01]
def p256Id : Bytes := [0x2A, 0x86, 0x48, 0xCE, 0x3D, 0x03, 0x01, 0x07]
def p384Id : Bytes := [0x2B, 0x81, 0x04, 0x00, 0x22]
def edwardsId : Bytes := [0x2B, 0x65, 0x70]

def element (tag : UInt8) (content : Bytes) : Bytes :=
  let n := content.length
  let size : Bytes :=
    if n < 0x80 then [UInt8.ofNat n]
    else if n < 0x100 then [0x81, UInt8.ofNat n]
    else [0x82, UInt8.ofNat (n / 256), UInt8.ofNat (n % 256)]
  tag :: size ++ content

def rsaAlgorithm : Bytes := element 6 rsaId ++ [5, 0]
def curveAlgorithm (curve : Bytes) : Bytes := element 6 curveId ++ element 6 curve
def edwardsAlgorithm : Bytes := element 6 edwardsId

def rsaPublic? (key : Bytes) : Option PublicKey :=
  match Der.sequence? key with
  | some (⟨2, [0]⟩ :: ⟨2, modulus⟩ :: ⟨2, exponent⟩ :: rest) =>
    let size := (modulus.dropWhile (· = 0)).length
    if rest.length = 6 && rest.all (·.tag = 2) && 256 ≤ size && size ≤ 1024 then
      some ⟨rsaAlgorithm, some (0 :: element 0x30 (element 2 modulus ++ element 2 exponent))⟩
    else none
  | _ => none

def curveOfLength? : Nat → Option Bytes
  | 32 => some p256Id
  | 48 => some p384Id
  | _ => none

/-- The public half of a key on a curve, which has to be stored beside the private half. -/
def curvePublic? (expected : Option Bytes) (key : Bytes) : Option PublicKey :=
  match Der.sequence? key with
  | some (⟨2, [1]⟩ :: ⟨4, secret⟩ :: rest) => do
    let curve ← curveOfLength? secret.length
    if expected.any (· ≠ curve) then none
    let stored ← rest.find? (·.tag = 0xA1)
    match Der.elements? stored.content with
    | some [⟨3, bits⟩] =>
      if bits.length = 2 * secret.length + 2 then some ⟨curveAlgorithm curve, some bits⟩ else none
    | _ => none
  | _ => none

/-- The public half of a key whose kind is written in front of it. -/
def taggedPublic? (key : Bytes) : Option PublicKey :=
  match Der.sequence? key with
  | some (⟨2, [_]⟩ :: ⟨0x30, algorithm⟩ :: ⟨4, inner⟩ :: _) =>
    if algorithm = rsaAlgorithm then rsaPublic? inner
    else if algorithm = curveAlgorithm p256Id then curvePublic? (some p256Id) inner
    else if algorithm = curveAlgorithm p384Id then curvePublic? (some p384Id) inner
    else if algorithm = edwardsAlgorithm then
      match Der.front? inner with
      | some (⟨4, secret⟩, []) =>
        if secret.length = 32 then some ⟨edwardsAlgorithm, none⟩ else none
      | _ => none
    else none
  | _ => none

def publicHalf? (form : KeyForm) (key : Bytes) : Option PublicKey :=
  match form with
  | .tagged => taggedPublic? key
  | .rsa => rsaPublic? key
  | .curve => curvePublic? none key

def certified? (certificate : Bytes) : Option PublicKey := do
  let signed ← match Der.sequence? certificate with
    | some [signed, ⟨0x30, _⟩, ⟨3, _⟩] => signed.sequence?
    | _ => none
  let named := match signed with
    | ⟨0xA0, _⟩ :: rest => rest
    | fields => fields
  match named with
  | ⟨2, _⟩ :: ⟨0x30, _⟩ :: ⟨0x30, _⟩ :: ⟨0x30, _⟩ :: ⟨0x30, _⟩ :: key :: _ =>
    match key.sequence? with
    | some [⟨0x30, algorithm⟩, ⟨3, bits⟩] => some ⟨algorithm, some bits⟩
    | _ => none
  | _ => none

def PublicKey.fits (own certified : PublicKey) : Bool :=
  own.algorithm = certified.algorithm && (own.bits.isNone || own.bits = certified.bits)

def check (chain : List Bytes) (key : Bytes) : Except Fault Unit :=
  match keyForm? key with
  | none => .error .unknownForm
  | some form => match publicHalf? form key with
    | none => .error .unusableKey
    | some own => match chain.head?.bind certified? with
      | none => .error .badCertificate
      | some certified => if own.fits certified then .ok () else .error .mismatch

end DualServer.Tls.Context
