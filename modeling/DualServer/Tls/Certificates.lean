import DualServer.Config.Settings
import DualServer.Log.Event
import DualServer.Serve.Failure
import DualServer.Text.Blank
import DualServer.Tls.Context
import DualServer.Tls.Pem

/-!
Certificates for an interface: read from where the settings say, or made up when the settings name
none. A made-up certificate is kept and given again.
-/

namespace DualServer.Tls

open DualServer.Config DualServer.Text

/-- A certificate chain with its key. Made-up certificates are told apart by a serial number. -/
inductive Material
  | loaded (chain : List Bytes) (key : Bytes)
  | selfSigned (serial : Nat)
  deriving DecidableEq, Repr

abbrev ReadFile := String → Except Fault Bytes

/-- The PEM text of a source: a file before base64 text. -/
def readPem (files : ReadFile) (source : PemSource) : Except String Bytes :=
  match source.path, source.base64 with
  | some path, _ =>
    (files path).mapError fun fault => "cannot read " ++ path ++ ": " ++ fault.message
  | none, some encoded =>
    (Base64.decode (utf8 (trimBlank encoded))).mapError fun fault =>
      "invalid base64: " ++ fault.message
  | none, none => .error "not configured"

def parsePem (certificate key : Bytes) : Except String (List Bytes × Bytes) := do
  let chain ← (Pem.certificates certificate).mapError ("invalid certificate PEM: " ++ ·.message)
  if chain.isEmpty then throw "certificate chain is empty"
  let found ← (Pem.privateKey? key).mapError ("invalid private key PEM: " ++ ·.message)
  match found with
  | none => throw "no private key found"
  | some key => return (chain, key)

/-- What may be told of a chain and its key: how long the chain is. -/
def description (chain : List Bytes) : String :=
  "TlsMaterial \x7b certificates: " ++ toString chain.length ++ ", .. \x7d"

def loadMaterial (files : ReadFile) (tls : TlsSettings) : Except String (List Bytes × Bytes) := do
  let certificate ← (readPem files tls.cert).mapError ("certificate: " ++ ·)
  let key ← (readPem files tls.key).mapError ("private key: " ++ ·)
  parsePem certificate key

variable [UrlReader]

/-- The names that a made-up certificate is for: the local ones and the issuer's host. -/
def certificateNames (issuer : String) : List String :=
  let localNames := ["localhost", "127.0.0.1"]
  match (UrlReader.read? issuer).bind (·.host) with
  | some host => if localNames.contains host then localNames else localNames ++ [host]
  | none => localNames

/-- The settings that certificates are for, and the certificates made up so far. -/
structure CertificateStore where
  settings : Settings
  generated : List (Interface × Material) := []
  deriving DecidableEq, Repr

namespace CertificateStore

def generated? (s : CertificateStore) (i : Interface) : Option Material :=
  (s.generated.find? (·.1 == i)).map (·.2)

def generatedEntry (i : Interface) (names : List String) : Log.Entry where
  level := .warn
  source := "serve_orchestrator::net::tls"
  message := "No TLS certificate configured, generating a self-signed certificate; " ++
    "do not use it in production"
  fields := [("interface", .shown i.name), ("names", .shown (quotedList names))]

def loadedEntry (i : Interface) (chain : List Bytes) : Log.Entry where
  level := .info
  source := "serve_orchestrator::net::tls"
  message := "Loaded TLS certificate"
  fields := [("interface", .shown i.name), ("certificates", .number chain.length)]

structure Answer where
  store : CertificateStore
  material : Except Serve.Failure Material
  entries : List Log.Entry := []

def selfSigned (s : CertificateStore) (i : Interface) : Answer :=
  match s.generated? i with
  | some material => ⟨s, .ok material, []⟩
  | none =>
    let material := Material.selfSigned s.generated.length
    ⟨{ s with generated := s.generated ++ [(i, material)] }, .ok material,
      [generatedEntry i (certificateNames s.settings.urls.selfIssuer)]⟩

def certificates (s : CertificateStore) (files : ReadFile) (i : Interface) : Answer :=
  let tls := s.settings.tls i
  if tls.hasMaterial then
    match loadMaterial files tls with
    | .error reason => ⟨s, .error (.tls i reason), []⟩
    | .ok (chain, key) => ⟨s, .ok (.loaded chain key), [loadedEntry i chain]⟩
  else s.selfSigned i

/-- With material to load, a certificate is that material or there is none. -/
theorem certificates_eq_of_hasMaterial (s : CertificateStore) {i : Interface}
    (h : (s.settings.tls i).hasMaterial = true) (files : ReadFile) :
    s.certificates files i =
      match loadMaterial files (s.settings.tls i) with
      | .error reason => ⟨s, .error (.tls i reason), []⟩
      | .ok (chain, key) => ⟨s, .ok (.loaded chain key), [loadedEntry i chain]⟩ :=
  if_pos h

end CertificateStore

def Material.checkContext (m : Material) (i : Interface) : Except Serve.Failure Unit :=
  match m with
  | selfSigned _ => .ok ()
  | loaded chain key => (Context.check chain key).mapError fun fault => .tls i fault.message

end DualServer.Tls
