import DualServer.Basic
import DualServer.Config.Decode
import DualServer.Config.Validation
import DualServer.Text.Bytes
import DualServer.Toml.Parse

/-!
Settings from a file: its bytes have to be text, the text a TOML document of the right shape, and
the settings in it valid. The first of these that fails is the reason for refusal.
-/

namespace DualServer.Config

open DualServer.Text

inductive LoadError
  | file (fault : Fault)
  | syntaxOrType
  | invalid (problems : List Violation)
  deriving DecidableEq, Repr

/-- The wording of a refusal; the details of a syntax or type error are not part of it. -/
def LoadError.message : LoadError → String
  | file fault => "IO error: " ++ fault.message
  | syntaxOrType => "Parse error: not a document of settings"
  | invalid problems =>
    "Validation failed: " ++ String.intercalate ", " (problems.map Violation.text)

variable [UrlReader]

def check (s : Settings) : Except LoadError Settings :=
  match violations s with
  | [] => .ok s
  | problems => .error (.invalid problems)

def parse (text : String) : Except LoadError Settings :=
  match (Toml.parse? text).bind Settings.decode with
  | none => .error .syntaxOrType
  | some s => check s

abbrev FileContent := Except Fault Bytes

def load (content : FileContent) : Except LoadError Settings :=
  match content with
  | .error fault => .error (.file fault)
  | .ok bytes => match decode? bytes with
    | none => .error (.file .notText)
    | some text => parse text

end DualServer.Config
