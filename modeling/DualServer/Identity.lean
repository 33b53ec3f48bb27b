import DualServer.Basic
import DualServer.Config.Settings
import DualServer.Log.Event
import DualServer.Text.Bytes
import DualServer.Text.Sha256

/-!
How an installation is told apart from others: by a digest of its issuer and its data source.
-/

namespace DualServer

open DualServer.Config DualServer.Text

/-- The digest of issuer and data source, with a bar between them, in hexadecimal. -/
def clusterId (issuer dsn : String) : String := hex (Sha256.digest (utf8 (issuer ++ "|" ++ dsn)))

def occursIn (part : List Char) : List Char → Bool
  | [] => part.isEmpty
  | c :: rest => (dropFront? part (c :: rest)).isSome || occursIn part rest

structure Identity where
  service : String
  cluster : String
  isDevelopment : Bool
  build : Build
  deriving DecidableEq, Repr

namespace Identity

/-- The identity under some settings. An installation that stores nothing, or has no public
address, counts as one for development. -/
def ofSettings (s : Settings) (build : Build) : Identity where
  service := "serve-orchestrator"
  cluster := clusterId s.urls.selfIssuer s.dsn
  isDevelopment := s.isMemory || s.urls.selfIssuer.isEmpty ||
    occursIn "localhost".toList s.urls.selfIssuer.toList
  build

def entry (i : Identity) : Log.Entry where
  level := .info
  source := "serve_orchestrator::lifecycle::startup"
  message := "Analytics identity"
  fields := [("service", .literal i.service), ("cluster_id", .shown i.cluster),
    ("is_development", .flag i.isDevelopment), ("build_version", .shown i.build.version),
    ("build_hash", .shown i.build.commit), ("build_time", .shown i.build.date)]

end Identity

end DualServer
