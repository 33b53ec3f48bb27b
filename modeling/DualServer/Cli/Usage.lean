import DualServer.Basic

/-!
The texts of the command line: the commands with their arguments, help, and usage lines.
-/

namespace DualServer.Cli

def programName : String := "serve-orchestrator"

inductive Command
  | root
  | serve
  | help
  deriving DecidableEq, Repr

inductive Argument
  | interfaces
  | config
  | tunnelMode
  | help
  | version
  deriving DecidableEq, Repr

namespace Argument

def shown : Argument → String
  | interfaces => "<INTERFACES>"
  | config => "--config <CONFIG>"
  | tunnelMode => "--tunnel-mode"
  | help => "--help"
  | version => "--version"

def long : Argument → String
  | interfaces => ""
  | config => "config"
  | tunnelMode => "tunnel-mode"
  | help => "help"
  | version => "version"

def values : Argument → List String
  | interfaces => ["all", "admin", "public"]
  | _ => []

end Argument

namespace Command

def name : Command → String
  | root => programName
  | serve => programName ++ " serve"
  | help => programName ++ " help"

def shape : Command → String
  | root => " <COMMAND>"
  | serve => " [OPTIONS] <INTERFACES>"
  | help => " [COMMAND]..."

def options : Command → List Argument
  | root => [.help, .version]
  | serve => [.config, .tunnelMode, .help]
  | help => []

/-- The usage of a command; where arguments have been given, it repeats them. -/
def usage (c : Command) (used : List Argument) : String :=
  "Usage: " ++ c.name ++
    if used.isEmpty then c.shape
    else
      String.join ((used.filter (· ≠ .interfaces)).map fun a => " " ++ a.shown) ++
        (match c with
          | root => " <COMMAND>"
          | serve => " <INTERFACES>"
          | help => "")

def helpText : Command → String
  | root =>
    "Serve the admin and public HTTP interfaces\n\n" ++ root.usage [] ++ "\n\n" ++
      "Commands:\n" ++
      "  serve  Start serving one or both interfaces\n" ++
      "  help   Print this message or the help of the given subcommand(s)\n\n" ++
      "Options:\n" ++
      "  -h, --help     Print help\n" ++
      "  -V, --version  Print version\n"
  | serve =>
    "Start serving one or both interfaces\n\n" ++ serve.usage [] ++ "\n\n" ++
      "Arguments:\n" ++
      "  <INTERFACES>  Interfaces to serve [possible values: all, admin, public]\n\n" ++
      "Options:\n" ++
      "  -c, --config <CONFIG>  Path to the TOML configuration file\n" ++
      "      --tunnel-mode      Expose the admin interface over the overlay tunnel named by " ++
      "TUNNEL_SERVICE\n" ++
      "  -h, --help             Print help\n"
  | help =>
    "Print this message or the help of the given subcommand(s)\n\n" ++ help.usage [] ++ "\n\n" ++
      "Arguments:\n" ++
      "  [COMMAND]...  Print help for the subcommand(s)\n"

end Command

def versionText : String := programName ++ " " ++ ({} : Build).version ++ "\n"

end DualServer.Cli
