import DualServer.Cli.Program

/-!
The program at its terminal: the files it asks for are looked up, what it says is printed, and the
end of its standard input tells it to end.
-/

namespace DualServer.Cli

open DualServer.Transport

/-- What an open file holds. A directory can be opened but not read. -/
def holdings (handle : IO.FS.Handle) : IO FileEntry := do
  try
    return .file (← handle.readBinToEnd).toList
  catch _ =>
    return .directory

def lookUp (path : String) : IO (Option FileEntry) := do
  try
    return some (← holdings (← IO.FS.Handle.mk path .read))
  catch _ =>
    return none

def pathOf : Place → String
  | "/" :: parts => "/" ++ String.intercalate "/" parts
  | parts => String.intercalate "/" parts

/-- The file system with what is found at a path and on the way to it. -/
def withPath (files : FileSystem) (path : String) : IO FileSystem := do
  let mut files := files
  for place in Place.passed path ++ [.ofPath path] do
    if let some entry ← lookUp (pathOf place) then
      files := files.put place entry
  return files

/-- The files that matter for a command line: first the settings, then what they name. -/
def filesFor (line : List String) : IO FileSystem := do
  let files ← (Program.pathsUsed {} line).foldlM withPath {}
  (Program.pathsUsed files line).foldlM withPath files

def awaitEnd (input : IO.FS.Stream) : IO Unit := do
  repeat
    if (← input.getLine).isEmpty then
      break

end DualServer.Cli

open DualServer.Cli

def main (line : List String) : IO UInt32 := do
  let env : Environment := {
    logFilter := ← IO.getEnv "RUST_LOG"
    tunnelService := ← IO.getEnv "TUNNEL_SERVICE"
    system := { files := ← filesFor line } }
  match Program.start env line with
  | .error output =>
    IO.print output.out
    IO.eprint output.err
    return output.code.toUInt32
  | .ok program =>
    program.complaints.forM IO.eprintln
    program.lines.forM IO.println
    let shown := program.lines.length
    let mut program := program
    if program.isServing then
      (← IO.getStdout).flush
      awaitEnd (← IO.getStdin)
      program := program.signal "SIGTERM"
    let (ended, code) := program.finish
    (ended.lines.drop shown).forM IO.println
    return code.toUInt32
