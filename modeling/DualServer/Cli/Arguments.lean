import DualServer.Cli.Usage
import DualServer.Lifecycle.Setup
import DualServer.Text.Similar
import DualServer.Text.Split

/-!
Reading the command line. An argument that has begun stays open until the next one, so its value is
checked only then; a later argument that is not known is reported before an open value that is
wrong.
-/

namespace DualServer.Cli

open DualServer.Text

inductive Refusal
  | unexpected (argument : String) (tips : List String) (usage : String)
  | unexpectedValue (value : String) (argument : Argument) (usage : String)
  | unknownCommand (name : String) (similar : List String) (command : Command)
  | invalidValue (value : String) (argument : Argument)
  | repeated (argument : Argument) (command : Command)
  | missing (usage : String)
  deriving DecidableEq, Repr

/-- How reading a command line ends without a command to run. -/
inductive Stop
  | help (command : Command)
  | helpForNothing
  | version
  | refusal (refusal : Refusal)
  deriving DecidableEq, Repr

structure Output where
  code : Nat
  out : String := ""
  err : String := ""
  deriving DecidableEq, Repr

def similarTip (kind : String) (words : List String) : String :=
  let listed := String.intercalate ", " (words.map fun w => "'" ++ w ++ "'")
  if words.length = 1 then "a similar " ++ kind ++ " exists: " ++ listed
  else "some similar " ++ kind ++ "s exist: " ++ listed

def tipLines (tips : List String) : String :=
  if tips.isEmpty then "" else "\n" ++ String.join (tips.map fun tip => "\n  tip: " ++ tip)

namespace Refusal

def hint : String := "\n\nFor more information, try '--help'.\n"

def message : Refusal → String
  | unexpected argument tips usage =>
    "error: unexpected argument '" ++ argument ++ "' found" ++ tipLines tips ++ "\n\n" ++ usage ++
      hint
  | unexpectedValue value argument usage =>
    "error: unexpected value '" ++ value ++ "' for '" ++ argument.shown ++
      "' found; no more were expected\n\n" ++ usage ++ hint
  | unknownCommand name similar command =>
    "error: unrecognized subcommand '" ++ name ++ "'" ++
      (if similar.isEmpty then "" else tipLines [similarTip "subcommand" similar]) ++
      "\n\n" ++ command.usage [] ++ (if command = .help then "\n" else hint)
  | invalidValue value argument =>
    let given :=
      if value.isEmpty then
        "error: a value is required for '" ++ argument.shown ++ "' but none was supplied"
      else "error: invalid value '" ++ value ++ "' for '" ++ argument.shown ++ "'"
    let allowed :=
      if argument.values.isEmpty then ""
      else "\n  [possible values: " ++ String.intercalate ", " argument.values ++ "]"
    let tips := ((similarWords value argument.values).getLast?.map fun word =>
      similarTip "value" [word]).toList
    given ++ allowed ++ tipLines tips ++ hint
  | repeated argument command =>
    "error: the argument '" ++ argument.shown ++ "' cannot be used multiple times\n\n" ++
      command.usage [] ++ hint
  | missing usage =>
    "error: the following required arguments were not provided:\n  " ++
      Argument.interfaces.shown ++ "\n\n" ++ usage ++ hint

end Refusal

/-- What is printed when reading ends without a command to run. -/
def Stop.output : Stop → Output
  | help command => { code := 0, out := command.helpText }
  | helpForNothing => { code := 2, err := Command.root.helpText }
  | version => { code := 0, out := versionText }
  | refusal r => { code := 2, err := r.message }

structure ServeArguments where
  mode : Lifecycle.ServeMode
  config : Option String := none
  tunnelMode : Bool := false
  deriving DecidableEq, Repr

/-- What has been read: arguments in the order of their first use, their values, and the argument
that is still open with its value, if it has one. -/
structure Reading where
  used : List Argument := []
  mode : Option Lifecycle.ServeMode := none
  config : Option String := none
  openArgument : Option (Argument × Option String) := none
  namedInterfaces : Bool := false
  onlyValues : Bool := false
  deriving DecidableEq, Repr

namespace Reading

def mode? : String → Option Lifecycle.ServeMode
  | "all" => some .all
  | "admin" => some (.only .admin)
  | "public" => some (.only .public)
  | _ => none

/-- The open argument is closed: it has to have a value, to be new, and its value has to fit. What
was read stays even when the value is refused. -/
def close (r : Reading) : Reading × Option Refusal :=
  match r.openArgument with
  | none => (r, none)
  | some (argument, given) =>
    let r := { r with openArgument := none }
    match given with
    | none => (r, some (.invalidValue "" argument))
    | some value =>
      if r.used.contains argument then
        ({ r with used := r.used.erase argument }, some (.repeated argument .serve))
      else
        let r := { r with used := r.used ++ [argument] }
        if argument = .interfaces then
          match mode? value with
          | some mode => ({ r with mode := some mode }, none)
          | none => (r, some (.invalidValue value argument))
        else if value.isEmpty then (r, some (.invalidValue "" argument))
        else ({ r with config := some value }, none)

def closed (r : Reading) : Except Stop Reading :=
  match r.close with
  | (r, none) => .ok r
  | (_, some refusal) => .error (.refusal refusal)

/-- The configuration option, with a value behind an equals sign or right behind its letter. -/
def takeConfig (r : Reading) (attached : Option String) : Except Stop Reading := do
  let r ← r.closed
  let r := { r with openArgument := some (.config, attached) }
  if attached.isSome then r.closed else return r

def takeTunnelMode (r : Reading) : Except Stop Reading := do
  let r ← r.closed
  if r.used.contains .tunnelMode then throw (.refusal (.repeated .tunnelMode .serve))
  return { r with used := r.used ++ [.tunnelMode] }

/-- The tip to put a mark before an argument that is meant as a value. -/
def asValueTip (argument : String) : String :=
  "to pass '" ++ argument ++ "' as a value, use '-- " ++ argument ++ "'"

def unknownLong (r : Reading) (name : String) : Refusal :=
  let used := r.close.1.used
  match (similarWords name (Command.serve.options.map (·.long))).getLast? with
  | some word =>
    let meant := Command.serve.options.filter fun a => a.long == word && !used.contains a
    .unexpected ("--" ++ name) [similarTip "argument" ["--" ++ word]]
      (Command.serve.usage (used ++ meant))
  | none => .unexpected ("--" ++ name) [asValueTip ("--" ++ name)] (Command.serve.usage used)

def takeLong (r : Reading) (name : String) (attached : Option String) : Except Stop Reading :=
  match name, attached with
  | "config", value => r.takeConfig value
  | "tunnel-mode", none => r.takeTunnelMode
  | "tunnel-mode", some value =>
    .error (.refusal (.unexpectedValue value .tunnelMode
      (Command.serve.usage (r.used.filter (· ≠ .interfaces) ++ [.tunnelMode]))))
  | "help", none => do
    let _ ← r.closed
    throw (.help .serve)
  | "help", some value =>
    .error (.refusal (.unexpectedValue value .help
      (Command.serve.usage (r.used.filter (· ≠ .interfaces) ++ [.help]))))
  | name, _ => .error (.refusal (r.unknownLong name))

/-- Short options behind one dash; what follows the letter of an option with a value is its
value. -/
def takeShort (r : Reading) : List Char → Except Stop Reading
  | 'c' :: [] => r.takeConfig none
  | 'c' :: '=' :: value => r.takeConfig (some (String.ofList value))
  | 'c' :: value => r.takeConfig (some (String.ofList value))
  | 'h' :: _ => do
    let _ ← r.closed
    throw (.help .serve)
  | c :: _ =>
    let argument := String.ofList ['-', c]
    .error (.refusal (.unexpected argument [asValueTip argument] (Command.serve.usage [])))
  | [] => .ok r

def takeValue (r : Reading) (value : String) : Except Stop Reading :=
  if r.namedInterfaces then .error (.refusal (.unexpected value [] (Command.serve.usage [])))
  else do
    let r ← r.closed
    return { r with openArgument := some (.interfaces, some value), namedInterfaces := true }

def take (r : Reading) (argument : String) : Except Stop Reading :=
  if r.onlyValues then r.takeValue argument
  else match argument.toList with
    | ['-', '-'] => .ok { r with onlyValues := true }
    | '-' :: '-' :: long =>
      match splitFirst '=' long with
      | some (name, value) => r.takeLong (String.ofList name) (some (String.ofList value))
      | none => r.takeLong (String.ofList long) none
    | '-' :: c :: short => r.takeShort (c :: short)
    | _ => match r.openArgument with
      | some (.config, none) => .ok { r with openArgument := some (.config, some argument) }
      | _ => r.takeValue argument

/-- All that was read, once the command line has ended. -/
def finish (r : Reading) : Except Stop ServeArguments := do
  let r ← r.closed
  match r.mode with
  | none => throw (.refusal (.missing (Command.serve.usage (r.used ++ [.interfaces]))))
  | some mode => return ⟨mode, r.config, r.used.contains .tunnelMode⟩

end Reading

def Command.inner? (c : Command) (name : String) : Option Command :=
  match c, name with
  | root, "serve" => some serve
  | root, "help" => some help
  | _, _ => none

def helpFor (c : Command) : List String → Stop
  | [] => .help c
  | name :: rest => match c.inner? name with
    | some inner => helpFor inner rest
    | none => .refusal (.unknownCommand name [] c)

/-- An option before any command that is not known. The serve command may have it, if it follows. -/
def unknownBeforeCommand (name : String) (rest : List String) : Refusal :=
  let argument := "--" ++ name
  match (similarWords name (Command.root.options.map (·.long))).getLast? with
  | some word =>
    .unexpected argument [similarTip "argument" ["--" ++ word]]
      (Command.root.usage (Command.root.options.filter (·.long == word)))
  | none =>
    let tips := match (similarWords name (Command.serve.options.map (·.long))).getLast? with
      | some word => if rest.contains "serve" then ["'serve --" ++ word ++ "' exists"] else []
      | none => []
    .unexpected argument tips (Command.root.usage [])

def notACommand (word : String) : Refusal :=
  .unknownCommand word (similarWords word ["serve", "help"]) .root

/-- A word where a command is expected, but none can come any more. -/
def afterMark (word : String) : Refusal :=
  if word == "serve" || word == "help" then
    .unexpected word
      ["subcommand '" ++ word ++ "' exists; to use it, remove the '--' before it"]
      (Command.root.usage [])
  else notACommand word

def parse : List String → Except Stop ServeArguments
  | [] => .error .helpForNothing
  | "serve" :: rest => rest.foldlM Reading.take {} >>= Reading.finish
  | "help" :: rest => .error (helpFor .root rest)
  | argument :: rest => .error <|
    match argument.toList with
    | ['-', '-'] => match rest with
      | [] => .helpForNothing
      | word :: _ => .refusal (afterMark word)
    | '-' :: '-' :: long =>
      let (name, value) := match splitFirst '=' long with
        | some (name, value) => (String.ofList name, some (String.ofList value))
        | none => (String.ofList long, none)
      match name, value with
      | "help", none => .help .root
      | "version", none => .version
      | "help", some value => .refusal (.unexpectedValue value .help (Command.root.usage [.help]))
      | "version", some value =>
        .refusal (.unexpectedValue value .version (Command.root.usage [.version]))
      | name, _ => .refusal (unknownBeforeCommand name rest)
    | '-' :: c :: _ =>
      if c = 'h' then .help .root
      else if c = 'V' then .version
      else .refusal (.unexpected (String.ofList ['-', c]) [] (Command.root.usage []))
    | _ => .refusal (notACommand argument)

end DualServer.Cli
