import DualServer.Net.Address.Text

/-!
The lexical parts of TOML: blanks and line ends, the four kinds of strings, keys, and numbers with
their dates. Every reader gives the value and the characters after it, or fails.
-/

namespace DualServer.Toml

open DualServer.Text (hexValue?)
open DualServer.Net (numberOf)

def isBlank (c : Char) : Bool := c = ' ' || c = '\t'

def skipBlanks (cs : List Char) : List Char := cs.dropWhile isBlank

/-- A character that may stand in a comment or in a literal string. -/
def isPlain (c : Char) : Bool := c = '\t' || (0x20 ≤ c.toNat && c.toNat ≠ 0x7F)

def lineEnd? : List Char → Option (List Char)
  | '\n' :: rest => some rest
  | '\r' :: '\n' :: rest => some rest
  | _ => none

def skipComment : List Char → List Char
  | '#' :: rest => rest.dropWhile isPlain
  | cs => cs

/-- What follows the rest of a line: blanks, a comment, and a line end unless the text ends. -/
def finishLine (cs : List Char) : Option (List Char) :=
  match skipComment (skipBlanks cs) with
  | [] => some []
  | rest => lineEnd? rest

def skipSpace (fuel : Nat) (cs : List Char) : List Char :=
  match fuel with
  | 0 => cs
  | fuel + 1 =>
    match skipBlanks cs with
    | '#' :: rest => skipSpace fuel (skipComment ('#' :: rest))
    | rest => match lineEnd? rest with
      | some rest => skipSpace fuel rest
      | none => rest

def hexCode? (n : Nat) (cs : List Char) : Option Nat :=
  let ds := cs.take n
  if ds.length = n then (ds.mapM hexValue?).map (numberOf 16) else none

def scalar? (code : Nat) : Option Char :=
  if code < 0xD800 || (0xDFFF < code && code ≤ 0x10FFFF) then some (Char.ofNat code) else none

/-- The character an escape stands for; the backslash has been read. -/
def escape? : List Char → Option (Char × List Char)
  | 'b' :: rest => some ('\x08', rest)
  | 't' :: rest => some ('\t', rest)
  | 'n' :: rest => some ('\n', rest)
  | 'f' :: rest => some ('\x0c', rest)
  | 'r' :: rest => some ('\r', rest)
  | '\x22' :: rest => some ('\x22', rest)
  | '\\' :: rest => some ('\\', rest)
  | 'u' :: rest => ((hexCode? 4 rest).bind scalar?).map fun c => (c, rest.drop 4)
  | 'U' :: rest => ((hexCode? 8 rest).bind scalar?).map fun c => (c, rest.drop 8)
  | _ => none

def basicString (fuel : Nat) (cs : List Char) : Option (List Char × List Char) :=
  match fuel, cs with
  | 0, _ => none
  | _, [] => none
  | _, '\x22' :: rest => some ([], rest)
  | fuel + 1, '\\' :: rest => do
    let (c, rest) ← escape? rest
    let (text, rest) ← basicString fuel rest
    return (c :: text, rest)
  | fuel + 1, c :: rest =>
    if isPlain c then (basicString fuel rest).map fun (text, rest) => (c :: text, rest) else none

def literalString (cs : List Char) : Option (List Char × List Char) :=
  let text := cs.takeWhile fun c => isPlain c && c ≠ '\x27'
  match cs.drop text.length with
  | '\x27' :: rest => some (text, rest)
  | _ => none

/-- The quotes that end a string of several lines: three, with up to two before them that belong to
the text. -/
def closingQuotes? (mark : Char) (cs : List Char) : Option (List Char × List Char) :=
  let run := (cs.takeWhile (· = mark)).length
  if run < 3 then none
  else some (List.replicate (min (run - 3) 2) mark, cs.drop (min run 5))

/-- What follows a backslash at the end of a line: all blanks and line ends. -/
def skipFold (fuel : Nat) (cs : List Char) : List Char :=
  match fuel with
  | 0 => cs
  | fuel + 1 =>
    match lineEnd? (skipBlanks cs) with
    | some rest => skipFold fuel rest
    | none => skipBlanks cs

/-- The rest of a string over several lines. With `escapes` a backslash starts an escape, or joins
lines if only blanks stand between it and the line end. -/
def longString (escapes : Bool) (mark : Char) (fuel : Nat) (cs : List Char) :
    Option (List Char × List Char) :=
  match fuel, cs with
  | 0, _ => none
  | _, [] => none
  | fuel + 1, c :: rest =>
    if c = mark then
      match closingQuotes? mark cs with
      | some closing => some closing
      | none => (longString escapes mark fuel rest).map fun (text, rest) => (c :: text, rest)
    else if escapes && c = '\\' then
      match lineEnd? (skipBlanks rest) with
      | some after => longString escapes mark fuel (skipFold fuel after)
      | none => do
        let (c, rest) ← escape? rest
        let (text, rest) ← longString escapes mark fuel rest
        return (c :: text, rest)
    else match lineEnd? cs with
      | some rest =>
        (longString escapes mark fuel rest).map fun (text, rest) => ('\n' :: text, rest)
      | none =>
        if isPlain c then
          (longString escapes mark fuel rest).map fun (text, rest) => (c :: text, rest)
        else none

/-- The characters after a line end, if one comes first. -/
def dropLineEnd (cs : List Char) : List Char := (lineEnd? cs).getD cs

def readString (cs : List Char) : Option (List Char × List Char) :=
  let fuel := cs.length + 1
  match cs with
  | '\x22' :: '\x22' :: '\x22' :: rest => longString true '\x22' fuel (dropLineEnd rest)
  | '\x27' :: '\x27' :: '\x27' :: rest => longString false '\x27' fuel (dropLineEnd rest)
  | '\x22' :: rest => basicString fuel rest
  | '\x27' :: rest => literalString rest
  | _ => none

def isKeyChar (c : Char) : Bool := c.isAlphanum || c = '-' || c = '_'

def readKeyPart (cs : List Char) : Option (String × List Char) :=
  match cs with
  | '\x22' :: rest =>
    (basicString (rest.length + 1) rest).map fun (text, rest) => (String.ofList text, rest)
  | '\x27' :: rest => (literalString rest).map fun (text, rest) => (String.ofList text, rest)
  | _ =>
    let text := cs.takeWhile isKeyChar
    if text.isEmpty then none else some (String.ofList text, cs.drop text.length)

def readKeyParts (fuel : Nat) (cs : List Char) : Option (List String × List Char) :=
  match fuel with
  | 0 => none
  | fuel + 1 => do
    let (part, rest) ← readKeyPart (skipBlanks cs)
    match skipBlanks rest with
    | '.' :: rest =>
      let (parts, rest) ← readKeyParts fuel rest
      return (part :: parts, rest)
    | rest => return ([part], rest)

def depthLimit : Nat := 79

/-- A dotted key: the parts before the last, the last, and what follows. -/
def readKey (cs : List Char) : Option (List String × String × List Char) := do
  let (parts, rest) ← readKeyParts (cs.length + 1) cs
  let key ← parts.getLast?
  if depthLimit < parts.length then none else some (parts.dropLast, key, rest)

def digitRun (test : Char → Bool) (fuel : Nat) (cs : List Char) :
    Option (List Char × List Char) :=
  match fuel, cs with
  | 0, _ => none
  | _, [] => none
  | fuel + 1, c :: rest =>
    if test c then
      match rest with
      | '_' :: rest => (digitRun test fuel rest).map fun (ds, rest) => (c :: ds, rest)
      | d :: _ =>
        if test d then (digitRun test fuel rest).map fun (ds, rest) => (c :: ds, rest)
        else some ([c], rest)
      | [] => some ([c], [])
    else none

def valueOf (base : Nat) (ds : List Char) : Nat := numberOf base (ds.filterMap hexValue?)

def fixedDigits (n low high : Nat) (cs : List Char) : Option (Nat × List Char) :=
  let ds := cs.take n
  let value := valueOf 10 ds
  if ds.length = n && ds.all Char.isDigit && low ≤ value && value ≤ high then
    some (value, cs.drop n)
  else none

def mark (c : Char) : List Char → Option (List Char)
  | d :: rest => if c = d then some rest else none
  | [] => none

def daysIn (year month : Nat) : Nat :=
  if month = 2 then
    if year % 4 = 0 && (year % 100 ≠ 0 || year % 400 = 0) then 29 else 28
  else if [4, 6, 9, 11].contains month then 30 else 31

def readTime (cs : List Char) : Option (List Char) := do
  let (_, cs) ← fixedDigits 2 0 23 cs
  let cs ← mark ':' cs
  let (_, cs) ← fixedDigits 2 0 59 cs
  let cs ← mark ':' cs
  let (_, cs) ← fixedDigits 2 0 60 cs
  match cs with
  | '.' :: rest =>
    let ds := rest.takeWhile Char.isDigit
    if ds.isEmpty then none else some (rest.drop ds.length)
  | cs => some cs

def readOffset (cs : List Char) : Option (List Char) :=
  let signed (rest : List Char) : Option (List Char) := do
    let (_, rest) ← fixedDigits 2 0 23 rest
    let rest ← mark ':' rest
    let (_, rest) ← fixedDigits 2 0 59 rest
    return rest
  match cs with
  | 'Z' :: rest => some rest
  | 'z' :: rest => some rest
  | '+' :: rest => signed rest
  | '-' :: rest => signed rest
  | cs => some cs

def readDate (cs : List Char) : Option (List Char) := do
  let (year, cs) ← fixedDigits 4 0 9999 cs
  let cs ← mark '-' cs
  let (month, cs) ← fixedDigits 2 1 12 cs
  let cs ← mark '-' cs
  let (_, cs) ← fixedDigits 2 1 (daysIn year month) cs
  match cs with
  | c :: rest =>
    if c = 'T' || c = 't' || (c = ' ' && rest.head?.any Char.isDigit) then
      (readTime rest).bind readOffset
    else some cs
  | [] => some []

/-- Whether a decimal number is at least as large as the point from which binary floating point
rounds to infinity. `digits` is the integer without its point, `scale` the power of ten it is
multiplied with. -/
def overflows (digits : Nat) (scale : Int) : Bool :=
  let size := (Nat.toDigits 10 digits).length + scale
  let bound := Nat.pow 2 1024 - Nat.pow 2 970
  if digits = 0 || size < 300 then false
  else if 320 < size then true
  else if 0 ≤ scale then bound ≤ digits * Nat.pow 10 scale.toNat
  else bound * Nat.pow 10 (-scale).toNat ≤ digits

def readExponent (cs : List Char) : Option (Int × List Char) :=
  let (negative, cs) := match cs with
    | '+' :: rest => (false, rest)
    | '-' :: rest => (true, rest)
    | cs => (false, cs)
  (digitRun Char.isDigit (cs.length + 1) cs).map fun (ds, rest) =>
    let n := valueOf 10 ds
    (if negative then -(n : Int) else n, rest)

inductive Number
  | int (value : Int)
  | float
  | date
  deriving DecidableEq, Repr

def inRange (value : Int) : Bool := -9223372036854775808 ≤ value && value ≤ 9223372036854775807

/-- What follows the integer part of a number: nothing, a fraction, an exponent, or both. -/
def finishNumber (negative : Bool) (whole cs : List Char) : Option (Number × List Char) := do
  let (fraction, cs') ← match cs with
    | '.' :: rest => digitRun Char.isDigit (rest.length + 1) rest
    | _ => some ([], cs)
  let (exponent, rest) ← match cs' with
    | 'e' :: rest => (readExponent rest).map fun (e, rest) => (some e, rest)
    | 'E' :: rest => (readExponent rest).map fun (e, rest) => (some e, rest)
    | _ => some (none, cs')
  if fraction.isEmpty && exponent.isNone then
    let n : Int := valueOf 10 whole
    let value := if negative then -n else n
    if inRange value then some (.int value, rest) else none
  else if !negative &&
      overflows (valueOf 10 (whole ++ fraction)) (exponent.getD 0 - fraction.length) then
    none
  else some (.float, rest)

def basedNumber (base : Nat) (test : Char → Bool) (cs : List Char) :
    Option (Number × List Char) := do
  let (ds, rest) ← digitRun test (cs.length + 1) cs
  let n := valueOf base ds
  if inRange n then some (.int n, rest) else none

def decimalNumber (negative : Bool) (cs : List Char) : Option (Number × List Char) :=
  match cs with
  | 'i' :: 'n' :: 'f' :: rest => some (.float, rest)
  | 'n' :: 'a' :: 'n' :: rest => some (.float, rest)
  | '0' :: rest => finishNumber negative ['0'] rest
  | cs => do
    let (whole, rest) ← digitRun Char.isDigit (cs.length + 1) cs
    finishNumber negative whole rest

def readNumber (cs : List Char) : Option (Number × List Char) :=
  let lead := (cs.takeWhile Char.isDigit).length
  match cs, cs.drop lead with
  | '+' :: rest, _ => decimalNumber false rest
  | '-' :: rest, _ => decimalNumber true rest
  | '0' :: 'x' :: rest, _ => basedNumber 16 (fun c => (hexValue? c).isSome) rest
  | '0' :: 'o' :: rest, _ => basedNumber 8 (fun c => '0' ≤ c && c ≤ '7') rest
  | '0' :: 'b' :: rest, _ => basedNumber 2 (fun c => c = '0' || c = '1') rest
  | _, '-' :: _ =>
    if lead = 4 then (readDate cs).map fun rest => (.date, rest) else decimalNumber false cs
  | _, ':' :: _ =>
    if lead = 2 then (readTime cs).map fun rest => (.date, rest) else decimalNumber false cs
  | _, _ => decimalNumber false cs

end DualServer.Toml
