import DualServer.Log.Event
import DualServer.Text.Blank
import DualServer.Text.Split

/-!
Log filters. A filter is a list of directives `target[span\x7bfield\x7d]=level`, the most specific
first; the first directive that applies to an event decides on it. A text that is no directive is
dropped from the settings, but makes the value of the environment variable unusable as a whole.
-/

namespace DualServer.Log

open DualServer.Text

/-- The most talkative level that is let through; none lets nothing through. -/
abbrev Threshold := Option Level

namespace Threshold

def name : Threshold → String
  | none => "off"
  | some level => lowerAscii level.name

def rank : Threshold → Nat
  | none => 0
  | some level => level.rank

def ofRank? : Nat → Option Threshold
  | 0 => some none
  | 1 => some (some .error)
  | 2 => some (some .warn)
  | 3 => some (some .info)
  | 4 => some (some .debug)
  | 5 => some (some .trace)
  | _ => none

/-- A natural number in decimal digits, perhaps after a plus sign. -/
def decimal? (cs : List Char) : Option Nat :=
  let ds := match cs with
    | '+' :: rest => rest
    | cs => cs
  if ds.isEmpty || !ds.all Char.isDigit then none
  else some (ds.foldl (fun n c => 10 * n + (c.toNat - 48)) 0)

/-- A threshold by number or by name; the empty text stands for errors. -/
def ofChars? (cs : List Char) : Option Threshold :=
  match decimal? cs with
  | some n => ofRank? n
  | none => match lowerAscii (String.ofList cs) with
    | "" => some (some .error)
    | "off" => some none
    | "error" => some (some .error)
    | "warn" => some (some .warn)
    | "info" => some (some .info)
    | "debug" => some (some .debug)
    | "trace" => some (some .trace)
    | _ => none

end Threshold

structure FieldMatch where
  name : String
  value : Option String := none
  deriving DecidableEq, Repr

namespace FieldMatch

/-- Name and value cut at the equals signs; what follows a second sign is dropped. -/
def ofChars (cs : List Char) : FieldMatch :=
  match splitAll '=' cs with
  | name :: value :: _ => ⟨String.ofList name, some (String.ofList value)⟩
  | _ => ⟨String.ofList cs, none⟩

def text (f : FieldMatch) : String :=
  match f.value with
  | some value => f.name ++ "=" ++ value
  | none => f.name

end FieldMatch

structure Directive where
  target : Option String := none
  span : Option String := none
  fields : List FieldMatch := []
  threshold : Threshold := some .trace
  deriving DecidableEq, Repr

namespace Directive

inductive Place
  | start
  | head (since : Nat)
  | span (since : Nat)
  | field (since : Nat)
  | afterFields
  | afterSpan
  | level (since : Nat)
  deriving DecidableEq, Repr

/-- Characters outside ASCII that are neither letters nor digits. -/
def isSymbol (n : Nat) : Bool :=
  (0x80 ≤ n && n ≤ 0xA9) || (0xAB ≤ n && n ≤ 0xB1) || n == 0xB4 || (0xB6 ≤ n && n ≤ 0xB8) ||
    n == 0xBB || n == 0xBF || n == 0xD7 || n == 0xF7 || (0x2000 ≤ n && n ≤ 0x206F) ||
    (0x20A0 ≤ n && n ≤ 0x20CF) || (0x2190 ≤ n && n ≤ 0x245F) || (0x2500 ≤ n && n ≤ 0x2775) ||
    (0x2794 ≤ n && n ≤ 0x2BFF) || (0x3000 ≤ n && n ≤ 0x3004) || (0x3008 ≤ n && n ≤ 0x3020) ||
    (0xD800 ≤ n && n ≤ 0xF8FF) || (0xFE00 ≤ n && n ≤ 0xFE6F) || (0x1F000 ≤ n && n ≤ 0x1F0FF) ||
    (0x1F200 ≤ n && n ≤ 0x1FBEF)

def isHead (c : Char) : Bool :=
  c.isAlphanum || "-:_".toList.contains c || (0x80 ≤ c.toNat && !isSymbol c.toNat)

def piece (text : List Char) (first last : Nat) : List Char := (text.drop first).take (last - first)

def step (text : List Char) (index : Nat) (c : Char) :
    Directive × Place → Option (Directive × Place)
  | (d, .start) =>
    if c = '[' then some (d, .span (index + 1))
    else if isHead c then some (d, .head index)
    else none
  | (d, .head since) =>
    let target := some (String.ofList (piece text since index))
    if c = '=' then some ({ d with target }, .level (index + 1))
    else if c = '[' then some ({ d with target }, .span (index + 1))
    else some (d, .head since)
  | (d, .span since) =>
    let name := String.ofList (piece text since index)
    if c = ']' then some ({ d with span := some name }, .afterSpan)
    else if c = '\x7b' then
      some ({ d with span := if name.isEmpty then none else some name }, .field (index + 1))
    else some (d, .span since)
  | (d, .field since) =>
    if c = '\x7d' then
      let field := piece text since index
      if field.isEmpty then none
      else some ({ d with fields := d.fields ++ [FieldMatch.ofChars field] }, .afterFields)
    else some (d, .field since)
  | (d, .afterFields) => if c = ']' then some (d, .afterSpan) else none
  | (d, .afterSpan) => if c = '=' then some (d, .level (index + 1)) else none
  | (d, .level since) => some (d, .level since)

def scan (text : List Char) : Nat → List Char → Directive × Place → Option (Directive × Place)
  | _, [], state => some state
  | index, c :: rest, state => (step text index c state).bind (scan text (index + 1) rest)

def finish (text : List Char) : Directive × Place → Option Directive
  | (d, .head since) =>
    match Threshold.ofChars? (text.drop since) with
    | some threshold => some { d with threshold, target := none }
    | none => some { d with target := some (String.ofList (text.drop since)) }
  | (d, .level since) =>
    let level := text.drop since
    if level.isEmpty then some d
    else (Threshold.ofChars? level).map fun threshold => { d with threshold }
  | (d, _) => some d

def ofChars? (text : List Char) : Option Directive :=
  (scan text 0 (trimBlankChars text) ({}, .start)).bind (finish text)

/-- Why a text is no directive: its level is none, or something else is wrong with it. -/
def problem (text : List Char) : String :=
  match scan text 0 (trimBlankChars text) ({}, .start) with
  | some (_, .level _) =>
    "error parsing level filter: expected one of \"off\", \"error\", \"warn\", \"info\", " ++
      "\"debug\", \"trace\", or a number 0-5"
  | _ => "invalid filter directive"

def isDynamic (d : Directive) : Bool := d.span.isSome || !d.fields.isEmpty

/-- Whether a directive can be decided without spans and values. -/
def isStatic (d : Directive) : Bool := d.span.isNone && d.fields.all (·.value.isNone)

def text (d : Directive) : String :=
  let fields := if d.fields.isEmpty then ""
    else "\x7b" ++ String.intercalate "," (d.fields.map FieldMatch.text) ++ "\x7d"
  let scope := if d.isDynamic then "[" ++ d.span.getD "" ++ fields ++ "]" else ""
  let front := d.target.getD "" ++ scope
  (if d.target.isSome || d.isDynamic then front ++ "=" else "") ++ d.threshold.name

def compareText : Option String → Option String → Ordering
  | none, none => .eq
  | none, some _ => .lt
  | some _, none => .gt
  | some a, some b => compare a b

/-- How specific a directive is, as a comparison: longer targets, then a span, then more fields,
then the later text. -/
def compareSpecific (a b : Directive) : Ordering :=
  let size (d : Directive) : Nat := match d.target with
    | none => 0
    | some target => target.utf8ByteSize + 1
  (compare (size a) (size b)).then <|
  (compare a.span.isSome.toNat b.span.isSome.toNat).then <|
  (compare a.fields.length b.fields.length).then <|
  (compareText a.target b.target).then <|
  (compareText a.span b.span).then
  (compare (a.fields.map FieldMatch.text) (b.fields.map FieldMatch.text))

/-- A directive put in its place, the more specific first; it replaces one like it. -/
def insert (d : Directive) : List Directive → List Directive
  | [] => [d]
  | e :: rest =>
    match compareSpecific d e with
    | .gt => d :: e :: rest
    | .eq => d :: rest
    | .lt => e :: insert d rest

/-- Whether a directive applies to events of a source, leaving fields and spans aside. -/
def covers (d : Directive) (source : String) : Bool :=
  d.fields.isEmpty && d.span.isNone && match d.target with
    | none => true
    | some target => (dropFront? target.toList source.toList).isSome

end Directive

/-- A filter: the directives that need no spans, those that do, and all thresholds ever given. -/
structure Filter where
  statics : List Directive := []
  dynamics : List Directive := []
  loudest : Nat := 0
  deriving DecidableEq, Repr

namespace Filter

def ofDirectives (ds : List Directive) : Filter where
  statics := ((ds.filter (!·.isDynamic)) ++ (ds.filter fun d => d.isDynamic && d.isStatic)).foldl
    (fun list d => Directive.insert d list) []
  dynamics := (ds.filter (·.isDynamic)).foldl (fun list d => Directive.insert d list) []
  loudest := ds.foldl (fun n d => max n d.threshold.rank) 0

def pieces (text : String) : List (List Char) := (splitAll ',' text.toList).filter (!·.isEmpty)

def parse? (text : String) : Option Filter :=
  ((pieces text).mapM Directive.ofChars?).map ofDirectives

/-- A filter from a text; pieces that are no directives are dropped, and where none is left,
errors pass. -/
def parseLeniently (text : String) : Filter :=
  match (pieces text).filterMap Directive.ofChars? with
  | [] => ofDirectives [{ threshold := some .error }]
  | ds => ofDirectives ds

def ofLevel (level : String) : String :=
  "serve_orchestrator=" ++ level ++ ",tower_http=" ++ level ++ "," ++ level

/-- The filter for a level in the settings, unless the environment has one that can be used. -/
def make (level : String) (environment : Option String) : Filter :=
  (environment.bind parse?).getD (parseLeniently (ofLevel level))

def complaints (level : String) (environment : Option String) : List String :=
  if (environment.bind parse?).isSome then []
  else ((pieces (ofLevel level)).filter fun piece => (Directive.ofChars? piece).isNone).map
    fun piece => "ignoring `" ++ String.ofList piece ++ "`: " ++ Directive.problem piece

def text (f : Filter) : String :=
  String.intercalate "," ((f.statics ++ f.dynamics).map Directive.text)

def maxLevel (f : Filter) : Threshold :=
  if f.dynamics.any (·.fields.any (·.value.isSome)) then some .trace
  else ((Threshold.ofRank? f.loudest).getD none)

def passes (f : Filter) (e : Entry) : Bool :=
  match f.statics.find? (·.covers e.source) with
  | none => false
  | some d => e.level.rank ≤ d.threshold.rank

end Filter

end DualServer.Log
