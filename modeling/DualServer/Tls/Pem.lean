import DualServer.Text.Base64
import DualServer.Text.Quoted

/-!
PEM: labelled sections of base64 text between other lines. Sections with an unknown label are
passed over without a look at their content. Inside a section blanks may stand anywhere, padding
may be left out, and spare bits do not matter.
-/

namespace DualServer.Tls.Pem

open DualServer.Text

inductive Fault
  | illegalStart (line : Bytes)
  | missingEnd (label : Bytes)
  | character (byte : UInt8)
  | earlyPadding
  | trailingPadding
  deriving DecidableEq, Repr

def Fault.message : Fault → String
  | illegalStart line => "illegal section start: " ++ quoted (decodeLossy line)
  | missingEnd label => "section end " ++ quoted (decodeLossy label) ++ " missing"
  | character byte => "InvalidCharacter(" ++ toString byte.toNat ++ ")"
  | earlyPadding => "PrematurePadding"
  | trailingPadding => "InvalidTrailingPadding"

/-- The lines of a text, each with its end; every line feed and carriage return ends one. -/
def lines : Bytes → List Bytes
  | [] => []
  | b :: rest =>
    if b = 10 || b = 13 then [b] :: lines rest
    else match lines rest with
      | [] => [[b]]
      | line :: more => (b :: line) :: more

def isGap (b : UInt8) : Bool := (9 ≤ b && b ≤ 13) || b = 32

/-- The symbols of the group of eight that is being filled; padding has no value. -/
abbrev Block := List (Option Nat)

def blockBytes (count : Nat) (symbols : Block) : Bytes :=
  match symbols.map (·.getD 0) ++ [0, 0, 0, 0] with
  | a :: b :: c :: d :: _ => (Base64.threeBytes a b c d).take count
  | _ => []

def finishQuad (symbols : Block) : Except Fault Bytes :=
  match symbols.map (·.isSome) with
  | [] => .ok []
  | [true, true, true, true] => .ok (blockBytes 3 symbols)
  | [true, true, true, false] => .ok (blockBytes 2 symbols)
  | [true, true, true] => .ok (blockBytes 2 symbols)
  | [true, true, false, false] => .ok (blockBytes 1 symbols)
  | [true, true] => .ok (blockBytes 1 symbols)
  | _ => .error .trailingPadding

def finishBlock (block : Block) : Except Fault Bytes :=
  if 4 < block.length then
    if (block.take 4).any (·.isNone) then .error .earlyPadding
    else (finishQuad (block.drop 4)).map (blockBytes 3 (block.take 4) ++ ·)
  else finishQuad block

def symbol? (b : UInt8) : Option (Option Nat) :=
  if b = Base64.pad then some none else (Base64.value? b).map some

def decodeFrom (block : Block) : Bytes → Except Fault Bytes
  | [] => finishBlock block
  | b :: rest =>
    if isGap b then decodeFrom block rest
    else match symbol? b with
      | none => .error (.character b)
      | some symbol =>
        if block.length = 8 then
          if block.any (·.isNone) then .error .earlyPadding
          else (decodeFrom [symbol] rest).map
            ((blockBytes 3 (block.take 4) ++ blockBytes 3 (block.drop 4)) ++ ·)
        else decodeFrom (block ++ [symbol]) rest

def decode (content : Bytes) : Except Fault Bytes := decodeFrom [] content

inductive Kind
  | certificate
  | privateKey
  | other
  deriving DecidableEq, Repr

def Kind.ofLabel? (label : Bytes) : Option Kind :=
  if label = utf8 "CERTIFICATE" then some .certificate
  else if ["RSA PRIVATE KEY", "PRIVATE KEY", "EC PRIVATE KEY"].any (utf8 · = label) then
    some .privateKey
  else if ["PUBLIC KEY", "X509 CRL", "CERTIFICATE REQUEST"].any (utf8 · = label) then some .other
  else none

structure Item where
  kind : Kind
  content : Bytes
  deriving DecidableEq, Repr

def afterFront? (front line : Bytes) : Option Bytes :=
  if front.isPrefixOf line then some (line.drop front.length) else none

/-- The number of dashes at the end of a line and what stands before them; line ends and spaces
between and after them do not count. -/
def trailingDashes : Bytes → Nat × Bytes
  | [] => (0, [])
  | b :: rest =>
    let (dashes, before) := trailingDashes rest
    if b = 45 then (dashes + 1, before)
    else if (b = 10 || b = 13 || b = 32) && dashes ≠ 0 then (dashes, before)
    else (0, b :: rest)

/-- The label of a line that starts a section: `none` for any other line. -/
def start? (line : Bytes) : Option (Except Fault Bytes) :=
  (afterFront? (utf8 "-----BEGIN ") line).map fun rest =>
    let (dashes, label) := trailingDashes rest.reverse
    if dashes = 5 then .ok label.reverse else .error (.illegalStart line)

def endsSection (label line : Bytes) : Bool :=
  (afterFront? (utf8 "-----END " ++ label ++ utf8 "-----") line).isSome

/-- The state of a reader: the label and the text of the open section. -/
abbrev Open := Option (Bytes × Bytes)

def itemsFrom (pending : Open) : List Bytes → List (Except Fault Item)
  | [] => match pending with
    | none => []
    | some (label, _) => [.error (.missingEnd label)]
  | line :: rest =>
    match start? line with
    | some (.error fault) => [.error fault]
    | some (.ok label) => itemsFrom (some (label, (pending.map (·.2)).getD [])) rest
    | none => match pending with
      | none => itemsFrom none rest
      | some (label, content) =>
        if endsSection label line then
          match Kind.ofLabel? label with
          | none => itemsFrom none rest
          | some kind => match decode content with
            | .error fault => [.error fault]
            | .ok bytes => .ok ⟨kind, bytes⟩ :: itemsFrom none rest
        else itemsFrom (some (label, content ++ line)) rest

def items (text : Bytes) : List (Except Fault Item) := itemsFrom none (lines text)

/-- All certificates of a text; a fault anywhere makes it unusable. -/
def certificates (text : Bytes) : Except Fault (List Bytes) :=
  ((items text).mapM id).map fun found =>
    (found.filter (·.kind = .certificate)).map (·.content)

/-- The first private key of a text; what follows it is not looked at. -/
def privateKey? (text : Bytes) : Except Fault (Option Bytes) :=
  firstKey (items text)
where
  firstKey : List (Except Fault Item) → Except Fault (Option Bytes)
    | [] => .ok none
    | .error fault :: _ => .error fault
    | .ok item :: rest => if item.kind = .privateKey then .ok (some item.content) else firstKey rest

end DualServer.Tls.Pem
