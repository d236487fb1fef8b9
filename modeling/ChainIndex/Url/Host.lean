import ChainIndex.Text.Split
import ChainIndex.Url.Name
import ChainIndex.Url.Percent

/-!
# Hosts

A host is a domain name, an address of thirty-two bits, or one of a hundred and twenty-eight. A name
whose last label is a number has to be an address.
-/

namespace ChainIndex.Url

inductive Error where
  | emptyHost | domainName | port | ipv4 | ipv6 | hostCharacter | noScheme
  deriving DecidableEq, Repr

def Error.message : Error → String
  | .emptyHost => "empty host"
  | .domainName => "invalid international domain name"
  | .port => "invalid port number"
  | .ipv4 => "invalid IPv4 address"
  | .ipv6 => "invalid IPv6 address"
  | .hostCharacter => "invalid domain character"
  | .noScheme => "relative URL without a base"

inductive Host where
  | domain (name : String)
  | ipv4 (n : Nat)
  | ipv6 (pieces : List Nat)
  deriving DecidableEq, Repr

/-! ## Thirty-two bits -/

def digitIn? (radix : Nat) (c : Char) : Option Nat := (hexValue? c).filter (· < radix)

/-- A number to a radix; `none` if a character is no digit. -/
def numberIn? (radix : Nat) (cs : List Char) : Option Nat :=
  cs.foldl (fun n c => do (← n) * radix + (← digitIn? radix c)) (some 0)

/-- A part of an address: decimal, or hexadecimal or octal by its beginning. -/
def ipv4Part? : List Char → Option Nat
  | [] => none
  | '0' :: 'x' :: rest | '0' :: 'X' :: rest => numberIn? 16 rest
  | '0' :: c :: rest => numberIn? 8 (c :: rest)
  | cs => numberIn? 10 cs

/-- The labels of a name, without an empty one at the end. -/
def labels (name : List Char) : List (List Char) :=
  let all := Text.splitOn '.' name
  if all.getLast? = some [] then all.dropLast else all

def endsInNumber (name : List Char) : Bool :=
  match (labels name).getLast? with
  | none => false
  | some last => (last ≠ [] && last.all Char.isDigit) || (ipv4Part? last).isSome

/-- An address from its parts: all but the last stand for a byte, and the last for the rest. -/
def ipv4OfParts (parts : List Nat) : Except Error Host :=
  let bytes := parts.dropLast
  let last := parts.getLast?.getD 0
  if 4 < parts.length ∨ bytes.any (255 < ·) ∨ Nat.pow 256 (4 - bytes.length) ≤ last then
    .error .ipv4
  else
    .ok (.ipv4 (last + bytes.zipIdx.foldl (fun n (b, i) => n + b * Nat.pow 256 (3 - i)) 0))

def parseIpv4 (name : List Char) : Except Error Host :=
  match (labels name).mapM ipv4Part? with
  | none => .error .ipv4
  | some parts => ipv4OfParts parts

/-! ## A hundred and twenty-eight bits -/

/-- A piece of up to four hexadecimal digits. -/
def ipv6Piece? (cs : List Char) : Option Nat :=
  if cs = [] ∨ 4 < cs.length then none else numberIn? 16 cs

/-- A byte in decimal, without a zero in front. -/
def decimalByte? (cs : List Char) : Option Nat :=
  if cs = [] ∨ (cs.head? = some '0' ∧ cs.length ≠ 1) then none
  else (numberIn? 10 cs).filter (· ≤ 255)

/-- Two pieces from an address of thirty-two bits with all its four parts. -/
def embedded? (cs : List Char) : Option (List Nat) := do
  match ← (Text.splitOn '.' cs).mapM decimalByte? with
  | [a, b, c, d] => some [a * 256 + b, c * 256 + d]
  | _ => none

/-- Pieces with colons between them; the last may be an embedded address. -/
def ipv6Pieces? (cs : List Char) : Option (List Nat) :=
  if cs = [] then some []
  else do
    let parts := Text.splitOn ':' cs
    let front ← parts.dropLast.mapM ipv6Piece?
    let last := parts.getLast?.getD []
    let back ← if last.contains '.' then embedded? last else (ipv6Piece? last).map ([·])
    some (front ++ back)

/-- Cuts at the first two colons in a row. -/
def cutAtGap : List Char → Option (List Char × List Char)
  | ':' :: ':' :: rest => some ([], rest)
  | c :: rest => (cutAtGap rest).map fun (front, back) => (c :: front, back)
  | [] => none

def parseIpv6 (cs : List Char) : Except Error Host :=
  let pieces? :=
    match cutAtGap cs with
    | none => (ipv6Pieces? cs).filter (·.length = 8)
    | some (front, back) => do
      let front ← if front.contains '.' then none else ipv6Pieces? front
      let back ← ipv6Pieces? back
      if 7 < front.length + back.length then none
      else some (front ++ List.replicate (8 - front.length - back.length) 0 ++ back)
  match pieces? with
  | some pieces => .ok (.ipv6 pieces)
  | none => .error .ipv6

/-! ## Names -/

/-- Characters that no host has. -/
def forbiddenInHost (c : Char) : Bool := c.toNat = 0 || "\t\n\r #/:<>?@[\\]^|".contains c

def parseName (cs : List Char) : Except Error Host :=
  match (String.fromUTF8? ⟨(percentDecode cs).toArray⟩).bind (nameInAscii ·.toList) with
  | none => .error .domainName
  | some [] => .error .emptyHost
  | some name => if endsInNumber name then parseIpv4 name else .ok (.domain (String.ofList name))

/-- The host of a URL of one of the special schemes. -/
def Host.parse (cs : List Char) : Except Error Host :=
  match cs with
  | '[' :: rest => if rest.getLast? = some ']' then parseIpv6 rest.dropLast else .error .ipv6
  | cs => parseName cs

/-- The host of any other URL. -/
def Host.parseOpaque (cs : List Char) : Except Error Host :=
  match cs with
  | '[' :: rest => if rest.getLast? = some ']' then parseIpv6 rest.dropLast else .error .ipv6
  | cs => if cs.any forbiddenInHost then .error .hostCharacter else .ok (.domain (encodeIn .verbatim cs))

/-! ## Writing -/

def hexPiece (n : Nat) : String := String.ofList (Nat.toDigits 16 n)

/-- The longest run of zeros among pieces, by its place and length; the first of several. -/
def longestZeros (pieces : List Nat) : Nat × Nat :=
  let (_, _, best) := pieces.foldl
    (fun (i, length, best) p =>
      let length := if p = 0 then length + 1 else 0
      (i + 1, length, if (best : Nat × Nat).2 < length then (i + 1 - length, length) else best))
    (0, 0, ((0, 0) : Nat × Nat))
  best

def joinPieces (pieces : List Nat) : String := String.intercalate ":" (pieces.map hexPiece)

def Host.toString : Host → String
  | .domain name => name
  | .ipv4 n =>
    String.intercalate "." ([n / 16777216, n / 65536 % 256, n / 256 % 256, n % 256].map fun b => s!"{b}")
  | .ipv6 pieces =>
    let (at_, length) := longestZeros pieces
    if length < 2 then "[" ++ joinPieces pieces ++ "]"
    else "[" ++ joinPieces (pieces.take at_) ++ "::" ++ joinPieces (pieces.drop (at_ + length)) ++ "]"

end ChainIndex.Url
