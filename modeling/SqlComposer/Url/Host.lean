/-
  SqlComposer.Url.Host — hosts: IPv6 addresses in brackets, opaque names, and the
  domains and IPv4 addresses of the web's own schemes.
-/

import SqlComposer.Domain.Name
import SqlComposer.Text.Blank
import SqlComposer.Url.Fault
import SqlComposer.Url.Percent

namespace SqlComposer.Url

namespace Host

def isHexDigit (c : Char) : Bool := c.isDigit || ('a' ≤ c && c ≤ 'f') || ('A' ≤ c && c ≤ 'F')

def hexValue (c : Char) : Nat :=
  if c.isDigit then c.toNat - '0'.toNat else c.toLower.toNat - 'a'.toNat + 10

def ofHex (cs : List Char) : Nat := cs.foldl (fun n c => n * 16 + hexValue c) 0

def ofDigits (base : Nat) (cs : List Char) : Nat := cs.foldl (fun n c => n * base + hexValue c) 0

/-! ## IPv6 -/

/-- One to four hexadecimal digits. -/
def hexPiece (cs : List Char) : Option Nat :=
  if cs.isEmpty || 4 < cs.length || !cs.all isHexDigit then none else some (ofHex cs)

/-- A decimal number up to 255 without leading zeros. -/
def octet (cs : List Char) : Option Nat :=
  if cs.isEmpty || 3 < cs.length || !cs.all Char.isDigit || (1 < cs.length && cs.head? == some '0') then none
  else if 255 < ofDigits 10 cs then none
  else some (ofDigits 10 cs)

/-- Four numbers between dots, as two pieces. -/
def dotted (cs : List Char) : Option (List Nat) :=
  match Chars.splitOn (· == '.') cs with
  | [a, b, c, d] => do
    return [(← octet a) * 256 + (← octet b), (← octet c) * 256 + (← octet d)]
  | _ => none

/-- Pieces between colons; where `atEnd` holds, the last one may be dotted. -/
def pieces (atEnd : Bool) : List (List Char) → Option (List Nat)
  | [] => some []
  | [last] => if atEnd && last.contains '.' then dotted last else (hexPiece last).map ([·])
  | piece :: rest => do
    let p ← hexPiece piece
    let ps ← pieces atEnd rest
    return p :: ps

def side (atEnd : Bool) (cs : List Char) : Option (List Nat) :=
  if cs.isEmpty then some [] else pieces atEnd (Chars.splitOn (· == ':') cs)

/-- The text before and after the first two colons in a row. -/
def splitGap : List Char → Option (List Char × List Char)
  | ':' :: ':' :: rest => some ([], rest)
  | c :: rest => (splitGap rest).map fun (before, after) => (c :: before, after)
  | [] => none

/-- Eight pieces; two colons in a row stand for as many zeros as are missing, at least one. -/
def readIpv6 (cs : List Char) : Option (List Nat) :=
  match splitGap cs with
  | none => (side true cs).filter (·.length == 8)
  | some (before, after) => do
    let left ← side false before
    let right ← side true after
    if 7 < left.length + right.length then none
    else return left ++ List.replicate (8 - left.length - right.length) 0 ++ right

/-- The position and length of the first longest run of at least two zeros. -/
def longestGap (ps : List Nat) : Option (Nat × Nat) :=
  let runs := (List.range ps.length).map fun i => (i, ((ps.drop i).takeWhile (· == 0)).length)
  let best := runs.foldl (fun best run => if best.2 < run.2 then run else best) (0, 1)
  if best.2 < 2 then none else some best

def hexText (ps : List Nat) : String := Text.join ":" (ps.map fun p => String.ofList (Nat.toDigits 16 p))

/-- The address in brackets, its longest run of zeros left out. -/
def ipv6Text (ps : List Nat) : String :=
  let text := match longestGap ps with
    | none => hexText ps
    | some (start, size) => hexText (ps.take start) ++ "::" ++ hexText (ps.drop (start + size))
  "[" ++ text ++ "]"

def bracketed (cs : List Char) : Except Fault String :=
  match cs.getLast? with
  | some ']' =>
    match readIpv6 cs.dropLast with
    | some ps => .ok (ipv6Text ps)
    | none => .error .badIpv6
  | _ => .error .badIpv6

/-! ## Opaque hosts -/

/-- The characters no host holds. -/
def isForbidden (c : Char) : Bool := "\x00\t\n\r #/:<>?@[\\]^|".toList.contains c

def readOpaque : List Char → Except Fault String
  | '[' :: rest => bracketed rest
  | cs =>
    if cs.any isForbidden then .error .badDomainCharacter
    else .ok (String.ofList (Percent.encode Percent.isControl cs))

/-! ## Domains -/

/-- A part of an IPv4 address: decimal, octal behind a zero, or hexadecimal behind 0x. -/
def ipv4Number (cs : List Char) : Option Nat :=
  match cs with
  | [] => none
  | '0' :: 'x' :: ds | '0' :: 'X' :: ds => if ds.all isHexDigit then some (ofHex ds) else none
  | '0' :: d :: ds => if (d :: ds).all fun c => '0' ≤ c && c ≤ '7' then some (ofDigits 8 (d :: ds)) else none
  | ds => if ds.all Char.isDigit then some (ofDigits 10 ds) else none

/-- The labels of a domain, without the empty one behind a last dot. -/
def labels (cs : List Char) : List (List Char) :=
  let ls := Chars.splitOn (· == '.') cs
  if ls.getLast? == some [] && 1 < ls.length then ls.dropLast else ls

/-- Whether the last label is a number, so that the whole must be an IPv4 address. -/
def endsInNumber (cs : List Char) : Bool :=
  match (labels cs).getLast? with
  | none => false
  | some l =>
    (!l.isEmpty && l.all Char.isDigit) ||
      (match l with
        | '0' :: 'x' :: ds | '0' :: 'X' :: ds => ds.all isHexDigit
        | _ => false)

def isIpv4 (cs : List Char) : Bool :=
  let ls := labels cs
  match ls.mapM ipv4Number with
  | none => false
  | some ns =>
    ns.length ≤ 4 && ns.dropLast.all (· ≤ 255) && (ns.getLast?.getD 0) < Nat.pow 256 (5 - ns.length)

def readDomain : List Char → Except Fault String
  | '[' :: rest => bracketed rest
  | cs =>
    match Domain.toAscii (Utf8.decode (Percent.decodeBytes (Utf8.encode cs))) with
    | none => .error .badDomain
    | some domain =>
      if domain.isEmpty then .error .emptyHost
      else if endsInNumber domain && !isIpv4 domain then .error .badIpv4
      else .ok (String.ofList domain)

end Host

end SqlComposer.Url
