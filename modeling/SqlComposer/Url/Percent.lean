/-
  SqlComposer.Url.Percent — bytes written as a percent sign and two hexadecimal digits.

  Encoding writes every byte of a character beyond ASCII, and every ASCII character of
  a given set, in this way. Decoding reads it back wherever two hexadecimal digits
  follow a percent sign and leaves everything else as it stands.
-/

import SqlComposer.Text.Utf8

namespace SqlComposer.Url

namespace Percent

/-! ## Sets of characters that are encoded -/

/-- The ASCII controls. -/
def isControl (c : Char) : Bool := c.toNat < 0x20 || c.toNat == 0x7F

def inQuery (c : Char) : Bool := isControl c || c == ' ' || c == '"' || c == '#' || c == '<' || c == '>'

def inPath (c : Char) : Bool :=
  inQuery c || c == '\x60' || c == '?' || c == '^' || c == '\x7b' || c == '\x7d'

def inUserinfo (c : Char) : Bool :=
  inPath c || c == '/' || c == ':' || c == ';' || c == '=' || c == '@' || c == '[' || c == '\\' ||
    c == ']' || c == '|'

/-! ## Encoding -/

def upperHex (n : Nat) : Char := (Nat.digitChar n).toUpper

def encodeByte (b : UInt8) : List Char := ['%', upperHex (b.toNat / 16), upperHex (b.toNat % 16)]

def encodeChar (set : Char → Bool) (c : Char) : List Char :=
  if 0x80 ≤ c.toNat || set c then (Utf8.encodeChar c).flatMap encodeByte else [c]

def encode (set : Char → Bool) (cs : List Char) : List Char := cs.flatMap (encodeChar set)

/-! ## Decoding -/

def hexValue? (b : UInt8) : Option UInt8 :=
  if 0x30 ≤ b && b ≤ 0x39 then some (b - 0x30)
  else if 0x41 ≤ b && b ≤ 0x46 then some (b - 0x41 + 10)
  else if 0x61 ≤ b && b ≤ 0x66 then some (b - 0x61 + 10)
  else none

def decodeBytes : List UInt8 → List UInt8
  | [] => []
  | [b] => [b]
  | [b, c] => [b, c]
  | b :: high :: low :: rest =>
    match b == 0x25, hexValue? high, hexValue? low with
    | true, some h, some l => (h * 16 + l) :: decodeBytes rest
    | _, _, _ => b :: decodeBytes (high :: low :: rest)

end Percent

end SqlComposer.Url
