/-
  SqlComposer.Text.Utf8 — bytes of a text, and texts of bytes that may not be UTF-8.

  Decoding never fails: wherever the bytes stop being UTF-8, the longest run that could
  still have begun a character, or else one byte, becomes a replacement character.
-/

namespace SqlComposer

namespace Utf8

def encodeChar (c : Char) : List UInt8 := String.utf8EncodeChar c

def encode (cs : List Char) : List UInt8 := cs.flatMap encodeChar

def replacement : Char := '\ufffd'

def isContinuation (b : UInt8) : Bool := 0x80 ≤ b && b ≤ 0xBF

/-- The second bytes a leading byte of three admits; none when it leads no three bytes. -/
def secondOfThree (b : UInt8) : Option (UInt8 × UInt8) :=
  if b == 0xE0 then some (0xA0, 0xBF)
  else if b == 0xED then some (0x80, 0x9F)
  else if 0xE1 ≤ b && b ≤ 0xEF then some (0x80, 0xBF)
  else none

/-- The second bytes a leading byte of four admits; none when it leads no four bytes. -/
def secondOfFour (b : UInt8) : Option (UInt8 × UInt8) :=
  if b == 0xF0 then some (0x90, 0xBF)
  else if b == 0xF4 then some (0x80, 0x8F)
  else if 0xF1 ≤ b && b ≤ 0xF3 then some (0x80, 0xBF)
  else none

def admits (range : Option (UInt8 × UInt8)) (b : UInt8) : Bool :=
  range.any fun (low, high) => low ≤ b && b ≤ high

/-- The low bits of a leading byte followed by six bits of each continuation byte. -/
def assemble (lead : Nat) (rest : List UInt8) : Char :=
  Char.ofNat (rest.foldl (fun n b => n * 64 + (b.toNat - 0x80)) lead)

/-- How many bytes the character at the front takes, and that character. -/
def next : List UInt8 → Nat × Char
  | [] => (0, replacement)
  | a :: rest =>
    if a < 0x80 then (1, Char.ofNat a.toNat)
    else match rest with
      | [] => (1, replacement)
      | b :: rest =>
        if 0xC2 ≤ a && a ≤ 0xDF then
          if isContinuation b then (2, assemble (a.toNat - 0xC0) [b]) else (1, replacement)
        else if admits (secondOfThree a) b then
          match rest with
          | c :: _ => if isContinuation c then (3, assemble (a.toNat - 0xE0) [b, c]) else (2, replacement)
          | [] => (2, replacement)
        else if admits (secondOfFour a) b then
          match rest with
          | c :: d :: _ =>
            if !isContinuation c then (2, replacement)
            else if isContinuation d then (4, assemble (a.toNat - 0xF0) [b, c, d])
            else (3, replacement)
          | [c] => (if isContinuation c then 3 else 2, replacement)
          | [] => (2, replacement)
        else (1, replacement)

/-- Decodes the bytes behind the first `skip`, which belong to the character before them. -/
def decodeFrom (skip : Nat) : List UInt8 → List Char
  | [] => []
  | b :: rest =>
    match skip with
    | skip + 1 => decodeFrom skip rest
    | 0 =>
      let (size, c) := next (b :: rest)
      c :: decodeFrom (size - 1) rest

def decode (bytes : List UInt8) : List Char := decodeFrom 0 bytes

end Utf8

end SqlComposer
