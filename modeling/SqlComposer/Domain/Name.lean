/-
  SqlComposer.Domain.Name — domains in any script, and their form in ASCII.

  A domain is written in lower case, its compatibility forms resolved and its marks
  composed, and split at the dots. A label that begins with xn-- stands for the one it
  encodes, which has to be in that form already. No label begins with a mark or has a
  joiner out of place, and the labels of a domain with right-to-left writing keep their
  direction. In the end each label beyond ASCII is encoded.
-/

import SqlComposer.Domain.Direction
import SqlComposer.Domain.Mapping
import SqlComposer.Domain.Marks
import SqlComposer.Domain.Punycode
import SqlComposer.Text.Blank

namespace SqlComposer.Domain

/-- ASCII characters no domain holds. -/
def isForbidden (c : Char) : Bool := c.toNat ≤ 0x20 || c.toNat == 0x7F || "#%/:<>?@[\\]^|".toList.contains c

def isAscii (c : Char) : Bool := c.toNat < 0x80

/-- What an encoded label begins with. -/
def encodedMark : List Char := "xn--".toList

/-- The longest encoded text that is read, and the longest label that is encoded. -/
def longestEncoded : Nat := 2000

def longestLabel : Nat := 1000

/-- The label encoded behind the mark: in lower case and composed already, with a character
beyond ASCII, and not encoded itself. -/
def decodeLabel (code : List Char) : Option (List Char) :=
  if code.isEmpty || code.getLast? == some '-' || longestEncoded < code.length || !code.all isAscii then none
  else (Punycode.decode code).filter fun label =>
    label.all isKept && Composition.compose label == label && !encodedMark.isPrefixOf label

def readLabel (label : List Char) : Option (List Char) :=
  if encodedMark.isPrefixOf label then decodeLabel (label.drop encodedMark.length) else some label

def labelFits (label : List Char) : Bool := !label.head?.any isMark && joinersFit [] label

/-- The labels of a domain in their own scripts; none where the text is no domain. -/
def labels? (cs : List Char) : Option (List (List Char)) := do
  let text := Composition.compose (← cs.mapM mapChar).flatten
  if text.any isForbidden then none
  else
    let labels ← (Chars.splitOn (· == '.') text).mapM readLabel
    if labels.all labelFits && (!labels.any runsRight || labels.all keepsDirection) then some labels else none

def writeLabel (label : List Char) : Option (List Char) :=
  if label.all isAscii then some label
  else if longestLabel < label.length then none
  else some (encodedMark ++ Punycode.encode label)

/-- A domain in ASCII. -/
def toAscii (cs : List Char) : Option (List Char) := do
  let labels ← (← labels? cs).mapM writeLabel
  return (labels.intersperse ['.']).flatten

end SqlComposer.Domain
