/-
  SqlComposer.Url.Form — names and values joined by equals signs and ampersands.

  Pieces between ampersands are pairs, empty ones are none; a pair without an equals
  sign has an empty value. A plus sign stands for a space.
-/

import SqlComposer.Text.Blank
import SqlComposer.Url.Percent

namespace SqlComposer.Url

namespace Form

/-- The text a name or a value stands for. -/
def decode (cs : List Char) : String :=
  let spaced := cs.map fun c => if c == '+' then ' ' else c
  String.ofList (Utf8.decode (Percent.decodeBytes (Utf8.encode spaced)))

def pair (cs : List Char) : String × String :=
  match Chars.splitFirst '=' cs with
  | some (name, value) => (decode name, decode value)
  | none => (decode cs, "")

def pairs (cs : List Char) : List (String × String) :=
  ((Chars.splitOn (· == '&') cs).filter (!·.isEmpty)).map pair

/-- The text a component stands for: a plus sign stands for itself, and an ampersand ends it. -/
def component (cs : List Char) : String :=
  let kept := cs.takeWhile (· != '&')
  String.ofList (Utf8.decode (Percent.decodeBytes (Utf8.encode kept)))

end Form

end SqlComposer.Url
