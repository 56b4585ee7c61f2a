/-
  SqlComposer.Text.Blank — white space, trimming, and ASCII letter case.

  A character is blank when Unicode gives it the property White_Space. Every reader
  of this library trims and splits by this one class. The functions on `List Char`
  are the definitions; the ones on `String` wrap them.
-/

namespace SqlComposer

/-- The Unicode property White_Space. -/
def isBlank (c : Char) : Bool :=
  let n := c.toNat
  (9 ≤ n && n ≤ 13) || n == 0x20 || n == 0x85 || n == 0xA0 || n == 0x1680 ||
    (0x2000 ≤ n && n ≤ 0x200A) || n == 0x2028 || n == 0x2029 || n == 0x202F || n == 0x205F || n == 0x3000

namespace Chars

/-! ## Trimming -/

def trimStart (cs : List Char) : List Char := cs.dropWhile isBlank

def trimEnd (cs : List Char) : List Char := (cs.reverse.dropWhile isBlank).reverse

def trim (cs : List Char) : List Char := trimEnd (trimStart cs)

/-- The first word and what follows it. -/
def takeWord (cs : List Char) : List Char × List Char := cs.span (!isBlank ·)

/-! ## Prefixes and pieces -/

/-- What is left of `cs` behind `lead`, when `cs` begins with it. -/
def stripLead (lead cs : List Char) : Option (List Char) :=
  match lead, cs with
  | [], cs => some cs
  | _ :: _, [] => none
  | l :: ls, c :: cs => if l == c then stripLead ls cs else none

/-- Whether `needle` stands anywhere in `cs`. -/
def contains (needle : List Char) : List Char → Bool
  | [] => needle.isEmpty
  | c :: cs => (stripLead needle (c :: cs)).isSome || contains needle cs

/-- The pieces between separators; a text without one is a single piece. -/
def splitOn (isSeparator : Char → Bool) : List Char → List (List Char)
  | [] => [[]]
  | c :: cs =>
    match isSeparator c, splitOn isSeparator cs with
    | true, pieces => [] :: pieces
    | false, [] => [[c]]
    | false, piece :: pieces => (c :: piece) :: pieces

/-- The text before and after the first `separator`. -/
def splitFirst (separator : Char) : List Char → Option (List Char × List Char)
  | [] => none
  | c :: cs =>
    if c == separator then some ([], cs)
    else (splitFirst separator cs).map fun (before, after) => (c :: before, after)

/-- The text before and after the last character of the class. -/
def splitLast (isSeparator : Char → Bool) : List Char → Option (List Char × List Char)
  | [] => none
  | c :: cs =>
    match splitLast isSeparator cs with
    | some (before, after) => some (c :: before, after)
    | none => if isSeparator c then some ([], cs) else none

end Chars

/-! ## On strings -/

namespace Text

def trim (s : String) : String := String.ofList (Chars.trim s.toList)

/-- `true` when nothing but white space is in `s`. -/
def isBlank (s : String) : Bool := (Chars.trim s.toList).isEmpty

/-- ASCII letters in lower case, all else unchanged. -/
def lower (s : String) : String := String.ofList (s.toList.map Char.toLower)

/-- ASCII letters in upper case, all else unchanged. -/
def upper (s : String) : String := String.ofList (s.toList.map Char.toUpper)

/-- Whether `needle` stands anywhere in `s`. -/
def contains (s needle : String) : Bool := Chars.contains needle.toList s.toList

/-- The pieces of `s` put together with `separator` between them. -/
def join (separator : String) (pieces : List String) : String := separator.intercalate pieces

end Text

end SqlComposer
