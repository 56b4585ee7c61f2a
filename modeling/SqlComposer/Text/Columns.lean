/-
  SqlComposer.Text.Columns — how many columns of a terminal a text takes.

  Characters change each other's columns: a selector makes a sign a picture or a picture a
  sign, a joiner makes one picture of several, a skin tone belongs to the hand before it,
  and some scripts write two letters as one. What a character takes depends on what stands
  behind it, so a text is measured from its end, and a step may take back a column that was
  counted before.
-/

import SqlComposer.Text.Emoji
import SqlComposer.Text.Width

namespace SqlComposer

namespace Columns

/-! ## What stands behind a character -/

/-- What a text begins with, where a character before it could become one with it. -/
inductive Head where
  | other
  | picture
  | tone
  /-- A regional indicator. -/
  | flagLetter
  | flagLetters
  /-- A joiner and the picture behind it. -/
  | joined
  | joinedKeycap
  /-- One regional indicator, an even number of them, or an odd one, before a joiner. -/
  | joinedFlagLetter
  | joinedFlags
  | joinedFlagsAndLetter
  /-- The end of a flag's name in tags before a joiner: so many letters, so many digits. -/
  | joinedTags (letters digits : Nat)
  | alef
  | lamed
  | ya
  | vowelAndYa
  | consonant
  | linkerAndConsonant
  | lowTone
  | orkhonI
  | khmerLetter
  | kiratE
  | kiratAi
  deriving DecidableEq

namespace Head

/-- The letters that may become one with the letter before them. -/
def isLetter : Head → Bool
  | alef | lamed | ya | vowelAndYa | consonant | linkerAndConsonant | lowTone | orkhonI | khmerLetter => true
  | _ => false

/-- Whether marks may stand between the two letters that become one. -/
def showsThrough (h : Head) : Bool := h.isLetter && h != alef

def isJoined : Head → Bool
  | joined | joinedKeycap => true
  | _ => false

end Head

/-- The text behind a character, as far as it matters to the character. -/
structure Behind where
  head : Head
  /-- A joiner stands before the letter. -/
  joiner : Bool
  /-- The selectors that stand before the head. -/
  asPicture : Bool
  asSign : Bool
  asWide : Bool
  deriving DecidableEq

namespace Behind

def of (h : Head) : Behind := ⟨h, false, false, false, false⟩

def nothing : Behind := of .other

/-- Letters and joined pictures are still seen behind the selector, nothing else is. -/
def markPicture (b : Behind) : Behind :=
  if b.head.isLetter || b.head.isJoined then { b with asPicture := true }
  else { nothing with asPicture := true }

def markSign (b : Behind) : Behind :=
  if b.head.isLetter then { b with asSign := true } else { nothing with asSign := true }

def markWide (b : Behind) : Behind :=
  if b.head.isLetter then { b with asWide := true } else { nothing with asWide := true }

/-- A selector that made no picture: only letters are still seen behind it. -/
def dropPicture (b : Behind) : Behind :=
  if !b.asPicture then b
  else if b.head.isLetter then { b with asPicture := false }
  else nothing

end Behind

/-! ## Characters -/

def joiner : Char := '\u200d'

def pictureSelector : Char := '\ufe0f'

def signSelector : Char := '\ufe0e'

def wideSelector : Char := '\ufe01'

/-- The quotation marks that have a wide form. -/
def isQuote (c : Char) : Bool := c == '\u2018' || c == '\u2019' || c == '\u201c' || c == '\u201d'

/-- Marks that may stand between two letters written as one. -/
def isBetween (c : Char) : Bool :=
  inRanges [(0x34F, 0x34F), (0x17B4, 0x17B5), (0x180B, 0x180D), (0x180F, 0x180F), (0x200D, 0x200D),
    (0xFE00, 0xFE0F), (0xE0100, 0xE01EF)] c

def isAlef (c : Char) : Bool :=
  inRanges [(0x622, 0x623), (0x625, 0x625), (0x627, 0x627), (0x671, 0x673), (0x675, 0x675), (0x773, 0x774),
    (0x870, 0x882)] c

def isLam (c : Char) : Bool :=
  inRanges [(0x644, 0x644), (0x6B5, 0x6B8), (0x76A, 0x76A), (0x8A6, 0x8A6), (0x8C7, 0x8C7)] c

/-- Tifinagh consonants. -/
def isConsonant (c : Char) : Bool := inRanges [(0x2D31, 0x2D65), (0x2D6F, 0x2D6F)] c

/-- Khmer letters that are written below the letter before them. -/
def isKhmerLetter (c : Char) : Bool :=
  inRanges [(0x1780, 0x1782), (0x1784, 0x1787), (0x1789, 0x178C), (0x178E, 0x1793), (0x1795, 0x1798),
    (0x179B, 0x179D), (0x17A0, 0x17A0), (0x17A2, 0x17A2), (0x17A7, 0x17A7), (0x17AB, 0x17AC), (0x17AF, 0x17AF)] c

def isHighTone (c : Char) : Bool := inRanges [(0xA4F8, 0xA4FB)] c

def isLowTone (c : Char) : Bool := inRanges [(0xA4FC, 0xA4FD)] c

/-- The head a text has that begins with `c`. -/
def headOf (c : Char) : Head :=
  if Emoji.isFlagLetter c then .flagLetter
  else if Emoji.isTone c then .tone
  else if Emoji.isPicture c then .picture
  else if isAlef c then .alef
  else if isConsonant c then .consonant
  else if isKhmerLetter c then .khmerLetter
  else if isLowTone c then .lowTone
  else match c.toNat with
    | 0x05DC => .lamed
    | 0x1A10 => .ya
    | 0x10C03 => .orkhonI
    | 0x16D67 => .kiratE
    | 0x16D68 => .kiratAi
    | _ => .other

/-! ## Steps -/

/-- The columns a character adds, and what the text begins with then. -/
abbrev Step := Int × Behind

/-- A character that nothing behind it changes. -/
def alone (c : Char) : Step := (Width.ofChar c, .of (headOf c))

def onlyIf (p : Bool) (columns : Int) (h : Head) : Option Step := if p then some (columns, .of h) else none

/-- A tag before the end of a flag's name, or the flag itself. -/
def beforeTags (c : Char) (letters digits : Nat) : Option Step :=
  if Emoji.isTagLetter c then onlyIf (digits == 0 && letters < 6) 0 (.joinedTags (letters + 1) 0)
  else if Emoji.isTagDigit c then
    onlyIf ((digits == 0 && letters < 5) || (0 < digits && digits < 3)) 0 (.joinedTags letters (digits + 1))
  else onlyIf (Emoji.isBlackFlag c && (digits == 3 || (digits == 0 && 3 ≤ letters))) 0 .picture

/-- A character that becomes one with what stands behind it; none where it does not. -/
def combine (c : Char) (b : Behind) : Option Step :=
  match b.head with
  | .other | .joinedKeycap => none
  | .picture => onlyIf (c == joiner) 0 .joined
  | .tone => if Emoji.isToned c then some (0, .of .picture) else onlyIf (c == joiner) 0 .joined
  | .flagLetter => onlyIf (Emoji.isFlagLetter c) 1 .flagLetters
  | .flagLetters => if Emoji.isFlagLetter c then some (1, .of .flagLetters) else onlyIf (c == joiner) 0 .joined
  | .joined =>
    if c == '\u20e3' then some (0, .of .joinedKeycap)
    else if Emoji.isFlagLetter c then some (1, .of .joinedFlagLetter)
    else if Emoji.isTone c then some (0, .of .tone)
    else if Emoji.isLastTag c then some (0, .of (.joinedTags 0 0))
    else onlyIf (Emoji.isPicture c) 0 .picture
  | .joinedFlagLetter | .joinedFlagsAndLetter => onlyIf (Emoji.isFlagLetter c) (-1) .joinedFlags
  | .joinedFlags =>
    if Emoji.isFlagLetter c then some (3, .of .joinedFlagsAndLetter) else onlyIf (c == joiner) 0 .joined
  | .joinedTags letters digits => beforeTags c letters digits
  | .alef => if isLam c then some (0, .nothing) else onlyIf (Width.isTransparent c) 0 .alef
  | .lamed => onlyIf (b.joiner && c == '\u05d0') 0 .other
  | .ya => onlyIf (b.joiner && c == '\u1a17') 0 .vowelAndYa
  | .vowelAndYa => onlyIf (c == '\u1a15') 0 .other
  | .consonant =>
    if c == '\u2d7f' then some (1, .of .linkerAndConsonant) else onlyIf (b.joiner && isConsonant c) 0 .other
  | .linkerAndConsonant => onlyIf (isConsonant c) (-1) .other
  | .lowTone => onlyIf (isHighTone c) 0 .other
  | .orkhonI => onlyIf (b.joiner && c.toNat == 0x10C32) 0 .other
  | .khmerLetter => onlyIf (c == '\u17d2') (-1) .other
  | .kiratE =>
    match c.toNat with
    | 0x16D63 | 0x16D69 => some (0, .nothing)
    | 0x16D67 => some (0, .of .kiratAi)
    | 0x16D68 => some (1, .of .kiratE)
    | _ => none
  | .kiratAi => onlyIf (c.toNat == 0x16D63) 0 .other

/-- A character before a text whose selectors have had their effect. -/
def joinTo (c : Char) (b : Behind) : Step :=
  if b.head.showsThrough && c == joiner then (0, { b with joiner := true })
  else if b.head.showsThrough && isBetween c then (0, b)
  else (combine c b).getD (alone c)

/-- A character before a text that no selector makes a picture of it. -/
def unpictured (c : Char) (b : Behind) : Step :=
  if c.toNat ≤ 0xA0 then (1, .nothing)
  else if c == pictureSelector then (0, b.markPicture)
  else if c == signSelector then (0, b.markSign)
  else if b.asSign && Emoji.isTextBase c then (1, .nothing)
  else if b.asWide && isQuote c then (2, .nothing)
  else if c == wideSelector then (0, b.markWide)
  else joinTo c { b with asSign := false, asWide := false }

/-- Any character before a text. -/
def step (c : Char) (b : Behind) : Step :=
  if b.asPicture && Emoji.isPictureBase c then (if b.head.isJoined then 0 else 2, .of .picture)
  else unpictured c b.dropPicture

/-- The columns of a text, and what it begins with. -/
def measure (cs : List Char) : Step :=
  cs.foldr (fun c (columns, b) => let (more, b') := step c b; (columns + more, b')) (0, .nothing)

end Columns

/-- The columns `s` takes. -/
def Text.width (s : String) : Nat := (Columns.measure s.toList).1.toNat

end SqlComposer
