/-
  SqlComposer.Ident — dotted identifiers, kept free of quoting.

  Reading removes backticks and double quotes, splits at dots, trims each segment and
  drops empty ones, so any spelling of a name can be quoted again for any engine.
  Writing puts the engine's quote around each segment; a star is never quoted.
-/

import SqlComposer.Engine
import SqlComposer.Text.Blank

namespace SqlComposer

/-- An identifier as its segments, outermost first. -/
structure Ident where
  parts : List String
  deriving DecidableEq, Repr

namespace Ident

/-! ## Reading -/

/-- The characters that quote identifiers in either engine. -/
def isQuote (c : Char) : Bool := c == '\x60' || c == '"'

def segments (cs : List Char) : List (List Char) :=
  ((Chars.splitOn (· == '.') (cs.filter (!isQuote ·))).map Chars.trim).filter (!·.isEmpty)

def parse (s : String) : Ident := ⟨(segments s.toList).map String.ofList⟩

def isEmpty (i : Ident) : Bool := i.parts.isEmpty

/-- `true` for a star and nothing else. -/
def isStar (i : Ident) : Bool := i.parts == ["*"]

/-! ## Changing segments -/

def mapLastPart (f : String → String) : List String → List String
  | [] => []
  | [last] => [f last]
  | part :: rest => part :: mapLastPart f rest

/-- Changes the last segment, the table or column name. -/
def mapLast (f : String → String) (i : Ident) : Ident := ⟨mapLastPart f i.parts⟩

/-- Puts `qualifier` in front of an identifier of one segment. -/
def qualify (qualifier : String) (i : Ident) : Ident :=
  match i.parts with
  | [part] => ⟨[qualifier, part]⟩
  | _ => i

/-! ## Writing -/

def partSql (quote : Char) (part : String) : String :=
  if part == "*" then "*" else quote.toString ++ part ++ quote.toString

/-- The segments, each in quotes, with dots between them. -/
def toSql (quote : Char) (i : Ident) : String := Text.join "." (i.parts.map (partSql quote))

end Ident

/-- Quotes an identifier, dotted or not, however it was quoted before. -/
def Engine.quoteIdentifier (e : Engine) (name : String) : String := (Ident.parse name).toSql e.quoteChar

end SqlComposer
