/-
  SqlComposer.Toml.Value — TOML values, and tables as they grow while a document is read.

  A table remembers how it came to be, because that decides what may still be added: an
  inline table is closed, one with a header of its own takes no dotted keys from
  elsewhere, and one that only lies on the way to another may still get its header. No
  key is ever given twice.
-/

namespace SqlComposer

namespace Toml

inductive Origin where
  | inline
  | header
  | implied
  | dotted
  deriving DecidableEq, Repr

end Toml

inductive Toml where
  | string (s : String)
  | integer (n : Int)
  | float (x : Float)
  | bool (b : Bool)
  | array (items : List Toml)
  | table (origin : Toml.Origin) (members : List (String × Toml))
  /-- An array whose elements have headers of their own. -/
  | tables (elements : List Toml)

namespace Toml

/-- The keys of a table and their values, in order. -/
abbrev Members := List (String × Toml)

/-! ## Members -/

def find? (ms : Members) (key : String) : Option Toml := (ms.find? fun (k, _) => k == key).map (·.2)

/-- Puts `v` in the place of the value of `key`. -/
def replace (ms : Members) (key : String) (v : Toml) : Members :=
  ms.map fun (k, old) => if k == key then (k, v) else (k, old)

/-- A new member; none when the key is taken. -/
def add (key : String) (v : Toml) (ms : Members) : Option Members :=
  if (find? ms key).isSome then none else some (ms ++ [(key, v)])

/-- Gives a table its header. -/
def openTable (key : String) (ms : Members) : Option Members :=
  match find? ms key with
  | none => some (ms ++ [(key, .table .header [])])
  | some (.table .implied inner) => some (replace ms key (.table .header inner))
  | some _ => none

/-- Begins one more element of an array of tables. -/
def openElement (key : String) (ms : Members) : Option Members :=
  match find? ms key with
  | none => some (ms ++ [(key, .tables [.table .header []])])
  | some (.tables elements) => some (replace ms key (.tables (elements ++ [.table .header []])))
  | some _ => none

/-! ## Paths -/

/-- Changes the table at the end of a path by `f`, making those on the way that are missing. The
    path is one of dotted keys or one of a header; a header's path leads into the last element of
    an array of tables. -/
def enter (dotted : Bool) (f : Members → Option Members) : List String → Members → Option Members
  | [], ms => f ms
  | key :: path, ms =>
    match find? ms key with
    | none => (enter dotted f path []).map fun inner =>
        ms ++ [(key, .table (if dotted then .dotted else .implied) inner)]
    | some (.table origin inner) =>
      if origin == .inline || (dotted && origin == .header) then none
      else (enter dotted f path inner).map fun inner => replace ms key (.table origin inner)
    | some (.tables elements) =>
      match dotted, elements.getLast? with
      | false, some (.table origin inner) => (enter dotted f path inner).map fun inner =>
          replace ms key (.tables (elements.dropLast ++ [.table origin inner]))
      | _, _ => none
    | some _ => none

/-- Gives a dotted key its value. -/
def addAt (path : List String) (v : Toml) (ms : Members) : Option Members :=
  match path.getLast? with
  | some key => enter true (add key v) path.dropLast ms
  | none => none

end Toml

end SqlComposer
