/-
  SqlComposer.Connection.Entry — connections under their keys, in the order in which
  the keys were first registered.
-/

import SqlComposer.Connection.Driver

namespace SqlComposer

/-- An open connection, what it was opened with, and the driver that closes it. -/
structure Entry where
  key : ConnectionKey
  dsn : Dsn
  handle : Handle
  driver : Driver

abbrev Entries := List Entry

namespace Entries

def find? (key : ConnectionKey) (es : Entries) : Option Entry := List.find? (fun e => e.key == key) es

/-- Whether a connection is registered under the key. -/
def has (key : ConnectionKey) (es : Entries) : Bool := (find? key es).isSome

def keys (es : Entries) : List ConnectionKey := es.map (·.key)

/-- Puts `new` in the place of the entry under its key; gives that entry and the new list, or none
    when there is no such entry. -/
def exchange (new : Entry) : Entries → Option (Entry × Entries)
  | [] => none
  | e :: es =>
    if e.key == new.key then some (e, new :: es)
    else (exchange new es).map fun (old, es) => (old, e :: es)

/-- Takes out the entry under a key; gives it and what is left. -/
def take (key : ConnectionKey) : Entries → Option (Entry × Entries)
  | [] => none
  | e :: es => if e.key == key then some (e, es) else (take key es).map fun (old, es) => (old, e :: es)

/-- Registers `new` under its key; gives the entry that it replaces, if any. -/
def put (new : Entry) (es : Entries) : Option Entry × Entries :=
  match exchange new es with
  | some (old, es) => (some old, es)
  | none => (none, es ++ [new])

end Entries

end SqlComposer
