/-
  SqlComposer.Settings.Document — settings read from a TOML document.

  Every table has its own keys and no others. A record may also be an array that gives
  its members in their order. A document of any other shape is unreadable as a whole.
-/

import SqlComposer.Settings.Basic
import SqlComposer.Syntax.Vocabulary
import SqlComposer.Toml.Document

namespace SqlComposer

namespace Settings

/-! ## Shapes -/

/-- The members of a record with these names; an array must give all of them. -/
def membersOf (names : List String) : Toml → Option Toml.Members
  | .table _ ms => if ms.all fun (key, _) => names.contains key then some ms else none
  | .array items => if items.length < names.length then none else some (names.zip items)
  | _ => none

def textOf : Toml → Option String
  | .string s => some s
  | _ => none

def itemsOf : Toml → Option (List Toml)
  | .array items => some items
  | .tables elements => some elements
  | _ => none

/-- A member that may be missing; one of a wrong shape is refused. -/
def optional (read : Toml → Option α) (ms : Toml.Members) (key : String) : Option (Option α) :=
  match Toml.find? ms key with
  | some v => (read v).map some
  | none => some none

def engineOf (v : Toml) : Option Engine := do (Engine.ofText (← textOf v)).toOption

/-! ## Records -/

def entryOf : Toml → Option DsnEntry
  | .string s => some (.text s)
  | .integer n => if (IntegerRange.signed 64).contains n then some (.integer n) else none
  | _ => none

def sourceOf : Toml → Option DsnSource
  | .string s => some (.text s)
  | .table _ ms => do
    let entries ← ms.mapM fun (key, v) => do return (key, ← entryOf v)
    return .table (entries.mergeSort fun a b => a.1 ≤ b.1)
  | _ => none

def connectionOf (v : Toml) : Option ConnectionSettings := do
  let ms ← membersOf ["engine", "dsn"] v
  return ⟨← engineOf (← Toml.find? ms "engine"), ← sourceOf (← Toml.find? ms "dsn")⟩

def preferredOf (v : Toml) : Option DefaultConnection := do
  let ms ← membersOf ["engine", "server"] v
  return ⟨← engineOf (← Toml.find? ms "engine"), ← optional textOf ms "server"⟩

def limitOf : Toml → Option Nat
  | .integer n => if (IntegerRange.unsigned 64).contains n then some n.toNat else none
  | _ => none

def logOf (v : Toml) : Option LogSettings := do
  let ms ← membersOf ["level", "max_sql_length"] v
  return ⟨← optional textOf ms "level", ← optional limitOf ms "max_sql_length"⟩

def ofMembers (root : Toml.Members) : Option Settings := do
  let names := ["connections", "default", "table_prefix", "log"]
  let ms ← membersOf names (.table .header root)
  let connections ← optional (fun v => do (← itemsOf v).mapM connectionOf) ms "connections"
  let log ← optional logOf ms "log"
  return {
    connections := connections.getD []
    preferred := ← optional preferredOf ms "default"
    tablePrefix := ← optional textOf ms "table_prefix"
    log := log.getD {} }

/-! ## Documents -/

/-- Valid settings of a document, its variables expanded. -/
def read (env : Environment) (document : String) : Except ConfigFault Settings := do
  match (Toml.parse document).bind ofMembers with
  | none => throw .unreadableDocument
  | some settings =>
    let settings ← settings.expand env
    settings.validate
    return settings

/-- The settings of the file at `path`; a fault of theirs names the path. -/
def load (env : Environment) (file : String → Except Error String) (path : String) : Except Error Settings := do
  let document ← file path
  (read env document).mapError fun f => .config (.inFile path f)

end Settings

end SqlComposer
