/-
  SqlComposer.Connection.Journal — all that happened on the side of the drivers, in
  order: connections opened and closed, statements run, and notices given on the way.

  The journal also holds the replies that wait for the statements to come. A statement
  takes the oldest reply of the site its connection belongs to.
-/

import SqlComposer.Connection.Driver
import SqlComposer.Result.Row
import SqlComposer.Trace

namespace SqlComposer

/-! ## Notices -/

/-- Why a connection was being closed. -/
inductive CloseOccasion where
  | rollback
  | shutdown
  | replacement
  deriving DecidableEq, Repr

/-- Whether a statement was run for its rows or for its effect. -/
inductive RunKind where
  | query
  | execute
  deriving DecidableEq, Repr

inductive Notice where
  | connected (key : ConnectionKey)
  | switched (key : ConnectionKey)
  | closeFailed (occasion : CloseOccasion) (key : ConnectionKey) (error : Error)
  | statement (level : Level) (key : ConnectionKey) (kind : RunKind) (sql : String)

def CloseOccasion.message : CloseOccasion → String
  | .rollback => "rollback close failed"
  | .shutdown => "failed to close connection"
  | .replacement => "failed to close replaced connection"

def RunKind.name : RunKind → String
  | .query => "query"
  | .execute => "execute"

namespace Notice

def level : Notice → Level
  | .connected _ => .info
  | .switched _ => .info
  | .closeFailed _ _ _ => .warn
  | .statement level _ _ _ => level

/-- The channel a notice is given on. -/
def channel : Notice → String
  | .statement _ _ _ _ => "fluentsql.sql"
  | _ => "fluentsql.registry"

def message : Notice → Option String
  | .connected _ => some "connected"
  | .switched _ => some "switched server"
  | .closeFailed occasion _ _ => some occasion.message
  | .statement _ _ _ _ => none

def fields : Notice → List (String × String)
  | .connected k => [("engine", k.engine.name), ("server", k.server)]
  | .switched k => [("engine", k.engine.name), ("server", k.server)]
  | .closeFailed _ k e => [("key", k.text), ("error", e.display)]
  | .statement _ k kind sql =>
    [("engine", k.engine.name), ("server", k.server), ("kind", kind.name), ("sql", sql)]

end Notice

/-! ## The journal -/

inductive Event where
  | opened (h : Handle)
  | closed (h : Handle)
  | ran (h : Handle) (sql : String)
  | noticed (n : Notice)

/-- What a statement is going to be answered. -/
inductive Reply where
  | outcome (o : Outcome)
  | failure (text : String)

structure Journal where
  /-- How many times a driver was asked to connect. -/
  attempts : Nat := 0
  /-- Replies under the sites whose statements they wait for, the oldest first. -/
  replies : List (Nat × Reply) := []
  events : List Event := []

namespace Journal

def record (e : Event) (j : Journal) : Journal := { j with events := j.events ++ [e] }

def notice (n : Notice) (j : Journal) : Journal := j.record (.noticed n)

/-- Lets a reply wait for a statement of a site. -/
def script (site : Nat) (reply : Reply) (j : Journal) : Journal := { j with replies := j.replies ++ [(site, reply)] }

/-- Takes the first reply of a site out of `replies`. -/
def takeReply (site : Nat) : List (Nat × Reply) → Option (Reply × List (Nat × Reply))
  | [] => none
  | (s, reply) :: rest =>
    if s == site then some (reply, rest)
    else (takeReply site rest).map fun (taken, rest) => (taken, (s, reply) :: rest)

/-- Asks a driver for a connection. -/
def connect (driver : Driver) (d : Dsn) (j : Journal) : Except Error Handle × Journal :=
  let asked := { j with attempts := j.attempts + 1 }
  match driver.connect j.attempts d with
  | .ok h => (.ok h, asked.record (.opened h))
  | .error e => (.error e, asked)

/-- Runs a statement on a connection; none when no reply waits for it. -/
def run (h : Handle) (sql : String) (j : Journal) : Except Error (Option Outcome) × Journal :=
  let j := j.record (.ran h sql)
  match takeReply h.site j.replies with
  | none => (.ok none, j)
  | some (.outcome o, replies) => (.ok (some o), { j with replies })
  | some (.failure text, replies) => (.error (.execution text), { j with replies })

/-! ## Views of one site -/

/-- The servers connected to, in order. -/
def opened (site : Nat) (j : Journal) : List String :=
  j.events.filterMap fun
    | .opened h => if h.site == site then some h.server else none
    | _ => none

/-- The servers whose connections were closed, in order. -/
def closed (site : Nat) (j : Journal) : List String :=
  j.events.filterMap fun
    | .closed h => if h.site == site then some h.server else none
    | _ => none

/-- The statements run, each with its connection, in order. -/
def ran (site : Nat) (j : Journal) : List (Handle × String) :=
  j.events.filterMap fun
    | .ran h sql => if h.site == site then some (h, sql) else none
    | _ => none

/-- The notices given, in order. -/
def notices (j : Journal) : List Notice :=
  j.events.filterMap fun
    | .noticed n => some n
    | _ => none

end Journal

end SqlComposer
