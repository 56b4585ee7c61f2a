/-
  SqlComposer.Connection.Driver — what opens connections to the servers of an engine.

  Every attempt to connect has a number of its own, and the connection it opens keeps
  it. A driver decides each attempt and each close for itself: it may refuse any, and it
  never sees a connection other than by its handle. Drivers of one site share what they
  were told to answer and what they were asked to run.
-/

import SqlComposer.Dsn.Basic
import SqlComposer.Error
import SqlComposer.Ident
import SqlComposer.Literal

namespace SqlComposer

/-- The name a connection is registered under. -/
structure ConnectionKey where
  engine : Engine
  server : String
  deriving DecidableEq, Repr

namespace ConnectionKey

/-- White space around a server's name does not count. -/
def make (engine : Engine) (server : String) : ConnectionKey := ⟨engine, Text.trim server⟩

def text (k : ConnectionKey) : String := k.engine.name ++ ":" ++ k.server

/-- Both parts by name. -/
def inspect (k : ConnectionKey) : String :=
  "ConnectionKey \x7b engine: " ++ k.engine.title ++ ", server: " ++ Text.quoted k.server ++ " \x7d"

end ConnectionKey

/-- A connection as its driver knows it. -/
structure Handle where
  /-- The number of the attempt that opened it. -/
  number : Nat
  site : Nat
  engine : Engine
  server : String
  deriving DecidableEq, Repr

structure Driver where
  engine : Engine
  site : Nat
  escape : String → String
  quoteIdentifier : String → String
  /-- Why an attempt fails; none when it opens a connection. -/
  refusal : Nat → Dsn → Option Error
  /-- What goes wrong when a connection is closed, which it is all the same. -/
  closeFault : Handle → Option Error

namespace Driver

/-- A driver that opens a connection to every server but those in `refused`. -/
def simulated (engine : Engine) (site : Nat) (refused : List String) : Driver where
  engine
  site
  escape := engine.escape
  quoteIdentifier := engine.quoteIdentifier
  refusal _ d := if refused.contains d.server then some (.connection (.refused d.server)) else none
  closeFault _ := none

/-- A driver without a network: it escapes and quotes as its engine does, and refuses every
    connection. -/
def offline (engine : Engine) : Driver :=
  { simulated engine 0 [] with refusal := fun _ _ => some (.connection .noNetwork) }

/-- The handle of the connection that an attempt opens. -/
def handle (driver : Driver) (number : Nat) (d : Dsn) : Handle := ⟨number, driver.site, driver.engine, d.server⟩

/-- Connects, or says why not; a refusal of another kind becomes a connection fault with its text. -/
def connect (driver : Driver) (number : Nat) (d : Dsn) : Except Error Handle :=
  match driver.refusal number d with
  | none => .ok (driver.handle number d)
  | some (.connection f) => .error (.connection f)
  | some e => .error (.connection (.native e.display))

end Driver

end SqlComposer
