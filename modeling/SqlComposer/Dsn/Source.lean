/-
  SqlComposer.Dsn.Source — data source names read from text: a URL where the text holds
  `://` anywhere, else `key=value` entries.

  A URL gives its host, port, path, user name and password, each where it is there, and
  then the pairs of its query.
-/

import SqlComposer.Dsn.Conninfo
import SqlComposer.Url.Basic
import SqlComposer.Url.Form

namespace SqlComposer

namespace Dsn

def schemes : List String := ["mysql", "mariadb", "postgres", "postgresql"]

/-- What a URL says, as pairs. -/
def pairsOfUrl (u : Url) : List (String × String) :=
  let database := u.path.dropWhile (· == '/')
  (u.host.map fun h => ("server", h)).toList ++
    (u.port.map fun p => ("port", toString p.toNat)).toList ++
    (if database.isEmpty then [] else [("dbname", Url.Form.component database)]) ++
    (if u.username.isEmpty then [] else [("username", Url.Form.component u.username)]) ++
    (u.password.map fun p => ("password", Url.Form.component p)).toList ++
    (u.query.map Url.Form.pairs).getD []

def ofUrl (s : String) : Except ConfigFault Dsn :=
  match Url.parse s with
  | .error f => .error (.badUrl f)
  | .ok u => if schemes.contains u.scheme then ofPairs (pairsOfUrl u) else .error (.unsupportedScheme u.scheme)

def parse (s : String) : Except ConfigFault Dsn :=
  let s := Text.trim s
  if s.isEmpty then .error .emptyDsn
  else if Text.contains s "://" then ofUrl s
  else do
    let pairs ← Conninfo.pairs s.toList
    ofPairs pairs

end Dsn

end SqlComposer
