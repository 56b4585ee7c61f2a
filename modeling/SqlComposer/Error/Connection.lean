/-
  SqlComposer.Error.Connection — why a connection cannot be opened or used.
-/

import SqlComposer.Engine

namespace SqlComposer

inductive ConnectionFault where
  /-- The text of the driver. -/
  | native (text : String)
  | refused (server : String)
  | noNetwork
  | setup (engine : Engine) (server : String) (fault : ConnectionFault)
  | unregistered (engine : Engine) (server : String)
  | noCurrent
  | currentGone (engine : Engine) (server : String)
  deriving DecidableEq, Repr

namespace ConnectionFault

def text : ConnectionFault → String
  | .native t => t
  | .refused server => s!"could not connect to server \"{server}\"" ++ ": connection refused"
  | .noNetwork => "no network driver is installed"
  | .setup engine server fault =>
    s!"Unable to connect to database for {engine.name} on dsn: {server}: {fault.text}"
  | .unregistered engine server => s!"No connection registered for type={engine.name} server={server}"
  | .noCurrent => "No current connection; call setup or connect first"
  | .currentGone engine server => s!"Current connection {engine.name}:{server} is gone"

end ConnectionFault

end SqlComposer
