/-
  SqlComposer.Error.Config — why a data source name or a configuration is refused.
-/

import SqlComposer.Engine
import SqlComposer.Url.Fault

namespace SqlComposer

inductive ConfigFault where
  /-- A free text, for faults that come from outside the library. -/
  | said (text : String)
  | emptyEngine
  | unknownEngine (word : String)
  | emptySetup
  | noDriver (engine : Engine)
  | emptyDsn
  | malformedEntry (key : String)
  | unterminatedValue (key : String)
  | badUrl (fault : Url.Fault)
  | unsupportedScheme (scheme : String)
  | unknownKey (key : String)
  | duplicateKey (name : String)
  | noDatabase
  | noServer
  | noUser
  | noPassword
  | badPort (text : String)
  | portExpected
  | optionsNotAllowed
  | unreadableDocument
  | unterminatedVariable (name : String)
  | emptyVariable
  | missingVariable (name : String)
  | noConnections
  | duplicateConnection (engine : Engine) (server : String)
  | unknownDefault (engine : Engine) (server : Option String)
  | blankPrefix
  | badLogLevel (text : String)
  | inFile (path : String) (fault : ConfigFault)

namespace ConfigFault

def text : ConfigFault → String
  | .said t => t
  | .emptyEngine => "engine type is empty"
  | .unknownEngine w => s!"unknown engine type: {w}"
  | .emptySetup => "Type and / or Dsn is empty on setup"
  | .noDriver engine => s!"No driver registered for {engine.name}"
  | .emptyDsn => "Dsn is empty"
  | .malformedEntry key => s!"Malformed dsn entry '{key}'" ++ ": expected key=value"
  | .unterminatedValue key => s!"Unterminated quoted value for dsn key '{key}'"
  | .badUrl fault => s!"Invalid dsn url: {fault.text}"
  | .unsupportedScheme scheme => s!"Unsupported dsn url scheme: {scheme}"
  | .unknownKey key => s!"Unknown dsn key: '{key}'"
  | .duplicateKey name => s!"Duplicate dsn key: '{name}'"
  | .noDatabase => "Database name required in dsn"
  | .noServer => "Host/Server required in dsn"
  | .noUser => "User/Username required in dsn"
  | .noPassword => "Password required in dsn"
  | .badPort value => s!"Invalid port in dsn: '{value}'"
  | .portExpected => "Port is expected for postgres connection"
  | .optionsNotAllowed => "Dsn key 'options' is only supported for postgres"
  | .unreadableDocument => "failed to parse config"
  | .unterminatedVariable name => "unterminated env var reference: $\x7b" ++ name ++ "\x7d"
  | .emptyVariable => "invalid env var reference: $\x7b\x7d"
  | .missingVariable name => s!"missing env var for config expansion: {name}"
  | .noConnections => "at least one [[connections]] entry is required"
  | .duplicateConnection engine server => s!"duplicate connection: {engine.name}:{server}"
  | .unknownDefault engine server =>
    let named := server.getD "*"
    s!"default connection {engine.name}:{named} is not configured"
  | .blankPrefix => "table_prefix must not be empty"
  | .badLogLevel level => s!"invalid log level: {level}"
  | .inFile path fault => s!"{path}: {fault.text}"

end ConfigFault

end SqlComposer
