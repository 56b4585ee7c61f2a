/-
  SqlComposer.CommandLine.Arguments — what the words of a command line ask for.

  Options of a query come before its SQL; the words from the first that is no option on
  are the SQL, and those options still known among them keep their meaning up to a
  double dash. The value of an option is the next word, whatever it looks like, or
  stands behind an equals sign.
-/

import SqlComposer.Syntax.Vocabulary

namespace SqlComposer.CommandLine

inductive HelpTopic where
  | root
  | query
  | ping
  deriving DecidableEq, Repr

def defaultConfig : String := "fluentsql.toml"

structure QueryArguments where
  config : String := defaultConfig
  /-- The connection to use in the place of the default one. -/
  server : Option (Engine × String) := none
  json : Bool := false
  verbose : Bool := false
  sql : String := ""
  deriving DecidableEq, Repr

structure PingArguments where
  config : String := defaultConfig
  verbose : Bool := false
  deriving DecidableEq, Repr

inductive Command where
  | help (topic : HelpTopic)
  | query (a : QueryArguments)
  | ping (a : PingArguments)
  deriving DecidableEq, Repr

/-! ## Faults -/

inductive UsageFault where
  | unknownCommand (word : String)
  | malformedServer (value : String)
  | badEngine (fault : ConfigFault)
  | missingValue (option : String)
  | unknownOption (word : String)
  | noSql
  | unexpectedArgument (word : String)

def UsageFault.text : UsageFault → String
  | .unknownCommand word => s!"unknown command: {word}"
  | .malformedServer value => s!"--server expects ENGINE:HOST, got: {value}"
  | .badEngine fault => (Error.config fault).display
  | .missingValue option => s!"{option} requires a value"
  | .unknownOption word => s!"unknown option: {word}"
  | .noSql => "query requires SQL text (see `fluentsql query --help`)"
  | .unexpectedArgument word => s!"unexpected argument: {word}"

/-! ## Values -/

/-- An engine and a host with a colon between them. -/
def parseServer (value : String) : Except UsageFault (Engine × String) :=
  match Chars.splitFirst ':' value.toList with
  | none => .error (.malformedServer value)
  | some (engine, host) =>
    let host := Chars.trim host
    if host.isEmpty then .error (.malformedServer value)
    else
      match Engine.ofText (String.ofList engine) with
      | .ok e => .ok (e, String.ofList host)
      | .error f => .error (.badEngine f)

/-- `cs` without `lead` in front of it, however often it stands there; `fuel` is the length. -/
def stripLeads (lead : List Char) : Nat → List Char → List Char
  | 0, cs => cs
  | fuel + 1, cs =>
    match Chars.stripLead lead cs with
    | some rest => stripLeads lead fuel rest
    | none => cs

/-- The value behind an option and its equals sign; none for a word that is not this option. -/
def inlineValue (option word : String) : Option String :=
  let lead := (option ++ "=").toList
  match Chars.stripLead lead word.toList with
  | some rest => some (String.ofList (stripLeads lead rest.length rest))
  | none => none

def isHelp (word : String) : Bool := word == "-h" || word == "--help"

def isVerbose (word : String) : Bool := word == "-v" || word == "--verbose"

/-! ## Commands -/

/-- A query of these words; they must not be blank together. -/
def finishQuery (a : QueryArguments) (words : List String) : Except UsageFault Command :=
  let sql := Text.join " " words
  if Text.isBlank sql then .error .noSql else .ok (.query { a with sql })

/-- Reads the words of a query behind the options in `a` and the words of SQL read so far. -/
def parseQuery (a : QueryArguments) (words : List String) : List String → Except UsageFault Command
  | [] => finishQuery a words
  | word :: rest =>
    if isHelp word then .ok (.help .query)
    else if word == "--config" then
      match rest with
      | [] => .error (.missingValue word)
      | value :: rest => parseQuery { a with config := value } words rest
    else if let some value := inlineValue "--config" word then parseQuery { a with config := value } words rest
    else if word == "--server" then
      match rest with
      | [] => .error (.missingValue word)
      | value :: rest =>
        match parseServer value with
        | .error f => .error f
        | .ok server => parseQuery { a with server := some server } words rest
    else if let some value := inlineValue "--server" word then
      match parseServer value with
      | .error f => .error f
      | .ok server => parseQuery { a with server := some server } words rest
    else if word == "--json" then parseQuery { a with json := true } words rest
    else if isVerbose word then parseQuery { a with verbose := true } words rest
    else if word == "--" then finishQuery a (words ++ rest)
    else if word.toList.head? == some '-' && words.isEmpty then .error (.unknownOption word)
    else parseQuery a (words ++ [word]) rest

def parsePing (a : PingArguments) : List String → Except UsageFault Command
  | [] => .ok (.ping a)
  | word :: rest =>
    if isHelp word then .ok (.help .ping)
    else if word == "--config" then
      match rest with
      | [] => .error (.missingValue word)
      | value :: rest => parsePing { a with config := value } rest
    else if let some value := inlineValue "--config" word then parsePing { a with config := value } rest
    else if isVerbose word then parsePing { a with verbose := true } rest
    else .error (.unexpectedArgument word)

/-- The command in the words behind the program's name. -/
def parse : List String → Except UsageFault Command
  | [] => .ok (.help .root)
  | word :: rest =>
    if isHelp word then .ok (.help .root)
    else if word == "query" then parseQuery {} [] rest
    else if word == "ping" then parsePing {} rest
    else .error (.unknownCommand word)

end SqlComposer.CommandLine
