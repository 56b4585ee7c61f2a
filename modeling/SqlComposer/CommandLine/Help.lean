/-
  SqlComposer.CommandLine.Help — how the commands are used.
-/

import SqlComposer.CommandLine.Arguments

namespace SqlComposer.CommandLine

/-- The lines of a help topic. -/
def HelpTopic.lines : HelpTopic → List String
  | .root => [
      "fluentsql - run SQL against configured MySQL/PostgreSQL connections",
      "",
      "USAGE:",
      "  fluentsql <COMMAND> [OPTIONS]",
      "",
      "COMMANDS:",
      "  query         Run one SQL statement on a connection",
      "  ping          Connect every configured connection",
      "",
      "Run `fluentsql <command> --help` for more."]
  | .query => [
      "USAGE:",
      "  fluentsql query [OPTIONS] <SQL>...",
      "",
      "OPTIONS:",
      "  --config <FILE>         Config file path (default: fluentsql.toml)",
      "  --server <ENGINE:HOST>  Connection to use (default: config default)",
      "  --json                  Print rows as JSON lines",
      "  -v, --verbose           Log executed SQL at debug level",
      "  -h, --help              Print help"]
  | .ping => [
      "USAGE:",
      "  fluentsql ping [OPTIONS]",
      "",
      "OPTIONS:",
      "  --config <FILE>         Config file path (default: fluentsql.toml)",
      "  -v, --verbose           Log connection details at debug level",
      "  -h, --help              Print help"]

end SqlComposer.CommandLine
