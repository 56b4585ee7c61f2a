/-
  SqlComposer.Proofs.CommandLine.Orders — the words of a query, and the query read from
  them.

  A query is written as its options in any order, a double dash, and its SQL in words. An
  option sets its own part of the query and leaves the others alone; its value is taken as
  it stands, and so is every word behind the double dash, whatever they look like.

  Proved: written options are read one by one (`parseQuery_given`), their order does not
  matter because each sets a part of its own (`set_comm`), and so a query is read back from
  every way of writing it (`parse_written_query`).
-/

import SqlComposer.Proofs.CommandLine.Reading
import SqlComposer.Proofs.Text.Splitting

namespace SqlComposer.CommandLine

/-- An option of a query. -/
inductive Given where
  | config (path : String)
  | server (engine : Engine) (host : String)
  | json
  | verbose
  deriving DecidableEq, Repr

namespace Given

/-- The words an option is written in. -/
def words : Given → List String
  | .config path => ["--config", path]
  | .server engine host => ["--server", engine.name ++ ":" ++ host]
  | .json => ["--json"]
  | .verbose => ["-v"]

/-- The query `a` with the part that the option sets. -/
def set (a : QueryArguments) : Given → QueryArguments
  | .config path => { a with config := path }
  | .server engine host => { a with server := some (engine, host) }
  | .json => { a with json := true }
  | .verbose => { a with verbose := true }

end Given

/-- A host that is read as it is written: there is something of it, and no white space around it. -/
structure IsHost (host : String) : Prop where
  nonempty : host ≠ ""
  trimmed : Chars.Trimmed host.toList

/-- The options of a query; the server and the switches where it has them. -/
def given (a : QueryArguments) : List Given :=
  [.config a.config] ++ (a.server.map fun (engine, host) => .server engine host).toList ++
    (if a.json then [.json] else []) ++ (if a.verbose then [.verbose] else [])

theorem config_of_mem_given {a : QueryArguments} {path : String} (h : .config path ∈ given a) : path = a.config := by
  cases hs : a.server <;> simpa [given, hs] using h

theorem server_of_mem_given {a : QueryArguments} {engine : Engine} {host : String} (h : .server engine host ∈ given a) :
    a.server = some (engine, host) := by
  cases hs : a.server with
  | none => simp [given, hs] at h
  | some server =>
    obtain ⟨rfl, rfl⟩ : engine = server.1 ∧ host = server.2 := by simpa [given, hs] using h
    rfl

/-! ## One option -/

theorem ofText_name (engine : Engine) : Engine.ofText engine.name = .ok engine := by
  cases engine <;> rfl

/-- The first colon stands behind the engine's name, however many the host holds. -/
theorem parseServer_written (engine : Engine) {host : String} (h : IsHost host) :
    parseServer (engine.name ++ ":" ++ host) = .ok (engine, host) := by
  have hcolon : ':' ∉ engine.name.toList := by cases engine <;> decide
  have hsplit : Chars.splitFirst ':' (engine.name ++ ":" ++ host).toList = some (engine.name.toList, host.toList) := by
    rw [String.toList_append, String.toList_append, List.append_assoc, Chars.splitFirst_append hcolon]
    simp [Chars.splitFirst]
  have hhost : host.toList.isEmpty = false := by
    simpa using h.nonempty
  simp only [parseServer, hsplit, Chars.trim_of_trimmed h.trimmed, hhost, String.ofList_toList, ofText_name]
  rfl

theorem parseQuery_given {a : QueryArguments} {g : Given} (hhost : ∀ engine host, g = .server engine host → IsHost host)
    (rest : List String) : parseQuery a [] (g.words ++ rest) = parseQuery (g.set a) [] rest := by
  cases g with
  | config path => exact parseQuery_config a [] path rest
  | server engine host =>
    have hread := parseServer_written engine (hhost engine host rfl)
    have hstep := parseQuery_server a [] (engine.name ++ ":" ++ host) rest
    rw [hread] at hstep
    exact hstep
  | json => exact parseQuery_plain (by decide) (by decide) (by decide) (by decide) (by decide) a [] rest
  | verbose => exact parseQuery_plain (by decide) (by decide) (by decide) (by decide) (by decide) a [] rest

theorem parseQuery_dash (a : QueryArguments) (words rest : List String) :
    parseQuery a words ("--" :: rest) = finishQuery a (words ++ rest) :=
  parseQuery_plain (by decide) (by decide) (by decide) (by decide) (by decide) a words rest

/-! ## All options -/

theorem parseQuery_flatMap_given {options : List Given} (hhosts : ∀ engine host, .server engine host ∈ options → IsHost host)
    (a : QueryArguments) (rest : List String) :
    parseQuery a [] (options.flatMap Given.words ++ rest) = parseQuery (options.foldl Given.set a) [] rest := by
  induction options generalizing a with
  | nil => rfl
  | cons g options ih =>
    have hg : ∀ engine host, g = .server engine host → IsHost host := by
      rintro engine host rfl
      exact hhosts engine host List.mem_cons_self
    have hrest := ih fun engine host hmem => hhosts engine host (List.mem_cons_of_mem g hmem)
    rw [List.flatMap_cons, List.append_assoc, parseQuery_given hg, hrest, List.foldl_cons]

/-- Two options of one query set different parts of it, or the same part alike. -/
theorem set_comm {a : QueryArguments} {g g' : Given} (h : g ∈ given a) (h' : g' ∈ given a) (b : QueryArguments) :
    g'.set (g.set b) = g.set (g'.set b) := by
  cases g with
  | config path =>
    cases g' with
    | config path' => rw [config_of_mem_given h, config_of_mem_given h']
    | _ => rfl
  | server engine host =>
    cases g' with
    | server engine' host' =>
      have heq := (server_of_mem_given h).symm.trans (server_of_mem_given h')
      obtain ⟨rfl, rfl⟩ := Prod.mk.inj (Option.some.inj heq)
      rfl
    | _ => rfl
  | json => cases g' <;> rfl
  | verbose => cases g' <;> rfl

/-- The options of a query make it up, but for its SQL. -/
theorem foldl_given (a : QueryArguments) : (given a).foldl Given.set {} = { a with sql := "" } := by
  obtain ⟨config, server, json, verbose, sql⟩ := a
  cases server <;> cases json <;> cases verbose <;> rfl

/-- A query is read back from its options in any order, and from its SQL in any words behind the double dash. -/
theorem parse_written_query {a : QueryArguments} (hhost : ∀ engine host, a.server = some (engine, host) → IsHost host)
    {options : List Given} (hoptions : options.Perm (given a)) {words : List String} (hsql : a.sql = Text.join " " words)
    (hblank : Text.isBlank a.sql = false) :
    parse ("query" :: (options.flatMap Given.words ++ "--" :: words)) = .ok (.query a) := by
  have hhosts : ∀ engine host, .server engine host ∈ options → IsHost host := fun engine host hmem =>
    hhost engine host (server_of_mem_given (hoptions.mem_iff.mp hmem))
  have hset : options.foldl Given.set {} = { a with sql := "" } := by
    rw [← foldl_given a]
    refine hoptions.foldl_eq' (fun g hg g' hg' b => ?_) ({} : QueryArguments)
    exact set_comm (hoptions.mem_iff.mp hg) (hoptions.mem_iff.mp hg') b
  have hread := parseQuery_flatMap_given hhosts {} ("--" :: words)
  rw [hset, parseQuery_dash, List.nil_append, finishQuery, ← hsql, hblank] at hread
  exact hread

/-- A query whose file, host and words all look like something else. -/
def sampleQuery : QueryArguments where
  config := "--server"
  server := some (.postgres, "::1:5432")
  json := true
  verbose := true
  sql := "--config=x -- -v  --help"

theorem parse_written_query_of_sample :
    IsHost "::1:5432" ∧ [.verbose, .server .postgres "::1:5432", .json, .config "--server"].Perm (given sampleQuery) ∧
      sampleQuery.sql = Text.join " " ["--config=x", "--", "-v ", "--help"] ∧ Text.isBlank sampleQuery.sql = false ∧
      parse ["query", "-v", "--server", "postgres:::1:5432", "--json", "--config", "--server", "--", "--config=x", "--",
        "-v ", "--help"] = .ok (.query sampleQuery) := by
  have hhost : IsHost "::1:5432" := by
    constructor
    · decide
    · constructor <;> simp [isBlank]
  have hoptions : [.verbose, .server .postgres "::1:5432", .json, .config "--server"].Perm (given sampleQuery) := by decide
  have hsql : sampleQuery.sql = Text.join " " ["--config=x", "--", "-v ", "--help"] := by decide
  have hblank : Text.isBlank sampleQuery.sql = false := by decide
  have hhosts : ∀ engine host, sampleQuery.server = some (engine, host) → IsHost host := by
    intro engine host h
    obtain ⟨-, rfl⟩ := Prod.mk.inj (Option.some.inj h)
    exact hhost
  exact ⟨hhost, hoptions, hsql, hblank, parse_written_query hhosts hoptions hsql hblank⟩

end SqlComposer.CommandLine
