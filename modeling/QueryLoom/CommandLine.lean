import QueryLoom.Batch
import QueryLoom.Codec.Config
import QueryLoom.Codec.Schema
import QueryLoom.CommandLine.Arguments
import QueryLoom.CommandLine.Report
import QueryLoom.Json.Reader
import QueryLoom.Statement.Reading

/-!
# Command line

What the command line prints for a call, given the files it can read.

## Implementation notes

The configuration is read first, then the schema, then the input. Without a configuration of its
own a call uses the one of the user, if there is one.
-/

namespace QueryLoom.CommandLine

/-- What the command line finds around it. -/
structure Environment where
  /-- The contents of the files that can be read. -/
  read : String → Option String
  /-- The place of the user's configuration. -/
  userConfig : Option String := none
  color : Bool := false

/-- What a call prints and how it exits. -/
structure Outcome where
  exit : Nat
  out : String := ""
  err : String := ""
deriving Repr, DecidableEq

/-- A call that fails with a message, behind what it has printed by then. -/
def failed (printed message : String) : Outcome :=
  { exit := 1, err := printed ++ "Error: " ++ message ++ "\n" }

/-- The configuration that a file holds. -/
def readConfig (environment : Environment) (path : String) : Option (Except Error Config) :=
  (environment.read path).map Config.parse

/-- The configuration of a call. -/
def loadConfig (environment : Environment) (given : Option String) : Except String Config :=
  match given, environment.userConfig with
  | some path, _ =>
    match readConfig environment path with
    | some (.ok config) => .ok config
    | _ => .error ("failed to load config " ++ path)
  | none, none =>
    .error (Error.config "no configuration directory on this platform").message
  | none, some path =>
    match readConfig environment path with
    | none => .ok {}
    | some config => config.mapError Error.message

/-- The schema of a call. -/
def loadSchema (environment : Environment) : Option String → Except String Schema
  | none => .ok {}
  | some path =>
    match environment.read path with
    | none => .error ("failed to read schema " ++ path)
    | some text =>
      match (Json.parse? text).bind Schema.ofJson? with
      | some schema => .ok schema
      | none => .error ("invalid schema " ++ path)

/-- What a call compiles: a list of commands or a query. -/
inductive Input where
  | commands (commands : List Command)
  | query (query : Query)

/-- The input that JSON stands for. -/
def Input.ofJson? (json : Json) : Option Input :=
  match json with
  | .array _ => (json.list? Command.ofJson?).map .commands
  | json => (Query.ofJson? json).map .query

/-- The input of a call. -/
def loadInput (environment : Environment) (path : String) : Except String Input :=
  match environment.read path with
  | none => .error ("failed to read " ++ path)
  | some text =>
    match (Json.parse? text).bind Input.ofJson? with
    | some input => .ok input
    | none => .error ("invalid IR in " ++ path)

/-- The statements of an input; those of commands in batches. -/
def Input.compile (c : Compiler) (limits : BatchLimits) : Input → Except Error (List Statement)
  | .commands list => do return (← c.batches limits list).1
  | .query q => do return [← c.query q]

/-- The line about the schema of a verbose call. -/
def schemaLine (color : Bool) (schema : Schema) : String :=
  painted color "2" "Schema:" ++ " " ++ toString schema.size ++ " entities\n"

/-- Compiles an input and reports its statements. -/
def compile (environment : Environment) (config : Config) (verbose : Bool) (input : String)
    (schema : Option String) (json : Bool) : Outcome :=
  let loaded := do
    let schema ← loadSchema environment schema
    let input ← loadInput environment input
    return (schema, input)
  match loaded with
  | .error message => failed "" message
  | .ok (schema, input) =>
    let opening := if verbose then schemaLine environment.color schema else ""
    match input.compile ⟨schema, config.conventions⟩ config.limits with
    | .error e => failed opening e.message
    | .ok statements =>
      let report :=
        if json then reportJson statements else reportText environment.color 1 statements
      { exit := 0, out := report, err := opening }

/-- What a call prints and how it exits. -/
def run (environment : Environment) (invocation : Invocation) : Outcome :=
  match loadConfig environment invocation.config with
  | .error message => failed "" message
  | .ok config =>
    match invocation.action with
    | .compile input schema json =>
      compile environment config invocation.verbose input schema json
    | .format name => { exit := 0, out := config.conventions.identifier name ++ "\n" }

/-- What arguments print and how they exit. -/
def respond (environment : Environment) (arguments : List String) : Outcome :=
  match Invocation.parse? arguments with
  | some invocation => run environment invocation
  | none => { exit := 2, err := "error: invalid arguments\n" }

/-- The files that a call may read. -/
def Invocation.paths (invocation : Invocation) : List String :=
  invocation.config.toList ++
    match invocation.action with
    | .compile input schema _ => schema.toList ++ [input]
    | .format _ => []

end QueryLoom.CommandLine
