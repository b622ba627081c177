/-!
# Arguments

The arguments of the command line: options in short and long form, the subcommand, and its
operands.

## Implementation notes

Arguments are first split into options and operands, then shared out: what stands before the
subcommand belongs to the whole call. An option is given at most once on either side of the
subcommand, and the one behind it counts. Short options may stand in a cluster, with a value
behind them in the same argument or in the next one; a long option takes its value behind `=` or
from the next argument. Behind `--` everything is an operand.
-/

namespace QueryLoom.CommandLine

/-- What the command line is asked to do. -/
inductive Action where
  | compile (input : String) (schema : Option String) (json : Bool)
  | format (name : String)
deriving Repr, DecidableEq

/-- A call of the command line. -/
structure Invocation where
  config : Option String
  verbose : Bool
  action : Action
deriving Repr, DecidableEq

/-- The options. -/
inductive Switch where
  | config
  | verbose
  | schema
  | format
deriving Repr, DecidableEq

namespace Switch

/-- The option of a letter. -/
def ofLetter? : Char → Option Switch
  | 'c' => some .config
  | 'v' => some .verbose
  | 's' => some .schema
  | 'f' => some .format
  | _ => none

/-- The option of a name. -/
def ofName? : String → Option Switch
  | "config" => some .config
  | "verbose" => some .verbose
  | "schema" => some .schema
  | "format" => some .format
  | _ => none

/-- Whether an option takes a value. -/
def takesValue (switch : Switch) : Bool := switch != .verbose

/-- Whether an option may stand on both sides of the subcommand. -/
def isGlobal (switch : Switch) : Bool := switch == .config || switch == .verbose

end Switch

/-- An option with its value, an operand, or the mark between them. -/
inductive Argument where
  | option (switch : Switch) (value : String)
  | operand (text : String)
  | separator
deriving Repr, DecidableEq

namespace Argument

/-- Whether an argument is an option. -/
def isOption : Argument → Bool
  | .option .. => true
  | _ => false

/-- The text of an operand. -/
def operand? : Argument → Option String
  | .operand text => some text
  | _ => none

/-- The option and value of an argument. -/
def option? : Argument → Option (Switch × String)
  | .option switch value => some (switch, value)
  | _ => none

end Argument

/-- Whether a text is read as options. -/
def looksLikeOption (text : String) : Bool :=
  match text.toList with
  | '-' :: _ :: _ => true
  | _ => false

/-- The options of a cluster; the last may wait for its value in the next argument. -/
def cluster? : List Char → Option (List Argument × Option Switch)
  | [] => some ([], none)
  | letter :: rest =>
    match Switch.ofLetter? letter with
    | none => none
    | some switch =>
      if switch.takesValue then
        match rest with
        | [] => some ([], some switch)
        | '=' :: value => some ([.option switch (String.ofList value)], none)
        | value => some ([.option switch (String.ofList value)], none)
      else
        (cluster? rest).map fun (options, waiting) => (.option switch "" :: options, waiting)

/-- A long option; it too may wait for its value. -/
def long? (text : List Char) : Option (List Argument × Option Switch) :=
  let name := text.takeWhile (· != '=')
  match Switch.ofName? (String.ofList name), text.drop name.length with
  | none, _ => none
  | some switch, [] =>
    if switch.takesValue then some ([], some switch) else some ([.option switch ""], none)
  | some switch, _ :: value =>
    if switch.takesValue then some ([.option switch (String.ofList value)], none) else none

/-- The arguments of a call; `waiting` is an option whose value comes next. -/
def arguments? (waiting : Option Switch) : List String → Option (List Argument)
  | [] => if waiting.isSome then none else some []
  | text :: rest =>
    match waiting with
    | some switch =>
      if looksLikeOption text then none
      else (arguments? none rest).map (.option switch text :: ·)
    | none =>
      match text.toList with
      | ['-', '-'] => some (.separator :: rest.map .operand)
      | '-' :: '-' :: name =>
        match long? name with
        | some (options, waiting) => (arguments? waiting rest).map (options ++ ·)
        | none => none
      | '-' :: letter :: letters =>
        match cluster? (letter :: letters) with
        | some (options, waiting) => (arguments? waiting rest).map (options ++ ·)
        | none => none
      | _ => (arguments? none rest).map (.operand text :: ·)

/-- Whether a compilation is reported as JSON; as text unless told otherwise. -/
def isJson? : Option String → Option Bool
  | none | some "text" => some false
  | some "json" => some true
  | some _ => none

/-- The path that an option gives; it is not empty. -/
def path? (options : List (Switch × String)) (switch : Switch) : Option (Option String) :=
  match options.lookup switch with
  | some "" => none
  | path => some path

/-- What a subcommand with its operands and options asks for. -/
def Action.parse? (subcommand : String) (operands : List String)
    (options : List (Switch × String)) : Option Action :=
  match subcommand, operands with
  | "compile", [input] =>
    if input.isEmpty then none
    else do return .compile input (← path? options .schema) (← isJson? (options.lookup .format))
  | "format", [name] => if options.all (·.1.isGlobal) then some (.format name) else none
  | _, _ => none

/-- The options of one side, each given once. -/
def optionsOf? (arguments : List Argument) : Option (List (Switch × String)) :=
  let options := arguments.filterMap Argument.option?
  if (options.map (·.1)).Nodup then some options else none

/-- The call that arguments make. -/
def Invocation.parse? (texts : List String) : Option Invocation := do
  let arguments ← arguments? none texts
  let before := arguments.takeWhile Argument.isOption
  match arguments.drop before.length with
  | .operand subcommand :: after =>
    let shared ← optionsOf? before
    if !shared.all (·.1.isGlobal) then none
    else
      let own ← optionsOf? after
      let action ← Action.parse? subcommand (after.filterMap Argument.operand?) own
      let sharedPath ← path? shared .config
      let ownPath ← path? own .config
      return {
        config := ownPath <|> sharedPath
        verbose := (shared ++ own).any (·.1 == .verbose)
        action }
  | _ => none

end QueryLoom.CommandLine
