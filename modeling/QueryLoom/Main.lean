import QueryLoom.CommandLine

/-!
# Main

The program: reads the files that a call names and prints what the call answers.
-/

namespace QueryLoom.CommandLine

/-- The contents of a file, if it can be read as text. -/
def contents? (path : String) : IO (Option String) := do
  try return some (← IO.FS.readFile path)
  catch _ => return none

/-- The place of the user's configuration. -/
def userConfig? : IO (Option String) := do
  let directory ← match ← IO.getEnv "XDG_CONFIG_HOME" with
    | some directory => pure (some directory)
    | none => do pure ((← IO.getEnv "HOME").map (· ++ "/.config"))
  return directory.map (· ++ "/qail-oracle/config.toml")

/-- Whether to write in colours. -/
def wantsColor : IO Bool := do
  if (← IO.getEnv "NO_COLOR").isSome then return false
  else (← IO.getStdout).isTty

end QueryLoom.CommandLine

open QueryLoom.CommandLine in
/-- Answers a call. -/
def main (arguments : List String) : IO UInt32 := do
  let userConfig ← userConfig?
  let invocation := Invocation.parse? arguments
  let paths := userConfig.toList ++ (invocation.map Invocation.paths).getD []
  let files ← paths.mapM fun path => do return (path, ← contents? path)
  let outcome := respond {
    read := fun path => (files.lookup path).join
    userConfig
    color := ← wantsColor } arguments
  IO.print outcome.out
  IO.eprint outcome.err
  return outcome.exit.toUInt32
