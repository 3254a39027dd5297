import ImageBuild.Command.Run
import Std.Time

/-!
# The command line program

Reads the files that a command names, runs the command and prints its outcome.
-/
namespace ImageBuild.Command

/-- The text of a file, if it can be read. -/
def readText (path : String) : IO (Option String) := do
  try
    return some (← IO.FS.readFile path)
  catch _ =>
    return none

/-- What a task may read. -/
def gather (task : Task) : IO Inputs := do
  let paths := task.paths
  let files ← (paths.filter (· != "-")).mapM fun path => do return (path, ← readText path)
  let stdin ← if paths.contains "-" then (← IO.getStdin).readToEnd else pure ""
  let now ← Std.Time.Timestamp.now
  return {
    files := fun path => (files.lookup path).join
    stdin := stdin
    cluster := none
    now := Int64.ofInt now.toSecondsSinceUnixEpoch.val }

/-- The variables of the environment that options may take their values from. -/
def environment : IO Environment := do
  let names := [
    "KILN_BUILD_INIT_IMAGE", "KILN_BUILD_INIT_WINDOWS_IMAGE", "KILN_COMPLETION_IMAGE",
    "KILN_COMPLETION_WINDOWS_IMAGE", "KILN_REBASE_IMAGE", "KILN_MAX_PLATFORM_API"]
  let values ← names.mapM fun name => do return (name, ← IO.getEnv name)
  return fun name => (values.lookup name).join

def report : Outcome → IO Unit
  | .done text => IO.print text
  | .failed e => IO.eprintln ("Error: " ++ e.message)
  | .misused e => IO.eprintln ("error: " ++ e.message)

end ImageBuild.Command

open ImageBuild.Command in
/-- Runs a list of arguments. -/
def main (args : List String) : IO UInt32 := do
  let result ← match Invocation.ofArguments (← environment) args with
    | .error e => pure (Outcome.misused e)
    | .ok (.run output task) => do
      let inputs ← gather task
      pure ((Invocation.run output task).outcome inputs)
    | .ok i => pure (i.outcome ⟨fun _ => none, "", none, 0⟩)
  report result
  return result.exitCode
