import VectorQuery.CommandLine.Run
import VectorQuery.CommandLine.Usage
/-! The program: it reads the file of settings and the variables of the environment that the file refers
to, and prints what the command line asks for. -/
namespace VectorQuery.Program
open CommandLine

/-- What stands at a path, if anything does. -/
def entryAt? (path : String) : IO (Option FileEntry) := do
  try
    return some (.text (← IO.FS.readFile path))
  catch
    | .noFileOrDirectory .. => return none
    | .inappropriateType .. => return some .directory
    | e => throw e

/-- The variables that the settings in a file refer to. -/
def environmentOf (entry : Option FileEntry) : IO Environment := do
  let names := match entry with
    | some (.text s) => ((YamlLibrary.read s.toList).toOption.map Environment.references).getD []
    | _ => []
  let values ← names.mapM fun name => do return (name, ← IO.getEnv name)
  return fun name => (values.lookup name).join

/-- Every attempt fails: the program has no network of its own, so it can print a query and cannot
send it. -/
def unreachable (_ : Nat) : Outcome := .loss .connect "no network available"

/-- The report of a command line. -/
def report (argv : List String) : IO (Checked Report) := do
  match Arguments.read argv with
  | .error stop => return .ok stop.report
  | .ok a =>
    let path := Settings.pathOf (some a.configFile)
    let entry ← entryAt? path
    let environment ← environmentOf entry
    let files : Files := fun p => if p = path then entry else none
    return (run files environment unreachable a).1

end VectorQuery.Program

open VectorQuery.Program in
/-- The program: prints the report of its command line and ends with its exit code. -/
def main (argv : List String) : IO UInt32 := do
  match ← report argv with
  | .ok r =>
    IO.print r.out
    IO.eprint r.err
    return r.exitCode.toUInt32
  | .error fault =>
    IO.eprintln (fault.message?.getD "Unexpected failure")
    return 1
