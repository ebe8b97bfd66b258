import RowSearch.CommandLine.Basic

/-! # The program

Reads the files a command line names, prints the outcome and ends with its code.
-/
namespace RowSearch.CommandLine

def Invocation.files (i : Invocation) : List String :=
  let ofSource (s : Source) : List String := s.request :: s.template?.toList
  let job := match i.job with
    | .compile s data? => ofSource s ++ data?.toList
    | .run s data _ | .count s data => ofSource s ++ [data]
  i.config?.toList ++ job

def filesOf (args : List String) : List String :=
  match Invocation.ofArguments args with
  | .ok i => i.files
  | .error _ => []

def readFile? (path : String) : IO (Option String) := do
  match ← (IO.FS.readFile path).toBaseIO with
  | .ok text => return some text
  | .error _ => return none

def loadEnvironment (paths : List String) : IO Environment := do
  let files ← paths.mapM fun path => return (path, ← readFile? path)
  let values ← [Config.pageSizeVariable, Config.logVariable].mapM fun name =>
    return (name, ← IO.getEnv name)
  return ⟨fun path => (files.lookup path).join, fun name => (values.lookup name).join⟩

def Failure.report (f : Failure) : String :=
  match f.causeText? with
  | some cause => s!"Error: {f.message}\n\nCaused by:\n    {cause}"
  | none => s!"Error: {f.message}"

def Outcome.complaint? : Outcome → Option String
  | .misused => some programHelp
  | .failed _ f => some f.report
  | .told _ | .done _ _ => none

end RowSearch.CommandLine

open RowSearch.CommandLine in
def main (args : List String) : IO UInt32 := do
  let env ← loadEnvironment (filesOf args)
  let outcome := outcome env args
  outcome.log.forM fun n => IO.eprintln n.line
  outcome.complaint?.forM IO.eprintln
  IO.print outcome.output
  return outcome.code.toUInt32
