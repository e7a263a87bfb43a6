import ClusterPorts.CommandLine.Program

/-!
# The command

The program as it is started from a shell: its arguments, its environment, its
configuration file and its output. It has no connection to a network of its own,
so that every request is one that no server answers; a program that has one runs
`CommandLine.run` with it.
-/

namespace ClusterPorts.CommandLine

/-- The variables that stand in for flags. -/
def readEnvironment : IO Environment := do
  let flags := Flag.port :: Flag.common
  let values ← flags.mapM fun flag => do
    return (← IO.getEnv flag.variableName).map (flag.variableName, ·)
  return values.filterMap id

/-- What is found under a path. -/
def readContents (path : String) : IO FileContents := do
  try
    match String.fromUTF8? (← IO.FS.readBinFile path) with
    | some s => return .text s
    | none => return .notText
  catch
    | .noFileOrDirectory _ _ _ => return .missing
    | .inappropriateType _ _ _ => return .directory
    | other => return .unreadable (toString other)

/-- The path of the configuration file, if there is one. -/
def configPath (environment : Environment) (args : List String) : Option String :=
  match parse environment args with
  | .ok invocation => invocation.text? .config
  | .error _ => none

/-- A log entry on a line. -/
def entryLine (entry : LogEntry) : String :=
  entry.level.label ++ " " ++ entry.message ++ (match entry.cloud with
    | some name => " cloud=" ++ Text.quoted name
    | none => "")

/-- What is said about a command line that cannot be read. -/
def usageLine (fault : UsageFault) : String := fault.message?.getD ("error: " ++ fault.kind)

end ClusterPorts.CommandLine

open ClusterPorts ClusterPorts.CommandLine in
/-- Run the program. -/
def main (args : List String) : IO UInt32 := do
  let environment ← readEnvironment
  let contents ←
    match configPath environment args with
    | some path => readContents path
    | none => pure .missing
  let (outcome, _) := execute (Azure.World.silent ⟨0⟩) () environment (fun _ => contents) args
  for entry in outcome.entries do
    IO.println (entryLine entry)
  match outcome with
  | .usage fault => IO.eprintln (usageLine fault)
  | _ =>
    match outcome.complaint with
    | some complaint => IO.eprintln complaint
    | none => pure ()
  return outcome.code.toUInt32
