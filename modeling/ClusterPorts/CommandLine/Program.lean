import ClusterPorts.Azure.Factory
import ClusterPorts.CommandLine.Merge

/-!
# The program

The program prepares a cluster or cleans it up, as its command line and its
configuration file say, and tells with its exit code how that went.
-/

namespace ClusterPorts

/-- A note as a log entry: progress carries the name of its cloud. -/
def Note.entry (cloud : String) : Note → LogEntry
  | log entry => entry
  | progress step => step.entry cloud

namespace CommandLine

/-- How the program ends. -/
inductive Ending where
  | success
  | badConfiguration
  | operationFailed
deriving DecidableEq, Repr

namespace Ending

/-- The name of an ending. -/
def name : Ending → String
  | success => "Success"
  | badConfiguration => "ConfigError"
  | operationFailed => "RuntimeError"

/-- The exit code of an ending. -/
def code : Ending → Nat
  | success => 0
  | badConfiguration => 1
  | operationFailed => 2

/-- The exit code of a program whose command line cannot be read. -/
def usageCode (fault : UsageFault) : Nat := if fault.isWanted then 0 else 2

/-- The exit code of a program that has broken down. -/
def crashCode : Nat := 101

end Ending

open Azure

variable {σ : Type}

/-- The clouds that the program knows. -/
def registry (world : World σ) : Registry (Run σ) :=
  Registry.register ∅ Azure.name (Azure.factory world)

/-- Leave a log entry. -/
def log (entry : LogEntry) : Run σ Unit := Run.takeNote (.log entry)

/-- Do what a command asks of a cloud. -/
def perform (verb : Verb) (settings : Settings) (cloud : Cloud (Run σ)) :
    Run σ (Except Failure Unit) :=
  match verb with
  | .prepare => cloud.prepare settings.ports
  | .cleanup => cloud.cleanup

/-- Carry out a command. -/
def run (world : World σ) (verb : Verb) (settings : Settings) : Run σ Ending := do
  log (.info "Registering Azure cloud")
  log (Registry.registered Azure.name)
  let (entries, made) := (registry world).create settings
  entries.forM log
  match made with
  | .error failure => do
    log (.error ("Failed to create cloud: " ++ failure.message))
    return .badConfiguration
  | .ok cloud => do
    if settings.operation.dryRun then log (.info "Dry-run mode: no changes will be made")
    match ← perform verb settings cloud with
    | .ok () => return .success
    | .error failure => do
      log (.error ("Operation failed: " ++ failure.message))
      return .operationFailed

/-- What the program comes to: before anything is done, or at the end. -/
inductive Outcome where
  | usage (fault : UsageFault)
  | setup (fault : SetupFault)
  | finished (ending : Ending) (entries : List LogEntry)
  | crashed (entries : List LogEntry)

namespace Outcome

/-- The exit code. -/
def code : Outcome → Nat
  | usage fault => Ending.usageCode fault
  | setup _ => Ending.badConfiguration.code
  | finished ending _ => ending.code
  | crashed _ => Ending.crashCode

/-- What is printed of the log. -/
def entries : Outcome → List LogEntry
  | finished _ entries => entries
  | crashed entries => entries
  | _ => []

/-- What is said about the settings, if they are what is wrong. -/
def complaint : Outcome → Option String
  | setup fault => some ("Configuration error: " ++ fault.message)
  | _ => none

/-- Whether anything is said besides the log. -/
def isLoud : Outcome → Bool
  | usage fault => !fault.isWanted
  | setup _ => true
  | finished _ _ => false
  | crashed _ => true

end Outcome

/-- The notes of a session as log entries, as far as they are printed. -/
def printed (level : ClusterPorts.Level) (notes : List Note) : List LogEntry :=
  (notes.map (Note.entry Azure.name)).filter (·.isAt level)

/-- Run the program. -/
def execute (world : World σ) (outside : σ) (environment : Environment)
    (files : String → FileContents) (args : List String) : Outcome × σ :=
  match parse environment args with
  | .error fault => (.usage fault, outside)
  | .ok invocation =>
    match invocation.settings files with
    | .error fault => (.setup fault, outside)
    | .ok settings =>
      match (run world invocation.verb settings).run.run { outside } with
      | (.ok ending, session) =>
        (.finished ending (printed invocation.level session.notes), session.outside)
      | (.error .crash, session) =>
        (.crashed (printed invocation.level session.notes), session.outside)

end CommandLine

end ClusterPorts
