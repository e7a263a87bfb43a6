import ClusterPorts.Failure
import ClusterPorts.Log

/-!
# Progress of an operation

An operation says that it has started, and then either that it has succeeded or
that it has failed. Progress can be written to the log or recorded; copies of a
recorder share what they record.
-/

namespace ClusterPorts

/-- A step of an operation's progress. -/
inductive Progress where
  | started (message : String)
  | succeeded (message : String)
  | failed (message : String)
deriving DecidableEq, Repr, Inhabited

namespace Progress

/-- Progress as a log entry of the cloud of a given name. -/
def entry (cloud : String) : Progress → LogEntry
  | .started message => ⟨.info, "▶ " ++ message, some cloud⟩
  | .succeeded message => ⟨.info, "✔ " ++ message, some cloud⟩
  | .failed message => ⟨.error, "✘ " ++ message, some cloud⟩

/-- The progress that an outcome of a step adds: none, unless it failed. -/
def ofOutcome : Except Failure α → List Progress
  | .ok _ => []
  | .error failure => [.failed failure.message]

/-- Whether a step of progress is a failure. -/
def isFailed : Progress → Bool
  | .failed _ => true
  | _ => false

/-- The mark and the message of a step, as a program's report shows them. -/
def line : Progress → String
  | .started message => "▶ " ++ message
  | .succeeded message => "✔ " ++ message
  | .failed message => "✘ " ++ message

end Progress

/-- Recorders, by the recording that each of them adds to. -/
structure Recorders where
  recordings : List (List Progress)
  handles : List Nat
deriving Repr

namespace Recorders

/-- One recorder with an empty recording. -/
def single : Recorders := ⟨[[]], [0]⟩

/-- The recording of a recorder. -/
def recording (recorders : Recorders) (handle : Nat) : List Progress :=
  (recorders.handles[handle]?.bind (recorders.recordings[·]?)).getD []

/-- Add to the recording of a recorder. -/
def report (recorders : Recorders) (handle : Nat) (steps : List Progress) : Recorders :=
  match recorders.handles[handle]? with
  | some i => { recorders with recordings := recorders.recordings.modify i (· ++ steps) }
  | none => recorders

/-- A further recorder that adds to the recording of a given one. -/
def copy (recorders : Recorders) (handle : Nat) : Recorders :=
  { recorders with handles := recorders.handles ++ [recorders.handles[handle]?.getD 0] }

/-- A further recorder with a recording of its own. -/
def add (recorders : Recorders) : Recorders :=
  ⟨recorders.recordings ++ [[]], recorders.handles ++ [recorders.recordings.length]⟩

end Recorders

end ClusterPorts
