import ClusterPorts.Text.Letter

/-!
# Log entries

Every part of the library that has something to say says it as a log entry. What
is printed is decided at the end, by the level that was asked for.
-/

namespace ClusterPorts

/-- The weight of a log entry, from the lightest to the heaviest. -/
inductive Level where
  | trace
  | debug
  | info
  | warn
  | error
deriving DecidableEq, Repr, Inhabited

namespace Level

/-- The heavier, the larger. -/
def weight : Level → Nat
  | .trace => 0
  | .debug => 1
  | .info => 2
  | .warn => 3
  | .error => 4

/-- The name of a level in the log. -/
def label : Level → String
  | .trace => "TRACE"
  | .debug => "DEBUG"
  | .info => "INFO"
  | .warn => "WARN"
  | .error => "ERROR"

/-- The level of a name, in any case of its letters; other names mean `info`.
No letter outside ASCII has one of the letters of these names as its small
letter, so the case of ASCII letters is all there is to look at. -/
def ofName (name : String) : Level :=
  let name := Text.lower name
  if name = "trace" then .trace
  else if name = "debug" then .debug
  else if name = "warn" then .warn
  else if name = "error" then .error
  else .info

end Level

/-- A log entry. Progress of a cloud's operation carries the cloud's name. -/
structure LogEntry where
  level : Level
  message : String
  cloud : Option String := none
deriving DecidableEq, Repr, Inhabited

namespace LogEntry

def debug (message : String) : LogEntry := ⟨.debug, message, none⟩

def info (message : String) : LogEntry := ⟨.info, message, none⟩

def warn (message : String) : LogEntry := ⟨.warn, message, none⟩

def error (message : String) : LogEntry := ⟨.error, message, none⟩

/-- Whether an entry is printed at a level. -/
def isAt (level : Level) (entry : LogEntry) : Bool := level.weight ≤ entry.level.weight

end LogEntry

end ClusterPorts
