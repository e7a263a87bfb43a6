import ClusterPorts.Http.Message
import ClusterPorts.Network.Plan
import ClusterPorts.Time.Moment
import ClusterPorts.Time.Span

/-!
# Sessions

A session is what lasts from one request to the next: the state of the world
outside, how much time has passed, the access token, and the notes that were
taken. The world outside is whatever answers requests and tells the time. Every
exchange with it takes some time, if only a moment.
-/

namespace ClusterPorts.Azure

/-- What the world outside has to offer, over states `σ` of it. -/
structure World (σ : Type) where
  /-- The answer to a request, unless none comes, and how long it took. -/
  exchange : Http.Request → σ → (Option Http.Response × Span) × σ
  /-- What the clock on the wall says. It may be set at any time. -/
  clock : σ → Moment × σ

/-- A world in which no request is answered. -/
def World.silent {σ : Type} (now : Moment) : World σ where
  exchange _ outside := ((none, ⟨0⟩), outside)
  clock outside := (now, outside)

/-- An access token, until when it is valid. -/
structure Token where
  secret : String
  expires : Moment
deriving DecidableEq, Repr, Inhabited

/-- What lasts from one request to the next. -/
structure Session (σ : Type) where
  outside : σ
  /-- How much time has passed, by a clock that is never set. -/
  elapsed : Span := ⟨0⟩
  token : Option Token := none
  notes : List Note := []

/-- Why an action does not come to its end. -/
inductive Stop where
  | failure (failure : Failure)
  /-- The program itself breaks down. -/
  | crash
deriving DecidableEq, Repr

/-- Something that is done in a session. -/
abbrev Act (σ α : Type) := ExceptT Stop (StateM (Session σ)) α

/-- By when something has to be done, and what the failure is if it is not. -/
structure Limit where
  deadline : Span
  failure : Failure

namespace Act

variable {σ : Type}

/-- End with a failure. -/
def fail {α : Type} (failure : Failure) : Act σ α := throw (.failure failure)

/-- Take a note. -/
def takeNote (note : Note) : Act σ Unit :=
  modify fun session => { session with notes := session.notes ++ [note] }

/-- Leave a log entry. -/
def log (entry : LogEntry) : Act σ Unit := takeNote (.log entry)

/-- Fail if the time of a limit is over. -/
def hold : Option Limit → Act σ Unit
  | none => pure ()
  | some limit => do
    if limit.deadline.nanos < (← get).elapsed.nanos then fail limit.failure

/-- Read the clock on the wall. -/
def now (world : World σ) : Act σ Moment := do
  let session ← get
  let (moment, outside) := world.clock session.outside
  set { session with outside }
  return moment

/-- Let time pass. Who wakes up at the deadline has no time left for anything. -/
def sleep (limit : Limit) (span : Span) : Act σ Unit := do
  modify fun session => { session with elapsed := ⟨session.elapsed.nanos + span.nanos⟩ }
  if limit.deadline.nanos ≤ (← get).elapsed.nanos then fail limit.failure

/-- Send a request and wait for the answer, no longer than to the limit. -/
def deliver (world : World σ) (limit : Option Limit) (request : Http.Request) :
    Act σ (Option Http.Response) := do
  let session ← get
  let ((answer, span), outside) := world.exchange request session.outside
  set { session with outside, elapsed := ⟨session.elapsed.nanos + span.nanos + 1⟩ }
  hold limit
  return answer

/-- Send a request, if it can be sent, and wait for the answer. -/
def send (world : World σ) (limit : Option Limit) (request : Except Http.Fault Http.Request) :
    Act σ (Except Http.Fault Http.Response) := do
  match request with
  | .error fault => return .error fault
  | .ok request =>
    match ← deliver world limit request with
    | some response => return .ok response
    | none => return .error (.unanswered request.url.text)

end Act

/-- The breakdown of the program. -/
inductive Crash where
  | crash
deriving DecidableEq, Repr

/-- Something that is done in a session to its end, unless the program breaks
down. -/
abbrev Run (σ α : Type) := ExceptT Crash (StateM (Session σ)) α

/-- Do something to its end: a failure is an outcome as well. -/
def Act.attempt {σ α : Type} (act : Act σ α) : Run σ (Except Failure α) :=
  ExceptT.mk do
    match ← ExceptT.run act with
    | .ok a => return .ok (.ok a)
    | .error (.failure failure) => return .ok (.error failure)
    | .error .crash => return .error .crash

/-- Take a note. -/
def Run.takeNote {σ : Type} (note : Note) : Run σ Unit :=
  modify fun session => { session with notes := session.notes ++ [note] }

end ClusterPorts.Azure
