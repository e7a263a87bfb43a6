import ClusterPorts.Proofs.Azure.Address
import ClusterPorts.Proofs.Azure.Writing
import ClusterPorts.Proofs.Network.Codec

/-!
# Servers that accept what is written

A server that serves a client holds documents at paths, shows them to who reads
and changes them as it is asked to. It accepts a change at once or says where the
state of the operation can be read; then every reading but the last tells that the
operation goes on. `Client.gives_change_of_accepts` says that the client waits for
the end, however many readings that takes, if its time allows for them.
-/

namespace ClusterPorts

namespace Azure

variable {σ : Type}

/-- What a server holds at a place after it was sent a document. The id of a
security group is its path. -/
def held (path : String) : Place → Json → Json
  | .group _, document => document.withId path
  | .subnet _ _, document => document
  | .balancer _, document => document

/-- The documents after a change of the one at a place. -/
def Change.applied (change : Change) (place : Place) (path : String) (documents : Table Json) :
    Table Json :=
  match change with
  | .put document => documents.insert path (held path place document)
  | .delete => documents.erase path

/-- Who reads the state of an operation is told some number of times that it goes
on, and then that it has succeeded. All the waiting and reading takes `time`. -/
inductive World.Settles (world : World σ) (client : Client) (reading : Http.Request)
    (report : Client.Report) : (delay : Span) → (time : Nat) → (state last : σ) → Prop
  | succeeds {delay span : Span} {state next : σ} {response : Http.Response}
      (exchanged : world.exchange reading state = ((some response, span), next))
      (verdict : ∀ what, Verdict what response report (.ok ())) :
      Settles world client reading report delay (delay.nanos + span.nanos + 1) state next
  | waits {delay span : Span} {time : Nat} {state next last : σ} {response : Http.Response}
      (exchanged : world.exchange reading state = ((some response, span), next))
      (pending : Pending response report)
      (settles : Settles world client reading report (client.delayAfter response) time next last) :
      Settles world client reading report delay (delay.nanos + span.nanos + 1 + time) state last

/-- The server accepts a change, at once or after some time, but in the time that
the client has for it. -/
inductive World.Accepts (world : World σ) (client : Client) (secret : String) (url : Http.Url)
    (change : Change) (state : σ) : (last : σ) → Prop
  | atOnce {span : Span} {next : σ} {response : Http.Response}
      (exchanged : world.exchange (Client.bearing secret change.method url change.content) state =
        ((some response, span), next))
      (done : change.IsGone response ∨
        response.status.isSuccess ∧ ∀ address report, ¬ Directs response address report)
      (inTime : span.nanos < client.timeout.nanos) :
      Accepts world client secret url change state next
  | later {span : Span} {time : Nat} {next last : σ} {response : Http.Response} {address : String}
      {report : Client.Report} {reading : Http.Request}
      (exchanged : world.exchange (Client.bearing secret change.method url change.content) state =
        ((some response, span), next))
      (there : ¬ change.IsGone response) (success : response.status.isSuccess)
      (directs : Directs response address report)
      (leads : Client.requestTo secret address .get .empty = .ok reading)
      (settles : world.Settles client reading report (client.delayAfter response) time next last)
      (inTime : span.nanos + 1 + time < client.timeout.nanos) :
      Accepts world client secret url change state last

/-- The server holds documents at paths, shows them, and changes them as the client
asks for it. -/
structure World.Serves (world : World σ) (client : Client) (secret : String)
    (documents : σ → Table Json) : Prop where
  shows : ∀ {request : Request}, request.place.IsPlain → request.isWrite = false →
    world.Shows client secret documents (client.pathOf request)
  accepts : ∀ {request : Request} {change : Change} {url : Http.Url}, request.place.IsPlain →
    changeOf request = some change → client.Reaches secret (client.pathOf request) url →
    ∀ state, ∃ last, world.Accepts client secret url change state last ∧
      documents last = change.applied request.place url.path (documents state)

/-! ## Waiting for the end -/

namespace Client

variable {client : Client} {world : World σ} {session : Session σ} {secret what path : String}
  {limit : Limit} {report : Report} {reading : Http.Request} {address : String}

/-- Who was given a token does not look at the clock. -/
theorem before_outside_of_given (own : client.tokens.credential = .accessToken secret)
    {method : Http.Method} :
    (client.before world session method address).outside = session.outside := by
  rw [before, TokenSource.looked, own]

/-- A reading of the state that is answered in time: what comes after it depends on
the state. -/
theorem exec_poll_succ (own : client.tokens.credential = .accessToken secret)
    (leads : requestTo secret address .get .empty = .ok reading) {span : Span} {next : σ}
    {response : Http.Response} {state : OperationState}
    (exchanged : world.exchange reading session.outside = ((some response, span), next))
    (success : response.status.isSuccess) (told : stateIn report response = .ok state)
    (limit : Limit) (delay : Span)
    (inTime : session.elapsed.nanos + (delay.nanos + span.nanos + 1) < limit.deadline.nanos)
    (what : String) (ticks : Nat) :
    ∃ asked : Session σ, asked.outside = next ∧
      asked.elapsed.nanos = session.elapsed.nanos + (delay.nanos + span.nanos + 1) ∧
      session.Logs asked ∧
      (client.poll world limit what address report (ticks + 1) delay).exec session =
        Act.exec (match state with
          | .pending => do
            Act.log (.debug ("Waiting for " ++ what ++ " to complete"))
            client.poll world limit what address report ticks (client.delayAfter response)
          | .succeeded => Act.log (.debug (what ++ " completed"))
          | .failed detail => Act.fail (.operationFailed what detail)) asked := by
  have exchanged : world.exchange reading
      (client.before world (session.slept delay) .get address).outside =
        ((some response, span), next) := by
    rw [before_outside_of_given own]
    exact exchanged
  have elapsed : (client.after world (session.slept delay) .get address reading).elapsed.nanos =
      session.elapsed.nanos + delay.nanos + span.nanos + 1 :=
    congrArg Span.nanos (after_elapsed exchanged)
  refine ⟨_, after_outside exchanged, by omega, .of_notes after_notes, ?_⟩
  rw [exec_poll_answered what report ticks (.given own) leads (answerTo_eq exchanged) (by omega)]
  refine (if_neg (by omega)).trans ?_
  cases state <;> simp only [heed, checked, success, if_true, orFail, told, pure_bind]

/-- Reading the state of an operation up to its success. -/
theorem gives_poll_of_settles (own : client.tokens.credential = .accessToken secret)
    (leads : requestTo secret address .get .empty = .ok reading) {delay : Span} {time : Nat}
    {state last : σ} (settles : world.Settles client reading report delay time state last)
    {ticks : Nat} (enough : time ≤ ticks) (here : session.outside = state)
    (inTime : session.elapsed.nanos + time < limit.deadline.nanos) :
    ∃ after, (client.poll world limit what address report ticks delay).Gives session (.ok ())
        after ∧ after.outside = last ∧ session.Logs after := by
  induction settles generalizing session ticks with
  | succeeds exchanged verdict =>
      obtain ⟨ticks, rfl⟩ := Nat.exists_eq_add_one_of_ne_zero (show ticks ≠ 0 by omega)
      obtain ⟨success, told⟩ := (verdict what).stateIn_eq
      obtain ⟨asked, outside, -, logs, execs⟩ :=
        exec_poll_succ own leads (here ▸ exchanged) success told limit _ inTime what ticks
      exact ⟨_, execs, outside, logs.trans (.of_notes rfl)⟩
  | @waits delay span time state next last response exchanged pending settles ih =>
      obtain ⟨ticks, rfl⟩ := Nat.exists_eq_add_one_of_ne_zero (show ticks ≠ 0 by omega)
      obtain ⟨success, told⟩ := pending.stateIn_eq
      obtain ⟨asked, outside, elapsed, logs, execs⟩ :=
        exec_poll_succ own leads (here ▸ exchanged) success told limit delay (by omega) what ticks
      let waiting : LogEntry := .debug ("Waiting for " ++ what ++ " to complete")
      let noted : Session σ := { asked with notes := asked.notes ++ [.log waiting] }
      have intime : noted.elapsed.nanos + time < limit.deadline.nanos := by
        rw [show noted.elapsed.nanos = _ from elapsed]
        omega
      obtain ⟨after, gives, last, logs'⟩ := @ih noted ticks (by omega) outside intime
      exact ⟨after, execs.trans gives, last, logs.trans (.trans (.of_notes rfl) logs')⟩

/-- A change that the server accepts is made. -/
theorem gives_change_of_accepts (live : client.dryRun = false)
    (own : client.tokens.credential = .accessToken secret) {url : Http.Url}
    (reaches : client.Reaches secret path url) {change : Change} {last : σ}
    (accepts : world.Accepts client secret url change session.outside last) (what : String) :
    ∃ after, (client.change world path what change).Gives session (.ok ()) after ∧
      after.outside = last ∧ session.Logs after := by
  have unseen : (client.before world (begun session what change) change.method
      (client.address path)).outside = session.outside := before_outside_of_given own
  obtain ⟨asked, asked_eq⟩ : ∃ asked, client.after world (begun session what change)
    change.method (client.address path) (bearing secret change.method url change.content) = asked :=
      ⟨_, rfl⟩
  have logs : session.Logs asked :=
    have begins : session.Logs (begun session what change) := .of_notes rfl
    begins.trans (.of_notes (asked_eq ▸ after_notes))
  cases accepts with
  | atOnce exchanged done inTime =>
      rw [← unseen] at exchanged
      have runs := exec_change_of_ready live (.given own) reaches exchanged inTime
      have outside := after_outside exchanged
      rw [asked_eq] at runs outside
      obtain ⟨entries, gives⟩ := gives_conclude_of_done done
      exact ⟨_, runs.trans gives, outside, logs.trans ⟨entries, rfl⟩⟩
  | @later span time next last response address report reading exchanged there success directs
      leads settles inTime =>
      rw [← unseen] at exchanged
      have runs := exec_change_of_ready live (.given own) reaches exchanged (by omega)
      have outside := after_outside exchanged
      have elapsed := after_elapsed exchanged
      rw [asked_eq] at runs outside elapsed
      have elapsed : asked.elapsed.nanos = session.elapsed.nanos + span.nanos + 1 :=
        congrArg Span.nanos elapsed
      have deadline : (client.limitOf session what).deadline.nanos =
        session.elapsed.nanos + client.timeout.nanos := rfl
      obtain ⟨after, gives, still, logs'⟩ : ∃ after,
          (client.poll world (client.limitOf session what) what address report
            ((client.limitOf session what).deadline.nanos - asked.elapsed.nanos)
            (client.delayAfter response)).Gives asked (.ok ()) after ∧
          after.outside = last ∧ asked.Logs after :=
        gives_poll_of_settles own leads settles (by omega) outside (by omega)
      refine ⟨after, runs.trans ?_, still, logs.trans logs'⟩
      unfold conclude
      rw [if_neg there]
      simp only [checked, success, if_true, orFail, pure_bind, finish, directs_iff.mp directs]
      exact gives

end Client

end Azure

end ClusterPorts
