import ClusterPorts.Proofs.Azure.Execution
import Mathlib.Control.Monad.Basic

/-!
# Operations that take their time

A resource is written or deleted by one request. Its answer may say where the
state of the operation can be read; then that one address is read until the
answer tells that the operation has ended, and the first such answer decides.
`Course` says which exchanges a write may consist of and what it comes to with
them, `Client.course_of_change` that a client in a world that answers every
request takes such a course, unless its time runs out. What an answer tells is
said in terms of the answer alone: `Pending` and `Verdict` do not mention how the
client reads it.
-/

namespace ClusterPorts.Azure

/-! ## What answers tell -/

/-- Where an answer says that the state of its operation can be read. -/
inductive Directs (response : Http.Response) : String → Client.Report → Prop
  | operation {address : String}
      (header : response.header? "azure-asyncoperation" = some address) (nonempty : address ≠ "") :
      Directs response address .document
  | location {address : String}
      (other : ∀ value, response.header? "azure-asyncoperation" = some value → value = "")
      (header : response.header? "location" = some address) (nonempty : address ≠ "") :
      Directs response address .status

/-- A document tells a status. -/
def Tells (document : Json) (status : String) : Prop :=
  (document.member? "status").bind Json.string? = some status

/-- The words for a status that is the end of an operation without success: the
status as it is spelt, and the message if there is one. -/
inductive Worded (document : Json) (status : String) : String → Prop
  | bare (none : ((document.member? "error").bind (·.member? "message")).bind Json.string? = none) :
      Worded document status status
  | explained {message : String}
      (some : ((document.member? "error").bind (·.member? "message")).bind Json.string? =
        some message) :
      Worded document status (status ++ ": " ++ message)

/-- An answer tells that the operation has not ended yet. -/
inductive Pending (response : Http.Response) : Client.Report → Prop
  | document {document : Json} (success : response.status.isSuccess)
      (readable : response.body.read? Json.Node.keep = some document)
      (undecided : ∀ status, Tells document status →
        ∀ word ∈ ["Succeeded", "Failed", "Canceled"], ¬ Text.sameLetters status word) :
      Pending response .document
  | status (accepted : response.status.code = 202) : Pending response .status

/-- An answer tells that the operation has ended, and how. -/
inductive Verdict (what : String) (response : Http.Response) :
    Client.Report → Except Failure Unit → Prop
  | refused {report : Client.Report} (bad : ¬ response.status.isSuccess) :
      Verdict what response report
        (.error (Client.statusFailure response.status what (errorText response)))
  | unreadable (success : response.status.isSuccess)
      (garbled : response.body.read? Json.Node.keep = none) :
      Verdict what response .document
        (.error (.provider "azure" ("Failed to parse operation status: " ++ unreadable)))
  | succeeded {document : Json} {status : String} (success : response.status.isSuccess)
      (readable : response.body.read? Json.Node.keep = some document)
      (told : Tells document status) (word : Text.sameLetters status "Succeeded") :
      Verdict what response .document (.ok ())
  | failed {document : Json} {status detail : String} (success : response.status.isSuccess)
      (readable : response.body.read? Json.Node.keep = some document)
      (told : Tells document status)
      (word : Text.sameLetters status "Failed" ∨ Text.sameLetters status "Canceled")
      (worded : Worded document status detail) :
      Verdict what response .document (.error (.operationFailed what detail))
  | done (success : response.status.isSuccess) (other : response.status.code ≠ 202) :
      Verdict what response .status (.ok ())

section

variable {what detail : String} {response : Http.Response} {report : Client.Report}
  {document : Json} {failure : Failure} {outcome : Except Failure Unit}

theorem stateOf_eq_succeeded (ended : Client.stateOf document = .succeeded) :
    ∃ status, Tells document status ∧ Text.sameLetters status "Succeeded" := by
  unfold Client.stateOf at ended
  split at ended
  · cases ended
  · next status told =>
    split at ended
    · next word => exact ⟨status, told, word⟩
    · split at ended
      · split at ended <;> cases ended
      · cases ended

theorem stateOf_eq_failed (ended : Client.stateOf document = .failed detail) :
    ∃ status, Tells document status ∧
      (Text.sameLetters status "Failed" ∨ Text.sameLetters status "Canceled") ∧
      Worded document status detail := by
  unfold Client.stateOf at ended
  split at ended
  · cases ended
  · next status told =>
    split at ended
    · cases ended
    · split at ended
      · next word =>
        refine ⟨status, told, by simpa using word, ?_⟩
        split at ended
        · next some =>
          cases ended
          exact .explained some
        · next none =>
          cases ended
          exact .bare none
      · cases ended

theorem stateOf_eq_pending (ended : Client.stateOf document = .pending) {status : String}
    (told : Tells document status) {word : String}
    (member : word ∈ ["Succeeded", "Failed", "Canceled"]) : ¬ Text.sameLetters status word := by
  unfold Client.stateOf at ended
  rw [told] at ended
  simp only at ended
  split at ended
  · cases ended
  · next succeeded =>
    split at ended
    · split at ended <;> cases ended
    · next others =>
      have others : Text.sameLetters status "Failed" = false ∧
          Text.sameLetters status "Canceled" = false := by simpa using others
      rcases List.mem_cons.mp member with rfl | member
      · exact succeeded
      rcases List.mem_cons.mp member with rfl | member
      · simp [others.1]
      · rw [List.mem_singleton.mp member]
        simp [others.2]

/-- The client takes for an end what is one. -/
theorem verdict_of_stateIn (success : response.status.isSuccess) :
    (∀ failure, Client.stateIn report response = .error failure →
      Verdict what response report (.error failure)) ∧
    (Client.stateIn report response = .ok .succeeded → Verdict what response report (.ok ())) ∧
    (∀ detail, Client.stateIn report response = .ok (.failed detail) →
      Verdict what response report (.error (.operationFailed what detail))) ∧
    (Client.stateIn report response = .ok .pending → Pending response report) := by
  cases report with
  | status =>
    by_cases accepted : response.status.code = 202
    · simp [Client.stateIn, accepted, Pending.status]
    · simp [Client.stateIn, accepted, Verdict.done success accepted]
  | document =>
    cases readable : response.body.read? Json.Node.keep with
    | none =>
      simp [Client.stateIn, readable, Verdict.unreadable success readable]
    | some document =>
      simp only [Client.stateIn, readable, Except.ok.injEq, reduceCtorEq, false_implies,
        implies_true, true_and]
      refine ⟨fun ended => ?_, fun detail ended => ?_, fun ended => ?_⟩
      · obtain ⟨status, told, word⟩ := stateOf_eq_succeeded ended
        exact .succeeded success readable told word
      · obtain ⟨status, told, word, worded⟩ := stateOf_eq_failed ended
        exact .failed success readable told word worded
      · exact .document success readable fun _ told _ => stateOf_eq_pending ended told

theorem Verdict.stateIn_eq
    (verdict : Verdict what response report (.ok ())) :
    response.status.isSuccess ∧ Client.stateIn report response = .ok .succeeded := by
  cases verdict with
  | succeeded success readable told word =>
      refine ⟨success, ?_⟩
      rw [Tells] at told
      simp [Client.stateIn, readable, Client.stateOf, told, word]
  | done success other => exact ⟨success, by simp [Client.stateIn, other]⟩

theorem Pending.stateIn_eq
    (pending : Pending response report) :
    response.status.isSuccess ∧ Client.stateIn report response = .ok .pending := by
  cases pending with
  | document success readable undecided =>
      refine ⟨success, ?_⟩
      simp only [Client.stateIn, readable, Client.stateOf]
      split
      · rfl
      · next status told =>
        have others := undecided status told
        simp only [List.forall_mem_cons] at others
        simp [others.1, others.2.1, others.2.2.1]
  | status accepted =>
      exact ⟨by simp [Http.Status.isSuccess, accepted], by simp [Client.stateIn, accepted]⟩

end

/-! ## Waiting for the end -/

namespace Client

section

variable {σ : Type} (client : Client) (world : World σ) (limit : Limit) (what address : String)
  (report : Report) (ticks : Nat)

/-- What is done with the answer to a reading: it decides, or else there is another reading. -/
def heed (response : Http.Response) : Act σ Unit := do
  let response ← orFail (checked what response)
  match ← orFail (stateIn report response) with
  | .pending => do
    Act.log (.debug ("Waiting for " ++ what ++ " to complete"))
    client.poll world limit what address report ticks (client.delayAfter response)
  | .succeeded => Act.log (.debug (what ++ " completed"))
  | .failed detail => Act.fail (.operationFailed what detail)

theorem poll_succ (delay : Span) :
    client.poll world limit what address report (ticks + 1) delay = (do
      Act.sleep limit delay
      let response ← client.ask world (some limit) .get address .empty
      client.heed world limit what address report ticks response) := by
  rw [poll]
  rfl

/-- An answer tells the end, which decides, or else that the operation goes on. -/
theorem heed_cases (response : Http.Response) :
    (∃ outcome entries, Verdict what response report outcome ∧ ∀ session,
      (client.heed world limit what address report ticks response).Gives session outcome
        (session.noted entries)) ∨
    (Pending response report ∧ ∀ session,
      (client.heed world limit what address report ticks response).exec session =
        (client.poll world limit what address report ticks (client.delayAfter response)).exec
          (session.noted [.debug ("Waiting for " ++ what ++ " to complete")])) := by
  unfold heed
  by_cases success : response.status.isSuccess = true
  case neg =>
    simp only [checked, success, Bool.false_eq_true, if_false, orFail]
    exact .inl ⟨.error _, [], .refused success, fun session => by rw [session.noted_nil]; rfl⟩
  obtain ⟨verdict_error, verdict_ok, verdict_failed, pending⟩ :=
    @verdict_of_stateIn what response report success
  simp only [checked, success, if_true, orFail, pure_bind]
  cases state : stateIn report response with
  | error failure =>
      exact .inl ⟨.error failure, [], verdict_error _ state,
        fun session => by rw [session.noted_nil]; rfl⟩
  | ok state' =>
      cases state' with
      | succeeded => exact .inl ⟨.ok (), [_], verdict_ok state, fun _ => rfl⟩
      | failed detail =>
          exact .inl ⟨.error _, [], verdict_failed _ state,
            fun session => by rw [session.noted_nil]; rfl⟩
      | pending =>
          refine .inr ⟨pending state, fun session => ?_⟩
          simp only [pure_bind, Act.exec_bind, Act.exec_log]
          rfl

variable {client world limit what address report ticks} {session : Session σ} {delay : Span}

/-- Who wakes up at the deadline or later does not ask. -/
theorem exec_poll_late (late : limit.deadline.nanos ≤ session.elapsed.nanos + delay.nanos) :
    (client.poll world limit what address report (ticks + 1) delay).exec session =
      (.error (.failure limit.failure), session.slept delay) := by
  simp only [poll_succ, Act.exec_bind, Act.exec_sleep, if_pos late]
  rfl

/-- Who wakes up before the deadline asks, and an answer is heeded. -/
theorem exec_poll_awake (awake : ¬ limit.deadline.nanos ≤ session.elapsed.nanos + delay.nanos)
    {result : Except Stop Http.Response} {asked : Session σ}
    (asks : (client.ask world (some limit) .get address .empty).exec (session.slept delay) =
      (result, asked)) :
    (client.poll world limit what address report (ticks + 1) delay).exec session =
      match result with
      | .ok response => (client.heed world limit what address report ticks response).exec asked
      | .error stop => (.error stop, asked) := by
  rw [Session.slept] at asks
  simp only [poll_succ, Act.exec_bind, Act.exec_sleep, if_neg awake, asks]
  cases result <;> rfl

variable (what report ticks) in
/-- A reading that is answered: the answer is heeded, unless it comes too late. -/
theorem exec_poll_answered {secret : String} {reading : Http.Request} {response : Http.Response}
    (ready : client.tokens.Ready world session.token secret)
    (leads : requestTo secret address .get .empty = .ok reading)
    (answer : client.answerTo world (session.slept delay) .get address reading = some response)
    (awake : ¬ limit.deadline.nanos ≤ session.elapsed.nanos + delay.nanos) :
    (client.poll world limit what address report (ticks + 1) delay).exec session =
      let asked := client.after world (session.slept delay) .get address reading
      if limit.deadline.nanos < asked.elapsed.nanos then (.error (.failure limit.failure), asked)
      else (client.heed world limit what address report ticks response).exec asked := by
  have asks := exec_ask_some (show client.tokens.Ready world (session.slept delay).token secret from
    ready) leads answer limit
  by_cases late : limit.deadline.nanos <
      (client.after world (session.slept delay) .get address reading).elapsed.nanos
  · exact (exec_poll_awake awake (asks.trans (if_pos late))).trans (if_pos late).symm
  · exact (exec_poll_awake awake (asks.trans (if_neg late))).trans (if_neg late).symm

end

variable {σ : Type} {client : Client} {world : World σ} {session : Session (σ × List Call)}
  {secret what address : String} {limit : Limit} {report : Report} {reading : Http.Request}

/-- Reading the state of an operation: every exchange is the same reading, all
answers but the last tell that the operation goes on, and the last one decides.
Only when the time is over may it be otherwise. -/
theorem gives_poll (answered : ∀ request state, (world.exchange request state).1.1.isSome)
    (ready : client.tokens.Ready world.watched session.token secret)
    (leads : requestTo secret address .get .empty = .ok reading) (ticks : Nat) (delay : Span)
    (enough : limit.deadline.nanos ≤ ticks + session.elapsed.nanos) :
    ∃ outcome after answers,
      (client.poll world.watched limit what address report ticks delay).Gives session outcome
        after ∧
      after.trace = session.trace ++ answers.map (fun response => (reading, some response)) ∧
      (after.elapsed.nanos < limit.deadline.nanos → ∃ waiting last,
        answers = waiting ++ [last] ∧ (∀ response ∈ waiting, Pending response report) ∧
          Verdict what last report outcome) := by
  induction ticks generalizing session delay with
  | zero =>
      refine ⟨.error limit.failure, session, [], rfl, by simp, fun inTime => ?_⟩
      omega
  | succ ticks ih =>
      by_cases late : limit.deadline.nanos ≤ session.elapsed.nanos + delay.nanos
      · refine ⟨.error limit.failure, session.slept delay, [], exec_poll_late late,
          (List.append_nil _).symm, fun inTime => ?_⟩
        exact absurd inTime (Nat.not_lt.mpr late)
      obtain ⟨response, isAnswer⟩ : ∃ response,
          client.answerTo world.watched (session.slept delay) .get address reading = some response :=
        Option.isSome_iff_exists.mp (answered reading _)
      have polls := exec_poll_answered what report ticks ready leads isAnswer late
      have passed : (session.slept delay).elapsed.nanos <
          (client.after world.watched (session.slept delay) .get address reading).elapsed.nanos :=
        elapsed_lt_after
      have written : (client.after world.watched (session.slept delay) .get address reading).trace =
          session.trace ++ [(reading, some response)] := by
        rw [trace_after, isAnswer]
        rfl
      have ready : client.tokens.Ready world.watched
          (client.after world.watched (session.slept delay) .get address reading).token secret := by
        rw [after_token]
        exact ready
      generalize client.after world.watched (session.slept delay) .get address reading = asked at *
      have less : limit.deadline.nanos ≤ ticks + asked.elapsed.nanos := by
        have passed : session.elapsed.nanos + delay.nanos < asked.elapsed.nanos := passed
        omega
      simp only [Act.Gives, polls]
      by_cases tooLate : limit.deadline.nanos < asked.elapsed.nanos
      · refine ⟨.error limit.failure, asked, [response], if_pos tooLate, written, fun inTime => ?_⟩
        omega
      simp only [if_neg tooLate]
      rcases client.heed_cases world.watched limit what address report ticks response with
        ⟨outcome, entries, verdict, gives⟩ | ⟨pending, waits⟩
      · exact ⟨outcome, _, [response], gives asked, written,
          fun _ => ⟨[], response, rfl, List.forall_mem_nil _, verdict⟩⟩
      · obtain ⟨outcome, after, answers, gives, traced, decided⟩ :=
          @ih (asked.noted [_]) ready (client.delayAfter response) less
        refine ⟨outcome, after, response :: answers, (waits asked).trans gives, ?_, fun inTime => ?_⟩
        · rw [traced]
          show asked.trace ++ _ = _
          rw [written, List.append_assoc]
          rfl
        · obtain ⟨waiting, last, rfl, undecided, verdict⟩ := decided inTime
          exact ⟨response :: waiting, last, rfl, List.forall_mem_cons.mpr ⟨pending, undecided⟩,
            verdict⟩

/-- Where the state of an operation could only be read at an address that nothing
can be sent to, nothing more is sent. -/
theorem gives_poll_unsendable (ready : client.tokens.Ready world.watched session.token secret)
    {fault : Http.Fault} (leads : requestTo secret address .get .empty = .error fault)
    (ticks : Nat) (delay : Span) (enough : limit.deadline.nanos ≤ ticks + session.elapsed.nanos) :
    ∃ outcome after,
      (client.poll world.watched limit what address report ticks delay).Gives session outcome
        after ∧
      after.trace = session.trace ∧
      (after.elapsed.nanos < limit.deadline.nanos →
        outcome = .error (.provider "azure" ("HTTP request failed: " ++ fault.message))) := by
  cases ticks with
  | zero =>
      refine ⟨.error limit.failure, session, rfl, rfl, fun inTime => ?_⟩
      omega
  | succ ticks =>
      by_cases late : limit.deadline.nanos ≤ session.elapsed.nanos + delay.nanos
      · refine ⟨.error limit.failure, _, exec_poll_late late, rfl, fun inTime => ?_⟩
        exact absurd inTime (Nat.not_lt.mpr late)
      have awake : client.tokens.Ready world.watched (session.slept delay).token secret := ready
      exact ⟨.error _, _, exec_poll_awake late (exec_ask_unsendable awake (some limit) leads),
        trace_before, fun _ => rfl⟩

theorem exec_finish (response : Http.Response) :
    (client.finish world.watched limit what response).exec session =
      match follow? response with
      | none => (.ok (), session)
      | some (address, report) =>
          (client.poll world.watched limit what address report
            (limit.deadline.nanos - session.elapsed.nanos) (client.delayAfter response)).exec
            session := by
  rw [finish]
  cases follow? response <;> rfl

end Client

/-- The client follows an answer to where it directs. -/
theorem directs_iff {response : Http.Response} {address : String} {report : Client.Report} :
    Directs response address report ↔ Client.follow? response = some (address, report) := by
  have place_eq_some {name value : String} : Client.place? response name = some value ↔
      response.header? name = some value ∧ value ≠ "" := by
    simp [Client.place?, Option.filter_eq_some_iff]
  have place_eq_none {name : String} : Client.place? response name = none ↔
      ∀ value, response.header? name = some value → value = "" := by
    simp [Client.place?, Option.filter_eq_none_iff]
  constructor
  · rintro (⟨header, nonempty⟩ | ⟨other, header, nonempty⟩)
    · simp [Client.follow?, place_eq_some.mpr ⟨header, nonempty⟩]
    · simp [Client.follow?, place_eq_none.mpr other, place_eq_some.mpr ⟨header, nonempty⟩]
  · intro follows
    unfold Client.follow? at follows
    split at follows
    · next operation =>
      cases follows
      obtain ⟨header, nonempty⟩ := place_eq_some.mp operation
      exact .operation header nonempty
    · next other =>
      obtain ⟨_, location, same⟩ := Option.map_eq_some_iff.mp follows
      cases same
      obtain ⟨header, nonempty⟩ := place_eq_some.mp location
      exact .location (place_eq_none.mp other) header nonempty

/-! ## Writes -/

/-- What is done to the resource at a path. -/
inductive Change where
  | put (document : Json)
  | delete

namespace Change

def method : Change → Http.Method
  | put _ => .put
  | delete => .delete

def content : Change → Http.Content
  | put document => .document document
  | delete => .empty

/-- That a resource which is to be deleted does not exist, or is gone at once, is
fine. -/
def IsGone (change : Change) (response : Http.Response) : Prop :=
  change.method = .delete ∧ (response.status.code = 404 ∨ response.status.code = 204)

instance (change : Change) (response : Http.Response) : Decidable (change.IsGone response) :=
  inferInstanceAs (Decidable (_ ∧ _))

end Change

/-- Change the resource at a path and wait until it is changed. -/
def Client.change {σ : Type} (client : Client) (world : World σ) (path what : String) :
    Change → Act σ Unit
  | .put document => client.write world path what document
  | .delete => client.delete world path what

/-- What the client does with the answer to a change. -/
def Client.conclude {σ : Type} (client : Client) (world : World σ) (limit : Limit) (what : String)
    (change : Change) (response : Http.Response) : Act σ Unit := do
  if change.IsGone response then Act.log (.debug (what ++ " already gone"))
  else
    let response ← orFail (checked what response)
    client.finish world limit what response

/-- What a client says when it begins with a change. -/
def Change.title (change : Change) (what : String) : LogEntry :=
  match change with
  | put _ => .info ("Creating or updating " ++ what)
  | delete => .info ("Deleting " ++ what)

/-- Both changes go the same way: one request, and then the answer to it. -/
theorem Client.change_eq {σ : Type} {client : Client} (world : World σ) (path what : String)
    (change : Change) (live : client.dryRun = false) :
    client.change world path what change = (do
      Act.log (change.title what)
      let limit ← client.limit what
      let response ← client.ask world (some limit) change.method (client.address path)
        change.content
      client.conclude world limit what change response) := by
  cases change with
  | put document =>
      simp [Client.change, write, live, conclude, Change.title, Change.method, Change.content,
        Change.IsGone]
  | delete =>
      simp [Client.change, delete, live, conclude, Change.title, Change.method, Change.content,
        Change.IsGone]

namespace Client

section

variable {σ : Type} {client : Client} {world : World σ} {session : Session σ}
  {secret path what : String} {change : Change} {request : Http.Request}
  {response : Http.Response}

/-- The session in which a client has begun with a change. -/
def begun (session : Session σ) (what : String) (change : Change) : Session σ :=
  { session with notes := session.notes ++ [.log (change.title what)] }

/-- The limit of a change that begins in a session. -/
def limitOf (client : Client) (session : Session σ) (what : String) : Limit where
  deadline := ⟨session.elapsed.nanos + client.timeout.nanos⟩
  failure := .timeout (what ++ " did not complete within " ++ client.timeout.text)

/-- A change is one request, and all else depends on what that comes to. -/
theorem exec_change_eq (live : client.dryRun = false) :
    (client.change world path what change).exec session =
      match (client.ask world (some (client.limitOf session what)) change.method
        (client.address path) change.content).exec (begun session what change) with
      | (.ok response, asked) =>
          (client.conclude world (client.limitOf session what) what change response).exec asked
      | (.error stop, asked) => (.error stop, asked) := by
  have begins : (Act.log (change.title what)).exec session = (.ok (), begun session what change) :=
    rfl
  have limited : (client.limit what).exec (begun session what change) =
    (.ok (client.limitOf session what), begun session what change) := rfl
  rw [change_eq world path what change live]
  simp only [Act.exec_bind, begins, limited]
  rcases Act.exec (client.ask _ _ _ _ _) _ with ⟨_ | _, _⟩ <;> rfl

/-- A change is one request. If the answer comes in time, all else depends on it. -/
theorem exec_change (live : client.dryRun = false)
    (ready : client.tokens.Ready world session.token secret)
    (leads : requestTo secret (client.address path) change.method change.content = .ok request)
    (answered : client.answerTo world (begun session what change) change.method
      (client.address path) request = some response) :
    (client.change world path what change).exec session =
      let limit := client.limitOf session what
      let asked := client.after world (begun session what change) change.method
        (client.address path) request
      if limit.deadline.nanos < asked.elapsed.nanos then (.error (.failure limit.failure), asked)
      else (client.conclude world limit what change response).exec asked := by
  have ready : client.tokens.Ready world (begun session what change).token secret := ready
  rw [exec_change_eq live, exec_ask_some ready leads answered]
  by_cases late : (client.limitOf session what).deadline.nanos <
      (client.after world (begun session what change) change.method (client.address path)
        request).elapsed.nanos
  · simp only [if_pos late]
  · simp only [if_neg late]

end

end Client

/-- The exchanges that a change may consist of, the request for it being given,
and what it comes to with them. -/
inductive Course (what secret : String) (change : Change) (request : Http.Request) :
    List Call → Except Failure Unit → Prop
  | gone {response : Http.Response} (gone : change.IsGone response) :
      Course what secret change request [(request, some response)] (.ok ())
  | refused {response : Http.Response} (there : ¬ change.IsGone response)
      (bad : ¬ response.status.isSuccess) :
      Course what secret change request [(request, some response)]
        (.error (Client.statusFailure response.status what (errorText response)))
  | immediate {response : Http.Response} (there : ¬ change.IsGone response)
      (success : response.status.isSuccess)
      (nowhere : ∀ address report, ¬ Directs response address report) :
      Course what secret change request [(request, some response)] (.ok ())
  /-- All readings go to the one address that the answer to the change gives. -/
  | followed {response last : Http.Response} {address : String} {report : Client.Report}
      {reading : Http.Request} {waiting : List Http.Response} {outcome : Except Failure Unit}
      (there : ¬ change.IsGone response) (success : response.status.isSuccess)
      (directs : Directs response address report)
      (leads : Client.requestTo secret address .get .empty = .ok reading)
      (waits : ∀ response ∈ waiting, Pending response report)
      (verdict : Verdict what last report outcome) :
      Course what secret change request
        ((request, some response) ::
          (waiting ++ [last]).map fun response => (reading, some response)) outcome
  | astray {response : Http.Response} {address : String} {report : Client.Report}
      {fault : Http.Fault} (there : ¬ change.IsGone response)
      (success : response.status.isSuccess) (directs : Directs response address report)
      (leads : Client.requestTo secret address .get .empty = .error fault) :
      Course what secret change request [(request, some response)]
        (.error (.provider "azure" ("HTTP request failed: " ++ fault.message)))

namespace Client

variable {σ : Type} {client : Client} {world : World σ} {session : Session (σ × List Call)}
  {secret what path : String} {limit : Limit} {change : Change} {request : Http.Request}

/-- What comes after the answer to a change that was accepted. -/
theorem course_of_finish (answered : ∀ request state, (world.exchange request state).1.1.isSome)
    (ready : client.tokens.Ready world.watched session.token secret) {response : Http.Response}
    (there : ¬ change.IsGone response) (success : response.status.isSuccess) :
    ∃ outcome after rest,
      (client.finish world.watched limit what response).Gives session outcome after ∧
      after.trace = session.trace ++ rest ∧
      (after.elapsed.nanos < limit.deadline.nanos →
        Course what secret change request ((request, some response) :: rest) outcome) := by
  simp only [Act.Gives, exec_finish]
  cases follows : follow? response with
  | none =>
      refine ⟨.ok (), session, [], rfl, by simp, fun _ => .immediate there success ?_⟩
      intro address report directs
      cases follows.symm.trans (directs_iff.mp directs)
  | some place =>
      obtain ⟨address, report⟩ := place
      have directs := directs_iff.mpr follows
      have enough : limit.deadline.nanos ≤
          limit.deadline.nanos - session.elapsed.nanos + session.elapsed.nanos := by omega
      cases leads : requestTo secret address .get .empty with
      | error fault =>
          obtain ⟨outcome, after, gives, traced, decided⟩ :=
            gives_poll_unsendable ready leads _ (client.delayAfter response) enough
          refine ⟨outcome, after, [], gives, by simp [traced], fun inTime => ?_⟩
          rw [decided inTime]
          exact .astray there success directs leads
      | ok reading =>
          obtain ⟨outcome, after, answers, gives, traced, decided⟩ :=
            gives_poll answered ready leads _ (client.delayAfter response) enough
          refine ⟨outcome, after, _, gives, traced, fun inTime => ?_⟩
          obtain ⟨waiting, last, rfl, waits, verdict⟩ := decided inTime
          exact .followed there success directs leads waits verdict

/-- What comes after the request for a change: its answer, or the end of the time. -/
theorem course_of_conclude (answered : ∀ request state, (world.exchange request state).1.1.isSome)
    (ready : client.tokens.Ready world.watched session.token secret) (response : Http.Response) :
    ∃ outcome after rest,
      (client.conclude world.watched limit what change response).Gives session outcome after ∧
      after.trace = session.trace ++ rest ∧
      (after.elapsed.nanos < limit.deadline.nanos →
        Course what secret change request ((request, some response) :: rest) outcome) := by
  unfold conclude
  by_cases gone : change.IsGone response
  · rw [if_pos gone]
    exact ⟨.ok (), _, [], rfl, (List.append_nil _).symm, fun _ => .gone gone⟩
  rw [if_neg gone]
  by_cases success : response.status.isSuccess = true
  · simp only [checked, success, if_true, orFail, pure_bind]
    exact course_of_finish answered ready gone success
  · simp only [checked, success, Bool.false_eq_true, if_false, orFail]
    exact ⟨.error _, session, [], rfl, (List.append_nil _).symm, fun _ => .refused gone success⟩

theorem course_of_attempt (live : client.dryRun = false)
    (answered : ∀ request state, (world.exchange request state).1.1.isSome)
    (ready : client.tokens.Ready world.watched session.token secret)
    (leads : requestTo secret (client.address path) change.method change.content = .ok request) :
    ∃ outcome after trace,
      (client.change world.watched path what change).Gives session outcome after ∧
      after.trace = session.trace ++ trace ∧
      (after.elapsed.nanos < session.elapsed.nanos + client.timeout.nanos →
        Course what secret change request trace outcome) := by
  obtain ⟨response, isAnswer⟩ := Option.isSome_iff_exists.mp (answered request
    (client.before world.watched (begun session what change) change.method
      (client.address path)).outside.1)
  have isAnswer : client.answerTo world.watched (begun session what change) change.method
    (client.address path) request = some response := isAnswer
  have written : (client.after world.watched (begun session what change) change.method
      (client.address path) request).trace = session.trace ++ [(request, some response)] := by
    rw [trace_after, isAnswer]
    rfl
  have execs := exec_change live ready leads isAnswer
  have ready : client.tokens.Ready world.watched (client.after world.watched
      (begun session what change) change.method (client.address path) request).token secret :=
    after_token.symm ▸ ready
  simp only [Act.Gives, execs]
  by_cases late : session.elapsed.nanos + client.timeout.nanos < (client.after world.watched
      (begun session what change) change.method (client.address path) request).elapsed.nanos
  · refine ⟨.error _, _, _, if_pos late, written, fun inTime => ?_⟩
    omega
  · obtain ⟨outcome, after, rest, gives, traced, course⟩ :=
      course_of_conclude answered ready response
    refine ⟨outcome, after, (request, some response) :: rest, (if_neg late).trans gives, ?_, course⟩
    rw [traced, written, List.append_assoc]
    rfl

/-- The outcome of an operation that takes its time. Whatever a server answers to
the request for a change and to the readings that follow, the client comes to an
end, and if its time is not over by then, the exchanges have taken a course that
leads to what the change comes to. -/
theorem course_of_change (live : client.dryRun = false)
    (answered : ∀ request state, (world.exchange request state).1.1.isSome)
    (ready : client.tokens.Ready world.watched session.token secret)
    (leads : requestTo secret (client.address path) change.method change.content = .ok request) :
    ∃ outcome after trace,
      (client.change world.watched path what change).attempt.exec session = (.ok outcome, after) ∧
      after.trace = session.trace ++ trace ∧
      (after.elapsed.nanos < session.elapsed.nanos + client.timeout.nanos →
        Course what secret change request trace outcome) := by
  obtain ⟨outcome, after, trace, gives, course⟩ := course_of_attempt live answered ready leads
  exact ⟨outcome, after, trace, gives.attempt, course⟩

end Client

/-! ### A deletion that takes its time -/

/-- A server that gives its answers one after the other, whatever it is asked, and
then the last one again and again. -/
def World.scripted (last : Http.Response) : World (List Http.Response) where
  exchange _ answers := ((some (answers.headD last), ⟨0⟩), answers.tail)
  clock answers := (⟨0⟩, answers)

namespace Sample

def client : Client where
  subscriptionId := "subscription"
  resourceGroup := "c1-rg"
  endpoint := Client.standardEndpoint
  tokens := .forEndpoint (.accessToken "token") Client.standardEndpoint
  timeout := .ofSecs 60
  pollInterval := .ofSecs 1
  dryRun := false

/-- The deletion is accepted, goes on for a while and then succeeds. -/
def answers : List Http.Response :=
  [{ status := ⟨202⟩
     headers := [("Azure-AsyncOperation", "https://management.azure.com/operations/1")] },
   { status := ⟨200⟩, body := .document (.object [("status", .string "InProgress")]) },
   { status := ⟨200⟩, body := .document (.object [("status", .string "succeeded")]) }]

def session : Session (List Http.Response × List Call) where
  outside := (answers, [])

def deletion : Http.Request where
  method := .delete
  url :=
    { scheme := "https", host := some "management.azure.com", port := none
      path := "/balancers/c1", query := some "api-version=2021-03-01", fragment := none }
  authorization := some "Bearer token"
  contentType := "application/json"
  content := .empty

end Sample

theorem Client.course_of_change_sample :
    ∃ after trace,
      (Sample.client.change (World.scripted { status := ⟨500⟩ }).watched "/balancers/c1"
        "load balancer c1" .delete).attempt.exec Sample.session = (.ok (.ok ()), after) ∧
      after.trace = trace ∧ trace.length = 3 ∧
      Course "load balancer c1" "token" .delete Sample.deletion trace (.ok ()) := by
  have parsed : Http.Url.parse? (Sample.client.address "/balancers/c1") =
      some Sample.deletion.url := by decide +kernel
  have leads : requestTo "token" (Sample.client.address "/balancers/c1") Change.delete.method
      Change.delete.content = .ok Sample.deletion := by
    rw [requestTo, Http.Request.to, parsed]
    rfl
  obtain ⟨outcome, after, trace, eq, traced, course⟩ :=
    @course_of_change _ Sample.client (World.scripted { status := ⟨500⟩ }) Sample.session "token"
      "load balancer c1" "/balancers/c1" .delete Sample.deletion rfl (fun _ _ => rfl)
      (.given rfl) leads
  have computed (run) (same : run = (Sample.client.change
        (World.scripted { status := ⟨500⟩ }).watched "/balancers/c1" "load balancer c1"
        .delete).attempt.exec Sample.session) :
      run.1 = .ok (.ok ()) ∧ run.2.elapsed.nanos < 60000000000 ∧ run.2.trace.length = 3 := by
    subst same
    decide +kernel
  obtain ⟨ok, inTime, length⟩ := computed _ eq.symm
  have traced : after.trace = trace := traced
  obtain rfl : outcome = .ok () := Except.ok.inj ok
  exact ⟨after, trace, eq, traced, traced ▸ length, course inTime⟩

end ClusterPorts.Azure
