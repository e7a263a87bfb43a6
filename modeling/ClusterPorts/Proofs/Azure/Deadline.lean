import ClusterPorts.Azure.Factory
import ClusterPorts.Proofs.Azure.Lifetime
import ClusterPorts.Proofs.Azure.Polling
import ClusterPorts.Proofs.Azure.Renewal
import ClusterPorts.Proofs.CommandLine.Merging

/-!
# Time for one poll

A change that is accepted is waited for: the client sleeps for one poll interval and then
asks whether the operation has ended. The time of the change has been running since before
its request was sent, so the question is only asked if the interval is shorter than the
time. Settings are accepted with an interval as long as the time, and a timeout that is
shorter than the interval of the file makes it just that long. If both are told in whole
seconds and every exchange is brisk, that one case decides (`Client.change_in_time`): with
a shorter interval the change ends well, and otherwise it runs out of time although its
operation has long ended.

What the server does is said for the states of a stage: while it is `idle` it accepts the
change, and while it is `busy` it tells that the operation has ended.
-/

namespace ClusterPorts.Azure

variable {σ : Type}

/-- Every exchange takes less than a number of nanoseconds. -/
def World.Brisk (world : World σ) (most : Nat) : Prop :=
  ∀ request state, (world.exchange request state).1.2.nanos < most

/-- A token can be sent in a header. -/
def Sendable (secret : String) : Prop := Http.isHeaderValue ("Bearer " ++ secret)

/-- A session in a stage of the world outside. If it has a token, that can be sent. -/
structure Session.Within (session : Session σ) (stage : σ → Prop) : Prop where
  outside : stage session.outside
  token : ∀ token ∈ session.token, Sendable token.secret

/-- In a stage tokens can be had. A client that was given one can send it; who asks for one
is granted one, and the stage goes on. -/
structure TokenSource.Supplied (source : TokenSource) (world : World σ) (stage : σ → Prop) :
    Prop where
  looks : ∀ state, stage state → stage (world.clock state).2
  given : ∀ secret, source.credential = .accessToken secret → Sendable secret
  granted : ∀ tenantId clientId secret authorityHost,
    source.credential = .clientSecret tenantId clientId secret authorityHost →
    ∃ sent, request source.scope tenantId clientId secret authorityHost = .ok sent ∧
      ∀ state, stage state → stage (world.exchange sent state).2 ∧ ∃ response grant,
        (world.exchange sent state).1.1 = some response ∧ granted? response = some grant ∧
        Sendable grant.secret ∧ ∀ state, (world.clock state).1.Reaches grant.lifetime

/-! ## Exchanges within the time -/

section

variable {world : World σ} {session : Session σ} (limit : Limit) {most : Nat}
  {stage : σ → Prop}

namespace TokenSource

variable {source : TokenSource}

/-- A token that is granted is what asking for it comes to. -/
theorem renewal_of_granted {clientId : String} {sent : Http.Request} {response : Http.Response}
    {grant : TokenGrant} {outside : σ}
    (answer : (world.exchange sent outside).1.1 = some response)
    (grants : granted? response = some grant)
    (lasts : ∀ state, (world.clock state).1.Reaches grant.lifetime) :
    ∃ expires, renewal world clientId (.ok sent) outside = .ok ⟨grant.secret, expires⟩ := by
  have judged : verdict clientId (world.replyTo (.ok sent) outside) = .ok grant := by
    rw [World.replyTo, answer]
    exact verdict_eq_ok.mpr ⟨response, rfl, grants⟩
  obtain ⟨expires, ends⟩ : ∃ expires,
      (world.clock (world.past (.ok sent) outside)).1.after? grant.lifetime = some expires := by
    refine Option.ne_none_iff_exists'.mp fun endless => ?_
    exact Moment.after?_eq_none_iff.mp endless (lasts _)
  exact ⟨expires, by simp only [renewal, judged, ends]⟩

/-- A call for a token comes to one that can be sent, within the time of one exchange, and
the stage goes on. -/
def Yields (source : TokenSource) (world : World σ) (limit : Limit) (most : Nat)
    (stage : σ → Prop) (session : Session σ) : Prop :=
  ∃ secret after, (source.token world (some limit)).exec session = (.ok secret, after) ∧
    Sendable secret ∧ after.Within stage ∧ session.elapsed.nanos ≤ after.elapsed.nanos ∧
    after.elapsed.nanos ≤ session.elapsed.nanos + most

/-- Where no token can be used, one is asked for and granted. -/
theorem yields_of_lacks {tenantId clientId secret authorityHost : String}
    (own : source.credential = .clientSecret tenantId clientId secret authorityHost)
    (supplied : source.Supplied world stage) (brisk : world.Brisk most)
    (within : session.Within stage) {looked : Session σ} (lacks : session.Lacks world looked)
    (renews : (source.token world (some limit)).exec session =
      (renew world (some limit) clientId
        (request source.scope tenantId clientId secret authorityHost)).exec looked)
    (inTime : session.elapsed.nanos + most ≤ limit.deadline.nanos) :
    source.Yields world limit most stage session := by
  obtain ⟨sent, leads, grants⟩ := supplied.granted _ _ _ _ own
  have start : stage looked.outside := by
    cases lacks with
    | missing => exact within.outside
    | stale => exact supplied.looks _ within.outside
  obtain ⟨stays, response, grant, answer, granted, sendable, lasts⟩ := grants looked.outside start
  obtain ⟨later, quick⟩ := looked.elapsed_exchanged (brisk sent looked.outside)
  rw [lacks.elapsed] at later quick
  have sent_inTime : (looked.sent world (.ok sent)).InTime (some limit) :=
    Session.inTime_some.mpr (Nat.le_trans quick inTime)
  obtain ⟨after, runs, renewed⟩ := exec_renew clientId sent_inTime
  obtain ⟨expires, comes⟩ := renewal_of_granted answer granted lasts
  rw [comes] at runs renewed
  refine ⟨grant.secret, after, ?_, sendable, ⟨?_, ?_⟩, ?_, ?_⟩
  · rw [renews, leads]
    exact runs
  · obtain same | same := renewed.outside
    · exact same ▸ stays
    · exact same ▸ supplied.looks _ stays
  · rw [renewed.token]
    rintro _ ⟨⟩
    exact sendable
  · rw [renewed.elapsed]
    exact Nat.le_of_lt later
  · rw [renewed.elapsed]
    exact quick

/-- A token that is supplied is had within the time of one exchange. -/
theorem yields_of_supplied (supplied : source.Supplied world stage) (brisk : world.Brisk most)
    (within : session.Within stage)
    (inTime : session.elapsed.nanos + most ≤ limit.deadline.nanos) :
    source.Yields world limit most stage session := by
  cases own : source.credential with
  | accessToken secret =>
    refine ⟨secret, session, ?_, supplied.given secret own, within, Nat.le_refl _,
      Nat.le_add_right _ _⟩
    rw [token, own]
    rfl
  | clientSecret tenantId clientId secret authorityHost =>
    obtain ⟨kept, has, -, uses⟩ | ⟨looked, lacks, renews⟩ :=
      exec_token_cases own world session (some limit)
    · have ticked : (session.ticked world).Within stage :=
        ⟨supplied.looks _ within.outside, within.token⟩
      exact ⟨kept.secret, _, uses, within.token kept has, ticked, Nat.le_refl _,
        Nat.le_add_right _ _⟩
    · exact yields_of_lacks limit own supplied brisk within lacks renews inTime

end TokenSource

end

/-! ## A change and one poll -/

namespace Client

variable {client : Client} {world : World σ} {session : Session σ} {limit : Limit} {most : Nat}
  {stage : σ → Prop} {what path : String} {change : Change}

/-- In a stage a request is answered, whatever token it carries, and the answer is a good
one for the state that it leaves. -/
def Answered (world : World σ) (stage : σ → Prop) (method : Http.Method) (address : String)
    (content : Http.Content) (good : Http.Response → σ → Prop) : Prop :=
  ∀ secret state, Sendable secret → stage state → ∃ request response,
    requestTo secret address method content = .ok request ∧
      (world.exchange request state).1.1 = some response ∧
      good response (world.exchange request state).2

/-- A server that accepts a change while it is idle, says where to ask for its operation,
and not how long to wait; and that tells, while it is busy with that, that the operation has
ended. -/
structure Serves (client : Client) (world : World σ) (path what : String) (change : Change)
    (idle : σ → Prop) (busy : String → Report → σ → Prop) : Prop where
  supplied_idle : client.tokens.Supplied world idle
  supplied_busy : ∀ place report, client.tokens.Supplied world (busy place report)
  accepts : Answered world idle change.method (client.address path) change.content
    fun response state => response.status.isSuccess ∧ retryAfter? response = none ∧
      ∃ place report, Directs response place report ∧ busy place report state
  ended : ∀ place report, Answered world (busy place report) .get place .empty
    fun last _ => Verdict what last report (.ok ())

/-- A request that is answered in a stage is answered within the time of two exchanges. -/
theorem exec_ask_answered (limit : Limit) {method : Http.Method} {address : String}
    {content : Http.Content}
    {good : Http.Response → σ → Prop} (supplied : client.tokens.Supplied world stage)
    (brisk : world.Brisk most) (within : session.Within stage)
    (inTime : session.elapsed.nanos + 2 * most ≤ limit.deadline.nanos)
    (answered : Answered world stage method address content good) :
    ∃ response after,
      (client.ask world (some limit) method address content).exec session = (.ok response, after) ∧
      (∃ request state, stage state ∧ (world.exchange request state).1.1 = some response) ∧
      good response after.outside ∧ (∀ token ∈ after.token, Sendable token.secret) ∧
      session.elapsed.nanos < after.elapsed.nanos ∧
      after.elapsed.nanos ≤ session.elapsed.nanos + 2 * most := by
  have start : (asking session method address).Within stage := ⟨within.outside, within.token⟩
  have time : (asking session method address).elapsed = session.elapsed := rfl
  obtain ⟨secret, held, has, sendable, still, later, quick⟩ :=
    TokenSource.yields_of_supplied limit supplied brisk start (by rw [time]; omega)
  obtain ⟨request, response, sent, answer, isGood⟩ :=
    answered secret held.outside sendable still.outside
  obtain ⟨passes, brief⟩ := held.elapsed_exchanged (brisk request held.outside)
  rw [time] at later quick
  refine ⟨response, held.exchanged world request, ?_, ⟨_, _, still.outside, answer⟩, isGood,
    still.token, by omega, by omega⟩
  have inTime : (held.sent world (requestTo secret address method content)).InTime (some limit) := by
    rw [sent, Session.inTime_some]
    show (held.exchanged world request).elapsed.nanos ≤ _
    omega
  rw [exec_ask_inTime has inTime, sent]
  simp only [World.replyTo, answer]
  rfl

/-- An operation that has ended is found so by the first poll, if there is time for it. -/
theorem exec_poll_ended {place : String} {report : Report} {ticks : Nat} {delay : Span}
    (supplied : client.tokens.Supplied world stage) (brisk : world.Brisk most)
    (within : session.Within stage) (positive : 0 < most) (some_ticks : 0 < ticks)
    (inTime : session.elapsed.nanos + delay.nanos + 2 * most ≤ limit.deadline.nanos)
    (ended : Answered world stage .get place .empty
      fun last _ => Verdict what last report (.ok ())) :
    ∃ after, (client.poll world limit what place report ticks delay).exec session =
      (.ok (), after) := by
  obtain ⟨ticks, rfl⟩ := Nat.exists_eq_add_one_of_ne_zero (Nat.ne_of_gt some_ticks)
  have start : (session.slept delay).Within stage := ⟨within.outside, within.token⟩
  have awake : ¬ limit.deadline.nanos ≤ session.elapsed.nanos + delay.nanos := by omega
  obtain ⟨last, asked, asks, _, verdict, _⟩ :=
    exec_ask_answered limit supplied brisk start inTime ended
  obtain ⟨success, told⟩ := verdict.stateIn_eq
  refine ⟨asked.noted [.debug (what ++ " completed")], (exec_poll_awake awake asks).trans ?_⟩
  simp only [heed, checked, success, if_true, orFail, told, pure_bind]
  rfl

/-- Who wakes up at the deadline does not ask. -/
theorem exec_poll_overslept {place : String} {report : Report} (ticks : Nat) {delay : Span}
    (late : limit.deadline.nanos ≤ session.elapsed.nanos + delay.nanos) :
    ∃ after, (client.poll world limit what place report ticks delay).exec session =
      (.error (.failure limit.failure), after) := by
  cases ticks with
  | zero => exact ⟨session, rfl⟩
  | succ ticks => exact ⟨_, exec_poll_late late⟩

/-- The client of settings keeps their times. -/
theorem times_of_client {azure : AzureSettings} {operation : OperationSettings}
    {entries : List LogEntry} (makes : Azure.client azure operation = .ok (client, entries)) :
    client.timeout = .ofSecs operation.timeoutSecs.toNat ∧
      client.pollInterval = .ofSecs operation.pollSecs.toNat ∧
      client.dryRun = operation.dryRun := by
  rw [Azure.client] at makes
  cases chosen : credential azure with
  | error fault =>
    rw [chosen] at makes
    cases makes
  | ok chosen' =>
    rw [chosen] at makes
    cases makes
    exact ⟨rfl, rfl, rfl⟩

/-- What comes after the answer to a change that says where to ask and not how long to
wait: the resource is gone at once, or the polls begin after one interval. -/
theorem exec_conclude {response : Http.Response} {place : String} {report : Report}
    (success : response.status.isSuccess) (patient : retryAfter? response = none)
    (directs : Directs response place report) :
    (client.conclude world limit what change response).exec session =
      if change.IsGone response then (Act.log (.debug (what ++ " already gone"))).exec session
      else (client.poll world limit what place report
        (limit.deadline.nanos - session.elapsed.nanos) client.pollInterval).exec session := by
  rw [conclude]
  split
  · rfl
  · have delay : client.delayAfter response = client.pollInterval := by
      rw [delayAfter, patient, Option.getD_none]
    simp only [checked, success, if_true, orFail, pure_bind, finish, directs_iff.mp directs, delay]
    rfl

/-- How a change ends on a server that accepts it and has ended it by the first poll. -/
theorem exec_change_served {idle : σ → Prop} {busy : String → Report → σ → Prop}
    (live : client.dryRun = false) (serves : client.Serves world path what change idle busy)
    (brisk : world.Brisk most) (within : session.Within idle)
    (room : 2 * most ≤ client.timeout.nanos) :
    (client.pollInterval.nanos + 4 * most ≤ client.timeout.nanos →
      ∃ after, (client.change world path what change).exec session = (.ok (), after)) ∧
    (client.timeout.nanos ≤ client.pollInterval.nanos →
      (∀ request state response, idle state →
        (world.exchange request state).1.1 = some response → ¬ change.IsGone response) →
      ∃ after, (client.change world path what change).exec session =
        (.error (.failure (client.limitOf session what).failure), after)) := by
  have start : (begun session what change).Within idle := ⟨within.outside, within.token⟩
  obtain ⟨response, asked, asks, ⟨request, state, isIdle, answer⟩,
    ⟨success, patient, place, report, directs, isBusy⟩, sendable, later, quick⟩ :=
    exec_ask_answered (client.limitOf session what) serves.supplied_idle brisk start
      (Nat.add_le_add_left room _) serves.accepts
  have deadline : (client.limitOf session what).deadline.nanos =
      session.elapsed.nanos + client.timeout.nanos := rfl
  have later : session.elapsed.nanos < asked.elapsed.nanos := later
  have quick : asked.elapsed.nanos ≤ session.elapsed.nanos + 2 * most := quick
  have comes : (client.change world path what change).exec session =
      (client.conclude world (client.limitOf session what) what change response).exec asked := by
    rw [exec_change_eq live, asks]
  rw [comes, exec_conclude success patient directs]
  refine ⟨fun enough => ?_, fun tight there => ?_⟩
  · split
    · exact ⟨_, rfl⟩
    · exact exec_poll_ended (serves.supplied_busy place report) brisk ⟨isBusy, sendable⟩
        (by omega) (by omega) (by omega) (serves.ended place report)
  · rw [if_neg (there request state response isIdle answer)]
    exact exec_poll_overslept _ (by omega)

/-- Whether an accepted timeout can be used. Settings that a command line gives have a poll
interval that is not longer than their timeout. With a shorter one a change ends well that
a server accepts and has ended by the first poll, if each exchange takes a quarter of a
second at most. With one that is as long it runs out of time on the same server, unless the
resource is gone at once. -/
theorem change_in_time {invocation : CommandLine.Invocation} {files : String → FileContents}
    {azure : AzureSettings} {ports : List Port} {operation : OperationSettings}
    {entries : List LogEntry} {idle : σ → Prop} {busy : String → Report → σ → Prop}
    (accepted : invocation.settings files = .ok ⟨.azure azure, ports, operation⟩)
    (makes : Azure.client azure operation = .ok (client, entries))
    (live : operation.dryRun = false) (serves : client.Serves world path what change idle busy)
    (brisk : world.Brisk most) (few : 4 * most ≤ 1000000000) (within : session.Within idle) :
    operation.pollSecs ≤ operation.timeoutSecs ∧
    (operation.pollSecs < operation.timeoutSecs →
      ∃ after, (client.change world path what change).attempt.exec session =
        (.ok (.ok ()), after)) ∧
    (operation.pollSecs = operation.timeoutSecs →
      (∀ request state response, idle state →
        (world.exchange request state).1.1 = some response → ¬ change.IsGone response) →
      ∃ after, (client.change world path what change).attempt.exec session =
        (.ok (.error (.timeout (what ++ " did not complete within " ++ client.timeout.text))),
          after)) := by
  have valid := CommandLine.Invocation.validate_of_settings accepted
  obtain ⟨positive, short⟩ :=
    OperationSettings.validate_eq_ok.mp (Settings.validate_eq_ok.mp valid).2.1
  obtain ⟨timeout, interval, dryRun⟩ := times_of_client makes
  have timeout_nanos : client.timeout.nanos = operation.timeoutSecs.toNat * 1000000000 := by
    rw [timeout, Span.ofSecs]
  have interval_nanos : client.pollInterval.nanos = operation.pollSecs.toNat * 1000000000 := by
    rw [interval, Span.ofSecs]
  simp only [UInt64.lt_iff_toNat_lt, UInt64.le_iff_toNat_le, UInt64.toNat_zero] at positive short ⊢
  obtain ⟨ends, overslept⟩ :=
    exec_change_served (dryRun.trans live) serves brisk within (by omega)
  refine ⟨short, fun shorter => ?_, fun same there => ?_⟩
  · obtain ⟨after, changed⟩ := ends (by omega)
    have gives : (client.change world path what change).Gives session (.ok ()) after := changed
    exact ⟨after, gives.attempt⟩
  · obtain ⟨after, stopped⟩ := overslept (Nat.le_of_eq (by rw [timeout_nanos, interval_nanos, same])) there
    have gives : (client.change world path what change).Gives session
      (.error (client.limitOf session what).failure) after := stopped
    exact ⟨after, gives.attempt⟩

/-! ### A timeout of one second -/

/-- Requests to an address on the web are answered if the server answers them. -/
theorem answered_of_parse? {method : Http.Method} {address : String} {content : Http.Content}
    {url : Http.Url} {good : Http.Response → σ → Prop}
    (parsed : Http.Url.parse? address = some url) (web : url.isWeb) (hosted : url.host.isSome)
    (answers : ∀ secret state, stage state → ∃ response,
      (world.exchange ⟨method, url, some ("Bearer " ++ secret), "application/json", content⟩
        state).1.1 = some response ∧
      good response (world.exchange
        ⟨method, url, some ("Bearer " ++ secret), "application/json", content⟩ state).2) :
    Answered world stage method address content good := by
  intro secret state sendable isIn
  obtain ⟨response, answer, isGood⟩ := answers secret state isIn
  refine ⟨_, response, ?_, answer, isGood⟩
  have bearer : Http.isHeaderValue ("Bearer " ++ secret) = true := sendable
  rw [requestTo, Http.Request.to, parsed]
  simp [web, Option.isNone_eq_false_iff.mpr hosted, bearer]

end Client

namespace Sample

/-- Where the operation can be read that a change has begun. -/
def operation : String := "https://management.azure.com/operations/1"

def begins : Http.Response where
  status := ⟨202⟩
  headers := [("Azure-AsyncOperation", operation)]

def hasEnded : Http.Response where
  status := ⟨200⟩
  body := .document (.object [("status", .string "Succeeded")])

/-- A server that accepts a change and has ended it when it is asked. -/
def prompt : World Unit where
  exchange request _ := ((some (if request.method = .get then hasEnded else begins), ⟨0⟩), ())
  clock _ := (⟨0⟩, ())

/-- A command for a cluster that the client has an access token for. -/
def commanded (times : CommandLine.Given) : CommandLine.Invocation where
  verb := .cleanup
  before :=
    { given := [(.subscriptionId, [.text "subscription"]), (.infraId, [.text "c1"]),
        (.region, [.text "eastus"]), (.resourceGroup, [.text "c1-rg"]),
        (.accessToken, [.text "token"])] ++ times }
  after := {}

def authorized : AzureSettings where
  subscriptionId := "subscription"
  infraId := "c1"
  region := "eastus"
  resourceGroup := "c1-rg"
  accessToken := some "token"

def nowhere (_ : String) : FileContents := .missing

theorem serves_prompt {client : Client} (own : client.tokens.credential = .accessToken "token")
    (url : Http.Url) (parsed : Http.Url.parse? (client.address "/balancers/c1") = some url)
    (web : url.isWeb) (hosted : url.host.isSome) :
    client.Serves prompt "/balancers/c1" "load balancer c1" .delete (fun _ => True)
      (fun place report _ => place = operation ∧ report = .document) := by
  have sendable : Http.isHeaderValue ("Bearer " ++ "token") = true := by decide
  have supplied (stage : Unit → Prop) : client.tokens.Supplied prompt stage :=
    { looks := fun _ isIn => isIn
      given := by
        intro secret given
        cases own.symm.trans given
        exact sendable
      granted := by
        intro _ _ _ _ asks
        cases own.symm.trans asks }
  refine ⟨supplied _, fun _ _ => supplied _, ?_, fun place report => ?_⟩
  · refine Client.answered_of_parse? parsed web hosted fun _ _ _ => ⟨begins, rfl, rfl, ?_, ?_⟩
    · decide +kernel
    · exact ⟨operation, .document, .operation (by decide +kernel) (by decide), rfl, rfl⟩
  · by_cases asked : place = operation ∧ report = .document
    · obtain ⟨rfl, rfl⟩ := asked
      obtain ⟨url, parsed, web, hosted⟩ : ∃ url, Http.Url.parse? operation = some url ∧
          url.isWeb ∧ url.host.isSome := by
        refine ⟨⟨"https", some "management.azure.com", none, "/operations/1", none, none⟩, ?_⟩
        decide +kernel
      refine Client.answered_of_parse? parsed web hosted fun _ _ _ => ⟨hasEnded, rfl, ?_⟩
      have told : Tells (.object [("status", .string "Succeeded")]) "Succeeded" := rfl
      exact .succeeded rfl rfl told (by decide +kernel)
    · exact fun _ _ _ isIn => absurd isIn asked

end Sample

/-- With an interval of one second in a time of two seconds, the deletion ends well. -/
theorem Client.change_in_time_sample :
    ∃ client entries after,
      (Sample.commanded [(.timeoutSecs, [.number 2]), (.pollSecs, [.number 1])]).settings
        Sample.nowhere = .ok ⟨.azure Sample.authorized, [], ⟨2, 1, false⟩⟩ ∧
      Azure.client Sample.authorized ⟨2, 1, false⟩ = .ok (client, entries) ∧
      (client.change Sample.prompt "/balancers/c1" "load balancer c1" .delete).attempt.exec
        { outside := () } = (.ok (.ok ()), after) := by
  have accepted : (Sample.commanded [(.timeoutSecs, [.number 2]), (.pollSecs, [.number 1])]).settings
      Sample.nowhere = .ok ⟨.azure Sample.authorized, [], ⟨2, 1, false⟩⟩ := rfl
  obtain ⟨client, entries, makes, own, address⟩ : ∃ client entries,
      Azure.client Sample.authorized ⟨2, 1, false⟩ = .ok (client, entries) ∧
        client.tokens.credential = .accessToken "token" ∧
        client.address "/balancers/c1" = Sample.client.address "/balancers/c1" :=
    ⟨_, _, rfl, rfl, by decide +kernel⟩
  have parsed : Http.Url.parse? (client.address "/balancers/c1") = some Sample.deletion.url := by
    rw [address]
    decide +kernel
  have brisk : Sample.prompt.Brisk 1 := fun _ _ => Nat.one_pos
  have within : ({ outside := () } : Session Unit).Within fun _ => True := ⟨trivial, nofun⟩
  obtain ⟨_, ends, _⟩ := change_in_time accepted makes rfl
    (Sample.serves_prompt own _ parsed (by decide) rfl) brisk (by decide) within
  obtain ⟨after, changed⟩ := ends (by decide)
  exact ⟨client, entries, after, accepted, makes, changed⟩

/-- A timeout of one second is accepted with the standard interval of five seconds. The
server has ended the deletion when it is asked, but it is never asked. -/
theorem Client.timeout_of_prompt :
    (Sample.commanded [(.timeoutSecs, [.number 1])]).settings Sample.nowhere =
      .ok ⟨.azure Sample.authorized, [], ⟨1, 1, false⟩⟩ ∧
    ∃ client entries,
      Azure.client Sample.authorized ⟨1, 1, false⟩ = .ok (client, entries) ∧
      client.Serves Sample.prompt "/balancers/c1" "load balancer c1" .delete (fun _ => True)
        (fun place report _ => place = Sample.operation ∧ report = .document) ∧
      Sample.prompt.Brisk 1 ∧
      ((client.change Sample.prompt "/balancers/c1" "load balancer c1" .delete).attempt.exec
        { outside := () }).1 =
          .ok (.error (.timeout "load balancer c1 did not complete within 1s")) := by
  refine ⟨rfl, _, _, rfl, Sample.serves_prompt rfl Sample.deletion.url ?_ ?_ ?_,
    fun _ _ => Nat.one_pos, ?_⟩ <;> decide +kernel

end ClusterPorts.Azure
