import ClusterPorts.Proofs.Azure.Polling
import ClusterPorts.Proofs.Azure.Reading

/-!
# What a client writes

Every write of a plan is a change of the document at one path. A client in
rehearsal says which change it would make; another client makes it, and goes on
when the server has accepted it.
-/

namespace ClusterPorts.Azure

variable {σ : Type}

/-- What an operation leaves in the log. -/
def Session.Logs (session after : Session σ) : Prop :=
  ∃ entries : List LogEntry, after.notes = session.notes ++ entries.map .log

namespace Session

variable {session middle after : Session σ}

theorem Logs.refl (session : Session σ) : session.Logs session := ⟨[], by simp⟩

theorem Logs.trans (first : session.Logs middle) (second : middle.Logs after) :
    session.Logs after := by
  obtain ⟨entries, said⟩ := first
  obtain ⟨more, said'⟩ := second
  exact ⟨entries ++ more, by rw [said', said, List.map_append, List.append_assoc]⟩

theorem Logs.of_notes {entry : LogEntry} (said : after.notes = session.notes ++ [.log entry]) :
    session.Logs after := ⟨[entry], said⟩

end Session

/-- The change of a document that a request asks for, if it writes. -/
def changeOf : Request → Option Change
  | .writeGroup group => some (.put (SecurityGroup.codec.encode group))
  | .deleteGroup _ => some .delete
  | .writeSubnet _ subnet => some (.put (Subnet.codec.encode subnet))
  | .writeBalancer balancer => some (.put (LoadBalancer.codec.encode balancer))
  | .readGroup _ => none
  | .readSubnet _ _ => none
  | .readBalancer _ => none

/-- What the resource that a request is about is called in messages. -/
def titleOf : Request → String
  | .readGroup name => Client.groupTitle name
  | .writeGroup group => Client.groupTitle group.name
  | .deleteGroup name => Client.groupTitle name
  | .readSubnet network name => Client.subnetTitle network name
  | .writeSubnet network subnet => Client.subnetTitle network subnet.name
  | .readBalancer name => Client.balancerTitle name
  | .writeBalancer balancer => Client.balancerTitle balancer.name

theorem exists_changeOf {request : Request} (writes : request.isWrite = true) :
    ∃ change, changeOf request = some change := by
  cases request with
  | readGroup _ => cases writes
  | readSubnet _ _ => cases writes
  | readBalancer _ => cases writes
  | writeGroup group => exact ⟨_, rfl⟩
  | deleteGroup name => exact ⟨_, rfl⟩
  | writeSubnet network subnet => exact ⟨_, rfl⟩
  | writeBalancer balancer => exact ⟨_, rfl⟩

namespace Client

variable {client : Client} {world : World σ} {session : Session σ} {secret path what : String}
  {url : Http.Url} {change : Change}

/-- A write is a change at the path of its resource, and is acknowledged when the
change is made. -/
theorem gives_fulfil_of_change {request : Request} {after : Session σ}
    (asks : changeOf request = some change)
    (gives : (client.change world (client.pathOf request) (titleOf request) change).Gives session
      (.ok ()) after) (secret : String) (documents : Table Json) :
    (client.fulfil world request).Gives session (client.reply secret documents request) after := by
  cases request with
  | readGroup _ => cases asks
  | readSubnet _ _ => cases asks
  | readBalancer _ => cases asks
  | writeGroup group =>
      cases asks
      exact gives
  | deleteGroup name =>
      cases asks
      exact gives
  | writeSubnet network subnet =>
      cases asks
      exact gives
  | writeBalancer balancer =>
      cases asks
      exact gives

/-- What a client in rehearsal says instead of changing the document at a path. -/
def rehearsed (path : String) : Change → LogEntry
  | .put document =>
      .info ("[DRY-RUN] Would PUT " ++ path ++ " with payload: " ++ document.compress)
  | .delete => .info ("[DRY-RUN] Would DELETE " ++ path)

theorem isRehearsal_rehearsed (path : String) (change : Change) :
    (Note.log (rehearsed path change)).isRehearsal = true := by
  cases change with
  | put document =>
      show Text.startsWith ("[DRY-RUN] Would PUT " ++ path ++ " with payload: " ++ _) _ = true
      simp [Text.startsWith, rehearsalMark, List.isPrefixOf]
  | delete =>
      show Text.startsWith ("[DRY-RUN] Would DELETE " ++ path) _ = true
      simp [Text.startsWith, rehearsalMark, List.isPrefixOf]

/-- A client in rehearsal says so, and that is all. -/
theorem gives_change_of_dryRun (rehearsing : client.dryRun = true) :
    (client.change world path what change).Gives session (.ok ())
      { session with notes := session.notes ++ [.log (rehearsed path change)] } := by
  cases change with
  | put document =>
      rw [Client.change, write, if_pos rehearsing]
      rfl
  | delete =>
      rw [Client.change, delete, if_pos rehearsing]
      rfl

/-- A change that is answered in time: what comes after depends on the answer. -/
theorem exec_change_of_inTime (live : client.dryRun = false) {held : Session σ}
    (has : (client.tokens.token world (some (client.limitOf session what))).exec
      (asking (begun session what change) change.method (client.address path)) =
        (.ok secret, held))
    (reaches : client.Reaches secret path url) {response : Http.Response} {span : Span} {next : σ}
    (exchanged : world.exchange (bearing secret change.method url change.content) held.outside =
      ((some response, span), next))
    (inTime : held.elapsed.nanos + span.nanos < session.elapsed.nanos + client.timeout.nanos) :
    (client.change world path what change).exec session =
      (client.conclude world (client.limitOf session what) what change response).exec
        (held.exchanged world (bearing secret change.method url change.content)) := by
  have elapsed : (held.exchanged world (bearing secret change.method url change.content)).elapsed =
      ⟨held.elapsed.nanos + span.nanos + 1⟩ := by
    rw [Session.exchanged, exchanged]
  have sent_inTime : (held.sent world
      (requestTo secret (client.address path) change.method change.content)).InTime
        (some (client.limitOf session what)) := by
    rw [reaches, Session.inTime_some, Session.sent, elapsed]
    exact inTime
  have asks := exec_ask_inTime has sent_inTime
  rw [reaches] at asks
  rw [exec_change_eq live, asks]
  simp only [World.replyTo, exchanged]
  rfl

/-- A change by a client that has a token at hand. -/
theorem exec_change_of_ready (live : client.dryRun = false)
    (ready : client.tokens.Ready world session.token secret)
    (reaches : client.Reaches secret path url) {response : Http.Response} {span : Span} {next : σ}
    (exchanged : world.exchange (bearing secret change.method url change.content)
      (client.before world (begun session what change) change.method
        (client.address path)).outside = ((some response, span), next))
    (inTime : span.nanos < client.timeout.nanos) :
    (client.change world path what change).exec session =
      (client.conclude world (client.limitOf session what) what change response).exec
        (client.after world (begun session what change) change.method (client.address path)
          (bearing secret change.method url change.content)) := by
  have ready : client.tokens.Ready world
    (asking (begun session what change) change.method (client.address path)).token secret := ready
  refine exec_change_of_inTime live (TokenSource.exec_token ready _) reaches exchanged ?_
  rw [TokenSource.looked_elapsed]
  exact Nat.add_lt_add_left inTime _

/-- After some answers there is nothing to wait for. -/
theorem gives_conclude_of_done {limit : Limit} {response : Http.Response}
    (done : change.IsGone response ∨
      response.status.isSuccess ∧ ∀ address report, ¬ Directs response address report) :
    ∃ entries : List LogEntry,
      (client.conclude world limit what change response).Gives session (.ok ())
        { session with notes := session.notes ++ entries.map .log } := by
  unfold conclude
  by_cases gone : change.IsGone response
  · rw [if_pos gone]
    exact ⟨[_], rfl⟩
  · obtain ⟨success, nowhere⟩ := done.resolve_left gone
    have ends : follow? response = none := by
      cases follows : follow? response with
      | none => rfl
      | some place => exact absurd (directs_iff.mpr follows) (nowhere place.1 place.2)
    rw [if_neg gone]
    refine ⟨[], ?_⟩
    simp only [checked, success, if_true, orFail, pure_bind, finish, ends, List.map_nil,
      List.append_nil]
    rfl

end Client

end ClusterPorts.Azure
