import ClusterPorts.Proofs.Azure.Writing
import ClusterPorts.Proofs.Provision.Warrants

/-!
# A performance and a rehearsal in lockstep

A client in rehearsal reads, but only says what it would write. It never sees a
write of its own, so what it says is right only if no read of an operation comes
after a write to the same place. An operation reads each resource once, and before
it writes it: `Grounded`. When the requests for the resources of a cluster go to
different places, both clients therefore read the same, and stay `Abreast`.

Both call for tokens, at different moments and not equally often, since a rehearsal needs
none for what it does not send. That makes no difference where all calls fare alike.
-/

namespace ClusterPorts

/-! ## Reads come before writes -/

/-- A resource that was read bears the name that it was asked for by. -/
def Exchange.Named : Exchange → Prop
  | ⟨.readGroup name, .ok (some group)⟩ => group.name = name
  | ⟨.readSubnet _ name, .ok subnet⟩ => subnet.name = name
  | ⟨.readBalancer name, .ok (some balancer)⟩ => balancer.name = name
  | _ => True

instance : DecidablePred Exchange.Named
  | ⟨.readGroup name, .ok (some group)⟩ => inferInstanceAs (Decidable (group.name = name))
  | ⟨.readGroup _, .ok none⟩ => .isTrue trivial
  | ⟨.readGroup _, .error _⟩ => .isTrue trivial
  | ⟨.readSubnet _ name, .ok subnet⟩ => inferInstanceAs (Decidable (subnet.name = name))
  | ⟨.readSubnet _ _, .error _⟩ => .isTrue trivial
  | ⟨.readBalancer name, .ok (some balancer)⟩ => inferInstanceAs (Decidable (balancer.name = name))
  | ⟨.readBalancer _, .ok none⟩ => .isTrue trivial
  | ⟨.readBalancer _, .error _⟩ => .isTrue trivial
  | ⟨.writeGroup _, _⟩ => .isTrue trivial
  | ⟨.deleteGroup _, _⟩ => .isTrue trivial
  | ⟨.writeSubnet _ _, _⟩ => .isTrue trivial
  | ⟨.writeBalancer _, _⟩ => .isTrue trivial

namespace Azure

section

variable {σ α : Type} {client : Client} {cluster : Cluster} {past : List Exchange}

/-- A read is the next one of the itinerary, and a write is to what was read
before, if all that was read bears its own name. -/
structure Grounded (client : Client) (cluster : Cluster) (past : List Exchange)
    (request : Request) : Prop where
  reads : request.isWrite = false →
    ∃ later, (site cluster client).Ahead past (request :: later)
  writes : request.isWrite = true → (∀ exchange ∈ past, exchange.Named) →
    ∃ read answer, (⟨read, .ok answer⟩ : Exchange) ∈ past ∧ read.isWrite = false ∧
      client.pathOf read = client.pathOf request

/-- What warrants a request grounds it. -/
theorem grounded_of_openingWarrant {ports : List Port} {request : Request}
    (warrant : (site cluster client).OpeningWarrant ports past request) :
    Grounded client cluster past request := by
  cases warrant with
  | read reads _ next =>
      exact ⟨fun _ => ⟨_, next⟩, fun writes => absurd (reads.symm.trans writes) Bool.noConfusion⟩
  | group role draft own =>
      refine ⟨nofun, fun _ named => ?_⟩
      cases draft with
      | found read =>
          obtain rfl := named _ read
          exact ⟨_, _, read, rfl, rfl⟩
      | fresh missing => exact ⟨_, _, missing, rfl, rfl⟩
  | balancer read own =>
      refine ⟨nofun, fun _ named => ?_⟩
      exact ⟨_, _, read, rfl, congrArg client.balancerPath (named _ read).symm⟩
  | subnet member read bare secured admitted =>
      refine ⟨nofun, fun _ named => ?_⟩
      obtain rfl := named _ read
      exact ⟨_, _, read, rfl, rfl⟩

theorem grounded_of_closingWarrant {request : Request}
    (warrant : (site cluster client).ClosingWarrant past request) :
    Grounded client cluster past request := by
  cases warrant with
  | read reads _ next =>
      exact ⟨fun _ => ⟨_, next⟩, fun writes => absurd (reads.symm.trans writes) Bool.noConfusion⟩
  | external read => exact ⟨nofun, fun _ _ => ⟨_, _, read, rfl, rfl⟩⟩
  | balancer read =>
      refine ⟨nofun, fun _ named => ?_⟩
      exact ⟨_, _, read, rfl, congrArg client.balancerPath (named _ read).symm⟩
  | group read others =>
      refine ⟨nofun, fun _ named => ?_⟩
      exact ⟨_, _, read, rfl, congrArg client.groupPath (named _ read).symm⟩
  | subnet member read associated emptied =>
      refine ⟨nofun, fun _ named => ?_⟩
      obtain rfl := named _ read
      exact ⟨_, _, read, rfl, rfl⟩
  | internal emptied released =>
      obtain ⟨group, read, _⟩ := emptied
      exact ⟨nofun, fun _ _ => ⟨_, _, read, rfl, rfl⟩⟩

/-- Every request of an operation is grounded. -/
theorem obeys_grounded (client : Client) (cluster : Cluster) (operation : Operation) :
    Obeys (Grounded client cluster) (operation.plan (site cluster client)) (fun _ _ => True)
      [] := by
  cases operation with
  | prepare ports =>
      exact Provision.obeys_prepare.weaken fun _ _ warrant => grounded_of_openingWarrant warrant
  | cleanup =>
      exact Provision.obeys_cleanup.weaken fun _ _ warrant => grounded_of_closingWarrant warrant

/-! ## Servers -/

/-- The server shows what a client asks to read, and accepts every write at once. It
changes no document but the one that is written. -/
structure World.Applies (world : World σ) (client : Client) (secret : String)
    (documents : σ → Table Json) : Prop where
  shows : ∀ {request : Request}, request.isWrite = false →
    world.Shows client secret documents (client.pathOf request)
  writes : ∀ {request : Request} {url : Http.Url},
    client.Reaches secret (client.pathOf request) url → ∀ (change : Change) state,
    ∃ response span next,
      world.exchange (Client.bearing secret change.method url change.content) state =
        ((some response, span), next) ∧
      response.status.isSuccess ∧ (∀ address report, ¬ Directs response address report) ∧
      ∀ key, key ≠ url.path → (documents next).find? key = (documents state).find? key

/-- What is written is answered in the time for it, even if a token has to be waited for
first. -/
def World.Hurries (world : World σ) (client : Client) (secret : String) (wait : Nat) : Prop :=
  ∀ {request : Request} {url : Http.Url}, client.Reaches secret (client.pathOf request) url →
    ∀ (change : Change) state,
      wait + (world.exchange (Client.bearing secret change.method url change.content)
        state).1.2.nanos < client.timeout.nanos

/-- The resources of the cluster, as the client reads them, bear the names that they
are read by. -/
def OwnNames (client : Client) (cluster : Cluster) (secret : String) (documents : Table Json) :
    Prop :=
  ∀ request ∈ (site cluster client).itinerary,
    (⟨request, client.reply secret documents request⟩ : Exchange).Named

instance (client : Client) (cluster : Cluster) (secret : String) (documents : Table Json) :
    Decidable (OwnNames client cluster secret documents) :=
  inferInstanceAs (Decidable (∀ _ ∈ _, _))

/-- The requests for the resources of the cluster go to different places. -/
def Apart (client : Client) (cluster : Cluster) (secret : String) : Prop :=
  (site cluster client).itinerary.Pairwise fun first second =>
    ∀ url other, client.Reaches secret (client.pathOf first) url →
      client.Reaches secret (client.pathOf second) other → url.path ≠ other.path

/-! ## Mirrored runs -/

/-- A client that only says what it would write. -/
def Client.rehearsing (client : Client) : Client := { client with dryRun := true }

/-- Requests for the resource at a path go to a place, with some token of a run. -/
def Client.Arrives (client : Client) (world : World σ) (kept : Option Token) (path : String)
    (url : Http.Url) : Prop :=
  ∃ secret, client.tokens.Fares world kept (.ok secret) ∧ client.Reaches secret path url

/-- A request to change the document at a path, as it goes over the wire with some token
of a run. -/
def Performs (client : Client) (world : World σ) (kept : Option Token)
    (write : String × Change) (call : Call) : Prop :=
  ∃ secret url, client.tokens.Fares world kept (.ok secret) ∧ client.Reaches secret write.1 url ∧
    call.1 = Client.bearing secret write.2.method url write.2.content

/-- What is exchanged and said between two moments of a performance, and between
two moments of a rehearsal, for some changes of documents. Besides these the performance,
and all that the rehearsal sends, is reads and requests for tokens. -/
structure Mirrors (client : Client) (world : World σ) (kept : Option Token)
    (writes : List (String × Change)) (live live' dry dry' : Session (σ × List Call)) : Prop where
  sent : ∃ calls, live'.trace = live.trace ++ calls ∧
    List.Forall₂ (Performs client world kept) writes
      (calls.filter fun call => call.1.method = .put ∨ call.1.method = .delete)
  read : ∃ calls, dry'.trace = dry.trace ++ calls ∧
    ∀ call ∈ calls, client.Inquires world kept call.1
  said : ∃ notes, dry'.notes = dry.notes ++ notes ∧
    notes.filter Note.isRehearsal =
      writes.map fun write => .log (Client.rehearsed write.1 write.2)

section

variable {world : World σ} {kept : Option Token} {writes others : List (String × Change)}
  {live live' live'' dry dry' dry'' : Session (σ × List Call)}

theorem Mirrors.trans (first : Mirrors client world kept writes live live' dry dry')
    (second : Mirrors client world kept others live' live'' dry' dry'') :
    Mirrors client world kept (writes ++ others) live live'' dry dry'' := by
  obtain ⟨⟨sent, traced, performs⟩, ⟨read, traced', gets⟩, ⟨notes, noted, said⟩⟩ := first
  obtain ⟨⟨more, traced₂, performs₂⟩, ⟨read₂, traced₂', gets₂⟩, ⟨notes₂, noted₂, said₂⟩⟩ := second
  refine ⟨⟨sent ++ more, ?_, ?_⟩, ⟨read ++ read₂, ?_, ?_⟩, ⟨notes ++ notes₂, ?_, ?_⟩⟩
  · rw [traced₂, traced, List.append_assoc]
  · rw [List.filter_append]
    exact List.rel_append performs performs₂
  · rw [traced₂', traced', List.append_assoc]
  · exact List.forall_mem_append.mpr ⟨gets, gets₂⟩
  · rw [noted₂, noted, List.append_assoc]
  · rw [List.filter_append, said, said₂, List.map_append]

/-- What inquires does not write. -/
theorem filter_of_inquires {calls : List Call}
    (inquire : ∀ call ∈ calls, client.Inquires world kept call.1) :
    calls.filter (fun call => call.1.method = .put ∨ call.1.method = .delete) = [] := by
  refine List.filter_eq_nil_iff.mpr fun call member => ?_
  obtain get | ⟨post, -⟩ := inquire call member
  · simp [get]
  · simp [post]

/-- A step in which nothing is written. -/
theorem Mirrors.of_quiet
    (sent : ∃ calls, live'.trace = live.trace ++ calls ∧
      ∀ call ∈ calls, client.Inquires world kept call.1)
    (read : ∃ calls, dry'.trace = dry.trace ++ calls ∧
      ∀ call ∈ calls, client.Inquires world kept call.1)
    (said : ∃ notes, dry'.notes = dry.notes ++ notes ∧ ∀ note ∈ notes, Quiet note) :
    Mirrors client world kept [] live live' dry dry' := by
  obtain ⟨calls, traced, inquire⟩ := sent
  obtain ⟨notes, noted, quiet⟩ := said
  refine ⟨⟨calls, traced, ?_⟩, read, notes, noted, ?_⟩
  · rw [filter_of_inquires inquire]
    exact .nil
  · exact List.filter_eq_nil_iff.mpr fun note member => by
      rw [quiet note member]
      exact Bool.noConfusion

/-- Something is said, or nothing. -/
theorem Mirrors.of_notes {notes : List Note} (quiet : ∀ note ∈ notes, Quiet note) :
    Mirrors client world kept [] live { live with notes := live.notes ++ notes } dry
      { dry with notes := dry.notes ++ notes } :=
  .of_quiet ⟨[], (List.append_nil live.trace).symm, List.forall_mem_nil _⟩
    ⟨[], (List.append_nil dry.trace).symm, List.forall_mem_nil _⟩ ⟨notes, rfl, quiet⟩

end

/-! ## In a watched world -/

section

variable {world : World σ} {source : TokenSource} {kept : Option Token}
  {documents : σ → Table Json}

theorem renewal_watched (clientId : String) (request : Except Http.Fault Http.Request)
    (state : σ × List Call) :
    renewal world.watched clientId request state = renewal world clientId request state.1 := by
  cases request <;> rfl

theorem World.Expires.of_watched (expires : world.watched.Expires kept) : world.Expires kept := by
  intro token has
  obtain ⟨state, stale⟩ := expires token has
  exact ⟨state.1, stale⟩

theorem TokenSource.Requests.of_watched {sent : Http.Request}
    (requests : source.Requests world.watched kept sent) : source.Requests world kept sent :=
  ⟨requests.1.of_watched, requests.2⟩

theorem Client.Inquires.of_watched {sent : Http.Request}
    (inquires : client.Inquires world.watched kept sent) : client.Inquires world kept sent :=
  inquires.imp_right fun ⟨post, requests⟩ => ⟨post, requests.of_watched⟩

/-- Watching does not change what calls for tokens come to. -/
theorem TokenSource.Fares.of_watched {called : Except Stop String}
    (fares : source.Fares world.watched kept called) : source.Fares world kept called := by
  cases fares with
  | given own => exact .given own
  | @reused token state asks has fresh =>
      exact @Fares.reused _ _ _ _ token state.1 asks has fresh
  | asked renews =>
      obtain ⟨expires, clientId, request, state, asks, comes⟩ := renews
      rw [renewal_watched] at comes
      exact .asked ⟨expires.of_watched, clientId, request, state.1, asks, comes⟩

theorem TokenSource.Steady.watched {wait : Nat} (steady : source.Steady world kept documents wait) :
    source.Steady world.watched kept (fun state => documents state.1) wait where
  clock state := steady.clock state.1
  keeps requests state := steady.keeps requests.of_watched state.1
  prompt requests state := steady.prompt requests.of_watched state.1

theorem World.Shows.watched {secret path : String}
    (answers : world.Shows client secret documents path) :
    world.watched.Shows client secret (fun state => documents state.1) path where
  clock state := answers.clock state.1
  reads {url} reaches state := by
    obtain ⟨response, span, next, exchanged, rest⟩ := answers.reads reaches state.1
    refine ⟨response, span, (next, state.2 ++
      [(Client.bearing secret .get url .empty, some response)]), ?_, rest⟩
    simp only [World.watched, exchanged]

end

/-! ## Replies -/

section

variable {world : World σ} {secret : String} {documents : σ → Table Json} {held other : Table Json}
  {kept : Option Token} {wait : Nat} {live dry : Session (σ × List Call)} {request : Request}

theorem pathOf_rehearsing : client.rehearsing.pathOf request = client.pathOf request := by
  cases request <;> rfl

/-- What a client reads does not depend on whether it is in rehearsal. -/
theorem replyOn_rehearsing {called : Except Stop String} :
    client.rehearsing.replyOn called held request = client.replyOn called held request := by
  cases request <;> rfl

/-- Tokens that are alike, and documents that agree where a request goes, make for the same
reply. -/
theorem reply_congr {secret' : String} (alike : usability (.ok secret) = usability (.ok secret'))
    (agree : ∀ url, client.Reaches secret (client.pathOf request) url →
      held.find? url.path = other.find? url.path) :
    client.reply secret held request = client.reply secret' other request := by
  have found_congr {α : Type} (path what : String) (codec : Json.Codec α)
      (agree : ∀ url, client.Reaches secret path url →
        held.find? url.path = other.find? url.path) :
      client.found secret held path what codec = client.found secret' other path what codec := by
    unfold Client.found
    rw [Client.requestTo_congr alike]
    cases leads : Client.requestTo secret (client.address path) .get .empty with
    | error fault => rfl
    | ok asked =>
        obtain ⟨url, reaches, rfl⟩ := Client.reaches_of_requestTo leads
        have same : held.find? (Client.bearing secret .get url .empty).url.path =
          other.find? (Client.bearing secret .get url .empty).url.path := agree url reaches
        simp only [Except.map, same]
  cases request with
  | readGroup name => exact found_congr _ _ _ agree
  | readBalancer name => exact found_congr _ _ _ agree
  | readSubnet network name =>
      simp only [Client.reply]
      rw [found_congr (client.subnetPath network name) _ _ agree]
  | writeGroup _ => rfl
  | deleteGroup _ => rfl
  | writeSubnet _ _ => rfl
  | writeBalancer _ => rfl

theorem replyOn_congr {first second : Except Stop String}
    (alike : usability first = usability second)
    (agree : ∀ secret, first = .ok secret → ∀ url,
      client.Reaches secret (client.pathOf request) url →
        held.find? url.path = other.find? url.path) :
    client.replyOn first held request = client.replyOn second other request := by
  cases first with
  | error stop =>
      cases second with
      | error stop' =>
          obtain rfl : stop = stop' := Except.error.inj alike
          rfl
      | ok secret => cases alike
  | ok secret =>
      cases second with
      | error stop => cases alike
      | ok secret' =>
          show (client.reply secret held request).mapError _ = (client.reply secret' _ _).mapError _
          rw [reply_congr alike (agree secret rfl)]

/-- Only what can be reached is read. -/
theorem reaches_of_reply {answer : request.Answer} (reads : request.isWrite = false)
    (ok : client.reply secret held request = .ok answer) :
    ∃ url, client.Reaches secret (client.pathOf request) url := by
  have reaches_of_found {α : Type} {path what : String} {codec : Json.Codec α} {value : Option α}
      (ok : client.found secret held path what codec = .ok value) :
      ∃ url, client.Reaches secret path url := by
    unfold Client.found at ok
    cases leads : Client.requestTo secret (client.address path) .get .empty with
    | error fault =>
        rw [leads] at ok
        cases ok
    | ok asked =>
        obtain ⟨url, reaches, -⟩ := Client.reaches_of_requestTo leads
        exact ⟨url, reaches⟩
  cases request with
  | readGroup name => exact reaches_of_found ok
  | readBalancer name => exact reaches_of_found ok
  | readSubnet network name =>
      simp only [Client.reply] at ok
      split at ok
      · next found => exact reaches_of_found found
      · cases ok
      · cases ok
  | writeGroup _ => cases reads
  | deleteGroup _ => cases reads
  | writeSubnet _ _ => cases reads
  | writeBalancer _ => cases reads

theorem mapError_failure_injective {α : Type} :
    Function.Injective (Except.mapError Stop.failure : Except Failure α → Except Stop α) := by
  rintro (failure | value) (failure' | value') same <;> cases same <;> rfl

theorem crash_or_outcome {α : Type} (reply : Except Stop α) :
    reply = .error .crash ∨ ∃ outcome : Except Failure α, reply = outcome.mapError .failure := by
  match reply with
  | .ok value => exact .inr ⟨.ok value, rfl⟩
  | .error (.failure failure) => exact .inr ⟨.error failure, rfl⟩
  | .error .crash => exact .inl rfl

/-- A reply is a failure, or it is one to a request with the token that was called for. -/
theorem replyOn_eq {called : Except Stop String} {outcome : Except Failure request.Answer}
    (replies : client.replyOn called held request = outcome.mapError .failure) :
    (∃ failure, outcome = .error failure) ∨
      ∃ secret, called = .ok secret ∧ client.reply secret held request = outcome := by
  cases called with
  | error stop =>
      cases outcome with
      | error failure => exact .inl ⟨failure, rfl⟩
      | ok answer => cases replies
  | ok secret =>
      have replies : (client.reply secret held request).mapError Stop.failure =
        outcome.mapError .failure := replies
      exact .inr ⟨secret, rfl, mapError_failure_injective replies⟩

/-- A failure bears no name that could be wrong. -/
theorem named_of_error (failure : Failure) : (⟨request, .error failure⟩ : Exchange).Named := by
  cases request <;> trivial

/-- Neither does what a write is answered with. -/
theorem named_of_writes (writes : request.isWrite = true)
    (outcome : Except Failure request.Answer) : (⟨request, outcome⟩ : Exchange).Named := by
  cases request with
  | writeGroup _ => trivial
  | deleteGroup _ => trivial
  | writeSubnet _ _ => trivial
  | writeBalancer _ => trivial
  | readGroup _ => cases writes
  | readSubnet _ _ => cases writes
  | readBalancer _ => cases writes

/-! ## In lockstep -/

/-- A performance and a rehearsal at the same point, after some exchanges: the
documents of the rehearsal are as they were, and the performance has changed none
but those that were read. -/
structure Abreast (client : Client) (world : World σ) (kept : Option Token)
    (documents : σ → Table Json) (held : Table Json) (past : List Exchange)
    (live dry : Session (σ × List Call)) : Prop where
  liveToken : client.tokens.Keeps world.watched kept live.token
  dryToken : client.tokens.Keeps world.watched kept dry.token
  still : documents dry.outside.1 = held
  others : ∀ key,
    (∀ read ∈ Exchange.reads past, ∀ url, client.Arrives world kept (client.pathOf read) url →
      url.path ≠ key) →
    (documents live.outside.1).find? key = held.find? key
  named : ∀ exchange ∈ past, exchange.Named
  reached : ∀ read answer, (⟨read, .ok answer⟩ : Exchange) ∈ past → read.isWrite = false →
    ∃ url, client.Arrives world kept (client.pathOf read) url

theorem Client.Arrives.reaches {path : String} {url : Http.Url}
    (uniform : client.tokens.Uniform world kept) (arrives : client.Arrives world kept path url)
    (fares : client.tokens.Fares world kept (.ok secret)) : client.Reaches secret path url := by
  obtain ⟨other, fares', reaches⟩ := arrives
  exact reaches.congr (uniform fares' fares)

variable {past : List Exchange}

/-- What is not written yet is read as the documents were. -/
theorem Abreast.replyOn_eq (abreast : Abreast client world kept documents held past live dry)
    (uniform : client.tokens.Uniform world kept)
    (apart : ∀ {secret}, client.tokens.Fares world kept (.ok secret) → Apart client cluster secret)
    {later : List Request} (ahead : (site cluster client).Ahead past (request :: later))
    {called called' : Except Stop String} (fares : client.tokens.Fares world kept called)
    (fares' : client.tokens.Fares world kept called') :
    client.replyOn called (documents live.outside.1) request =
      client.replyOn called' held request := by
  refine replyOn_congr (uniform fares fares') ?_
  rintro secret rfl url reaches
  refine abreast.others url.path fun read member other arrives => ?_
  have distinct := apart fares
  rw [Apart, ← ahead, List.pairwise_append] at distinct
  exact distinct.2.2 read member request List.mem_cons_self other url
    (arrives.reaches uniform fares) reaches

/-- Where one more read goes is known as well. -/
theorem Abreast.reached_append (abreast : Abreast client world kept documents held past live dry)
    {outcome : Except Failure request.Answer}
    (reaches : ∀ answer, outcome = .ok answer → request.isWrite = false →
      ∃ url, client.Arrives world kept (client.pathOf request) url) :
    ∀ read answer, (⟨read, .ok answer⟩ : Exchange) ∈ past ++ [⟨request, outcome⟩] →
      read.isWrite = false → ∃ url, client.Arrives world kept (client.pathOf read) url := by
  intro read answer member isRead
  rcases List.mem_append.mp member with earlier | here
  · exact abreast.reached read answer earlier isRead
  · obtain ⟨rfl, replied⟩ := Exchange.mk.inj (List.mem_singleton.mp here)
    exact reaches answer (eq_of_heq replied).symm isRead

section

variable (steady : client.tokens.Steady world kept documents wait)
  (uniform : client.tokens.Uniform world kept)
  (applies : ∀ {secret}, client.tokens.Fares world kept (.ok secret) →
    world.Applies client secret documents)

include steady uniform applies

/-- Both clients read the same, and are abreast thereafter. -/
theorem Abreast.read (own : ∀ {secret}, client.tokens.Fares world kept (.ok secret) →
      OwnNames client cluster secret held)
    (apart : ∀ {secret}, client.tokens.Fares world kept (.ok secret) → Apart client cluster secret)
    (abreast : Abreast client world kept documents held past live dry)
    (reads : request.isWrite = false) {later : List Request}
    (ahead : (site cluster client).Ahead past (request :: later)) :
    ∃ reply live' dry',
      (client.fulfil world.watched request).exec live = (reply, live') ∧
      (client.rehearsing.fulfil world.watched request).exec dry = (reply, dry') ∧
      documents dry'.outside.1 = held ∧
      Mirrors client world kept [] live live' dry dry' ∧
      ∀ outcome, reply = outcome.mapError .failure →
        Abreast client world kept documents held (past ++ [⟨request, outcome⟩]) live' dry' := by
  have shows {secret : String} (fares : client.tokens.Fares world.watched kept (.ok secret)) :
      world.watched.Shows client secret (fun state => documents state.1) (client.pathOf request) :=
    ((applies fares.of_watched).shows reads).watched
  have rehearsing {secret : String} (fares : client.tokens.Fares world.watched kept (.ok secret)) :
      world.watched.Shows client.rehearsing secret (fun state => documents state.1)
        (client.rehearsing.pathOf request) := by
    rw [pathOf_rehearsing]
    exact ⟨(shows fares).clock, (shows fares).reads⟩
  obtain ⟨called, live', fares, runs, looked⟩ :=
    Client.exec_fulfil_of_reads steady.watched shows abreast.liveToken reads
  have dry_steady : client.rehearsing.tokens.Steady world.watched kept
    (fun state => documents state.1) wait := steady.watched
  obtain ⟨called', dry', fares', runs', looked'⟩ :=
    Client.exec_fulfil_of_reads dry_steady rehearsing abreast.dryToken reads
  have fares' : client.tokens.Fares world kept called' := fares'.of_watched
  rw [abreast.replyOn_eq uniform apart ahead fares.of_watched fares'] at runs
  rw [abreast.still, replyOn_rehearsing] at runs'
  have still : documents dry'.outside.1 = held := looked'.documents.trans abreast.still
  refine ⟨_, live', dry', runs, runs', still, ?_, fun outcome replies => ?_⟩
  · obtain ⟨entries, said, quiet⟩ := looked'.notes
    have inquires (sent : Http.Request) (inquires : client.Inquires world.watched kept sent) :
      client.Inquires world kept sent := inquires.of_watched
    exact .of_quiet (looked.outside.mono inquires).calls (looked'.outside.mono inquires).calls
      ⟨entries.map .log, said, List.forall_mem_map.mpr quiet⟩
  · refine ⟨looked.token, looked'.token, still, fun key fresh => ?_, ?_,
      abreast.reached_append fun answer answered isRead => ?_⟩
    · rw [show documents live'.outside.1 = _ from looked.documents]
      refine abreast.others key fun read member => fresh read ?_
      simp only [Exchange.reads, List.map_append, List.filter_append]
      exact List.mem_append_left _ member
    · refine List.forall_mem_append.mpr ⟨abreast.named, List.forall_mem_singleton.mpr ?_⟩
      obtain ⟨failure, rfl⟩ | ⟨secret, rfl, rfl⟩ := Azure.replyOn_eq replies
      · exact named_of_error failure
      · refine own fares' request ?_
        rw [← ahead]
        exact List.mem_append_right _ List.mem_cons_self
    · obtain rfl := answered
      obtain ⟨failure, same⟩ | ⟨secret, rfl, ok⟩ := Azure.replyOn_eq replies
      · cases same
      · obtain ⟨url, reaches⟩ := reaches_of_reply isRead ok
        exact ⟨url, secret, fares', reaches⟩

/-- A write that the server accepts: nothing comes after it, and at most a request for a token
before it. -/
theorem gives_change_of_applies (hurries : ∀ {secret}, client.tokens.Fares world kept (.ok secret) →
      world.Hurries client secret wait)
    (performing : client.dryRun = false)
    (keeps : client.tokens.Keeps world.watched kept live.token) (what : String) (change : Change)
    {url : Http.Url} (arrives : client.Arrives world kept (client.pathOf request) url) :
    ∃ live', (client.change world.watched (client.pathOf request) what change).Gives live (.ok ())
        live' ∧
      client.tokens.Keeps world.watched kept live'.token ∧
      (∀ key, key ≠ url.path →
        (documents live'.outside.1).find? key = (documents live.outside.1).find? key) ∧
      ∃ calls, live'.trace = live.trace ++ calls ∧
        List.Forall₂ (Performs client world kept) [(client.pathOf request, change)]
          (calls.filter fun call => call.1.method = .put ∨ call.1.method = .delete) := by
  let limit := client.limitOf live what
  let address := client.address (client.pathOf request)
  let asking := Client.asking (Client.begun live what change) change.method address
  obtain ⟨some_secret, some_fares, some_reaches⟩ := arrives
  have enough : ∀ bound ∈ some limit, asking.elapsed.nanos + wait ≤ bound.deadline.nanos := by
    rintro _ ⟨⟩
    have hurry := hurries some_fares some_reaches change live.outside.1
    show live.elapsed.nanos + wait ≤ live.elapsed.nanos + client.timeout.nanos
    omega
  have keeps : client.tokens.Keeps world.watched kept asking.token := keeps
  obtain ⟨called, held, has, fares, call⟩ :=
    TokenSource.exec_token_called steady.watched keeps enough
  have fares := fares.of_watched
  obtain ⟨secret, rfl⟩ : ∃ secret, called = .ok secret := by
    have same := uniform some_fares fares
    cases called with
    | error stop => cases same
    | ok secret => exact ⟨secret, rfl⟩
  have reaches := some_reaches.congr (uniform some_fares fares)
  let sent := Client.bearing secret change.method url change.content
  obtain ⟨response, span, next, exchanged, success, nowhere, others⟩ :=
    (applies fares).writes reaches change held.outside.1
  have watched : world.watched.exchange sent held.outside =
      ((some response, span), (next, held.outside.2 ++ [(sent, some response)])) := by
    simp only [World.watched, sent, exchanged]
  have inTime : held.elapsed.nanos + span.nanos < live.elapsed.nanos + client.timeout.nanos := by
    have hurry := hurries fares reaches change held.outside.1
    have quick : held.elapsed.nanos ≤ live.elapsed.nanos + wait := call.quick
    simp only [exchanged] at hurry
    omega
  have runs := Client.exec_change_of_inTime performing has reaches watched inTime
  obtain ⟨entries, ends⟩ : ∃ entries : List LogEntry,
      (client.conclude world.watched limit what change response).Gives
        (held.exchanged world.watched sent) (.ok ())
        { held.exchanged world.watched sent with
          notes := (held.exchanged world.watched sent).notes ++ entries.map .log } :=
    Client.gives_conclude_of_done (.inr ⟨success, nowhere⟩)
  have after : (held.exchanged world.watched sent).outside =
      (next, held.outside.2 ++ [(sent, some response)]) := by
    rw [Session.exchanged, watched]
  refine ⟨_, runs.trans ends, call.token, fun key other => ?_, ?_⟩
  · have unread : documents held.outside.1 = documents live.outside.1 :=
      call.documents_eq steady.watched
    show (documents (held.exchanged world.watched sent).outside.1).find? key = _
    rw [after, others key other, unread]
  · obtain ⟨calls, traced, inquire⟩ := call.outside.calls
    refine ⟨calls ++ [(sent, some response)], ?_, ?_⟩
    · show (held.exchanged world.watched sent).outside.2 = _
      rw [after, traced, List.append_assoc]
      rfl
    · have quiet := filter_of_inquires fun call member =>
        have requests := (inquire call member).of_watched
        .inr ⟨TokenSource.method_of_requests requests, requests⟩
      have written : sent.method = .put ∨ sent.method = .delete := by
        cases change with
        | put => exact .inl rfl
        | delete => exact .inr rfl
      rw [List.filter_append, quiet, List.nil_append,
        List.filter_cons_of_pos (by simpa using written)]
      exact .cons ⟨secret, url, fares, reaches, rfl⟩ .nil

/-- One client writes, the other says so, and both are abreast thereafter. -/
theorem Abreast.write (hurries : ∀ {secret}, client.tokens.Fares world kept (.ok secret) →
      world.Hurries client secret wait)
    (performing : client.dryRun = false)
    (abreast : Abreast client world kept documents held past live dry)
    (writes : request.isWrite = true) (grounded : Grounded client cluster past request) :
    ∃ reply change live' dry',
      (client.fulfil world.watched request).Gives live reply live' ∧
      (client.rehearsing.fulfil world.watched request).Gives dry reply dry' ∧
      Mirrors client world kept [(client.pathOf request, change)] live live' dry dry' ∧
      Abreast client world kept documents held (past ++ [⟨request, reply⟩]) live' dry' := by
  obtain ⟨read, answer, member, reads, path_eq⟩ := grounded.writes writes abreast.named
  obtain ⟨url, arrives⟩ := abreast.reached read answer member reads
  rw [path_eq] at arrives
  obtain ⟨change, asks⟩ := exists_changeOf writes
  obtain ⟨live', changed, token, others, calls, traced, performs⟩ :=
    gives_change_of_applies steady uniform applies hurries performing abreast.liveToken
      (titleOf request) change arrives
  have said : (client.rehearsing.change world.watched (client.pathOf request) (titleOf request)
      change).Gives dry (.ok ())
      { dry with notes := dry.notes ++ [.log (Client.rehearsed (client.pathOf request) change)] } :=
    Client.gives_change_of_dryRun rfl
  -- A write is acknowledged whatever the documents are, and whatever token it is sent with.
  have acknowledged : client.rehearsing.reply "" held request = client.reply "" held request := by
    cases request <;> rfl
  have rehearsed := Client.gives_fulfil_of_change asks said "" held
  rw [acknowledged] at rehearsed
  refine ⟨client.reply "" held request, change, live', _,
    Client.gives_fulfil_of_change asks changed "" held, rehearsed, ?_, ?_⟩
  · refine ⟨⟨calls, traced, performs⟩, ⟨[], (List.append_nil _).symm, List.forall_mem_nil _⟩,
      [_], rfl, ?_⟩
    rw [List.filter_cons_of_pos (Client.isRehearsal_rehearsed _ _)]
    rfl
  · have unread : Exchange.reads (past ++ [⟨request, client.reply "" held request⟩]) =
        Exchange.reads past := by
      simp [Exchange.reads, writes]
    refine ⟨token, abreast.dryToken, abreast.still, fun key fresh => ?_, ?_,
      abreast.reached_append fun _ _ isRead => ?_⟩
    · rw [unread] at fresh
      have read_mem : read ∈ Exchange.reads past := by
        simp only [Exchange.reads, List.mem_filter, List.mem_map, reads, Bool.not_false, and_true]
        exact ⟨_, member, rfl⟩
      rw [others key fun same => fresh read read_mem url (path_eq ▸ arrives) same.symm]
      exact abreast.others key fresh
    · refine List.forall_mem_append.mpr ⟨abreast.named, List.forall_mem_singleton.mpr ?_⟩
      exact named_of_writes writes _
    · exact absurd (isRead.symm.trans writes) Bool.noConfusion

/-- A performance and a rehearsal of a plan end alike. -/
theorem Abreast.run {α : Type} {plan : Plan α}
    (hurries : ∀ {secret}, client.tokens.Fares world kept (.ok secret) →
      world.Hurries client secret wait)
    (performing : client.dryRun = false)
    (own : ∀ {secret}, client.tokens.Fares world kept (.ok secret) →
      OwnNames client cluster secret held)
    (apart : ∀ {secret}, client.tokens.Fares world kept (.ok secret) → Apart client cluster secret)
    (obeys : Obeys (Grounded client cluster) plan (fun _ _ => True) past)
    (quiet : Confined Traits.any.bounds plan fun _ => True)
    (abreast : Abreast client world kept documents held past live dry) :
    ∃ outcome writes live' dry',
      (client.run world.watched plan).exec live = (outcome, live') ∧
      (client.rehearsing.run world.watched plan).exec dry = (outcome, dry') ∧
      documents dry'.outside.1 = held ∧ Mirrors client world kept writes live live' dry dry' := by
  induction plan generalizing past live dry with
  | done outcome =>
      have still : Mirrors client world kept [] live { live with notes := live.notes ++ [] } dry
          { dry with notes := dry.notes ++ [] } := .of_notes (List.forall_mem_nil _)
      rw [List.append_nil, List.append_nil] at still
      exact ⟨.ok outcome, [], live, dry, rfl, rfl, abreast.still, still⟩
  | note note plan ih =>
      obtain ⟨silent, quiet⟩ := quiet
      have noted : Mirrors client world kept [] live { live with notes := live.notes ++ [note] } dry
          { dry with notes := dry.notes ++ [note] } :=
        .of_notes (List.forall_mem_singleton.mpr silent)
      obtain ⟨outcome, writes, live', dry', runs, runs', still, mirrors⟩ :=
        @ih { live with notes := live.notes ++ [note] } { dry with notes := dry.notes ++ [note] }
          past obeys quiet
          ⟨abreast.liveToken, abreast.dryToken, abreast.still, abreast.others, abreast.named,
            abreast.reached⟩
      refine ⟨outcome, _, live', dry', ?_, ?_, still, noted.trans mirrors⟩
      · rw [Client.exec_run_note, runs]
      · rw [Client.exec_run_note, runs']
  | ask request plan ih =>
      obtain ⟨grounded, obeys⟩ := obeys
      obtain ⟨-, answered, refused⟩ := quiet
      obtain ⟨reply, writes, middle, middle', runs, runs', still, mirrors, goes⟩ :
          ∃ reply writes live' dry',
            (client.fulfil world.watched request).exec live = (reply, live') ∧
            (client.rehearsing.fulfil world.watched request).exec dry = (reply, dry') ∧
            documents dry'.outside.1 = held ∧
            Mirrors client world kept writes live live' dry dry' ∧
            ∀ outcome, reply = outcome.mapError .failure →
              Abreast client world kept documents held (past ++ [⟨request, outcome⟩]) live'
                dry' := by
        cases writes : request.isWrite with
        | true =>
            obtain ⟨reply, change, live', dry', gives, gives', mirrors, abreast⟩ :=
              abreast.write steady uniform applies hurries performing writes grounded
            refine ⟨_, _, live', dry', gives, gives', abreast.still, mirrors,
              fun outcome same => ?_⟩
            rwa [← mapError_failure_injective same]
        | false =>
            obtain ⟨later, ahead⟩ := grounded.reads writes
            obtain ⟨reply, step⟩ := abreast.read steady uniform applies own apart writes ahead
            exact ⟨reply, [], step⟩
      obtain rfl | ⟨outcome, rfl⟩ := crash_or_outcome reply
      · refine ⟨.error .crash, writes, middle, middle', ?_, ?_, still, mirrors⟩
        · exact Client.exec_run_crash runs
        · exact Client.exec_run_crash runs'
      · have quiet : Confined Traits.any.bounds (plan outcome) fun _ => True := by
          cases outcome with
          | ok answer => exact answered answer (Traits.answered_any answer)
          | error failure => exact refused failure
        obtain ⟨ending, more, live', dry', ends, ends', still, mirrors'⟩ :=
          ih outcome (obeys outcome) quiet (goes outcome rfl)
        refine ⟨ending, writes ++ more, live', dry', ?_, ?_, still, mirrors.trans mirrors'⟩
        · rw [Client.exec_run_ask runs, ends]
        · rw [Client.exec_run_ask runs', ends']

end

end

end

end Azure

end ClusterPorts
