import ClusterPorts.Proofs.Azure.Documents
import ClusterPorts.Proofs.Azure.Mirroring

/-!
# Rehearsals

A rehearsal ends as the operation would, and says exactly what the operation writes, in
its order. That needs a server that answers writes in time, resources at different places,
and tokens that are had throughout or not at all: without any of these there are runs that
a rehearsal does not foretell (`rehearsal_misleads`).
-/

namespace ClusterPorts.Azure

variable {σ : Type}

/-! ## Operations -/

/-- Do an operation on a cloud. -/
def carryOut {m : Type → Type} (cloud : Cloud m) : Operation → m (Except Failure Unit)
  | .prepare ports => cloud.prepare ports
  | .cleanup => cloud.cleanup

theorem carryOut_eq (world : World σ) (client : Client) (cluster : Cluster)
    (operation : Operation) :
    carryOut (cloud world cluster client) operation =
      client.run world (operation.plan (site cluster client)) := by
  cases operation <;> rfl

/-- A rehearsal of an operation ends as the operation does in the same session, leaves the
documents as they are, and says exactly what the operation writes, in its order. -/
def Faithful (world : World σ) (client : Client) (cluster : Cluster) (documents : σ → Table Json)
    (session : Session (σ × List Call)) (operation : Operation) : Prop :=
  ∃ outcome writes live dry,
    (carryOut (cloud world.watched cluster client) operation).exec session = (outcome, live) ∧
    (carryOut (cloud world.watched cluster client.rehearsing) operation).exec session =
      (outcome, dry) ∧
    documents dry.outside.1 = documents session.outside.1 ∧
    Mirrors client world session.token writes session live session dry

/-- A rehearsal that ends otherwise than the operation is not faithful. -/
theorem not_faithful_of_ne {world : World σ} {client : Client} {cluster : Cluster}
    {documents : σ → Table Json} {session : Session (σ × List Call)} {operation : Operation}
    (differ : ((carryOut (cloud world.watched cluster client) operation).exec session).1 ≠
      ((carryOut (cloud world.watched cluster client.rehearsing) operation).exec session).1) :
    ¬ Faithful world client cluster documents session operation := by
  rintro ⟨outcome, writes, live, dry, runs, runs', -⟩
  rw [runs, runs'] at differ
  exact differ rfl

/-- A rehearsal is faithful. The server shows the documents of a cluster, which bear their own
names and are at different places, and accepts every write in time; and the client was given
a token, or its calls for tokens all come to ones that can be sent, or all to the same failure.
Then an operation in rehearsal ends as the operation itself, sends only reads and requests
for tokens and changes nothing, and what it says that it would write is what the operation
writes, in its order. -/
theorem rehearsal_faithful {world : World σ} {client : Client} {cluster : Cluster}
    {documents : σ → Table Json} {wait : Nat} {session : Session (σ × List Call)}
    (operation : Operation) (performing : client.dryRun = false)
    (steady : client.tokens.Steady world session.token documents wait)
    (uniform : client.tokens.Uniform world session.token)
    (applies : ∀ {secret}, client.tokens.Fares world session.token (.ok secret) →
      world.Applies client secret documents)
    (hurries : ∀ {secret}, client.tokens.Fares world session.token (.ok secret) →
      world.Hurries client secret wait)
    (own : ∀ {secret}, client.tokens.Fares world session.token (.ok secret) →
      OwnNames client cluster secret (documents session.outside.1))
    (apart : ∀ {secret}, client.tokens.Fares world session.token (.ok secret) →
      Apart client cluster secret) :
    Faithful world client cluster documents session operation := by
  have abreast : Abreast client world session.token documents (documents session.outside.1) []
      session session :=
    ⟨.inl rfl, .inl rfl, rfl, fun _ _ => rfl, List.forall_mem_nil _,
      fun _ _ member => nomatch member⟩
  have same_plan : operation.plan (site cluster client.rehearsing) =
      operation.plan (site cluster client) := rfl
  simp only [Faithful, carryOut_eq, same_plan]
  exact abreast.run steady uniform applies hurries performing own apart
    (obeys_grounded client cluster operation) (operation.confined (Traits.upkeep_any _))

/-! ### A server that keeps what it is sent -/

/-- A server that keeps documents under paths. What it is sent for a path it keeps
in some form. -/
def World.keeping (kept : String → Json → Json) : World (Table Json) where
  exchange request documents :=
    match request.method, request.content with
    | .put, .document document =>
        ((some { status := ⟨201⟩ }, ⟨0⟩),
          documents.insert request.url.path (kept request.url.path document))
    | .delete, _ => ((some { status := ⟨200⟩ }, ⟨0⟩), documents.erase request.url.path)
    | _, _ =>
        match documents.find? request.url.path with
        | some document => ((some { status := ⟨200⟩, body := .document document }, ⟨0⟩), documents)
        | none => ((some { status := ⟨404⟩ }, ⟨0⟩), documents)
  clock documents := (⟨0⟩, documents)

theorem shows_keeping (kept : String → Json → Json) (client : Client) (secret path : String) :
    (World.keeping kept).Shows client secret id path where
  clock _ := rfl
  reads {url} _ documents := by
    cases found : documents.find? url.path with
    | some document =>
        refine ⟨{ status := ⟨200⟩, body := .document document }, ⟨0⟩, documents, ?_, rfl, ?_⟩
        · simp only [World.keeping, Client.bearing, found]
        · simp only [id, found]
          exact ⟨rfl, carries_document document⟩
    | none =>
        refine ⟨{ status := ⟨404⟩ }, ⟨0⟩, documents, ?_, rfl, ?_⟩
        · simp only [World.keeping, Client.bearing, found]
        · simp only [id, found]

theorem directs_nowhere {status : Http.Status} {address : String} {report : Client.Report} :
    ¬ Directs { status } address report := by
  rintro (⟨header, _⟩ | ⟨_, header, _⟩) <;> cases header

theorem applies_keeping (kept : String → Json → Json) (client : Client) (secret : String) :
    (World.keeping kept).Applies client secret id where
  shows _ := shows_keeping kept client secret _
  writes {request url} _ change documents := by
    cases change with
    | put document =>
        refine ⟨{ status := ⟨201⟩ }, ⟨0⟩, documents.insert url.path (kept url.path document), rfl,
          rfl, fun _ _ => directs_nowhere, fun key other => ?_⟩
        exact (Table.find?_insert documents url.path key _).trans (if_neg other)
    | delete =>
        refine ⟨{ status := ⟨200⟩ }, ⟨0⟩, documents.erase url.path, rfl, rfl,
          fun _ _ => directs_nowhere, fun key other => ?_⟩
        exact (Table.find?_erase documents url.path key).trans (if_neg other)

/-- Such a server answers at once. -/
theorem hurries_keeping {client : Client} {wait : Nat} (enough : wait < client.timeout.nanos)
    (kept : String → Json → Json) (secret : String) :
    (World.keeping kept).Hurries client secret wait := by
  intro _ _ _ change documents
  cases change <;> exact enough

/-! ### A server that takes its time -/

/-- A server that does what another one does, but takes some time for everything. -/
def World.delaying (world : World σ) (span : Span) : World σ where
  exchange request state :=
    let ((answer, _), next) := world.exchange request state
    ((answer, span), next)
  clock := world.clock

theorem applies_delaying {world : World σ} {client : Client} {secret : String}
    {documents : σ → Table Json} (span : Span) (applies : world.Applies client secret documents) :
    (world.delaying span).Applies client secret documents where
  shows {request} reads := by
    have shows := applies.shows reads
    refine ⟨shows.clock, fun {url} reaches state => ?_⟩
    obtain ⟨response, _, next, exchanged, told⟩ := shows.reads reaches state
    refine ⟨response, span, next, ?_, told⟩
    simp only [World.delaying, exchanged]
  writes {request url} reaches change state := by
    obtain ⟨response, _, next, exchanged, told⟩ := applies.writes reaches change state
    refine ⟨response, span, next, ?_, told⟩
    simp only [World.delaying, exchanged]

/-! ### A server that issues tokens -/

/-- A server that answers requests for tokens according to their number, and otherwise does
what another server does. -/
def World.issuing (world : World σ) (answers : Nat → Http.Response) : World (σ × Nat) where
  exchange request state :=
    if request.method = .post then ((some (answers state.2), ⟨0⟩), state.1, state.2 + 1)
    else
      let (answer, next) := world.exchange request state.1
      (answer, next, state.2)
  clock state :=
    let (now, next) := world.clock state.1
    (now, next, state.2)

section

variable {world : World σ} {answers : Nat → Http.Response} {client : Client} {secret : String}

theorem exchange_issuing {request : Http.Request} (other : request.method ≠ .post)
    (state : σ × Nat) :
    (world.issuing answers).exchange request state =
      ((world.exchange request state.1).1, (world.exchange request state.1).2, state.2) :=
  if_neg other

theorem exchange_issuing_post {request : Http.Request} (post : request.method = .post)
    (state : σ × Nat) :
    (world.issuing answers).exchange request state =
      ((some (answers state.2), ⟨0⟩), state.1, state.2 + 1) :=
  if_pos post

theorem method_ne_post (change : Change) : change.method ≠ .post := by
  cases change <;> exact nofun

theorem steady_issuing (documents : σ → Table Json) (source : TokenSource) {kept : Option Token}
    (clock : ∀ state, documents (world.clock state).2 = documents state) :
    source.Steady (world.issuing answers) kept (fun state => documents state.1) 1 where
  clock state := clock state.1
  keeps requests state := by
    rw [exchange_issuing_post (TokenSource.method_of_requests requests)]
  prompt requests state := by
    rw [exchange_issuing_post (TokenSource.method_of_requests requests)]
    exact Nat.one_pos

theorem applies_issuing {documents : σ → Table Json}
    (applies : world.Applies client secret documents) :
    (world.issuing answers).Applies client secret (fun state => documents state.1) where
  shows {request} reads := by
    have shows := applies.shows reads
    refine ⟨fun state => shows.clock state.1, fun {url} reaches state => ?_⟩
    obtain ⟨response, span, next, exchanged, told⟩ := shows.reads reaches state.1
    refine ⟨response, span, (next, state.2), ?_, told⟩
    rw [exchange_issuing (show Http.Method.get ≠ .post from nofun), exchanged]
  writes {request url} reaches change state := by
    obtain ⟨response, span, next, exchanged, told⟩ := applies.writes reaches change state.1
    refine ⟨response, span, (next, state.2), ?_, told⟩
    rw [exchange_issuing (by exact method_ne_post change), exchanged]

theorem hurries_issuing {wait : Nat} (hurries : world.Hurries client secret wait) :
    (world.issuing answers).Hurries client secret wait := by
  intro request url reaches change state
  rw [exchange_issuing (by exact method_ne_post change)]
  exact hurries reaches change state.1

/-- What asking for a token comes to is told by the answer and the clock. -/
theorem renewal_issuing {sent : Http.Request} (post : sent.method = .post) (clientId : String)
    (state : σ × Nat) :
    renewal (world.issuing answers) clientId (.ok sent) state =
      match verdict clientId (.ok (answers state.2)) with
      | .error failure => .error (.failure failure)
      | .ok grant =>
          match (world.clock state.1).1.after? grant.lifetime with
          | some expires => .ok ⟨grant.secret, expires⟩
          | none => .error .crash := by
  simp only [renewal, World.replyTo, World.past, exchange_issuing_post post]
  rfl

end

/-! ### Plain names -/

theorem isRead_itinerary {site : Site} : ∀ request ∈ site.itinerary, request.isWrite = false := by
  simp [Site.itinerary, Request.isWrite]

theorem isPlain_itinerary {site : Site} (infra : Http.Url.IsPlain site.cluster.infraId) :
    ∀ request ∈ site.itinerary, request.place.IsPlain := by
  have names := Site.isPlain_names infra
  simp only [Site.names, List.forall_mem_append, List.forall_mem_cons] at names
  obtain ⟨⟨external, balancer, group, network, -⟩, subnets⟩ := names
  simp only [Site.itinerary, List.forall_mem_append, List.forall_mem_cons, List.forall_mem_map]
  exact ⟨⟨external, balancer, group, List.forall_mem_nil _⟩,
    fun name member => ⟨network, subnets name member⟩⟩

theorem nodup_places (site : Site) : (site.itinerary.map Request.place).Nodup := by
  have subnets : (site.subnets.map (Place.subnet site.network)).Nodup :=
    site.subnets_nodup.map fun first second same => (Place.subnet.inj same).2
  have places : site.itinerary.map Request.place =
      [.group site.external, .balancer site.balancer, .group site.group] ++
        site.subnets.map (Place.subnet site.network) := by
    simp [Site.itinerary, Request.place]
  rw [places]
  simp [site.external_ne_group, subnets]

/-- The resources of a cluster with plain names are at different places. -/
theorem apart_of_plain {client : Client} {cluster : Cluster} {secret : String}
    (plain : client.IsPlain secret) (infra : Http.Url.IsPlain cluster.infraId) :
    Apart client cluster secret := by
  have places : ∀ request ∈ (site cluster client).itinerary, request.place.IsPlain :=
    isPlain_itinerary infra
  refine (List.pairwise_map.mp (nodup_places (site cluster client))).imp_of_mem
    fun {first second} member member' apart url other reaches reaches' same => apart ?_
  obtain ⟨own, leads, path_eq⟩ := plain.reaches (places first member)
  obtain ⟨own', leads', path_eq'⟩ := plain.reaches (places second member')
  rw [← Client.pathOf_eq] at leads leads'
  obtain rfl := reaches.unique leads
  obtain rfl := reaches'.unique leads'
  exact plain.pathTo_injective (places first member) (places second member')
    (path_eq.symm.trans (same.trans path_eq'))

/-- Resources bear their own names in documents if they do in the store that these
stand for. -/
theorem ownNames_of_holds {client : Client} {cluster : Cluster} {secret : String}
    {documents : Table Json} {store : Store} (plain : client.IsPlain secret)
    (infra : Http.Url.IsPlain cluster.infraId) (holds : Holds client documents store)
    (named : ∀ request ∈ (site cluster client).itinerary,
      (⟨request, (store.answer client.groupPath request).1⟩ : Exchange).Named) :
    OwnNames client cluster secret documents := by
  intro request member
  rw [reply_eq plain holds (isPlain_itinerary infra request member)
    (isRead_itinerary request member)]
  exact named request member

/-! ### A cluster on a server -/

namespace Sample

/-- A cluster. -/
def cluster (infraId : String) : Cluster where
  subscriptionId := "subscription"
  infraId
  region := "eastus"
  resourceGroup := "c1-rg"

def balancer (infraId : String) : LoadBalancer where
  id := some "lb"
  name := infraId
  frontends := [{ id := some "frontend", name := Cluster.frontend }]
  pools := [{ id := some "pool", name := Cluster.pool infraId }]

/-- The documents of a load balancer and two subnets of a cluster. -/
def documents (infraId : String) : Table Json :=
  .ofList <|
    (client.balancerPath infraId, LoadBalancer.codec.encode (balancer infraId)) ::
      (Cluster.subnets infraId).map fun name =>
        (client.subnetPath (Cluster.network infraId) name,
          Subnet.codec.encode { id := some name, name })

theorem isPlain_client : client.IsPlain "token" where
  server := by
    have hostPart_eq : Http.Url.hostPart false "management.azure.com".toList =
        "management.azure.com".toList := by simp [Http.Url.hostPart]
    have webHost_eq : Http.Url.webHost? "management.azure.com".toList =
        some "management.azure.com" := by
      simp [Http.Url.webHost?, Http.Url.unescape, Http.Url.isHostUnsafe, Text.pieces,
        Http.Url.isNumeric, Http.Url.part?, Http.Url.inBase?, Http.Url.digit?]
    refine @Http.Url.IsServer.intro _ "https" "management.azure.com" "management.azure.com" 443
      none (by simp) (by decide) (by decide) ?_ ?_
    · rw [hostPart_eq, webHost_eq]
    · rw [hostPart_eq, List.drop_length]
      rfl
  subscription := by decide
  resourceGroup := by decide
  sendable := by decide

def subnet (name : String) : Subnet := { id := some name, name }

/-- The resources that stand in the documents. -/
def store : Store where
  balancers := .ofList [("c1", balancer "c1")]
  subnets := .ofList <| (Cluster.subnets "c1").map fun name =>
    (Request.subnetPath (Cluster.network "c1") name, subnet name)

theorem asked_balancer : Traits.plain.Asked (.writeBalancer (balancer "c1")) := by
  refine ⟨⟨?_, ?_, List.forall_mem_nil _, Json.Record.isOther_nil _, Json.Record.isOther_nil _⟩,
    by decide⟩
  · exact List.forall_mem_singleton.mpr (Json.Record.isOther_nil _)
  · exact List.forall_mem_singleton.mpr (Json.Record.isOther_nil _)

theorem asked_subnet {name : String} (plain : Http.Url.IsPlain name) :
    Traits.plain.Asked (.writeSubnet (Cluster.network "c1") (subnet name)) :=
  ⟨show Http.Url.IsPlain (Cluster.network "c1") by decide,
    ⟨fun _ member => absurd member (Option.not_mem_none _), Json.Record.isOther_nil _,
      Json.Record.isOther_nil _⟩, plain⟩

theorem ofList_three {α : Type} (first second third : String × α) :
    Table.ofList [first, second, third] =
      ((Table.insert ∅ first.1 first.2).insert second.1 second.2).insert third.1 third.2 := rfl

theorem isPlain_worker : Http.Url.IsPlain ("c1" ++ "-worker-subnet") := by decide

theorem isPlain_master : Http.Url.IsPlain ("c1" ++ "-master-subnet") := by decide

theorem holds_documents : Holds client (documents "c1") store := by
  have balanced := (holds_empty client).applied isPlain_client asked_balancer rfl
  have joined := balanced.applied isPlain_client (asked_subnet isPlain_worker) rfl
  have holds := joined.applied isPlain_client (asked_subnet isPlain_master) rfl
  rw [documents, Cluster.subnets, List.map_cons, List.map_cons, List.map_nil, ofList_three]
  exact holds

/-! ### A client that asks for its tokens -/

/-- A server that keeps what it is sent as it is. -/
def archive : World (Table Json) := World.keeping fun _ document => document

/-- A client that asks for its tokens. -/
def applicant : Client := { client with tokens }

/-- The request for a token. -/
def application : Http.Request where
  method := .post
  url :=
    { scheme := "https", host := some "login.microsoftonline.com", port := none
      path := "/tenant/oauth2/v2.0/token", query := none, fragment := none }
  authorization := none
  contentType := "application/x-www-form-urlencoded"
  content := .form [("grant_type", "client_credentials"), ("client_id", "client"),
    ("client_secret", "secret"), ("scope", "https://management.azure.com/.default")]

theorem isPlain_applicant : applicant.IsPlain "token" :=
  ⟨isPlain_client.server, isPlain_client.subscription, isPlain_client.resourceGroup,
    isPlain_client.sendable⟩

theorem asks_tokens : tokens.asks = some ("client", .ok application) := by
  have parsed : Http.Url.parse? (TokenSource.address Credential.standardAuthority "tenant") =
      some application.url := by decide +kernel
  have scope_eq : tokens.scope = "https://management.azure.com/.default" := by decide +kernel
  show some ("client", TokenSource.request tokens.scope "tenant" "client" "secret"
    Credential.standardAuthority) = _
  rw [TokenSource.request, Http.Request.to, parsed, scope_eq]
  rfl

/-- What comes of asking for a token that is granted for a minute, or refused. -/
theorem fares_applicant {answers : Nat → Http.Response} {called : Except Stop String}
    (fares : tokens.Fares (archive.issuing answers) none called) :
    ∃ n, (answers n = grant "token" 60 → called = .ok "token") ∧
      ((answers n).status.isSuccess = false → ∃ failure, called = .error failure) := by
  cases fares with
  | given own => cases own
  | reused _ has => cases has
  | asked renews =>
      obtain ⟨-, clientId, request, state, asks, rfl⟩ := renews
      obtain ⟨rfl, rfl⟩ := Prod.mk.inj (Option.some.inj (asks_tokens.symm.trans asks))
      rw [renewal_issuing rfl]
      refine ⟨state.2, fun granted => ?_, fun refused => ?_⟩
      · have judged : verdict "client" (.ok (answers state.2)) = .ok ⟨"token", 60⟩ := by
          rw [granted]
          decide +kernel
        rw [judged]
        rfl
      · rw [verdict, granted?, refused]
        exact ⟨_, rfl⟩

end Sample

/-- A client that asks for its tokens has none at first, and each one that it is granted is too
old for the next request. -/
theorem rehearsal_faithful_sample :
    Faithful (Sample.archive.issuing fun _ => Sample.grant "token" 60) Sample.applicant
      (Sample.cluster "c1") (·.1) { outside := ((Sample.documents "c1", 0), []) }
      (.prepare [⟨500, .udp⟩]) := by
  have granted {called : Except Stop String}
      (fares : Sample.tokens.Fares (Sample.archive.issuing fun _ => Sample.grant "token" 60) none
        called) : called = .ok "token" := by
    obtain ⟨_, granted, -⟩ := Sample.fares_applicant fares
    exact granted rfl
  refine rehearsal_faithful (.prepare _) rfl (steady_issuing id _ fun _ => rfl) ?_ ?_ ?_ ?_ ?_
  · intro _ _ first second
    rw [granted first, granted second]
  · intro secret fares
    exact applies_issuing (applies_keeping _ _ _)
  · intro secret fares
    exact hurries_issuing (hurries_keeping (by decide) _ _)
  · intro secret fares
    obtain rfl := Except.ok.inj (granted fares)
    exact ownNames_of_holds Sample.isPlain_applicant (by decide) Sample.holds_documents
      (by decide +kernel)
  · intro secret fares
    obtain rfl := Except.ok.inj (granted fares)
    exact apart_of_plain Sample.isPlain_applicant (by decide)

/-- Nothing is where no document is. -/
theorem ownNames_empty {client : Client} {cluster : Cluster} {secret : String} :
    OwnNames client cluster secret ∅ := by
  have found_empty {α : Type} {path what : String} {codec : Json.Codec α} {value : α} :
      client.found secret ∅ path what codec ≠ .ok (some value) := by
    unfold Client.found
    split <;> exact nofun
  intro request _
  cases request with
  | readGroup name =>
      simp only [Client.reply]
      rcases found : client.found secret ∅ _ _ SecurityGroup.codec with failure | _ | group
      · trivial
      · trivial
      · exact absurd found found_empty
  | readBalancer name =>
      simp only [Client.reply]
      rcases found : client.found secret ∅ _ _ LoadBalancer.codec with failure | _ | balancer
      · trivial
      · trivial
      · exact absurd found found_empty
  | readSubnet network name =>
      simp only [Client.reply]
      rcases found : client.found secret ∅ _ _ Subnet.codec with failure | _ | subnet
      · trivial
      · trivial
      · exact absurd found found_empty
  | writeGroup _ => trivial
  | deleteGroup _ => trivial
  | writeSubnet _ _ => trivial
  | writeBalancer _ => trivial

namespace Sample

/-- Two tokens are granted, and no more. -/
def rationed : World (Table Json × Nat) :=
  archive.issuing fun n => if n < 2 then grant "token" 60 else { status := ⟨401⟩ }

/-- Everything takes as long as a write may take. -/
def tardy : World (Table Json) := archive.delaying (.ofSecs 60)

theorem fares_rationed {secret : String} (fares : tokens.Fares rationed none (.ok secret)) :
    secret = "token" := by
  obtain ⟨n, granted, refused⟩ := fares_applicant fares
  by_cases early : n < 2
  · exact Except.ok.inj (granted (if_pos early))
  · obtain ⟨failure, same⟩ := refused (by rw [if_neg early]; rfl)
    cases same

end Sample

/-- What a rehearsal foretells may be wrong for three reasons. An infrastructure id may lead
the requests for different resources to one place: the group that the operation writes is then
read as the load balancer. The operation may run out of tokens, since it needs more of them
than the rehearsal. And it may run out of time. -/
theorem rehearsal_misleads :
    ((Sample.client.dryRun = false ∧ Sample.client.tokens.Steady Sample.archive none id 0 ∧
      Sample.client.tokens.Uniform Sample.archive none ∧
      ∀ secret, Sample.client.tokens.Fares Sample.archive none (.ok secret) →
        Sample.archive.Applies Sample.client secret id ∧
        Sample.archive.Hurries Sample.client secret 0 ∧
        OwnNames Sample.client (Sample.cluster "..#") secret ∅) ∧
      ¬ Faithful Sample.archive Sample.client (Sample.cluster "..#") id { outside := (∅, []) }
        (.prepare [⟨500, .udp⟩])) ∧
    ((Sample.applicant.dryRun = false ∧ Sample.tokens.Steady Sample.rationed none (·.1) 1 ∧
      ∀ secret, Sample.tokens.Fares Sample.rationed none (.ok secret) →
        Sample.rationed.Applies Sample.applicant secret (·.1) ∧
        Sample.rationed.Hurries Sample.applicant secret 1 ∧
        OwnNames Sample.applicant (Sample.cluster "c1") secret ∅ ∧
        Apart Sample.applicant (Sample.cluster "c1") secret) ∧
      ¬ Faithful Sample.rationed Sample.applicant (Sample.cluster "c1") (·.1)
        { outside := ((∅, 0), []) } (.prepare [⟨500, .udp⟩])) ∧
    ((Sample.client.dryRun = false ∧ Sample.client.tokens.Steady Sample.tardy none id 0 ∧
      Sample.client.tokens.Uniform Sample.tardy none ∧
      ∀ secret, Sample.client.tokens.Fares Sample.tardy none (.ok secret) →
        Sample.tardy.Applies Sample.client secret id ∧
        OwnNames Sample.client (Sample.cluster "c1") secret ∅ ∧
        Apart Sample.client (Sample.cluster "c1") secret) ∧
      ¬ Faithful Sample.tardy Sample.client (Sample.cluster "c1") id { outside := (∅, []) }
        (.prepare [⟨500, .udp⟩])) := by
  refine ⟨⟨⟨rfl, .of_given rfl fun _ => rfl, TokenSource.Uniform.of_given rfl,
      fun secret fares => ?_⟩, ?_⟩,
    ⟨⟨rfl, steady_issuing id _ fun _ => rfl, fun secret fares => ?_⟩, ?_⟩,
    ⟨rfl, .of_given rfl fun _ => rfl, TokenSource.Uniform.of_given rfl,
      fun secret fares => ?_⟩, ?_⟩
  · exact ⟨applies_keeping _ _ _, hurries_keeping (by decide) _ _, ownNames_empty⟩
  · apply not_faithful_of_ne
    decide +kernel
  · obtain rfl := Sample.fares_rationed fares
    exact ⟨applies_issuing (applies_keeping _ _ _),
      hurries_issuing (hurries_keeping (by decide) _ _), ownNames_empty,
      apart_of_plain Sample.isPlain_applicant (by decide)⟩
  · apply not_faithful_of_ne
    decide +kernel
  · obtain rfl : secret = "token" := Except.ok.inj (TokenSource.eq_of_fares rfl fares)
    exact ⟨applies_delaying _ (applies_keeping _ _ _), ownNames_empty,
      apart_of_plain Sample.isPlain_client (by decide)⟩
  · apply not_faithful_of_ne
    decide +kernel

end ClusterPorts.Azure
