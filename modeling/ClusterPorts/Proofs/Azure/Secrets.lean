import ClusterPorts.Azure.Factory
import ClusterPorts.Proofs.Azure.InStep
import ClusterPorts.Proofs.Azure.Refinement

/-!
# Secrets are kept

Nothing that is seen of a run depends on a secret. Two clients that differ only in
the secret of their credential, in worlds that answer alike and may grant different
tokens, log and report the same, and all their operations come to the same. Nor do
secrets show when a value is inspected, or in what is made of settings.

The proof goes along the client from its requests upwards: a token that it gets is
only interchangeable with the one that the other client gets, and from there on, the
answers are the same.
-/

namespace ClusterPorts

/-! ## Settings -/

/-- Two optional secrets are the same, or both are given. -/
def GivenAlike (secret secret' : Option String) : Prop :=
  secret = secret' ∨ isGiven secret ∧ isGiven secret'

namespace GivenAlike

variable {secret secret' : Option String}

theorem isGiven_eq (alike : GivenAlike secret secret') : isGiven secret = isGiven secret' := by
  rcases alike with rfl | ⟨given, given'⟩
  · rfl
  · rw [given, given']

/-- Either both secrets are there, or neither is. -/
theorem rel (alike : GivenAlike secret secret') : Option.Rel (fun _ _ => True) secret secret' := by
  rcases alike with rfl | ⟨given, given'⟩
  · cases secret with
    | none => exact .none
    | some _ => exact .some trivial
  · cases secret with
    | none => cases given
    | some _ =>
        cases secret' with
        | none => cases given'
        | some _ => exact .some trivial

/-- Either both secrets are there and not empty, or neither is. -/
theorem rel_filter (alike : GivenAlike secret secret') :
    Option.Rel (fun given given' => secret = some given ∧ secret' = some given')
      (secret.filter (· ≠ "")) (secret'.filter (· ≠ "")) := by
  have given_eq := alike.isGiven_eq
  cases alike.rel with
  | none => exact .none
  | @some given given' _ =>
      have same : decide (given ≠ "") = decide (given' ≠ "") := given_eq
      simp only [Option.filter_some, same]
      split
      · exact .some ⟨rfl, rfl⟩
      · exact .none

/-- Of a secret it shows whether it is there, and nothing else. -/
theorem inspect_eq (alike : GivenAlike secret secret') :
    Inspect.option (fun _ => Inspect.redacted) secret =
      Inspect.option (fun _ => Inspect.redacted) secret' := by
  cases alike.rel <;> rfl

end GivenAlike

/-- Settings that differ in nothing but the contents of the secrets that they give. -/
inductive AzureSettings.Alike (azure : AzureSettings) : AzureSettings → Prop
  | using {clientSecret accessToken : Option String}
      (secrets : GivenAlike azure.clientSecret clientSecret)
      (tokens : GivenAlike azure.accessToken accessToken) :
      AzureSettings.Alike azure { azure with clientSecret, accessToken }

namespace AzureSettings.Alike

variable {azure azure' : AzureSettings}

theorem inspect_eq (alike : azure.Alike azure') : azure.inspect = azure'.inspect := by
  obtain ⟨secrets, tokens⟩ := alike
  simp only [AzureSettings.inspect, secrets.inspect_eq, tokens.inspect_eq]

theorem validate_eq (alike : azure.Alike azure') : azure.validate = azure'.validate := by
  obtain ⟨secrets, tokens⟩ := alike
  simp only [AzureSettings.validate, AzureSettings.named, AzureSettings.hasToken,
    AzureSettings.hasPrincipal, secrets.isGiven_eq, tokens.isGiven_eq]
  rfl

end AzureSettings.Alike

namespace Azure

variable {σ τ : Type} {R : σ → τ → Prop} {world : World σ} {world' : World τ}

/-! ## Tokens -/

/-- Credentials that differ in nothing but the secret. -/
inductive Credential.Alike : Credential → Credential → Prop
  | accessToken {secret secret' : String} (secrets : Http.Interchangeable secret secret') :
      Credential.Alike (.accessToken secret) (.accessToken secret')
  | clientSecret (tenantId clientId secret secret' authorityHost : String) :
      Credential.Alike (.clientSecret tenantId clientId secret authorityHost)
        (.clientSecret tenantId clientId secret' authorityHost)

theorem Credential.Alike.inspect_eq {credential credential' : Credential}
    (alike : credential.Alike credential') : credential.inspect = credential'.inspect := by
  cases alike <;> rfl

/-- Sources of tokens that differ in nothing but the secret of the credential. -/
structure TokenSource.Alike (source source' : TokenSource) : Prop where
  credential : source.credential.Alike source'.credential
  scope : source.scope = source'.scope

namespace TokenSource

theorem Alike.inspect_eq {source source' : TokenSource} (alike : source.Alike source') :
    source.inspect = source'.inspect := by
  rw [inspect, inspect, alike.credential.inspect_eq, alike.scope]

/-- The requests for a token with two secrets differ in nothing else. -/
theorem ends_request (scope tenantId clientId secret secret' authorityHost : String) :
    Ends (Http.Request.SameBlinded .post) (request scope tenantId clientId secret authorityHost)
      (request scope tenantId clientId secret' authorityHost) :=
  ends_requestTo _ _ _ .none rfl

section

variable (worlds : world.Alike R world')

include worlds

theorem inStep_cached :
    InStep R (Option.Rel Http.Interchangeable) (cached world) (cached world') := by
  refine InStep.get.bind fun {session session'} sessions => ?_
  have tokens := sessions.token
  generalize session.token = token at tokens
  generalize session'.token = token' at tokens
  cases tokens with
  | none => exact .pure .none
  | @some token token' alike =>
      refine (inStep_now worlds).bind_same fun now => .pure ?_
      have fresh : token.isFresh now = token'.isFresh now := by
        rw [Token.isFresh, Token.isFresh, alike.expires]
      rw [fresh]
      split
      · exact .some alike.secret
      · exact .none

theorem inStep_keep {grant grant' : TokenGrant} (grants : grant.Alike grant') :
    InStep R Http.Interchangeable (keep world grant) (keep world' grant') := by
  refine (inStep_now worlds).bind_same fun now => ?_
  rw [grants.lifetime]
  cases now.after? grant'.lifetime with
  | none => exact .throw _
  | some expires =>
      have kept : Token.Alike ⟨grant.secret, expires⟩ ⟨grant'.secret, expires⟩ :=
        ⟨grants.secret, rfl⟩
      refine (inStep_log _).bind_same fun _ => ?_
      refine (InStep.modify fun sessions => ?_).bind_same fun _ => .pure grants.secret
      exact { sessions with token := .some kept }

theorem inStep_renew (limit : Option Limit) (clientId : String)
    {request request' : Except Http.Fault Http.Request}
    (requests : Ends (Http.Request.SameBlinded .post) request request') :
    InStep R Http.Interchangeable (renew world limit clientId request)
      (renew world' limit clientId request') := by
  refine (inStep_log _).bind_same fun _ => ?_
  refine (inStep_send worlds limit requests).bind fun answers => ?_
  cases answers with
  | error fault => exact inStep_fail _
  | @ok response response' alike =>
      obtain ⟨status, refused, granted⟩ : GrantsAlike response response' := alike
      simp only [← status]
      cases success : response.status.isSuccess with
      | false =>
          rw [refused success]
          exact inStep_fail _
      | true =>
          have grants := granted success
          simp only [Bool.not_true, Bool.false_eq_true, if_false]
          generalize response.body.read? TokenGrant.codec.decode = grant at grants
          generalize response'.body.read? TokenGrant.codec.decode = grant' at grants
          cases grants with
          | none => exact inStep_fail _
          | some alike => exact inStep_keep worlds alike

/-- Alike sources give interchangeable tokens, and say the same when they do not. -/
theorem inStep_token {source source' : TokenSource} (sources : source.Alike source')
    (limit : Option Limit) :
    InStep R Http.Interchangeable (source.token world limit) (source'.token world' limit) := by
  obtain ⟨credential, scope⟩ := source
  obtain ⟨credential', scope'⟩ := source'
  obtain ⟨credentials, rfl : scope = scope'⟩ := sources
  cases credentials with
  | accessToken secrets => exact .pure secrets
  | clientSecret tenantId clientId secret secret' authorityHost =>
      refine (inStep_cached worlds).bind fun kept => ?_
      cases kept with
      | some secrets => exact .pure secrets
      | none => exact inStep_renew worlds limit clientId (ends_request ..)

end

end TokenSource

/-! ## Clients -/

/-- Clients that differ in nothing but the secret of their credential. -/
inductive Client.Alike (client : Client) : Client → Prop
  | using {tokens : TokenSource} (sources : client.tokens.Alike tokens) :
      Client.Alike client { client with tokens }

namespace Client

section

variable {client client' : Client} {α : Type}

theorem Alike.inspect_eq (alike : client.Alike client') : client.inspect = client'.inspect := by
  obtain ⟨sources⟩ := alike
  rw [inspect, inspect, sources.inspect_eq]

theorem Alike.address_eq (alike : client.Alike client') : client.address = client'.address := by
  cases alike
  rfl

theorem Alike.dryRun_eq (alike : client.Alike client') : client.dryRun = client'.dryRun := by
  cases alike
  rfl

theorem Alike.delayAfter_eq (alike : client.Alike client') :
    client.delayAfter = client'.delayAfter := by
  cases alike
  rfl

theorem inStep_orFail (outcome : Except Failure α) :
    InStep R Eq (orFail outcome) (orFail outcome) := by
  cases outcome with
  | ok value => exact .pure rfl
  | error failure => exact inStep_fail _

variable (worlds : world.Alike R world') (clients : client.Alike client')

include worlds clients

/-- A request that does not ask for a token is answered the same. -/
theorem inStep_ask (limit : Option Limit) {method : Http.Method} (notPost : method ≠ .post)
    (address : String) (content : Http.Content) :
    InStep R Eq (client.ask world limit method address content)
      (client'.ask world' limit method address content) := by
  obtain ⟨sources⟩ := clients
  refine (inStep_log _).bind_same fun _ => ?_
  refine (TokenSource.inStep_token worlds sources limit).bind fun secrets => ?_
  refine (inStep_send worlds limit
    (ends_requestTo _ _ _ (.some secrets.bearer) rfl)).bind fun answers => ?_
  cases answers with
  | ok same => exact .pure (by simpa only [AnswersAlike, if_neg notPost] using same)
  | error fault => exact inStep_fail _

theorem inStep_read (path what : String) (codec : Json.Codec α) :
    InStep R Eq (client.read world path what codec) (client'.read world' path what codec) := by
  unfold read
  rw [clients.address_eq]
  refine (inStep_ask worlds clients none (by decide) _ _).bind_same fun response => ?_
  split
  · exact (inStep_log _).bind_same fun _ => .pure rfl
  · refine (inStep_orFail _).bind_same fun checked => ?_
    split
    · exact .pure rfl
    · exact inStep_fail _

/-- The waiting for an operation goes in step from reading to reading. -/
theorem inStep_poll (limit : Limit) (what address : String) (report : Report) (ticks : Nat)
    (delay : Span) :
    InStep R Eq (client.poll world limit what address report ticks delay)
      (client'.poll world' limit what address report ticks delay) := by
  induction ticks generalizing delay with
  | zero => exact inStep_fail _
  | succ ticks ih =>
      refine (inStep_sleep limit delay).bind_same fun _ => ?_
      refine (inStep_ask worlds clients _ (by decide) _ _).bind_same fun response => ?_
      refine (inStep_orFail _).bind_same fun checked => ?_
      refine (inStep_orFail _).bind_same fun state => ?_
      cases state with
      | pending =>
          rw [clients.delayAfter_eq]
          exact (inStep_log _).bind_same fun _ => ih _
      | succeeded => exact inStep_log _
      | failed detail => exact inStep_fail _

theorem inStep_finish (limit : Limit) (what : String) (response : Http.Response) :
    InStep R Eq (client.finish world limit what response)
      (client'.finish world' limit what response) := by
  unfold finish
  rw [clients.delayAfter_eq]
  split
  · exact .pure rfl
  · refine InStep.get.bind fun sessions => ?_
    rw [sessions.elapsed]
    exact inStep_poll worlds clients ..

omit worlds in
theorem inStep_limit (what : String) :
    InStep R Eq (client.limit what) (client'.limit what) := by
  have timeout_eq : client.timeout = client'.timeout := by cases clients; rfl
  unfold Client.limit
  rw [timeout_eq]
  refine InStep.get.bind fun sessions => ?_
  rw [sessions.elapsed]
  exact .pure rfl

theorem inStep_write (path what : String) (document : Json) :
    InStep R Eq (client.write world path what document)
      (client'.write world' path what document) := by
  unfold write
  rw [clients.address_eq, clients.dryRun_eq]
  split
  · exact inStep_log _
  · refine (inStep_log _).bind_same fun _ => (inStep_limit clients what).bind_same fun limit => ?_
    refine (inStep_ask worlds clients _ (by decide) _ _).bind_same fun response => ?_
    refine (inStep_orFail _).bind_same fun checked => ?_
    exact inStep_finish worlds clients ..

theorem inStep_delete (path what : String) :
    InStep R Eq (client.delete world path what) (client'.delete world' path what) := by
  unfold delete
  rw [clients.address_eq, clients.dryRun_eq]
  split
  · exact inStep_log _
  · refine (inStep_log _).bind_same fun _ => (inStep_limit clients what).bind_same fun limit => ?_
    refine (inStep_ask worlds clients _ (by decide) _ _).bind_same fun response => ?_
    split
    · exact inStep_log _
    · refine (inStep_orFail _).bind_same fun checked => ?_
      exact inStep_finish worlds clients ..

/-- Whatever is asked for, alike clients do it in step. -/
theorem inStep_fulfil (request : Request) :
    InStep R Eq (client.fulfil world request) (client'.fulfil world' request) := by
  have root_eq : client.root = client'.root := by cases clients; rfl
  cases request with
  | readGroup name =>
      simp only [fulfil, groupPath, root_eq]
      exact inStep_read worlds clients ..
  | writeGroup group =>
      simp only [fulfil, groupPath, root_eq]
      exact inStep_write worlds clients ..
  | deleteGroup name =>
      simp only [fulfil, groupPath, root_eq]
      exact inStep_delete worlds clients ..
  | readSubnet network name =>
      simp only [fulfil, subnetPath, root_eq]
      refine (inStep_read worlds clients ..).bind_same fun subnet => ?_
      split
      · exact .pure rfl
      · exact inStep_fail _
  | writeSubnet network subnet =>
      simp only [fulfil, subnetPath, root_eq]
      exact inStep_write worlds clients ..
  | readBalancer name =>
      simp only [fulfil, balancerPath, root_eq]
      exact inStep_read worlds clients ..
  | writeBalancer balancer =>
      simp only [fulfil, balancerPath, root_eq]
      exact inStep_write worlds clients ..

/-- A plan is run in step, request by request. -/
theorem inStep_run (plan : Plan α) :
    InStep R Eq (client.run world plan) (client'.run world' plan) := by
  induction plan with
  | done outcome => exact .pure rfl
  | note note plan ih => exact (inStep_takeNote note).bind_same fun _ => ih
  | ask request plan ih =>
      refine (inStep_fulfil worlds clients request).attempt.bind_same fun answer => ?_
      exact ih answer

end

end Client

/-! ## Operations -/

/-- What is seen of a run: what it comes to, and what is said on the way. -/
def Run.seen {α : Type} (run : Run σ α) (session : Session σ) : Except Crash α × List Note :=
  ((run.exec session).1, (run.exec session).2.notes)

theorem InStep.seen_eq {α : Type} {run : Run σ α} {run' : Run τ α} (inStep : InStep R Eq run run')
    {session : Session σ} {session' : Session τ} (sessions : session.Alike R session') :
    run.seen session = run'.seen session' := by
  obtain ⟨ends, left⟩ := inStep sessions
  exact Prod.ext ends.eq left.notes

/-- Clouds that are not told apart by what is seen when operations are carried out on
them, whichever they are, one after the other. -/
def Indistinct (R : σ → τ → Prop) (cloud : Cloud (Run σ)) (cloud' : Cloud (Run τ)) : Prop :=
  ∀ (operations : List Operation) (session : Session σ) (session' : Session τ),
    session.Alike R session' →
      (operations.mapM (carryOut cloud)).seen session =
        (operations.mapM (carryOut cloud')).seen session'

section

variable {client client' : Client} (worlds : world.Alike R world')
  (clients : client.Alike client')

include worlds clients

theorem inStep_carryOut (cluster : Cluster) (operation : Operation) :
    InStep R Eq (carryOut (cloud world cluster client) operation)
      (carryOut (cloud world' cluster client') operation) := by
  have site_eq : site cluster client = site cluster client' := by cases clients; rfl
  rw [carryOut_eq, carryOut_eq, site_eq]
  exact Client.inStep_run worlds clients _

/-- Operations are carried out in step, one after the other. -/
theorem inStep_carryOuts (cluster : Cluster) (operations : List Operation) :
    InStep R Eq (operations.mapM (carryOut (cloud world cluster client)))
      (operations.mapM (carryOut (cloud world' cluster client'))) := by
  induction operations with
  | nil => exact .pure rfl
  | cons operation operations ih =>
      rw [List.mapM_cons, List.mapM_cons]
      refine (inStep_carryOut worlds clients cluster operation).bind_same fun outcome => ?_
      refine ih.bind_same fun outcomes => ?_
      exact .pure rfl

theorem indistinct_cloud (cluster : Cluster) :
    Indistinct R (cloud world cluster client) (cloud world' cluster client') :=
  fun operations _ _ sessions =>
    (inStep_carryOuts worlds clients cluster operations).seen_eq sessions

end

/-! ## Clouds of settings -/

/-- The settings of a cluster on Azure. -/
def settings (azure : AzureSettings) (ports : List Port) (operation : OperationSettings) :
    Settings :=
  { cloud := .azure azure, ports, operation }

section

variable {azure azure' : AzureSettings}

/-- Access tokens that settings give and that can be sent alike. -/
abbrev TokensAlike (azure azure' : AzureSettings) : Prop :=
  Option.Rel Http.Interchangeable azure.accessToken azure'.accessToken

/-- Whether settings give a credential does not depend on the secrets that they
give. -/
theorem ends_credential (alike : azure.Alike azure') :
    Ends (fun credential credential' => TokensAlike azure azure' → credential.Alike credential')
      (credential azure) (credential azure') := by
  obtain @⟨secret, token, secrets, tokens⟩ := alike
  have given := tokens.rel_filter
  have known := secrets.rel
  simp only [credential]
  generalize azure.accessToken.filter (· ≠ "") = filtered at given
  generalize token.filter (· ≠ "") = filtered' at given
  generalize azure.clientSecret = first at known
  cases given with
  | some both =>
      refine .ok fun sendable => .accessToken ?_
      simp only [TokensAlike, both.1, both.2] at sendable
      cases sendable with
      | some alike => exact alike
  | none =>
      cases azure.tenantId <;> cases azure.clientId <;> cases known <;>
        first
        | exact .error _
        | exact .ok fun _ => .clientSecret ..

/-- The clients of settings that differ only in secrets are alike, and what there is
to say about them is the same. -/
theorem ends_client (alike : azure.Alike azure') (operation : OperationSettings) :
    Ends (fun made made' =>
        (TokensAlike azure azure' → made.1.Alike made'.1) ∧ made.2 = made'.2)
      (client azure operation) (client azure' operation) := by
  have credentials := ends_credential alike
  obtain ⟨secrets, tokens⟩ := alike
  exact credentials.bind fun alike => .ok ⟨fun sendable => .using ⟨alike sendable, rfl⟩, rfl⟩

theorem ends_factory (worlds : world.Alike R world') (alike : azure.Alike azure')
    (ports : List Port) (operation : OperationSettings) :
    (factory world (settings azure ports operation)).1 =
        (factory world' (settings azure' ports operation)).1 ∧
      Ends (fun cloud cloud' =>
          cloud.name = cloud'.name ∧ (TokensAlike azure azure' → Indistinct R cloud cloud'))
        (factory world (settings azure ports operation)).2
        (factory world' (settings azure' ports operation)).2 := by
  have cluster_eq : cluster azure = cluster azure' := by cases alike; rfl
  have clients := ends_client alike operation
  simp only [factory, settings, cluster_eq]
  generalize client azure operation = made at clients
  generalize client azure' operation = made' at clients
  cases clients with
  | error fault => exact ⟨rfl, .error _⟩
  | ok related =>
      obtain ⟨alike, entries_eq⟩ := related
      exact ⟨entries_eq, .ok ⟨rfl, fun sendable => indistinct_cloud worlds (alike sendable) _⟩⟩

end

/-- Secrets are kept. In worlds that differ only in the tokens that they grant, clients
that differ only in the secret of their credential are inspected alike, and on no cluster
does any sequence of operations tell them apart: every log entry, every step of progress
and every failure is the same. Settings that differ only in the contents of the secrets
that they give are inspected alike, they are valid together, and the factory makes of them
either the same failure or clouds of which, if the access tokens can be sent alike, nothing
tells one from the other. -/
theorem secrets_kept (worlds : world.Alike R world') :
    (∀ {client client' : Client}, client.Alike client' →
      client.tokens.credential.inspect = client'.tokens.credential.inspect ∧
      client.tokens.inspect = client'.tokens.inspect ∧
      client.inspect = client'.inspect ∧
      ∀ cluster : Cluster,
        Indistinct R (cloud world cluster client) (cloud world' cluster client')) ∧
    ∀ {azure azure' : AzureSettings}, azure.Alike azure' →
      ∀ (ports : List Port) (operation : OperationSettings),
        (settings azure ports operation).inspect = (settings azure' ports operation).inspect ∧
        (settings azure ports operation).validate = (settings azure' ports operation).validate ∧
        (cluster azure).inspectCloud = (cluster azure').inspectCloud ∧
        (factory world (settings azure ports operation)).1 =
          (factory world' (settings azure' ports operation)).1 ∧
        Ends (fun cloud cloud' =>
            cloud.name = cloud'.name ∧ (TokensAlike azure azure' → Indistinct R cloud cloud'))
          (factory world (settings azure ports operation)).2
          (factory world' (settings azure' ports operation)).2 := by
  constructor
  · intro client client' clients
    have sources : client.tokens.Alike client'.tokens := by cases clients; assumption
    exact ⟨sources.credential.inspect_eq, sources.inspect_eq, clients.inspect_eq,
      indistinct_cloud worlds clients⟩
  · intro azure azure' alike ports operation
    obtain ⟨entries_eq, clouds⟩ := ends_factory worlds alike ports operation
    have cluster_eq : cluster azure = cluster azure' := by cases alike; rfl
    refine ⟨?_, ?_, congrArg Cluster.inspectCloud cluster_eq, entries_eq, clouds⟩
    · simp only [Settings.inspect, settings, CloudSettings.inspect, alike.inspect_eq]
    · simp only [Settings.validate, settings, CloudSettings.validate, alike.validate_eq]

/-! ### A server that grants tokens -/

/-- The answer that grants a token for an hour. -/
def granted (secret : String) : Http.Response where
  status := ⟨200⟩
  body := .document
    (.object [("access_token", .string secret), ("expires_in", .number (.integer 3600))])

theorem grantsAlike_granted {secret secret' : String}
    (secrets : Http.Interchangeable secret secret') :
    GrantsAlike (granted secret) (granted secret') where
  status := rfl
  refused refused := by cases refused
  granted _ := .some ⟨secrets, rfl⟩

/-- A server that grants a token to whoever asks for one, and otherwise does what another
server does. -/
def World.granting (world : World σ) (secret : String) : World σ where
  exchange request state :=
    if request.method = .post then ((some (granted secret), ⟨0⟩), state)
    else world.exchange request state
  clock := world.clock

theorem alike_granting {secret secret' : String} (same : world.Alike Eq world)
    (secrets : Http.Interchangeable secret secret') :
    (world.granting secret).Alike Eq (world.granting secret') where
  clock := same.clock
  exchange {method request request' state state'} sameBlinded states := by
    have method_eq : request'.method = method :=
      (congrArg Http.Request.method sameBlinded.2).symm.trans sameBlinded.1
    simp only [World.granting, sameBlinded.1, method_eq]
    by_cases asked : method = .post
    · rw [if_pos asked, if_pos asked]
      refine ⟨.some ?_, rfl, states⟩
      rw [AnswersAlike, if_pos asked]
      exact grantsAlike_granted secrets
    · rw [if_neg asked, if_neg asked]
      exact same.exchange sameBlinded states

theorem GrantsAlike.refl (response : Http.Response) : GrantsAlike response response where
  status := rfl
  refused _ := rfl
  granted _ := by
    cases response.body.read? TokenGrant.codec.decode with
    | none => exact .none
    | some grant => exact .some ⟨rfl, rfl⟩

/-- A server that answers the same to requests that differ only in secrets. -/
theorem alike_of_same
    (same : ∀ {method request request'} (state : σ),
      Http.Request.SameBlinded method request request' →
        world.exchange request state = world.exchange request' state) :
    world.Alike Eq world where
  clock {state state'} states := by
    subst states
    exact ⟨rfl, rfl⟩
  exchange {method request request' state state'} sameBlinded states := by
    subst states
    rw [same state sameBlinded]
    refine ⟨?_, rfl, rfl⟩
    cases (world.exchange request' state).1.1 with
    | none => exact .none
    | some response =>
        refine .some ?_
        unfold AnswersAlike
        split
        · exact .refl response
        · rfl

/-- A server that keeps documents does not look at secrets. -/
theorem alike_keeping (kept : String → Json → Json) :
    (World.keeping kept).Alike Eq (World.keeping kept) := by
  refine alike_of_same fun {method request request'} state sameBlinded => ?_
  obtain ⟨method, url, authorization, contentType, content⟩ := request
  obtain ⟨method', url', authorization', contentType', content'⟩ := request'
  have same := sameBlinded.2
  simp only [Http.Request.blinded, Http.Request.mk.injEq] at same
  obtain ⟨rfl, rfl, -, -, contents⟩ := same
  cases content with
  | empty => cases content' <;> first | rfl | cases contents
  | document value => cases content' <;> cases contents; rfl
  | form fields => cases content' <;> first | cases contents | (cases method <;> rfl)

namespace Sample

/-- A client that asks for tokens with a secret. -/
def asking (secret : String) : Client :=
  { client with
    tokens := .forEndpoint (.clientSecret "tenant" "client" secret Credential.standardAuthority)
      Client.standardEndpoint }

/-- Settings with a secret. -/
def settingsWith (secret : String) : AzureSettings where
  subscriptionId := "subscription"
  infraId := "c1"
  region := "eastus"
  resourceGroup := "c1-rg"
  tenantId := some "tenant"
  clientId := some "client"
  clientSecret := some secret

/-- A server with a load balancer and two subnets that grants a token. -/
def server (token : String) : World (Table Json) := (World.keeping keptWithId).granting token

/-- The cluster is prepared and cleaned up with a secret, for which a token is granted. -/
def operated (secret token : String) : Run (Table Json) (List (Except Failure Unit)) :=
  [.prepare [⟨500, .udp⟩], .cleanup].mapM
    (carryOut (cloud (server token) (cluster "c1") (asking secret)))

theorem alike_asking (secret secret' : String) : (asking secret).Alike (asking secret') :=
  .using ⟨.clientSecret .., rfl⟩

theorem alike_settingsWith (secret secret' : String) (given : secret ≠ "") (given' : secret' ≠ "") :
    (settingsWith secret).Alike (settingsWith secret') :=
  .using (.inr ⟨decide_eq_true given, decide_eq_true given'⟩) (.inl rfl)

end Sample

/-- The tokens differ, but they are not seen. -/
theorem secrets_kept_sample :
    (((Sample.asking "secret").tokens.token (Sample.server "token") none).exec
      { outside := Sample.documents "c1" }).1 = .ok "token" ∧
    (((Sample.asking "password").tokens.token (Sample.server "ticket") none).exec
      { outside := Sample.documents "c1" }).1 = .ok "ticket" ∧
    (Sample.operated "secret" "token").seen { outside := Sample.documents "c1" } =
      (Sample.operated "password" "ticket").seen { outside := Sample.documents "c1" } ∧
    (Sample.asking "secret").inspect = (Sample.asking "password").inspect ∧
    (settings (Sample.settingsWith "secret") [⟨500, .udp⟩] {}).inspect =
      (settings (Sample.settingsWith "password") [⟨500, .udp⟩] {}).inspect := by
  have worlds : (Sample.server "token").Alike Eq (Sample.server "ticket") :=
    alike_granting (alike_keeping Sample.keptWithId)
      (show Http.isHeaderValue "token" = Http.isHeaderValue "ticket" by decide)
  obtain ⟨runs, made⟩ := secrets_kept worlds
  obtain ⟨-, -, inspect_eq, indistinct⟩ := runs (Sample.alike_asking "secret" "password")
  obtain ⟨settings_eq, -⟩ :=
    made (Sample.alike_settingsWith "secret" "password" (by decide) (by decide)) [⟨500, .udp⟩] {}
  refine ⟨by decide +kernel, by decide +kernel, ?_, inspect_eq, settings_eq⟩
  exact indistinct _ _ _ _ ⟨rfl, rfl, .none, rfl⟩

end Azure

end ClusterPorts
