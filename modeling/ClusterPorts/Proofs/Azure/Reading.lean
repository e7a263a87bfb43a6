import ClusterPorts.Azure.Factory
import ClusterPorts.Proofs.Azure.Renewal

/-!
# What a client reads

A server holds documents at paths, and answers what a client asks it to read with
the document or says that there is none: `World.Shows`. What the client makes of
a read then depends on nothing but the documents and what the call for a token comes
to: `Client.replyOn` is that, and `Client.exec_fulfil_of_reads` says so. `Client.Looked`
is what a read leaves: the documents as they were, some more lines in the log, and
nothing on the wire but a `GET` and requests for tokens.
-/

namespace ClusterPorts.Azure

variable {σ α : Type}

/-! ## Plans -/

namespace Client

variable {client : Client} {world : World σ} {session after : Session σ}

theorem exec_run_note (note : Note) (next : Plan α) :
    (client.run world (.note note next)).exec session =
      (client.run world next).exec { session with notes := session.notes ++ [note] } := rfl

/-- A plan goes on with what a request comes to. -/
theorem exec_run_ask {request : Request} {next : Except Failure request.Answer → Plan α}
    {reply : Except Failure request.Answer}
    (gives : (client.fulfil world request).Gives session reply after) :
    (client.run world (.ask request next)).exec session =
      (client.run world (next reply)).exec after := by
  show ((client.fulfil world request).attempt >>= fun reply => client.run world (next reply)).exec
    session = _
  rw [Run.exec_bind, gives.attempt]

/-- A plan breaks down with a request. -/
theorem exec_run_crash {request : Request} {next : Except Failure request.Answer → Plan α}
    (crashes : (client.fulfil world request).exec session = (.error .crash, after)) :
    (client.run world (.ask request next)).exec session = (.error .crash, after) := by
  have attempts : (client.fulfil world request).attempt.exec session = (.error .crash, after) := by
    have comes : (client.fulfil world request) session = (.error .crash, after) := crashes
    simp only [Act.attempt, Run.exec, ExceptT.mk, ExceptT.run, bind, StateT.bind, comes]
    rfl
  show ((client.fulfil world request).attempt >>= fun reply => client.run world (next reply)).exec
    session = _
  rw [Run.exec_bind, attempts]

/-- The path of the resource that a request is about. -/
def pathOf (client : Client) : Request → String
  | .readGroup name => client.groupPath name
  | .writeGroup group => client.groupPath group.name
  | .deleteGroup name => client.groupPath name
  | .readSubnet network name => client.subnetPath network name
  | .writeSubnet network subnet => client.subnetPath network subnet.name
  | .readBalancer name => client.balancerPath name
  | .writeBalancer balancer => client.balancerPath balancer.name

end Client

/-! ## Where requests go -/

namespace Client

/-- A request with an access token. -/
def bearing (secret : String) (method : Http.Method) (url : Http.Url) (content : Http.Content) :
    Http.Request :=
  ⟨method, url, some ("Bearer " ++ secret), "application/json", content⟩

/-- Requests for the resource at a path can be sent, and this is where they go. -/
def Reaches (client : Client) (secret path : String) (url : Http.Url) : Prop :=
  ∀ method content,
    requestTo secret (client.address path) method content = .ok (bearing secret method url content)

variable {client : Client} {secret path : String} {url : Http.Url} {method : Http.Method}
  {content : Http.Content} {request : Http.Request}

/-- Where a request goes depends on its path only. -/
theorem reaches_of_requestTo
    (leads : requestTo secret (client.address path) method content = .ok request) :
    ∃ url, client.Reaches secret path url ∧ request = bearing secret method url content := by
  unfold requestTo Http.Request.to at leads
  split at leads
  · cases leads
  · next url parsed =>
    split at leads
    · cases leads
    · next host =>
      split at leads
      · cases leads
      · next header =>
        split at leads
        · next web =>
          cases leads
          refine ⟨url, fun method content => ?_, rfl⟩
          simp only [requestTo, Http.Request.to, parsed, if_neg host, if_neg header, if_pos web]
          rfl
        · cases leads

/-- A request does not depend on the token, but for whether that can be sent. -/
theorem requestTo_congr {other : String}
    (alike : usability (.ok secret) = usability (.ok other)) (address : String) :
    requestTo other address method content = (requestTo secret address method content).map
      fun request => { request with authorization := some ("Bearer " ++ other) } := by
  have alike : Http.isHeaderValue ("Bearer " ++ secret) = Http.isHeaderValue ("Bearer " ++ other) :=
    Except.ok.inj alike
  simp only [requestTo, Http.Request.to, Option.any_some, alike]
  split
  · rfl
  · split_ifs <;> rfl

theorem Reaches.congr {other : String} (reaches : client.Reaches secret path url)
    (alike : usability (.ok secret) = usability (.ok other)) : client.Reaches other path url := by
  intro method content
  rw [requestTo_congr alike, reaches]
  rfl

/-- There is one place where the requests for a path go. -/
theorem Reaches.unique {other : Http.Url} (reaches : client.Reaches secret path url)
    (reaches' : client.Reaches secret path other) : url = other := by
  have same := (reaches .get .empty).symm.trans (reaches' .get .empty)
  exact congrArg Http.Request.url (Except.ok.inj same)

end Client

/-! ## Servers -/

/-- What an answer carries can be read as a document. -/
def Carries (body : Http.Body) (document : Json) : Prop :=
  ∀ {α : Type} (decode : Json.Node → Except Json.Problem α),
    body.read? decode = (decode document.node).toOption

theorem carries_document (document : Json) : Carries (.document document) document := fun _ => rfl

/-- The server holds documents at paths, and answers who reads the one at a path with
it, or with 404. Reading changes no document, and neither does time. -/
structure World.Shows (world : World σ) (client : Client) (secret : String)
    (documents : σ → Table Json) (path : String) : Prop where
  clock : ∀ state, documents (world.clock state).2 = documents state
  reads : ∀ {url : Http.Url}, client.Reaches secret path url → ∀ state, ∃ response span next,
    world.exchange (Client.bearing secret .get url .empty) state =
      ((some response, span), next) ∧
    documents next = documents state ∧
    match (documents state).find? url.path with
    | some document => response.status.isSuccess ∧ Carries response.body document
    | none => response.status.code = 404

namespace Client

/-! ## Reads -/

/-- What a client makes of reading the resource at a path. -/
def found (client : Client) (secret : String) (documents : Table Json) (path what : String)
    (codec : Json.Codec α) : Except Failure (Option α) :=
  match requestTo secret (client.address path) .get .empty with
  | .error fault => .error (.provider "azure" ("HTTP request failed: " ++ fault.message))
  | .ok request =>
      match documents.find? request.url.path with
      | none => .ok none
      | some document =>
          match codec.decode document.node with
          | .ok value => .ok (some value)
          | .error _ =>
              .error (.provider "azure" ("Failed to parse " ++ what ++ ": " ++ unreadable))

/-- What a client answers to a request on these documents. A write is acknowledged. -/
def reply (client : Client) (secret : String) (documents : Table Json) :
    (request : Request) → Except Failure request.Answer
  | .readGroup name =>
      client.found secret documents (client.groupPath name) (groupTitle name) SecurityGroup.codec
  | .readSubnet network name =>
      match client.found secret documents (client.subnetPath network name)
        (subnetTitle network name) Subnet.codec with
      | .ok (some subnet) => .ok subnet
      | .ok none => .error (.notFound (subnetTitle network name))
      | .error failure => .error failure
  | .readBalancer name =>
      client.found secret documents (client.balancerPath name) (balancerTitle name)
        LoadBalancer.codec
  | .writeGroup _ => .ok ()
  | .deleteGroup _ => .ok ()
  | .writeSubnet _ _ => .ok ()
  | .writeBalancer _ => .ok ()

/-- What a client answers to a request on these documents after a call for a token. -/
def replyOn (client : Client) (called : Except Stop String) (documents : Table Json)
    (request : Request) : Except Stop request.Answer :=
  called.bind fun secret => (client.reply secret documents request).mapError .failure

/-- The request reads a resource, or it asks for a token, in a run before which a token was
kept, or none. -/
def Inquires (client : Client) (world : World σ) (kept : Option Token) (sent : Http.Request) :
    Prop :=
  sent.method = .get ∨ sent.method = .post ∧ client.tokens.Requests world kept sent

/-- What a read leaves in such a run. -/
structure Looked (client : Client) (world : World σ) (documents : σ → Table Json)
    (kept : Option Token) (session after : Session σ) : Prop where
  token : client.tokens.Keeps world kept after.token
  documents : documents after.outside = documents session.outside
  notes : session.Whispers after
  outside : world.Passes (client.Inquires world kept) session.outside after.outside

variable {client : Client} {world : World σ} {documents : σ → Table Json} {session : Session σ}
  {secret path what : String} {method : Http.Method} {kept : Option Token} {wait : Nat}

theorem quiet_ask {address : String} : Quiet (.log (.debug (method.text ++ " " ++ address))) := by
  apply quiet_of_isWorded
  apply Text.IsWorded.append
  apply Text.IsWorded.append
  cases method with
  | get => exact ⟨'G', rfl, by decide⟩
  | put => exact ⟨'P', rfl, by decide⟩
  | post => exact ⟨'P', rfl, by decide⟩
  | delete => exact ⟨'D', rfl, by decide⟩

/-- The session after the call for a token for a read. -/
theorem looked_of_called {address : String} {held : Session σ}
    (steady : client.tokens.Steady world kept documents wait)
    (called : client.tokens.Called world kept wait (asking session method address) held) :
    Looked client world documents kept session held where
  token := called.token
  documents := show documents held.outside = documents (asking session method address).outside from
    called.documents_eq steady
  notes := .trans (.of_entry rfl quiet_ask) called.notes
  outside := called.outside.mono fun _ requests =>
    .inr ⟨TokenSource.method_of_requests requests, requests⟩

/-- The session after the answer to a read, and the answer. -/
theorem Looked.exchanged {held : Session σ}
    (looked : Looked client world documents kept session held)
    (answers : world.Shows client secret documents path) {url : Http.Url}
    (reaches : client.Reaches secret path url) :
    let asked := bearing secret .get url .empty
    Looked client world documents kept session (held.exchanged world asked) ∧
      ∃ response, world.replyTo (.ok asked) held.outside = .ok response ∧
        match (documents session.outside).find? url.path with
        | some document => response.status.isSuccess ∧ Carries response.body document
        | none => response.status.code = 404 := by
  intro asked
  obtain ⟨response, span, next, exchanged, still, told⟩ := answers.reads reaches held.outside
  have after : (held.exchanged world asked).outside = next := by
    rw [Session.exchanged, exchanged]
  rw [looked.documents] at still told
  refine ⟨⟨looked.token, after ▸ still, looked.notes, ?_⟩, response, ?_, told⟩
  · exact looked.outside.trans (.single (.exchanged (.inl rfl) held.outside))
  · rw [World.replyTo, exchanged]

/-- A read says one thing more. -/
theorem Looked.log {after : Session σ} (looked : Looked client world documents kept session after)
    {entry : LogEntry} (quiet : Quiet (.log entry)) :
    Looked client world documents kept session
      { after with notes := after.notes ++ [.log entry] } :=
  { looked with notes := looked.notes.trans (.of_entry rfl quiet) }

/-- What a client makes of a read depends on the documents and on the call for a token. -/
theorem exec_read (steady : client.tokens.Steady world kept documents wait)
    (answers : ∀ {secret}, client.tokens.Fares world kept (.ok secret) →
      world.Shows client secret documents path)
    (keeps : client.tokens.Keeps world kept session.token) (worded : Text.IsWorded what)
    (codec : Json.Codec α) :
    ∃ called after, client.tokens.Fares world kept called ∧
      (client.read world path what codec).exec session =
        (called.bind fun secret =>
          (client.found secret (documents session.outside) path what codec).mapError .failure,
          after) ∧
      Looked client world documents kept session after := by
  have keeps : client.tokens.Keeps world kept (asking session .get (client.address path)).token :=
    keeps
  obtain ⟨called, held, has, fares, call⟩ := TokenSource.exec_token_unlimited steady keeps
  have looked := looked_of_called steady call
  cases called with
  | error stop =>
      refine ⟨_, held, fares, ?_, looked⟩
      simp only [read, Act.exec_bind, exec_ask_of_stop has]
      rfl
  | ok secret =>
      have asks := @exec_ask_inTime _ client world session .get (client.address path) .empty secret
        none held has Session.inTime_none
      refine ⟨.ok secret, ?_⟩
      simp only [found, read, Act.exec_bind, asks, Except.bind]
      cases leads : requestTo secret (client.address path) .get .empty with
      | error fault => exact ⟨held, fares, rfl, looked⟩
      | ok asked =>
          obtain ⟨url, reaches, rfl⟩ := reaches_of_requestTo leads
          obtain ⟨looked, response, answered, told⟩ := looked.exchanged (answers fares) reaches
          have path_eq : (bearing secret .get url .empty).url.path = url.path := rfl
          simp only [answered, path_eq, Except.mapError]
          cases held_at : (documents session.outside).find? url.path with
          | none =>
              rw [held_at] at told
              simp only [if_pos told]
              exact ⟨_, fares, rfl, looked.log (quiet_of_isWorded (worded.append _))⟩
          | some document =>
              rw [held_at] at told
              obtain ⟨success, carries⟩ := told
              have there : ¬ response.status.code = 404 := by
                intro missing
                simp [Http.Status.isSuccess, missing] at success
              simp only [if_neg there, checked, success, if_true, orFail, pure_bind,
                carries codec.decode]
              cases codec.decode document.node with
              | ok value => exact ⟨_, fares, rfl, looked⟩
              | error problem => exact ⟨_, fares, rfl, looked⟩

/-- A request that only reads comes to the reply, and leaves the documents as they are. -/
theorem exec_fulfil_of_reads {request : Request}
    (steady : client.tokens.Steady world kept documents wait)
    (answers : ∀ {secret}, client.tokens.Fares world kept (.ok secret) →
      world.Shows client secret documents (client.pathOf request))
    (keeps : client.tokens.Keeps world kept session.token) (reads : request.isWrite = false) :
    ∃ called after, client.tokens.Fares world kept called ∧
      (client.fulfil world request).exec session =
        (client.replyOn called (documents session.outside) request, after) ∧
      Looked client world documents kept session after := by
  have group : Text.IsWorded "security group " := ⟨'s', rfl, by decide⟩
  have subnet : Text.IsWorded "subnet " := ⟨'s', rfl, by decide⟩
  have balancer : Text.IsWorded "load balancer " := ⟨'l', rfl, by decide⟩
  cases request with
  | readGroup name => exact exec_read steady answers keeps (group.append _) SecurityGroup.codec
  | readBalancer name => exact exec_read steady answers keeps (balancer.append _) LoadBalancer.codec
  | readSubnet network name =>
      obtain ⟨called, after, fares, runs, looked⟩ := exec_read steady answers keeps
        (subnet.append (Request.subnetPath network name)) Subnet.codec
      refine ⟨called, after, fares, ?_, looked⟩
      have runs : (client.read world (client.subnetPath network name) (subnetTitle network name)
        Subnet.codec).exec session = _ := runs
      have path_eq : client.pathOf (.readSubnet network name) = client.subnetPath network name :=
        rfl
      have what_eq : "subnet " ++ Request.subnetPath network name = subnetTitle network name := rfl
      simp only [fulfil, Act.exec_bind, runs, replyOn, reply]
      rw [path_eq, what_eq]
      rcases called with stop | secret
      · rfl
      rcases found : client.found secret (documents session.outside)
        (client.subnetPath network name) (subnetTitle network name) Subnet.codec with
          failure | _ | subnet <;> simp only [Except.bind, found] <;> rfl
  | writeGroup _ => cases reads
  | deleteGroup _ => cases reads
  | writeSubnet _ _ => cases reads
  | writeBalancer _ => cases reads

/-- Who was given a token reads with that. -/
theorem gives_fulfil_of_reads {request : Request}
    (answers : world.Shows client secret documents (client.pathOf request))
    (own : client.tokens.credential = .accessToken secret) (reads : request.isWrite = false) :
    ∃ after, (client.fulfil world request).Gives session
        (client.reply secret (documents session.outside) request) after ∧
      Looked client world documents session.token session after := by
  have steady : client.tokens.Steady world session.token documents 0 := .of_given own answers.clock
  have shows {other : String} (fares : client.tokens.Fares world session.token (.ok other)) :
      world.Shows client other documents (client.pathOf request) := by
    obtain rfl := Except.ok.inj (TokenSource.eq_of_fares own fares)
    exact answers
  obtain ⟨called, after, fares, runs, looked⟩ := exec_fulfil_of_reads steady shows (.inl rfl) reads
  obtain rfl := TokenSource.eq_of_fares own fares
  exact ⟨after, runs, looked⟩

end Client

end ClusterPorts.Azure
