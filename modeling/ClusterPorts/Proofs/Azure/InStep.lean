import ClusterPorts.Proofs.Azure.Execution

/-!
# Sessions that differ in their secrets

Two sessions are alike if they differ in nothing but the secret of the token, and
in the world outside as some relation allows. Two actions are in step if in alike
sessions they come to the same end and leave alike sessions. The notes of alike
sessions are the same, so nothing that is said on the way tells the actions apart.

The one thing about a secret that an action may depend on is whether it can stand
in a header: `Interchangeable`. Worlds are alike if they answer alike what differs
only in secrets, as a server does that accepts both of two secrets.
-/

namespace ClusterPorts

/-! ## Requests without their secrets -/

namespace Http

/-- Both secrets can be sent in a header, or neither can. -/
def Interchangeable (secret secret' : String) : Prop := isHeaderValue secret = isHeaderValue secret'

/-- What a request carries, without the client's secret. -/
def Content.blinded : Content → Content
  | .form fields =>
    .form (fields.map fun (name, value) => (name, if name = "client_secret" then "" else value))
  | content => content

/-- A request without secrets. -/
def Request.blinded (request : Request) : Request :=
  { request with
    authorization := request.authorization.map fun _ => ""
    content := request.content.blinded }

/-- Two requests for the same that differ only in secrets. -/
def Request.SameBlinded (method : Method) (request request' : Request) : Prop :=
  request.method = method ∧ request.blinded = request'.blinded

theorem Request.SameBlinded.url_eq {method : Method} {request request' : Request}
    (same : request.SameBlinded method request') : request.url = request'.url :=
  show request.blinded.url = request'.blinded.url by rw [same.2]

theorem isHeaderValue_append (s t : String) :
    isHeaderValue (s ++ t) = (isHeaderValue s && isHeaderValue t) := by
  simp only [isHeaderValue, String.toList_append, List.all_append]

/-- A token can be sent with its scheme if it can be sent. -/
theorem Interchangeable.bearer {secret secret' : String}
    (secrets : Interchangeable secret secret') :
    Interchangeable ("Bearer " ++ secret) ("Bearer " ++ secret') := by
  rw [Interchangeable, isHeaderValue_append, isHeaderValue_append, secrets]

end Http

namespace Azure

variable {σ τ ε α β γ δ : Type}

/-! ## Ends -/

/-- Two outcomes are the same failure, or values in a relation. -/
inductive Ends (V : α → β → Prop) : Except ε α → Except ε β → Prop
  | ok {value : α} {value' : β} (related : V value value') : Ends V (.ok value) (.ok value')
  | error (failure : ε) : Ends V (.error failure) (.error failure)

theorem Ends.eq {outcome outcome' : Except ε α} (ends : Ends Eq outcome outcome') :
    outcome = outcome' := by
  cases ends with
  | ok same => rw [same]
  | error failure => rfl

theorem Ends.bind {V : α → β → Prop} {W : γ → δ → Prop} {outcome : Except ε α}
    {outcome' : Except ε β} {next : α → Except ε γ} {next' : β → Except ε δ}
    (ends : Ends V outcome outcome')
    (rest : ∀ {value value'}, V value value' → Ends W (next value) (next' value')) :
    Ends W (outcome >>= next) (outcome' >>= next') := by
  cases ends with
  | ok related => exact rest related
  | error failure => exact .error failure

/-- Whether a request can be sent does not depend on its secrets. -/
theorem ends_requestTo {authorization authorization' : Option String}
    {content content' : Http.Content} (address : String) (method : Http.Method)
    (contentType : String)
    (authorizations : Option.Rel Http.Interchangeable authorization authorization')
    (contents : content.blinded = content'.blinded) :
    Ends (Http.Request.SameBlinded method)
      (Http.Request.to address method authorization contentType content)
      (Http.Request.to address method authorization' contentType content') := by
  have sendable : authorization.any (!Http.isHeaderValue ·) =
      authorization'.any (!Http.isHeaderValue ·) := by
    cases authorizations with
    | none => rfl
    | some secrets => exact congrArg (!·) secrets
  have blank : authorization.map (fun _ => "") = authorization'.map fun _ => "" := by
    cases authorizations <;> rfl
  unfold Http.Request.to
  rw [sendable]
  cases Http.Url.parse? address with
  | none => exact .error _
  | some url =>
      simp only
      split
      · exact .error _
      · split
        · exact .error _
        · split
          · refine .ok ⟨rfl, ?_⟩
            simp only [Http.Request.blinded, blank, contents]
          · exact .error _

/-! ## Alike sessions and worlds -/

/-- Tokens that are valid until the same moment and can be sent alike. -/
structure Token.Alike (token token' : Token) : Prop where
  secret : Http.Interchangeable token.secret token'.secret
  expires : token.expires = token'.expires

/-- Grants that are for the same time, of tokens that can be sent alike. -/
structure TokenGrant.Alike (grant grant' : TokenGrant) : Prop where
  secret : Http.Interchangeable grant.secret grant'.secret
  lifetime : grant.lifetime = grant'.lifetime

/-- Sessions that differ in nothing but the secret of the token and the world
outside. -/
structure Session.Alike (R : σ → τ → Prop) (session : Session σ) (session' : Session τ) :
    Prop where
  outside : R session.outside session'.outside
  elapsed : session.elapsed = session'.elapsed
  token : Option.Rel Token.Alike session.token session'.token
  notes : session.notes = session'.notes

/-- Answers to a request for a token that differ in nothing but the token. -/
structure GrantsAlike (response response' : Http.Response) : Prop where
  status : response.status = response'.status
  /-- What is said instead of a token is the same. -/
  refused : response.status.isSuccess = false → errorText response = errorText response'
  granted : response.status.isSuccess = true →
    Option.Rel TokenGrant.Alike (response.body.read? TokenGrant.codec.decode)
      (response'.body.read? TokenGrant.codec.decode)

/-- Answers to a request with a method are the same, unless a token is asked for. Nothing
else is asked for by `post`. -/
def AnswersAlike (method : Http.Method) (response response' : Http.Response) : Prop :=
  if method = .post then GrantsAlike response response' else response = response'

/-- Worlds in which the time is the same, and in which requests that differ only in
secrets are answered alike. -/
structure World.Alike (R : σ → τ → Prop) (world : World σ) (world' : World τ) : Prop where
  clock {state : σ} {state' : τ} (states : R state state') :
    (world.clock state).1 = (world'.clock state').1 ∧
      R (world.clock state).2 (world'.clock state').2
  exchange {method : Http.Method} {request request' : Http.Request} {state : σ} {state' : τ}
    (same : request.SameBlinded method request') (states : R state state') :
    Option.Rel (AnswersAlike method) (world.exchange request state).1.1
        (world'.exchange request' state').1.1 ∧
      (world.exchange request state).1.2 = (world'.exchange request' state').1.2 ∧
      R (world.exchange request state).2 (world'.exchange request' state').2

/-! ## Actions in step -/

/-- In alike sessions, one action comes to the same end as another one, and the
sessions that they leave are alike. -/
def InStep (R : σ → τ → Prop) (V : α → β → Prop) (act : ExceptT ε (StateM (Session σ)) α)
    (act' : ExceptT ε (StateM (Session τ)) β) : Prop :=
  ∀ ⦃session : Session σ⦄ ⦃session' : Session τ⦄, session.Alike R session' →
    Ends V (act session).1 (act' session').1 ∧ (act session).2.Alike R (act' session').2

section

variable {R : σ → τ → Prop} {V : α → β → Prop} {W : γ → δ → Prop}
  {act : ExceptT ε (StateM (Session σ)) α} {act' : ExceptT ε (StateM (Session τ)) β}

theorem InStep.pure {value : α} {value' : β} (related : V value value') :
    InStep R V (pure value : ExceptT ε (StateM (Session σ)) α)
      (pure value' : ExceptT ε (StateM (Session τ)) β) :=
  fun _ _ sessions => ⟨.ok related, sessions⟩

theorem InStep.throw (failure : ε) :
    InStep R V (throw failure : ExceptT ε (StateM (Session σ)) α)
      (throw failure : ExceptT ε (StateM (Session τ)) β) :=
  fun _ _ sessions => ⟨.error failure, sessions⟩

theorem InStep.get :
    InStep R (Session.Alike R) (get : ExceptT ε (StateM (Session σ)) (Session σ))
      (get : ExceptT ε (StateM (Session τ)) (Session τ)) :=
  fun _ _ sessions => ⟨.ok sessions, sessions⟩

theorem InStep.modify {f : Session σ → Session σ} {f' : Session τ → Session τ}
    (keeps : ∀ {session session'}, Session.Alike R session session' →
      (f session).Alike R (f' session')) :
    InStep R Eq (modify f : ExceptT ε (StateM (Session σ)) PUnit)
      (modify f' : ExceptT ε (StateM (Session τ)) PUnit) :=
  fun _ _ sessions => ⟨.ok rfl, keeps sessions⟩

/-- Actions that go on in step after actions in step. -/
theorem InStep.bind {next : α → ExceptT ε (StateM (Session σ)) γ}
    {next' : β → ExceptT ε (StateM (Session τ)) δ} (first : InStep R V act act')
    (rest : ∀ {value value'}, V value value' → InStep R W (next value) (next' value')) :
    InStep R W (act >>= next) (act' >>= next') := by
  intro session session' sessions
  obtain ⟨ends, left⟩ := first sessions
  simp only [Bind.bind, ExceptT.bind, ExceptT.mk, StateT.bind, ExceptT.bindCont]
  generalize act session = result at ends left
  generalize act' session' = result' at ends left
  obtain ⟨outcome, after⟩ := result
  obtain ⟨outcome', after'⟩ := result'
  cases ends with
  | ok related => exact rest related left
  | error failure => exact ⟨.error failure, left⟩

/-- Actions that go on with the same value. -/
theorem InStep.bind_same {act' : ExceptT ε (StateM (Session τ)) α}
    {next : α → ExceptT ε (StateM (Session σ)) γ} {next' : α → ExceptT ε (StateM (Session τ)) δ}
    (first : InStep R Eq act act') (rest : ∀ value, InStep R W (next value) (next' value)) :
    InStep R W (act >>= next) (act' >>= next') :=
  first.bind fun {value _} same => same ▸ rest value

/-! ### What actions are made of -/

theorem Session.Alike.noted {session : Session σ} {session' : Session τ}
    (sessions : session.Alike R session') (note : Note) :
    Session.Alike R { session with notes := session.notes ++ [note] }
      { session' with notes := session'.notes ++ [note] } :=
  { sessions with notes := congrArg (· ++ [note]) sessions.notes }

/-- Time passes in both sessions. -/
theorem Session.Alike.passed {session : Session σ} {session' : Session τ}
    (sessions : session.Alike R session') (nanos : Nat) :
    Session.Alike R { session with elapsed := ⟨session.elapsed.nanos + nanos⟩ }
      { session' with elapsed := ⟨session'.elapsed.nanos + nanos⟩ } :=
  { sessions with elapsed := by rw [sessions.elapsed] }

theorem inStep_fail (failure : Failure) :
    InStep R V (Act.fail failure) (Act.fail failure) := .throw _

theorem inStep_log (entry : LogEntry) : InStep R Eq (Act.log entry) (Act.log entry) :=
  .modify fun sessions => sessions.noted _

theorem inStep_takeNote (note : Note) : InStep R Eq (Run.takeNote note) (Run.takeNote note) :=
  .modify fun sessions => sessions.noted _

theorem inStep_hold (limit : Option Limit) : InStep R Eq (Act.hold limit) (Act.hold limit) := by
  cases limit with
  | none => exact .pure rfl
  | some limit =>
      refine InStep.get.bind fun sessions => ?_
      rw [sessions.elapsed]
      split
      · exact inStep_fail _
      · exact .pure rfl

theorem inStep_sleep (limit : Limit) (span : Span) :
    InStep R Eq (Act.sleep limit span) (Act.sleep limit span) := by
  refine (InStep.modify fun sessions => sessions.passed _).bind_same fun _ => ?_
  refine InStep.get.bind fun sessions => ?_
  rw [sessions.elapsed]
  split
  · exact inStep_fail _
  · exact .pure rfl

/-- An action that is attempted is in step with another one that is. -/
theorem InStep.attempt {act : Act σ α} {act' : Act τ α} (inStep : InStep R Eq act act') :
    InStep R Eq act.attempt act'.attempt := by
  intro session session' sessions
  obtain ⟨ends, left⟩ := inStep sessions
  simp only [Act.attempt, ExceptT.mk, ExceptT.run, Bind.bind, StateT.bind]
  generalize act session = result at ends left
  generalize act' session' = result' at ends left
  obtain ⟨outcome, after⟩ := result
  obtain ⟨outcome', after'⟩ := result'
  cases ends with
  | ok same => exact ⟨.ok (congrArg Except.ok same), left⟩
  | error stop =>
      cases stop with
      | failure failure => exact ⟨.ok rfl, left⟩
      | crash => exact ⟨.error Crash.crash, left⟩

/-! ### The world outside -/

variable {world : World σ} {world' : World τ} (worlds : world.Alike R world')

include worlds

theorem inStep_now : InStep R Eq (Act.now world) (Act.now world') := by
  intro session session' sessions
  obtain ⟨same, states⟩ := worlds.clock sessions.outside
  exact ⟨.ok same, { sessions with outside := states }⟩

theorem inStep_deliver (limit : Option Limit) {method : Http.Method}
    {request request' : Http.Request} (same : request.SameBlinded method request') :
    InStep R (Option.Rel (AnswersAlike method)) (Act.deliver world limit request)
      (Act.deliver world' limit request') := by
  intro session session' sessions
  obtain ⟨answers, spans, states⟩ := worlds.exchange same sessions.outside
  have exchanged : (session.exchanged world request).Alike R (session'.exchanged world' request') :=
    { sessions with
      outside := states
      elapsed := by simp only [Session.exchanged, sessions.elapsed, spans] }
  exact (inStep_hold limit).bind_same (fun _ => .pure answers) exchanged

theorem inStep_send (limit : Option Limit) {method : Http.Method}
    {request request' : Except Http.Fault Http.Request}
    (requests : Ends (Http.Request.SameBlinded method) request request') :
    InStep R (Ends (AnswersAlike method)) (Act.send world limit request)
      (Act.send world' limit request') := by
  cases requests with
  | error fault => exact .pure (.error fault)
  | ok same =>
      refine (inStep_deliver worlds limit same).bind fun answers => ?_
      cases answers with
      | some alike => exact .pure (.ok alike)
      | none =>
          rw [same.url_eq]
          exact .pure (.error _)

end

end Azure

end ClusterPorts
