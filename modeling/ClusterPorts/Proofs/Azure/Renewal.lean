import ClusterPorts.Proofs.Azure.Inquiries
import ClusterPorts.Proofs.Provision.Conduct
import Mathlib.Logic.Relation

/-!
# Tokens in the course of a run

A client that was not given an access token asks for one whenever the one that it
keeps is not fresh. What goes over the wire in a run then depends on the clock, and
what a request carries depends on what was granted. `TokenSource.Fares` lists what the
calls for tokens of a run may come to: a token, old or new, or the failure or breakdown
that asking for one comes to. `TokenSource.Called` is what one call leaves: the world
outside has only been asked for the time and for tokens.

The calls are `TokenSource.Uniform` if all of them come to tokens that can be sent, or all
to tokens that cannot, or all to one and the same stop.
-/

namespace ClusterPorts.Azure

variable {σ : Type}

/-! ## Steps of the world outside -/

/-- The clock is looked at, or a request of a kind is answered. -/
inductive World.Step (world : World σ) (kind : Http.Request → Prop) : σ → σ → Prop
  | looked (state : σ) : Step world kind state (world.clock state).2
  | exchanged {request : Http.Request} (isKind : kind request) (state : σ) :
      Step world kind state (world.exchange request state).2

/-- Any number of such steps. -/
def World.Passes (world : World σ) (kind : Http.Request → Prop) : σ → σ → Prop :=
  Relation.ReflTransGen (world.Step kind)

namespace World.Passes

variable {world : World σ} {kind other : Http.Request → Prop}

theorem trans {state middle next : σ} (first : world.Passes kind state middle)
    (second : world.Passes kind middle next) : world.Passes kind state next :=
  Relation.ReflTransGen.trans first second

theorem mono {state next : σ} (imp : ∀ request, kind request → other request)
    (passes : world.Passes kind state next) : world.Passes other state next := by
  refine Relation.ReflTransGen.mono (fun _ _ step => ?_) _ _ passes
  cases step with
  | looked => exact .looked _
  | exchanged isKind => exact .exchanged (imp _ isKind) _

/-- A request that can be sent is one step. -/
theorem of_past {request : Except Http.Fault Http.Request}
    (isKind : ∀ sent, request = .ok sent → kind sent) (state : σ) :
    world.Passes kind state (world.past request state) := by
  cases request with
  | error fault => exact .refl
  | ok sent => exact .single (.exchanged (isKind sent rfl) state)

/-- Documents stay that neither the clock nor requests of the kind change. -/
theorem documents {documents : σ → Table Json} {state next : σ}
    (clock : ∀ state, documents (world.clock state).2 = documents state)
    (keeps : ∀ {request}, kind request → ∀ state,
      documents (world.exchange request state).2 = documents state)
    (passes : world.Passes kind state next) : documents next = documents state := by
  induction passes with
  | refl => rfl
  | tail _ step ih =>
      cases step with
      | looked => rw [clock, ih]
      | exchanged isKind => rw [keeps isKind, ih]

/-- What has been exchanged is of the kind. -/
theorem calls {state next : σ × List Call} (passes : world.watched.Passes kind state next) :
    ∃ calls, next.2 = state.2 ++ calls ∧ ∀ call ∈ calls, kind call.1 := by
  induction passes with
  | refl => exact ⟨[], (List.append_nil _).symm, List.forall_mem_nil _⟩
  | @tail middle _ _ step ih =>
      obtain ⟨calls, traced, kinds⟩ := ih
      cases step with
      | looked => exact ⟨calls, traced, kinds⟩
      | @exchanged request isKind =>
          refine ⟨calls ++ [(request, (world.exchange request middle.1).1.1)], ?_, ?_⟩
          · rw [← List.append_assoc, ← traced]
            rfl
          · exact List.forall_mem_append.mpr ⟨kinds, List.forall_mem_singleton.mpr isKind⟩

end World.Passes

/-- Nothing is said but log entries that are quiet. -/
def Session.Whispers (session after : Session σ) : Prop :=
  ∃ entries : List LogEntry, after.notes = session.notes ++ entries.map .log ∧
    ∀ entry ∈ entries, Quiet (.log entry)

namespace Session.Whispers

variable {session middle after : Session σ}

theorem of_notes_eq (same : after.notes = session.notes) : session.Whispers after :=
  ⟨[], by simp [same], List.forall_mem_nil _⟩

theorem of_entry {entry : LogEntry} (said : after.notes = session.notes ++ [.log entry])
    (quiet : Quiet (.log entry)) : session.Whispers after :=
  ⟨[entry], said, List.forall_mem_singleton.mpr quiet⟩

theorem trans (first : session.Whispers middle) (second : middle.Whispers after) :
    session.Whispers after := by
  obtain ⟨entries, said, quiet⟩ := first
  obtain ⟨more, said', quiet'⟩ := second
  refine ⟨entries ++ more, ?_, List.forall_mem_append.mpr ⟨quiet, quiet'⟩⟩
  rw [said', said, List.map_append, List.append_assoc]

end Session.Whispers

/-! ## Asking for a token -/

/-- What asking for a token comes to. -/
def renewal (world : World σ) (clientId : String) (request : Except Http.Fault Http.Request)
    (outside : σ) : Except Stop Token :=
  match verdict clientId (world.replyTo request outside) with
  | .error failure => .error (.failure failure)
  | .ok grant =>
      match (world.clock (world.past request outside)).1.after? grant.lifetime with
      | some expires => .ok ⟨grant.secret, expires⟩
      | none => .error .crash

/-- The clock is looked at only for the end of a token that was granted. Only such a
token takes the place of the one that was kept. -/
structure Session.Renewed (session : Session σ) (world : World σ)
    (request : Except Http.Fault Http.Request) (granted : Except Stop Token)
    (after : Session σ) : Prop where
  outside : after.outside = world.past request session.outside ∨
    after.outside = (world.clock (world.past request session.outside)).2
  token : after.token = granted.toOption.or session.token
  elapsed : after.elapsed = (session.sent world request).elapsed
  notes : session.Whispers after

/-- No token is kept that is fresh whatever the clock says. -/
def World.Expires (world : World σ) (kept : Option Token) : Prop :=
  ∀ token, kept = some token → ∃ outside, token.isFresh (world.clock outside).1 = false

namespace TokenSource

section

variable {world : World σ} {request : Except Http.Fault Http.Request} {session : Session σ}
  {limit : Option Limit}

theorem quiet_requesting (clientId : String) :
    Quiet (.log (.debug ("Requesting Azure AD token for client " ++ clientId))) :=
  quiet_of_isWorded (Text.IsWorded.append ⟨'R', rfl, by decide⟩ clientId)

theorem quiet_valid (expires : String) :
    Quiet (.log (.debug ("Azure AD token valid until " ++ expires))) :=
  quiet_of_isWorded (Text.IsWorded.append ⟨'A', rfl, by decide⟩ expires)

/-- Asking for a token in time. -/
theorem exec_renew (clientId : String) (inTime : (session.sent world request).InTime limit) :
    ∃ after, (renew world limit clientId request).exec session =
        ((renewal world clientId request session.outside).map (·.secret), after) ∧
      session.Renewed world request (renewal world clientId request session.outside) after := by
  let begun : Session σ :=
    session.noted [.debug ("Requesting Azure AD token for client " ++ clientId)]
  have elapsed : (begun.sent world request).elapsed = (session.sent world request).elapsed := by
    cases request <;> rfl
  have inTime : (begun.sent world request).InTime limit := by
    rwa [Session.InTime, elapsed]
  have requested : session.Whispers (begun.sent world request) :=
    .of_entry (by rw [Session.sent_notes]; rfl) (quiet_requesting clientId)
  have said : (Act.log (.debug ("Requesting Azure AD token for client " ++ clientId))).exec
    session = (.ok (), begun) := rfl
  have sends : (Act.send world limit request).exec begun =
    (.ok (world.replyTo request session.outside), begun.sent world request) :=
      Act.exec_send_inTime inTime
  have outside : (begun.sent world request).outside = world.past request session.outside :=
    Session.sent_outside
  have token : (begun.sent world request).token = session.token := Session.sent_token
  have looked : (world.clock (begun.sent world request).outside).2 =
      (world.clock (world.past request session.outside)).2 := by
    rw [outside]
  rw [renewal]
  cases judged : verdict clientId (world.replyTo request session.outside) with
  | error failure =>
      have runs : (renew world limit clientId request).exec session =
          (.error (.failure failure), begun.sent world request) := by
        simp only [renew_eq, Act.exec_bind, said, sends, judged, Act.exec_fail]
      exact ⟨_, runs, .inl outside, token, elapsed, requested⟩
  | ok grant =>
      have runs : (renew world limit clientId request).exec session =
          (keep world grant).exec (begun.sent world request) := by
        simp only [renew_eq, Act.exec_bind, said, sends, judged]
      simp only [runs, ← outside]
      cases ends : (world.clock (begun.sent world request).outside).1.after? grant.lifetime with
      | none => exact ⟨_, exec_keep_none ends, .inr looked, token, elapsed, requested⟩
      | some expires =>
          exact ⟨_, exec_keep_some ends, .inr looked, rfl, elapsed,
            requested.trans (.of_entry rfl (quiet_valid expires.text))⟩

end

/-! ## Calling for tokens -/

/-- Who asks for tokens, and with which request. Nobody does who was given one. -/
def asks (source : TokenSource) : Option (String × Except Http.Fault Http.Request) :=
  match source.credential with
  | .accessToken _ => none
  | .clientSecret tenantId clientId secret authorityHost =>
      some (clientId, request source.scope tenantId clientId secret authorityHost)

/-- The request is one for a token, in a run before which a token was kept, or none. A token
that never expires is not asked for. -/
def Requests (source : TokenSource) (world : World σ) (kept : Option Token)
    (sent : Http.Request) : Prop :=
  world.Expires kept ∧ ∃ clientId, source.asks = some (clientId, .ok sent)

/-- Asking for a token in such a run may come to this. -/
def Renews (source : TokenSource) (world : World σ) (kept : Option Token)
    (granted : Except Stop Token) : Prop :=
  world.Expires kept ∧ ∃ clientId request outside, source.asks = some (clientId, request) ∧
    renewal world clientId request outside = granted

/-- What the calls for tokens of such a run may come to, in whatever state the world outside
is. -/
inductive Fares (source : TokenSource) (world : World σ) (kept : Option Token) :
    Except Stop String → Prop
  | given {secret : String} (own : source.credential = .accessToken secret) :
      Fares source world kept (.ok secret)
  | reused {token : Token} {outside : σ} (asks : source.asks.isSome) (has : kept = some token)
      (fresh : token.isFresh (world.clock outside).1) : Fares source world kept (.ok token.secret)
  | asked {granted : Except Stop Token} (renews : source.Renews world kept granted) :
      Fares source world kept (granted.map (·.secret))

/-- A token that may be kept in the course of such a run. -/
def Keeps (source : TokenSource) (world : World σ) (kept token : Option Token) : Prop :=
  token = kept ∨ ∃ granted, token = some granted ∧ source.Renews world kept (.ok granted)

end TokenSource

/-- What matters of a call for a token: whether it comes to one that can be sent in a
header, or to what else it comes. -/
def usability (called : Except Stop String) : Except Stop Bool :=
  called.map fun secret => Http.isHeaderValue ("Bearer " ++ secret)

namespace TokenSource

/-- It does not matter which of the calls for tokens of a run is made. -/
def Uniform (source : TokenSource) (world : World σ) (kept : Option Token) : Prop :=
  ∀ {first second : Except Stop String}, source.Fares world kept first →
    source.Fares world kept second → usability first = usability second

/-- Neither time nor asking for a token changes a document, and a token is answered in
less than a number of nanoseconds. -/
structure Steady (source : TokenSource) (world : World σ) (kept : Option Token)
    (documents : σ → Table Json) (wait : Nat) : Prop where
  clock : ∀ state, documents (world.clock state).2 = documents state
  keeps : ∀ {sent}, source.Requests world kept sent → ∀ state,
    documents (world.exchange sent state).2 = documents state
  prompt : ∀ {sent}, source.Requests world kept sent → ∀ state,
    (world.exchange sent state).1.2.nanos < wait

/-- What a call for a token leaves. -/
structure Called (source : TokenSource) (world : World σ) (kept : Option Token) (wait : Nat)
    (session after : Session σ) : Prop where
  outside : world.Passes (source.Requests world kept) session.outside after.outside
  token : source.Keeps world kept after.token
  later : session.elapsed.nanos ≤ after.elapsed.nanos
  quick : after.elapsed.nanos ≤ session.elapsed.nanos + wait
  notes : session.Whispers after

variable {source : TokenSource} {world : World σ} {documents : σ → Table Json}
  {kept : Option Token} {wait : Nat} {session : Session σ} {limit : Option Limit}

theorem method_of_requests {sent : Http.Request} (requests : source.Requests world kept sent) :
    sent.method = .post := by
  obtain ⟨-, clientId, asks⟩ := requests
  unfold TokenSource.asks request Http.Request.to at asks
  grind

theorem asks_eq_none {secret : String} (own : source.credential = .accessToken secret) :
    source.asks = none := by
  rw [asks, own]

/-- Who was given a token uses that. -/
theorem eq_of_fares {secret : String} (own : source.credential = .accessToken secret)
    {called : Except Stop String} (fares : source.Fares world kept called) :
    called = .ok secret := by
  have silent := asks_eq_none own
  cases fares with
  | given own' =>
      rw [own] at own'
      rw [Credential.accessToken.inj own']
  | reused asks =>
      rw [silent] at asks
      cases asks
  | asked renews =>
      obtain ⟨-, clientId, request, outside, asks, -⟩ := renews
      cases silent.symm.trans asks

theorem Uniform.of_given {secret : String} (own : source.credential = .accessToken secret) :
    source.Uniform world kept := fun first second => by
  rw [eq_of_fares own first, eq_of_fares own second]

theorem Steady.of_given {secret : String} (own : source.credential = .accessToken secret)
    (clock : ∀ state, documents (world.clock state).2 = documents state) :
    source.Steady world kept documents wait where
  clock := clock
  keeps := fun ⟨_, _, asks⟩ => nomatch (asks_eq_none own).symm.trans asks
  prompt := fun ⟨_, _, asks⟩ => nomatch (asks_eq_none own).symm.trans asks

theorem Called.documents_eq {after : Session σ} (steady : source.Steady world kept documents wait)
    (called : source.Called world kept wait session after) :
    documents after.outside = documents session.outside :=
  called.outside.documents steady.clock steady.keeps

/-- Asking for a token takes no longer than it may. -/
theorem Steady.elapsed_sent (steady : source.Steady world kept documents wait)
    (expires : world.Expires kept) {clientId : String}
    {request : Except Http.Fault Http.Request} (asks : source.asks = some (clientId, request))
    (session : Session σ) :
    session.elapsed.nanos ≤ (session.sent world request).elapsed.nanos ∧
      (session.sent world request).elapsed.nanos ≤ session.elapsed.nanos + wait := by
  cases request with
  | error fault => exact ⟨Nat.le_refl _, Nat.le_add_right _ _⟩
  | ok sent =>
      obtain ⟨later, quick⟩ := session.elapsed_exchanged (steady.prompt ⟨expires, clientId, asks⟩ _)
      exact ⟨Nat.le_of_lt later, quick⟩

/-- A token is only asked for where none is kept that never expires. -/
theorem Keeps.expires {looked : Session σ} (keeps : source.Keeps world kept session.token)
    (lacks : session.Lacks world looked) : world.Expires kept := by
  obtain same | ⟨granted, -, renews⟩ := keeps
  · intro token has
    cases lacks with
    | missing missing => cases (missing.symm.trans same).trans has
    | stale kept_eq stale =>
        obtain rfl := Option.some.inj ((kept_eq.symm.trans same).trans has)
        exact ⟨session.outside, stale⟩
  · exact renews.1

/-- Where no token can be used, asking for one in time. -/
theorem exec_renew_called {clientId : String} {request : Except Http.Fault Http.Request}
    {looked : Session σ} (steady : source.Steady world kept documents wait)
    (asks : source.asks = some (clientId, request)) (keeps : source.Keeps world kept session.token)
    (lacks : session.Lacks world looked)
    (inTime : ∀ bound ∈ limit, session.elapsed.nanos + wait ≤ bound.deadline.nanos) :
    ∃ called after, (renew world limit clientId request).exec looked = (called, after) ∧
      source.Fares world kept called ∧ source.Called world kept wait session after := by
  have expires := keeps.expires lacks
  obtain ⟨later, quick⟩ := steady.elapsed_sent expires asks looked
  rw [lacks.elapsed] at later quick
  obtain ⟨after, runs, renewed⟩ := exec_renew clientId
    fun bound limited => Nat.le_trans quick (inTime bound limited)
  have start : world.Passes (source.Requests world kept) session.outside looked.outside := by
    cases lacks with
    | missing => exact .refl
    | stale => exact .single (.looked _)
  have sends : world.Passes (source.Requests world kept) looked.outside
      (world.past request looked.outside) :=
    .of_past (fun sent leads => ⟨expires, clientId, leads ▸ asks⟩) looked.outside
  refine ⟨_, after, runs, .asked ⟨expires, _, _, _, asks, rfl⟩, ?_, ?_, ?_, ?_, ?_⟩
  · obtain same | same := renewed.outside
    · rw [same]
      exact start.trans sends
    · rw [same]
      exact start.trans (sends.trans (.single (.looked _)))
  · rw [renewed.token, lacks.token]
    cases granted : renewal world clientId request looked.outside with
    | error stop => exact keeps
    | ok token => exact .inr ⟨token, rfl, expires, _, _, _, asks, granted⟩
  · rwa [renewed.elapsed]
  · rwa [renewed.elapsed]
  · exact (Session.Whispers.of_notes_eq lacks.notes).trans renewed.notes

/-- A call for a token in time. -/
theorem exec_token_called (steady : source.Steady world kept documents wait)
    (keeps : source.Keeps world kept session.token)
    (inTime : ∀ bound ∈ limit, session.elapsed.nanos + wait ≤ bound.deadline.nanos) :
    ∃ called after, (source.token world limit).exec session = (called, after) ∧
      source.Fares world kept called ∧ source.Called world kept wait session after := by
  cases own : source.credential with
  | accessToken secret =>
      refine ⟨.ok secret, session, ?_, .given own, ?_⟩
      · rw [token, own]
        rfl
      · exact ⟨.refl, keeps, Nat.le_refl _, Nat.le_add_right _ _, .of_notes_eq rfl⟩
  | clientSecret tenantId clientId secret authorityHost =>
      have asks : source.asks =
          some (clientId, request source.scope tenantId clientId secret authorityHost) := by
        rw [TokenSource.asks, own]
      obtain ⟨held, has, fresh, uses⟩ | ⟨looked, lacks, renews⟩ :=
        exec_token_cases own world session limit
      · refine ⟨_, _, uses, ?_, .single (.looked _), keeps, Nat.le_refl _, Nat.le_add_right _ _,
          .of_notes_eq rfl⟩
        obtain same | ⟨granted, same, renews⟩ := keeps
        · exact .reused (by rw [asks]; rfl) (same.symm.trans has) fresh
        · obtain rfl := Option.some.inj (has.symm.trans same)
          exact .asked renews
      · rw [renews]
        exact exec_renew_called steady asks keeps lacks inTime

/-- A call for a token without a limit. -/
theorem exec_token_unlimited (steady : source.Steady world kept documents wait)
    (keeps : source.Keeps world kept session.token) :
    ∃ called after, (source.token world none).exec session = (called, after) ∧
      source.Fares world kept called ∧ source.Called world kept wait session after :=
  exec_token_called steady keeps nofun

end TokenSource

end ClusterPorts.Azure
