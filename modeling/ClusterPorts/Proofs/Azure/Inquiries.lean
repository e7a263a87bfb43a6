import ClusterPorts.Proofs.Azure.Execution

/-!
# Keeping a token

A source of tokens is asked again and again, and keeps the token that it was granted
last. The clock on the wall may say anything at any time, and the server may answer
anything. An inquiry is one call in such a run: the token that was kept before it, what
it had to do with the world outside, what it came to, and the token that it left. It is
read off the call in a world in which everything is written down, which changes nothing
(`TokenSource.exec_token_eq_inquire`).

Each inquiry has one of four endings (`TokenSource.ending_inquire`). Over a whole run
the token that is kept is the one that was fetched last (`TokenSource.exists_session`),
so what an inquiry does is told from the inquiries before it and from what it sees.
-/

namespace ClusterPorts.Azure

variable {σ α β : Type}

/-! ## What passes between a session and the world outside -/

/-- One dealing with the world outside. -/
inductive Contact where
  | looked (now : Moment)
  | exchanged (call : Call)

/-- The exchange that a dealing is. -/
def Contact.call? : Contact → Option Call
  | .looked _ => none
  | .exchanged call => some call

theorem Contact.filterMap_exchanged (calls : List Call) :
    (calls.map Contact.exchanged).filterMap Contact.call? = calls := by
  rw [List.filterMap_map]
  exact List.filterMap_some

/-- A world in which the dealings with it are written down. -/
def World.recorded (world : World σ) : World (σ × List Contact) where
  exchange request state :=
    let (answer, outside) := world.exchange request state.1
    (answer, outside, state.2 ++ [.exchanged (request, answer.1)])
  clock state :=
    let (now, outside) := world.clock state.1
    (now, outside, state.2 ++ [.looked now])

/-- What is looked at is written down. -/
theorem World.recorded_clock (world : World σ) (state : σ × List Contact) :
    (world.recorded.clock state).2.2 = state.2 ++ [.looked (world.recorded.clock state).1] := rfl

/-- A session without what is written down in it. -/
def Session.unrecorded (session : Session (σ × List Contact)) : Session σ :=
  { session with outside := session.outside.1 }

/-- One call for a token. -/
structure Inquiry where
  /-- The token that was kept before. -/
  kept : Option Token
  contacts : List Contact
  outcome : Except Stop String
  /-- The token that is kept after it. -/
  left : Option Token

/-- What is done in a session, as an inquiry. -/
def Inquiry.of (act : Act (σ × List Contact) String) (session : Session (σ × List Contact)) :
    Inquiry where
  kept := session.token
  contacts := (act.exec session).2.outside.2
  outcome := (act.exec session).1
  left := (act.exec session).2.token

namespace TokenSource

/-- Ask for a token. -/
def inquire (source : TokenSource) (world : World σ) (session : Session σ) : Inquiry × Session σ :=
  let act := source.token world.recorded none
  let start := { session with outside := (session.outside, []) }
  (.of act start, (act.exec start).2.unrecorded)

/-- Ask for a token a number of times. -/
def inquiries (source : TokenSource) (world : World σ) : Nat → Session σ → List Inquiry
  | 0, _ => []
  | n + 1, session =>
    (source.inquire world session).1 :: source.inquiries world n (source.inquire world session).2

end TokenSource

/-! ## What is read off an inquiry -/

/-- What an answer grants. -/
def granted? (response : Http.Response) : Option TokenGrant :=
  if response.status.isSuccess then response.body.read? TokenGrant.codec.decode else none

/-- What is said of an answer that grants nothing. -/
def refusal (clientId : String) (response : Http.Response) : String :=
  if response.status.isSuccess then "Failed to parse token response: " ++ unreadable
  else "Azure AD rejected client " ++ clientId ++ ": " ++ response.status.text ++ " - "
    ++ errorText response

/-- What comes of asking for a token: a grant, or a failure because the request did not
get through, was rejected, or was answered with something else. -/
def verdict (clientId : String) : Except Http.Fault Http.Response → Except Failure TokenGrant
  | .error fault => .error (.http ("Token request failed: " ++ fault.message))
  | .ok response =>
    match granted? response with
    | some grant => .ok grant
    | none => .error (.authentication (refusal clientId response))

theorem verdict_eq_ok {clientId : String} {reply : Except Http.Fault Http.Response}
    {grant : TokenGrant} :
    verdict clientId reply = .ok grant ↔
      ∃ response, reply = .ok response ∧ granted? response = some grant := by
  cases reply with
  | error fault => simp [verdict]
  | ok response => cases granted : granted? response <;> simp [verdict, granted]

/-- What is known of the answer to a request after the exchanges that were made for it. -/
inductive Reply :
    Except Http.Fault Http.Request → List Call → Except Http.Fault Http.Response → Prop
  | unsent (fault : Http.Fault) : Reply (.error fault) [] (.error fault)
  | unanswered (request : Http.Request) :
      Reply (.ok request) [(request, none)] (.error (.unanswered request.url.text))
  | answered (request : Http.Request) (response : Http.Response) :
      Reply (.ok request) [(request, some response)] (.ok response)

namespace Inquiry

/-- The exchanges of an inquiry. -/
def calls (inquiry : Inquiry) : List Call := inquiry.contacts.filterMap Contact.call?

/-- What the clock said when the token that is kept was looked at. -/
def looked? (inquiry : Inquiry) : Option Moment :=
  match inquiry.contacts.head? with
  | some (.looked now) => some now
  | _ => none

/-- What the clock said last. -/
def lastLooked? (inquiry : Inquiry) : Option Moment :=
  match inquiry.contacts.getLast? with
  | some (.looked now) => some now
  | _ => none

/-- No token is kept that will be valid for longer than the margin. -/
def Due (inquiry : Inquiry) : Prop :=
  ∀ token ∈ inquiry.kept, ∃ now ∈ inquiry.looked?,
    token.expires.nanos - now.nanos ≤ Token.margin.nanos

/-- The token that an inquiry has fetched. -/
def fetched (inquiry : Inquiry) : Option Token := do
  let (_, answer) ← inquiry.calls.head?
  let grant ← granted? (← answer)
  let expires ← (← inquiry.lastLooked?).after? grant.lifetime
  return ⟨grant.secret, expires⟩

end Inquiry

/-- The token that was fetched last. -/
def lastFetched (inquiries : List Inquiry) : Option Token :=
  (inquiries.filterMap Inquiry.fetched).getLast?

theorem lastFetched_cons (inquiry : Inquiry) (rest : List Inquiry) :
    lastFetched (inquiry :: rest) = (lastFetched rest).or inquiry.fetched := by
  unfold lastFetched
  cases fetched : inquiry.fetched with
  | none => rw [List.filterMap_cons_none fetched, Option.or_none]
  | some token =>
      rw [List.filterMap_cons_some fetched, List.getLast?_cons]
      cases (rest.filterMap Inquiry.fetched).getLast? <;> rfl

/-! ## One inquiry -/

/-- No token is kept that can be used, as far as was looked. -/
inductive Lacking : Option Token → List Contact → Prop
  | missing : Lacking none []
  | stale {token : Token} {now : Moment}
      (stale : token.expires.nanos - now.nanos ≤ Token.margin.nanos) :
      Lacking (some token) [.looked now]

/-- How a client with a secret may fare when it asks for a token. -/
inductive Inquiry.Ending (clientId : String) (request : Except Http.Fault Http.Request) :
    Inquiry → Prop
  | reused {token : Token} {now : Moment}
      (fresh : (Token.margin.nanos : Int) < token.expires.nanos - now.nanos) :
      Ending clientId request ⟨some token, [.looked now], .ok token.secret, some token⟩
  | refused {kept : Option Token} {looks : List Contact} {calls : List Call}
      {reply : Except Http.Fault Http.Response} {failure : Failure} (lacking : Lacking kept looks)
      (replied : Reply request calls reply) (refused : verdict clientId reply = .error failure) :
      Ending clientId request
        ⟨kept, looks ++ calls.map .exchanged, .error (.failure failure), kept⟩
  | granted {kept : Option Token} {looks : List Contact} {sent : Http.Request}
      {response : Http.Response} {grant : TokenGrant} {now expires : Moment}
      (lacking : Lacking kept looks) (leads : request = .ok sent)
      (grants : granted? response = some grant)
      (valid : now.after? grant.lifetime = some expires) :
      Ending clientId request
        ⟨kept, looks ++ [.exchanged (sent, some response), .looked now], .ok grant.secret,
          some ⟨grant.secret, expires⟩⟩
  /-- The end of the token is beyond the calendar. -/
  | crashed {kept : Option Token} {looks : List Contact} {sent : Http.Request}
      {response : Http.Response} {grant : TokenGrant} {now : Moment}
      (lacking : Lacking kept looks) (leads : request = .ok sent)
      (grants : granted? response = some grant) (endless : now.after? grant.lifetime = none) :
      Ending clientId request
        ⟨kept, looks ++ [.exchanged (sent, some response), .looked now], .error .crash, kept⟩

/-- The session after a look at the clock. -/
def Session.ticked (session : Session σ) (world : World σ) : Session σ :=
  { session with outside := (world.clock session.outside).2 }

theorem Act.exec_now (world : World σ) (session : Session σ) :
    (now world).exec session = (.ok (world.clock session.outside).1, session.ticked world) := rfl

/-- There is no token that can be used, and this is the session in which that has been
found. -/
inductive Session.Lacks (session : Session σ) (world : World σ) : Session σ → Prop
  | missing (missing : session.token = none) : Lacks session world session
  | stale {kept : Token} (has : session.token = some kept)
      (stale : kept.isFresh (world.clock session.outside).1 = false) :
      Lacks session world (session.ticked world)

namespace Session.Lacks

variable {world : World σ} {session looked : Session σ}

theorem token (lacks : session.Lacks world looked) : looked.token = session.token := by
  cases lacks <;> rfl

theorem elapsed (lacks : session.Lacks world looked) : looked.elapsed = session.elapsed := by
  cases lacks <;> rfl

theorem notes (lacks : session.Lacks world looked) : looked.notes = session.notes := by
  cases lacks <;> rfl

end Session.Lacks

namespace TokenSource

section

variable {world : World σ} {session : Session σ}

theorem exec_cached_none (missing : session.token = none) :
    (cached world).exec session = (.ok none, session) := by
  obtain ⟨outside, elapsed, token, notes⟩ := session
  subst missing
  rfl

/-- A token that will soon have expired is not used. -/
theorem exec_cached_stale {kept : Token} (has : session.token = some kept)
    (stale : kept.isFresh (world.clock session.outside).1 = false) :
    (cached world).exec session =
      (.ok none, { session with outside := (world.clock session.outside).2 }) := by
  obtain ⟨outside, elapsed, token, notes⟩ := session
  subst has
  show (Except.ok (if kept.isFresh (world.clock outside).1 then some kept.secret else none), _) = _
  rw [stale]
  rfl

theorem renew_eq (world : World σ) (limit : Option Limit) (clientId : String)
    (request : Except Http.Fault Http.Request) :
    renew world limit clientId request = (do
      Act.log (.debug ("Requesting Azure AD token for client " ++ clientId))
      let reply ← Act.send world limit request
      match verdict clientId reply with
      | .error failure => Act.fail failure
      | .ok grant => keep world grant) := by
  unfold renew
  congr 1
  funext _
  congr 1
  funext reply
  cases reply with
  | error fault => rfl
  | ok response =>
      cases success : response.status.isSuccess with
      | false => simp [verdict, granted?, refusal, success]
      | true =>
          cases body : response.body.read? TokenGrant.codec.decode with
          | none => simp [verdict, granted?, refusal, success, body]
          | some grant => simp [verdict, granted?, success, body]

variable {grant : TokenGrant} {expires : Moment}

theorem exec_keep_some
    (valid : (world.clock session.outside).1.after? grant.lifetime = some expires) :
    (keep world grant).exec session =
      (.ok grant.secret,
        { session with
          outside := (world.clock session.outside).2
          token := some ⟨grant.secret, expires⟩
          notes := session.notes ++
            [.log (.debug ("Azure AD token valid until " ++ expires.text))] }) := by
  rw [keep, Act.exec_bind, Act.exec_now]
  simp only [valid]
  rfl

theorem exec_keep_none
    (endless : (world.clock session.outside).1.after? grant.lifetime = none) :
    (keep world grant).exec session =
      (.error .crash, { session with outside := (world.clock session.outside).2 }) := by
  rw [keep, Act.exec_bind, Act.exec_now]
  simp only [endless]
  rfl

end

section

variable {world : World σ} {clientId : String} {request : Except Http.Fault Http.Request}

/-- A request changes nothing in a session but what is written down of it. -/
theorem exec_send_recorded (world : World σ) (request : Except Http.Fault Http.Request)
    (session : Session (σ × List Contact)) :
    ∃ calls reply after, Reply request calls reply ∧
      (Act.send world.recorded none request).exec session = (.ok reply, after) ∧
      after.token = session.token ∧
      after.outside.2 = session.outside.2 ++ calls.map .exchanged := by
  have sends : (Act.send world.recorded none request).exec session =
      (.ok (world.recorded.replyTo request session.outside), session.sent world.recorded request) :=
    Act.exec_send_inTime Session.inTime_none
  cases request with
  | error fault => exact ⟨[], _, _, .unsent fault, sends, rfl, (List.append_nil _).symm⟩
  | ok sent =>
      have written : (session.exchanged world.recorded sent).outside.2 = session.outside.2 ++
          [.exchanged (sent, (world.recorded.exchange sent session.outside).1.1)] := rfl
      rw [World.replyTo] at sends
      cases answer : (world.recorded.exchange sent session.outside).1.1 with
      | none =>
          rw [answer] at sends written
          exact ⟨_, _, _, .unanswered sent, sends, rfl, written⟩
      | some response =>
          rw [answer] at sends written
          exact ⟨_, _, _, .answered sent response, sends, rfl, written⟩

theorem ending_renew (session : Session (σ × List Contact))
    (lacking : Lacking session.token session.outside.2) :
    (Inquiry.of (renew world.recorded none clientId request) session).Ending clientId request := by
  obtain ⟨calls, reply, after, replied, sends, token_eq, written⟩ :=
    exec_send_recorded world request
      { session with notes := session.notes ++
          [.log (.debug ("Requesting Azure AD token for client " ++ clientId))] }
  have comes : (renew world.recorded none clientId request).exec session =
      (match verdict clientId reply with
      | .error failure => Act.fail failure
      | .ok grant => keep world.recorded grant : Act _ _).exec after := by
    rw [renew_eq, Act.exec_bind, Act.exec_log]
    simp only [Act.exec_bind, sends]
  rw [Inquiry.of, comes]
  cases judged : verdict clientId reply with
  | error failure =>
      simp only [Act.exec_fail, token_eq, written]
      exact .refused lacking replied judged
  | ok grant =>
      -- Only an answer grants something.
      obtain ⟨response, rfl, grants⟩ := verdict_eq_ok.mp judged
      cases replied with
      | answered sent =>
          have looked : (world.recorded.clock after.outside).2.2 = session.outside.2 ++
              [.exchanged (sent, some response),
                .looked (world.recorded.clock after.outside).1] := by
            rw [World.recorded_clock, written]
            exact List.append_assoc ..
          cases ends : (world.recorded.clock after.outside).1.after? grant.lifetime with
          | none =>
              simp only [exec_keep_none ends, token_eq, looked]
              exact .crashed lacking rfl grants ends
          | some expires =>
              simp only [exec_keep_some ends, looked]
              exact .granted lacking rfl grants ends

variable {source : TokenSource} {tenantId secret authorityHost : String}
  (own : source.credential = .clientSecret tenantId clientId secret authorityHost)

include own

/-- Whoever has a secret uses the token that is kept while it is fresh, and asks for one
otherwise. -/
theorem exec_token_cases (world : World σ) (session : Session σ) (limit : Option Limit) :
    (∃ kept, session.token = some kept ∧ kept.isFresh (world.clock session.outside).1 = true ∧
      (source.token world limit).exec session = (.ok kept.secret, session.ticked world)) ∨
    ∃ looked, session.Lacks world looked ∧
      (source.token world limit).exec session =
        (renew world limit clientId
          (TokenSource.request source.scope tenantId clientId secret authorityHost)).exec looked := by
  have asks {looked : Session σ} (looks : (cached world).exec session = (.ok none, looked)) :
      (source.token world limit).exec session =
        (renew world limit clientId
          (TokenSource.request source.scope tenantId clientId secret authorityHost)).exec looked := by
    rw [token, own]
    simp only [Act.exec_bind, looks]
  cases has : session.token with
  | none => exact .inr ⟨_, .missing has, asks (exec_cached_none has)⟩
  | some kept =>
      cases isFresh : kept.isFresh (world.clock session.outside).1 with
      | true =>
          refine .inl ⟨kept, rfl, isFresh, ?_⟩
          rw [token, own]
          simp only [Act.exec_bind, exec_cached has isFresh, Act.exec_pure]
          rfl
      | false => exact .inr ⟨_, .stale has isFresh, asks (exec_cached_stale has isFresh)⟩

theorem ending_token {session : Session (σ × List Contact)} (unseen : session.outside.2 = []) :
    (Inquiry.of (source.token world.recorded none) session).Ending clientId
      (TokenSource.request source.scope tenantId clientId secret authorityHost) := by
  have looked : (session.ticked world.recorded).outside.2 =
      [.looked (world.recorded.clock session.outside).1] := by
    show (world.recorded.clock session.outside).2.2 = _
    rw [World.recorded_clock, unseen]
    rfl
  obtain ⟨kept, has, isFresh, uses⟩ | ⟨_, lacks, asks⟩ :=
    exec_token_cases own world.recorded session none
  · have left : (session.ticked world.recorded).token = some kept := has
    rw [Inquiry.of, uses, has]
    simp only [looked, left]
    exact .reused (of_decide_eq_true isFresh)
  · rw [Inquiry.of, asks]
    cases lacks with
    | missing missing =>
        have lacking : Lacking session.token session.outside.2 := by
          rw [missing, unseen]
          exact .missing
        exact ending_renew session lacking
    | stale has stale =>
        have lacking : Lacking session.token (session.ticked world.recorded).outside.2 := by
          rw [has, looked]
          exact .stale (Int.not_lt.mp (of_decide_eq_false stale))
        exact ending_renew (session.ticked world.recorded) lacking

/-- Whoever asks with a secret fares in one of four ways. -/
theorem ending_inquire (world : World σ) (session : Session σ) :
    (source.inquire world session).1.Ending clientId
      (TokenSource.request source.scope tenantId clientId secret authorityHost) :=
  ending_token own rfl

end

end TokenSource

/-! ## Writing down changes nothing -/

/-- One action is what the other one is when nothing is written down. -/
def Act.Forgets (act : Act (σ × List Contact) α) (plain : Act σ α) : Prop :=
  ∀ session, plain.exec session.unrecorded =
    ((act.exec session).1, (act.exec session).2.unrecorded)

namespace Act

theorem forgets_pure (value : α) : (pure value : Act (σ × List Contact) α).Forgets (pure value) :=
  fun _ => rfl

theorem forgets_log (entry : LogEntry) : (log entry : Act (σ × List Contact) Unit).Forgets
    (log entry) :=
  fun _ => rfl

theorem Forgets.bind {act : Act (σ × List Contact) α} {plain : Act σ α}
    {next : α → Act (σ × List Contact) β} {next' : α → Act σ β} (forgets : act.Forgets plain)
    (rest : ∀ value, (next value).Forgets (next' value)) :
    (act >>= next).Forgets (plain >>= next') := by
  intro session
  rw [exec_bind, exec_bind, forgets session]
  rcases act.exec session with ⟨stop | value, after⟩
  · rfl
  · exact rest value after

variable {world : World σ}

theorem forgets_now : (now world.recorded).Forgets (now world) := fun _ => rfl

theorem forgets_send (request : Except Http.Fault Http.Request) :
    (send world.recorded none request).Forgets (send world none request) := by
  cases request with
  | error fault => exact forgets_pure _
  | ok request =>
      refine Forgets.bind (fun _ => rfl) fun answer => ?_
      cases answer <;> exact forgets_pure _

end Act

namespace TokenSource

variable {world : World σ}

theorem forgets_cached : (cached world.recorded).Forgets (cached world) := by
  intro session
  obtain ⟨outside, elapsed, _ | kept, notes⟩ := session <;> rfl

theorem forgets_keep (grant : TokenGrant) :
    (keep world.recorded grant).Forgets (keep world grant) := by
  refine Act.forgets_now.bind fun now => ?_
  cases now.after? grant.lifetime <;> exact fun _ => rfl

theorem forgets_renew (clientId : String) (request : Except Http.Fault Http.Request) :
    (renew world.recorded none clientId request).Forgets (renew world none clientId request) := by
  rw [renew_eq, renew_eq]
  refine (Act.forgets_log _).bind fun _ => (Act.forgets_send request).bind fun reply => ?_
  cases verdict clientId reply with
  | error failure => exact fun _ => rfl
  | ok grant => exact forgets_keep grant

theorem forgets_token (source : TokenSource) :
    (source.token world.recorded none).Forgets (source.token world none) := by
  unfold token
  cases source.credential with
  | accessToken secret => exact Act.forgets_pure secret
  | clientSecret =>
      refine forgets_cached.bind fun kept => ?_
      cases kept with
      | none => exact forgets_renew _ _
      | some secret => exact Act.forgets_pure secret

/-- An inquiry is a call for a token: it comes to the same and leaves the same session. -/
theorem exec_token_eq_inquire (source : TokenSource) (world : World σ) (session : Session σ) :
    (source.token world none).exec session =
      ((source.inquire world session).1.outcome, (source.inquire world session).2) :=
  forgets_token source { session with outside := (session.outside, []) }

end TokenSource

/-! ## What the endings come to -/

namespace Inquiry

/-- A grant that ends at some moment is returned and kept. One that ends beyond the
calendar breaks the program down. -/
def Keeps (inquiry : Inquiry) (grant : TokenGrant) : Option Moment → Prop
  | some expires =>
    inquiry.outcome = .ok grant.secret ∧ inquiry.left = some ⟨grant.secret, expires⟩
  | none => inquiry.outcome = .error .crash ∧ inquiry.left = inquiry.kept

/-- A token has been asked for, and what came of it is what the inquiry comes to. -/
def Settled (inquiry : Inquiry) : Except Failure TokenGrant → Prop
  | .error failure => inquiry.outcome = .error (.failure failure) ∧ inquiry.left = inquiry.kept
  | .ok grant =>
    ∃ now, inquiry.lastLooked? = some now ∧ inquiry.Keeps grant (now.after? grant.lifetime)

section

variable {kept after : Option Token} {looks rest : List Contact} {outcome : Except Stop String}

theorem due_of_lacking (lacking : Lacking kept looks) :
    (Inquiry.mk kept (looks ++ rest) outcome after).Due := by
  cases lacking with
  | missing => exact nofun
  | stale stale =>
      rintro _ ⟨⟩
      exact ⟨_, rfl, stale⟩

theorem calls_of_lacking (lacking : Lacking kept looks) :
    (Inquiry.mk kept (looks ++ rest) outcome after).calls = rest.filterMap Contact.call? := by
  cases lacking <;> rfl

theorem settled_of_lacking {clientId : String} {sent : Http.Request} {response : Http.Response}
    {grant : TokenGrant} {now : Moment} (lacking : Lacking kept looks)
    (grants : granted? response = some grant) :
    let inquiry : Inquiry :=
      ⟨kept, looks ++ [.exchanged (sent, some response), .looked now], outcome, after⟩
    inquiry.Keeps grant (now.after? grant.lifetime) →
      ∃ reply, Reply (.ok sent) inquiry.calls reply ∧
        inquiry.Settled (verdict clientId reply) := by
  intro inquiry keeps
  have judged : verdict clientId (.ok response) = .ok grant :=
    verdict_eq_ok.mpr ⟨response, rfl, grants⟩
  refine ⟨.ok response, ?_, ?_⟩
  · rw [calls_of_lacking lacking]
    exact .answered sent response
  · rw [judged]
    exact ⟨now, by simp [inquiry, lastLooked?], keeps⟩

theorem fetched_of_lacking {sent : Http.Request} {response : Http.Response} {grant : TokenGrant}
    {now : Moment} (lacking : Lacking kept looks) (grants : granted? response = some grant) :
    (Inquiry.mk kept (looks ++ [.exchanged (sent, some response), .looked now]) outcome
      after).fetched = (now.after? grant.lifetime).map (⟨grant.secret, ·⟩) := by
  cases ends : now.after? grant.lifetime <;>
    simp [fetched, calls_of_lacking lacking, lastLooked?, Contact.call?, grants, ends]

end

variable {clientId : String} {request : Except Http.Fault Http.Request} {inquiry : Inquiry}

namespace Ending

theorem reused_or_due (ending : inquiry.Ending clientId request) :
    (∃ token now, (Token.margin.nanos : Int) < token.expires.nanos - now.nanos ∧
        inquiry = ⟨some token, [.looked now], .ok token.secret, some token⟩) ∨ inquiry.Due := by
  cases ending with
  | reused fresh => exact .inl ⟨_, _, fresh, rfl⟩
  | refused lacking => exact .inr (due_of_lacking lacking)
  | granted lacking => exact .inr (due_of_lacking lacking)
  | crashed lacking => exact .inr (due_of_lacking lacking)

/-- A request is sent at most once, and the inquiry comes to what comes of it. -/
theorem settled (ending : inquiry.Ending clientId request) (due : inquiry.Due) :
    ∃ reply, Reply request inquiry.calls reply ∧ inquiry.Settled (verdict clientId reply) := by
  cases ending with
  | reused fresh =>
      obtain ⟨_, ⟨⟩, stale⟩ := due _ rfl
      omega
  | refused lacking replied refused =>
      refine ⟨_, ?_, by rw [refused]; exact ⟨rfl, rfl⟩⟩
      rw [calls_of_lacking lacking, Contact.filterMap_exchanged]
      exact replied
  | granted lacking leads grants valid =>
      rw [leads]
      exact settled_of_lacking lacking grants (valid ▸ ⟨rfl, rfl⟩)
  | crashed lacking leads grants endless =>
      rw [leads]
      exact settled_of_lacking lacking grants (endless ▸ ⟨rfl, rfl⟩)

/-- A request that can be sent is sent exactly if one is due. -/
theorem calls_ne_nil_iff (ending : inquiry.Ending clientId request) {sent : Http.Request}
    (leads : request = .ok sent) : inquiry.calls ≠ [] ↔ inquiry.Due := by
  constructor
  · intro called
    obtain ⟨_, _, _, rfl⟩ | due := ending.reused_or_due
    · exact absurd rfl called
    · exact due
  · intro due
    obtain ⟨reply, replied, -⟩ := ending.settled due
    cases leads
    generalize inquiry.calls = calls at replied
    cases replied <;> exact List.cons_ne_nil _ _

/-- A token that is fetched takes the place of the one that was kept. -/
theorem left_eq (ending : inquiry.Ending clientId request) :
    inquiry.left = inquiry.fetched.or inquiry.kept := by
  cases ending with
  | reused fresh => rfl
  | refused lacking replied refused =>
      rw [fetched, calls_of_lacking lacking, Contact.filterMap_exchanged]
      cases replied with
      | unsent fault => rfl
      | unanswered sent => rfl
      | answered sent response =>
          cases granted : granted? response with
          | none => simp [granted]
          | some grant =>
              rw [verdict_eq_ok.mpr ⟨_, rfl, granted⟩] at refused
              cases refused
  | granted lacking leads grants valid => rw [fetched_of_lacking lacking grants, valid]; rfl
  | crashed lacking leads grants endless => rw [fetched_of_lacking lacking grants, endless]; rfl

/-- What is returned was fetched, or it was kept and is fresh. -/
theorem returned (ending : inquiry.Ending clientId request) {secret : String}
    (ok : inquiry.outcome = .ok secret) :
    ∃ token, token.secret = secret ∧ (inquiry.fetched = some token ∨
      inquiry.kept = some token ∧ ∃ now ∈ inquiry.looked?,
        (Token.margin.nanos : Int) < token.expires.nanos - now.nanos) := by
  cases ending with
  | reused fresh =>
      cases ok
      exact ⟨_, rfl, .inr ⟨rfl, _, rfl, fresh⟩⟩
  | refused => cases ok
  | granted lacking leads grants valid =>
      cases ok
      exact ⟨⟨_, _⟩, rfl, .inl (by rw [fetched_of_lacking lacking grants, valid]; rfl)⟩
  | crashed => cases ok

/-- Only a request that was due can fail, and the token that was kept stays. -/
theorem due_and_left_of_error (ending : inquiry.Ending clientId request) {stop : Stop}
    (stopped : inquiry.outcome = .error stop) : inquiry.Due ∧ inquiry.left = inquiry.kept := by
  cases ending with
  | reused => cases stopped
  | refused lacking => exact ⟨due_of_lacking lacking, rfl⟩
  | granted => cases stopped
  | crashed lacking => exact ⟨due_of_lacking lacking, rfl⟩

/-- After a failure a request is due again, unless the clock has been set back. -/
theorem due_again {next : Inquiry} (ending : inquiry.Ending clientId request)
    (next_ending : next.Ending clientId request) (passed : next.kept = inquiry.left) {stop : Stop}
    (stopped : inquiry.outcome = .error stop)
    (forward : ∀ now ∈ inquiry.looked?, ∀ later ∈ next.looked?, now.nanos ≤ later.nanos) :
    next.Due := by
  obtain ⟨due, left_eq⟩ := ending.due_and_left_of_error stopped
  obtain ⟨token, later, fresh, rfl⟩ | due_next := next_ending.reused_or_due
  · obtain ⟨now, looked, stale⟩ := due token (left_eq ▸ passed).symm
    have ordered := forward now looked later rfl
    omega
  · exact due_next

end Ending

end Inquiry

/-! ## A run -/

namespace TokenSource

variable {source : TokenSource} {world : World σ} {start : Session σ} {n : Nat}
  {earlier later rest : List Inquiry} {inquiry : Inquiry}

/-- A token that was given is returned as it is. -/
theorem inquire_given {secret : String} (own : source.credential = .accessToken secret)
    (session : Session σ) :
    source.inquire world session = (⟨session.token, [], .ok secret, session.token⟩, session) := by
  rw [inquire, Inquiry.of, token, own]
  rfl

theorem left_inquire (source : TokenSource) (world : World σ) (session : Session σ) :
    (source.inquire world session).1.left =
      (source.inquire world session).1.fetched.or session.token := by
  cases own : source.credential with
  | accessToken secret =>
      rw [inquire_given own]
      rfl
  | clientSecret => exact (ending_inquire own world session).left_eq

/-- Wherever a run is interrupted, the token that is kept is the one that was fetched
last, and the rest is a run of its own. -/
theorem exists_session (split : source.inquiries world n start = earlier ++ rest) :
    ∃ m session, source.inquiries world m session = rest ∧
      session.token = (lastFetched earlier).or start.token := by
  induction earlier generalizing n start with
  | nil => exact ⟨n, start, split, rfl⟩
  | cons inquiry earlier ih =>
      cases n with
      | zero => cases split
      | succ n =>
          rw [inquiries, List.cons_append] at split
          obtain ⟨rfl, remaining⟩ := List.cons.inj split
          obtain ⟨m, session, runs, token_eq⟩ := ih remaining
          refine ⟨m, session, runs, ?_⟩
          rw [token_eq, lastFetched_cons, Option.or_assoc, ← left_inquire]
          rfl

/-- An inquiry of a run is a call for a token in the session that the earlier ones left,
and is followed by one in the session that it leaves. -/
theorem exists_inquire (split : source.inquiries world n start = earlier ++ inquiry :: later) :
    ∃ session, (source.inquire world session).1 = inquiry ∧
      session.token = (lastFetched earlier).or start.token ∧
      ∀ next ∈ later.head?, (source.inquire world (source.inquire world session).2).1 = next := by
  obtain ⟨m, session, runs, token_eq⟩ := exists_session split
  cases m with
  | zero => cases runs
  | succ m =>
      obtain ⟨rfl, rfl⟩ := List.cons.inj runs
      refine ⟨session, rfl, token_eq, ?_⟩
      intro next first
      cases m with
      | zero => cases first
      | succ m => exact Option.some.inj first

end TokenSource

/-- What an inquiry by a client with a secret has to do, after the inquiries before it. -/
structure Inquiry.Sound (clientId : String) (request : Except Http.Fault Http.Request)
    (earlier : List Inquiry) (inquiry : Inquiry) : Prop where
  kept : inquiry.kept = lastFetched earlier
  /-- A request is sent exactly if no token is kept or the one that is kept will not be
  valid for longer than the margin. -/
  asks : ∀ sent, request = .ok sent → (inquiry.calls ≠ [] ↔ inquiry.Due)
  /-- Otherwise the clock is all that is looked at, and the token that was fetched last
  is used. -/
  reuses : ¬ inquiry.Due → ∃ token now, lastFetched earlier = some token ∧
    (Token.margin.nanos : Int) < token.expires.nanos - now.nanos ∧
    inquiry = ⟨some token, [.looked now], .ok token.secret, some token⟩
  /-- A grant is returned and kept, however soon it ends; a failure changes nothing. -/
  settles : inquiry.Due → ∃ reply, Reply request inquiry.calls reply ∧
    inquiry.Settled (verdict clientId reply)
  /-- No token is returned that is not fresh, unless it has just been fetched. -/
  returns : ∀ secret, inquiry.outcome = .ok secret → ∃ token, token.secret = secret ∧
    (inquiry.fetched = some token ∨ lastFetched earlier = some token ∧
      ∃ now ∈ inquiry.looked?, (Token.margin.nanos : Int) < token.expires.nanos - now.nanos)

theorem Inquiry.Ending.sound {clientId : String} {request : Except Http.Fault Http.Request}
    {earlier : List Inquiry} {inquiry : Inquiry} (ending : inquiry.Ending clientId request)
    (kept : inquiry.kept = lastFetched earlier) : inquiry.Sound clientId request earlier where
  kept := kept
  asks _ leads := ending.calls_ne_nil_iff leads
  reuses fresh := by
    obtain ⟨token, now, valid, same⟩ := ending.reused_or_due.resolve_right fresh
    refine ⟨token, now, ?_, valid, same⟩
    rw [← kept, same]
  settles := ending.settled
  returns _ ok := kept ▸ ending.returned ok

namespace TokenSource

/-- What a source of tokens does in a run of calls of any length, from a session without
a token, whatever the clock says and whatever is answered. A token that was given is
returned as it is. With a secret, each inquiry is sound after the ones before it, the next
one begins with the token that it left, and after a failure that one asks again unless the
clock has been set back. -/
theorem sound_of_inquiries {source : TokenSource} {world : World σ} {start : Session σ} {n : Nat}
    {earlier later : List Inquiry} {inquiry : Inquiry} (empty : start.token = none)
    (split : source.inquiries world n start = earlier ++ inquiry :: later) :
    (∀ secret, source.credential = .accessToken secret →
      inquiry.contacts = [] ∧ inquiry.outcome = .ok secret) ∧
    ∀ tenantId clientId secret authorityHost,
      source.credential = .clientSecret tenantId clientId secret authorityHost →
      inquiry.Sound clientId (request source.scope tenantId clientId secret authorityHost)
        earlier ∧
      ∀ next ∈ later.head?, next.kept = inquiry.left ∧
        ∀ stop, inquiry.outcome = .error stop →
          (∀ now ∈ inquiry.looked?, ∀ later ∈ next.looked?, now.nanos ≤ later.nanos) →
          next.Due := by
  obtain ⟨session, rfl, token_eq, follows⟩ := exists_inquire split
  rw [empty, Option.or_none] at token_eq
  refine ⟨fun secret own => ?_, fun tenantId clientId secret authorityHost own => ⟨?_, ?_⟩⟩
  · rw [inquire_given own]
    exact ⟨rfl, rfl⟩
  · exact (ending_inquire own world session).sound token_eq
  · intro next first
    obtain rfl := follows next first
    refine ⟨rfl, fun stop stopped forward => ?_⟩
    exact (ending_inquire own world session).due_again (ending_inquire own world _) rfl stopped
      forward

end TokenSource

/-! ### A token that soon expires -/

/-- A server and a clock that have their say, one thing after the other. -/
def World.timeline : World (List (Option Http.Response) × List Moment) where
  exchange _ state := ((state.1.headD none, ⟨0⟩), state.1.tail, state.2)
  clock state := (state.2.headD ⟨0⟩, state.1, state.2.tail)

namespace Sample

/-- The answer that grants a token. -/
def grant (secret : String) (seconds : Int) : Http.Response where
  status := ⟨200⟩
  body := .document
    (.object [("access_token", .string secret), ("expires_in", .number (.integer seconds))])

def tokens : TokenSource :=
  .forEndpoint (.clientSecret "tenant" "client" "secret" Credential.standardAuthority)
    "https://management.azure.com"

/-- A token is granted for a minute, then none, then one for an hour. The clock is set
back in the end. -/
def course : Session (List (Option Http.Response) × List Moment) where
  outside :=
    ([some (grant "short" 60), none, some (grant "long" 3600)],
      [⟨0⟩, ⟨1⟩, ⟨2⟩, ⟨3⟩, ⟨-4⟩])

end Sample

/-- The token that is granted first is too old at once. It is kept through the failure, but
it is not returned again. -/
theorem TokenSource.sound_of_inquiries_sample :
    ∃ first second third fourth,
      Sample.tokens.inquiries World.timeline 4 Sample.course = [first, second, third, fourth] ∧
      [first, second, third, fourth].map (·.outcome.toOption) =
        [some "short", none, some "long", some "long"] ∧
      [first, second, third, fourth].map (·.calls.length) = [1, 1, 1, 0] ∧
      lastFetched [first, second] = some ⟨"short", ⟨60000000000⟩⟩ ∧ third.Due ∧
      fourth.kept = third.left := by
  obtain ⟨first, second, third, fourth, run⟩ : ∃ first second third fourth,
      Sample.tokens.inquiries World.timeline 4 Sample.course = [first, second, third, fourth] :=
    ⟨_, _, _, _, rfl⟩
  have outcomes : (Sample.tokens.inquiries World.timeline 4 Sample.course).map
      (·.outcome.toOption) = [some "short", none, some "long", some "long"] := by
    decide +kernel
  have lengths : (Sample.tokens.inquiries World.timeline 4 Sample.course).map
      (·.calls.length) = [1, 1, 1, 0] := by
    decide +kernel
  have fetched : lastFetched ((Sample.tokens.inquiries World.timeline 4 Sample.course).take 2) =
      some ⟨"short", ⟨60000000000⟩⟩ := by
    decide +kernel
  rw [run] at outcomes lengths fetched
  obtain ⟨sound, follows⟩ :=
    (@sound_of_inquiries _ _ _ _ _ [first, second] [fourth] third rfl run).2 _ _ _ _ rfl
  have due : third.Due := by
    have called : third.calls.length = 1 := Option.some.inj (congrArg (·[2]?) lengths)
    refine Classical.byContradiction fun fresh => ?_
    obtain ⟨_, _, _, _, rfl⟩ := sound.reuses fresh
    cases called
  exact ⟨first, second, third, fourth, run, outcomes, lengths, fetched, due, (follows _ rfl).1⟩

end ClusterPorts.Azure
