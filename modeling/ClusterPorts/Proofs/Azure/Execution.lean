import ClusterPorts.Azure.Client

/-!
# What a client does in a session

The laws below compute an action along its steps: what it comes to, and the
session that it leaves. A request goes out in the session that `Client.before`
gives and its answer comes in the one that `Client.after` gives; the limit of an
operation only decides which of the answers come too late. A client is `Ready` if
it has an access token at hand, so that nothing else goes over the wire.

`World.watched` is a world in which the exchanges are written down. What a client
sends is a statement about its run in such a world.
-/

namespace ClusterPorts.Azure

variable {σ α β : Type}

/-! ## Actions -/

namespace Act

/-- What an action comes to, and the session that it leaves. -/
def exec (act : Act σ α) (session : Session σ) : Except Stop α × Session σ := act session

@[simp]
theorem exec_pure (value : α) (session : Session σ) :
    (pure value : Act σ α).exec session = (.ok value, session) := rfl

/-- An action that stops skips what comes after it. -/
theorem exec_bind (act : Act σ α) (next : α → Act σ β) (session : Session σ) :
    (act >>= next).exec session =
      match act.exec session with
      | (.ok value, session) => (next value).exec session
      | (.error stop, session) => (.error stop, session) := by
  show (act >>= next) session = match act session with
    | (.ok value, session) => next value session
    | (.error stop, session) => (.error stop, session)
  simp only [bind, ExceptT.bind, ExceptT.mk, StateT.bind, ExceptT.bindCont]
  rcases act session with ⟨_ | _, _⟩ <;> rfl

@[simp]
theorem exec_fail (failure : Failure) (session : Session σ) :
    (fail failure : Act σ α).exec session = (.error (.failure failure), session) := rfl

@[simp]
theorem exec_log (entry : LogEntry) (session : Session σ) :
    (log entry : Act σ Unit).exec session =
      (.ok (), { session with notes := session.notes ++ [.log entry] }) := rfl

/-- Who sleeps until the deadline or longer has slept too long. -/
theorem exec_sleep (limit : Limit) (span : Span) (session : Session σ) :
    (sleep limit span).exec session =
      let later := { session with elapsed := ⟨session.elapsed.nanos + span.nanos⟩ }
      if limit.deadline.nanos ≤ later.elapsed.nanos then (.error (.failure limit.failure), later)
      else (.ok (), later) := by
  rw [sleep, exec_bind]
  show (if _ then fail _ else pure () : Act σ Unit).exec _ = _
  split <;> simp_all

/-- Only the time counts, not how it has passed. -/
theorem exec_hold (limit : Limit) (session : Session σ) :
    (hold (some limit)).exec session =
      if limit.deadline.nanos < session.elapsed.nanos then
        (.error (.failure limit.failure), session)
      else (.ok (), session) := by
  show (if _ then fail _ else pure () : Act σ Unit).exec _ = _
  split <;> simp_all

end Act

/-- The session with log entries left in it. -/
def Session.noted (session : Session σ) (entries : List LogEntry) : Session σ :=
  { session with notes := session.notes ++ entries.map .log }

@[simp]
theorem Session.noted_nil (session : Session σ) : session.noted [] = session := by
  simp [noted]

@[simp]
theorem Session.noted_noted (session : Session σ) (entries later : List LogEntry) :
    (session.noted entries).noted later = session.noted (entries ++ later) := by
  simp [noted]

/-- The session after a sleep. -/
def Session.slept (session : Session σ) (delay : Span) : Session σ :=
  { session with elapsed := ⟨session.elapsed.nanos + delay.nanos⟩ }

/-- An action comes to an outcome, failures among them, and leaves a session. -/
def Act.Gives (act : Act σ α) (session : Session σ) (outcome : Except Failure α)
    (after : Session σ) : Prop :=
  act.exec session = (outcome.mapError .failure, after)

/-- What something that is done to its end comes to, and the session that it
leaves. -/
def Run.exec (run : Run σ α) (session : Session σ) : Except Crash α × Session σ := run session

/-- A breakdown skips what comes after it. -/
theorem Run.exec_bind (run : Run σ α) (next : α → Run σ β) (session : Session σ) :
    (run >>= next).exec session =
      match run.exec session with
      | (.ok value, session) => (next value).exec session
      | (.error breakdown, session) => (.error breakdown, session) := by
  show (run >>= next) session = match run session with
    | (.ok value, session) => next value session
    | (.error breakdown, session) => (.error breakdown, session)
  simp only [bind, ExceptT.bind, ExceptT.mk, StateT.bind, ExceptT.bindCont]
  rcases run session with ⟨_ | _, _⟩ <;> rfl

/-- What is attempted does not break down unless the action does. -/
theorem Act.Gives.attempt {act : Act σ α} {session after : Session σ} {outcome : Except Failure α}
    (gives : act.Gives session outcome after) :
    act.attempt.exec session = (.ok outcome, after) := by
  have comes : act session = (outcome.mapError .failure, after) := gives
  simp only [Act.attempt, Run.exec, ExceptT.mk, ExceptT.run, bind, StateT.bind, comes]
  cases outcome <;> rfl

/-- The session after an exchange with the world outside. -/
def Session.exchanged (session : Session σ) (world : World σ) (request : Http.Request) :
    Session σ :=
  let ((_, span), outside) := world.exchange request session.outside
  { session with outside, elapsed := ⟨session.elapsed.nanos + span.nanos + 1⟩ }

/-- Time passes while a request is answered. -/
theorem Session.elapsed_exchanged {world : World σ} {request : Http.Request}
    (session : Session σ) {most : Nat}
    (quick : (world.exchange request session.outside).1.2.nanos < most) :
    session.elapsed.nanos < (session.exchanged world request).elapsed.nanos ∧
      (session.exchanged world request).elapsed.nanos ≤ session.elapsed.nanos + most := by
  have elapsed : (session.exchanged world request).elapsed.nanos =
      session.elapsed.nanos + (world.exchange request session.outside).1.2.nanos + 1 := rfl
  omega

namespace Act

variable (world : World σ) (request : Http.Request) (session : Session σ)

theorem exec_deliver_none :
    (deliver world none request).exec session =
      (.ok (world.exchange request session.outside).1.1, session.exchanged world request) := rfl

/-- An answer that comes after the deadline is not looked at. -/
theorem exec_deliver_some (limit : Limit) :
    (deliver world (some limit) request).exec session =
      let later := session.exchanged world request
      if limit.deadline.nanos < later.elapsed.nanos then (.error (.failure limit.failure), later)
      else (.ok (world.exchange request session.outside).1.1, later) := by
  show (hold (some limit) >>= fun _ =>
    pure (world.exchange request session.outside).1.1).exec (session.exchanged world request) = _
  rw [exec_bind, exec_hold]
  by_cases late : limit.deadline.nanos < (session.exchanged world request).elapsed.nanos
  · simp only [if_pos late]
  · simp only [if_neg late, exec_pure]

end Act

/-! ## Requests in time -/

/-- What comes of a request, if it can be sent. -/
def World.replyTo (world : World σ) (request : Except Http.Fault Http.Request) (outside : σ) :
    Except Http.Fault Http.Response :=
  match request with
  | .error fault => .error fault
  | .ok sent =>
      match (world.exchange sent outside).1.1 with
      | some response => .ok response
      | none => .error (.unanswered sent.url.text)

/-- The state of the world outside after a request, if it can be sent. -/
def World.past (world : World σ) (request : Except Http.Fault Http.Request) (outside : σ) : σ :=
  match request with
  | .error _ => outside
  | .ok sent => (world.exchange sent outside).2

/-- The session after a request, if it can be sent. -/
def Session.sent (session : Session σ) (world : World σ)
    (request : Except Http.Fault Http.Request) : Session σ :=
  match request with
  | .error _ => session
  | .ok sent => session.exchanged world sent

/-- The time of a limit is not over, if there is one. -/
def Session.InTime (session : Session σ) (limit : Option Limit) : Prop :=
  ∀ bound ∈ limit, session.elapsed.nanos ≤ bound.deadline.nanos

section

variable {world : World σ} {request : Except Http.Fault Http.Request} {session : Session σ}
  {limit : Option Limit}

theorem Session.inTime_none : session.InTime none := nofun

theorem Session.inTime_some {limit : Limit} :
    session.InTime (some limit) ↔ session.elapsed.nanos ≤ limit.deadline.nanos := by
  simp [InTime]

@[simp]
theorem Session.sent_outside :
    (session.sent world request).outside = world.past request session.outside := by
  cases request <;> rfl

@[simp]
theorem Session.sent_token : (session.sent world request).token = session.token := by
  cases request <;> rfl

@[simp]
theorem Session.sent_notes : (session.sent world request).notes = session.notes := by
  cases request <;> rfl

/-- What comes of a request before the deadline is looked at. -/
theorem Act.exec_send_inTime (inTime : (session.sent world request).InTime limit) :
    (send world limit request).exec session =
      (.ok (world.replyTo request session.outside), session.sent world request) := by
  cases request with
  | error fault => rfl
  | ok sent =>
      have delivers : (deliver world limit sent).exec session =
          (.ok (world.exchange sent session.outside).1.1, session.exchanged world sent) := by
        cases limit with
        | none => rw [exec_deliver_none]
        | some limit =>
            rw [exec_deliver_some]
            exact if_neg (Nat.not_lt.mpr (inTime limit rfl))
      simp only [send, exec_bind, delivers, World.replyTo, Session.sent]
      cases (world.exchange sent session.outside).1.1 <;> rfl

end

/-! ## Tokens -/

/-- An access token is at hand: the client was given it, or it was granted and
will be valid whatever the clock on the wall says. -/
inductive TokenSource.Ready (source : TokenSource) (world : World σ) (token : Option Token) :
    String → Prop
  | given {secret : String} (own : source.credential = .accessToken secret) :
      Ready source world token secret
  | granted {tenantId clientId clientSecret authorityHost : String} {kept : Token}
      (own : source.credential = .clientSecret tenantId clientId clientSecret authorityHost)
      (has : token = some kept) (fresh : ∀ state, kept.isFresh (world.clock state).1) :
      Ready source world token kept.secret

/-- The session after a look at the clock, which only a granted token takes. -/
def TokenSource.looked (source : TokenSource) (world : World σ) (session : Session σ) : Session σ :=
  match source.credential with
  | .accessToken _ => session
  | .clientSecret _ _ _ _ => { session with outside := (world.clock session.outside).2 }

namespace TokenSource

variable {source : TokenSource} {world : World σ} {session : Session σ} {secret : String}

/-- A token that is kept and still fresh is used. -/
theorem exec_cached {kept : Token} (has : session.token = some kept)
    (fresh : kept.isFresh (world.clock session.outside).1) :
    (cached world).exec session =
      (.ok (some kept.secret), { session with outside := (world.clock session.outside).2 }) := by
  obtain ⟨outside, elapsed, token, notes⟩ := session
  subst has
  show (Except.ok (if kept.isFresh (world.clock outside).1 then some kept.secret else none), _) = _
  rw [if_pos fresh]

theorem exec_token (ready : source.Ready world session.token secret) (limit : Option Limit) :
    (source.token world limit).exec session = (.ok secret, source.looked world session) := by
  cases ready with
  | given own => rw [token, looked, own]; rfl
  | granted own has fresh =>
      rw [token, looked, own]
      simp only [Act.exec_bind, exec_cached has (fresh session.outside), Act.exec_pure]

@[simp]
theorem looked_elapsed : (source.looked world session).elapsed = session.elapsed := by
  unfold looked
  split <;> rfl

@[simp]
theorem looked_token : (source.looked world session).token = session.token := by
  unfold looked
  split <;> rfl

@[simp]
theorem looked_notes : (source.looked world session).notes = session.notes := by
  unfold looked
  split <;> rfl

end TokenSource

/-! ## Watching -/

/-- A request, and the answer if one has come. -/
abbrev Call := Http.Request × Option Http.Response

/-- A world in which the exchanges are written down. -/
def World.watched (world : World σ) : World (σ × List Call) where
  exchange request state :=
    let (answer, outside) := world.exchange request state.1
    (answer, outside, state.2 ++ [(request, answer.1)])
  clock state :=
    let (moment, outside) := world.clock state.1
    (moment, outside, state.2)

/-- What has been exchanged in a session of a watched world. -/
def Session.trace (session : Session (σ × List Call)) : List Call := session.outside.2

/-! ## Requests of a client -/

namespace Client

section

variable (client : Client) (world : World σ) (session : Session σ) (method : Http.Method)
  (address : String)

/-- The session in which a request is sent. -/
def before : Session σ :=
  client.tokens.looked world
    { session with notes := session.notes ++ [.log (.debug (method.text ++ " " ++ address))] }

/-- The session in which the answer to a request has come. -/
def after (request : Http.Request) : Session σ :=
  (client.before world session method address).exchanged world request

/-- What answers a request. -/
def answerTo (request : Http.Request) : Option Http.Response :=
  (world.exchange request (client.before world session method address).outside).1.1

variable {client world session method address} {content : Http.Content} {secret : String}
  {request : Http.Request} {response : Http.Response}

@[simp]
theorem after_token :
    (client.after world session method address request).token = session.token :=
  TokenSource.looked_token

@[simp]
theorem after_notes :
    (client.after world session method address request).notes =
      session.notes ++ [.log (.debug (method.text ++ " " ++ address))] :=
  TokenSource.looked_notes

theorem after_elapsed {answer : Option Http.Response} {span : Span} {next : σ}
    (exchanged : world.exchange request (client.before world session method address).outside =
      ((answer, span), next)) :
    (client.after world session method address request).elapsed =
      ⟨session.elapsed.nanos + span.nanos + 1⟩ := by
  have same : (client.before world session method address).elapsed = session.elapsed :=
    TokenSource.looked_elapsed
  rw [after, Session.exchanged, exchanged, same]

theorem after_outside {answer : Option Http.Response} {span : Span} {next : σ}
    (exchanged : world.exchange request (client.before world session method address).outside =
      ((answer, span), next)) :
    (client.after world session method address request).outside = next := by
  rw [after, Session.exchanged, exchanged]

theorem answerTo_eq {answer : Option Http.Response} {span : Span} {next : σ}
    (exchanged : world.exchange request (client.before world session method address).outside =
      ((answer, span), next)) :
    client.answerTo world session method address request = answer := by
  rw [answerTo, exchanged]

/-- Time passes while a request is answered. -/
theorem elapsed_lt_after :
    session.elapsed.nanos < (client.after world session method address request).elapsed.nanos := by
  have same : (client.before world session method address).elapsed = session.elapsed :=
    TokenSource.looked_elapsed
  show _ < (client.before world session method address).elapsed.nanos + _ + 1
  rw [same]
  omega

/-- A request as a client makes it. -/
def requestTo (secret address : String) (method : Http.Method) (content : Http.Content) :
    Except Http.Fault Http.Request :=
  Http.Request.to address method (some ("Bearer " ++ secret)) "application/json" content

/-- The session in which a client has said what it asks for. -/
def asking (session : Session σ) (method : Http.Method) (address : String) : Session σ :=
  session.noted [.debug (method.text ++ " " ++ address)]

section

variable {limit : Option Limit} {held : Session σ}

/-- First a token is called for, then the request is sent with it. -/
theorem exec_ask_eq :
    (client.ask world limit method address content).exec session =
      match (client.tokens.token world limit).exec (asking session method address) with
      | (.ok secret, held) =>
          Act.exec (do
            match ← Act.send world limit (requestTo secret address method content) with
            | .ok response => return response
            | .error fault =>
                Act.fail (.provider "azure" ("HTTP request failed: " ++ fault.message))) held
      | (.error stop, held) => (.error stop, held) := by
  have said : (Act.log (.debug (method.text ++ " " ++ address))).exec session =
    (.ok (), asking session method address) := rfl
  simp only [ask, Act.exec_bind, said]
  rcases (client.tokens.token world limit).exec (asking session method address) with ⟨_ | _, _⟩ <;>
    rfl

/-- Without a token nothing is asked for. -/
theorem exec_ask_of_stop {stop : Stop}
    (stops : (client.tokens.token world limit).exec (asking session method address) =
      (.error stop, held)) :
    (client.ask world limit method address content).exec session = (.error stop, held) := by
  rw [exec_ask_eq, stops]

/-- A request that is made in time comes to its answer. -/
theorem exec_ask_inTime
    (has : (client.tokens.token world limit).exec (asking session method address) =
      (.ok secret, held))
    (inTime : (held.sent world (requestTo secret address method content)).InTime limit) :
    (client.ask world limit method address content).exec session =
      ((world.replyTo (requestTo secret address method content) held.outside).mapError fun fault =>
          .failure (.provider "azure" ("HTTP request failed: " ++ fault.message)),
        held.sent world (requestTo secret address method content)) := by
  rw [exec_ask_eq, has]
  simp only [Act.exec_bind, Act.exec_send_inTime inTime]
  cases world.replyTo (requestTo secret address method content) held.outside <;> rfl

end

theorem exec_ask (ready : client.tokens.Ready world session.token secret) (limit : Option Limit) :
    (client.ask world limit method address content).exec session =
      Act.exec (do
        match ← Act.send world limit (requestTo secret address method content) with
        | .ok response => return response
        | .error fault => Act.fail (.provider "azure" ("HTTP request failed: " ++ fault.message)))
        (client.before world session method address) := by
  have ready : client.tokens.Ready world (asking session method address).token secret := ready
  rw [exec_ask_eq, TokenSource.exec_token ready]
  rfl

variable (ready : client.tokens.Ready world session.token secret)
  (leads : requestTo secret address method content = .ok request)
  (answered : client.answerTo world session method address request = some response)

include ready leads answered

/-- The answer to a request is looked at if it comes before the deadline. -/
theorem exec_ask_some (limit : Limit) :
    (client.ask world (some limit) method address content).exec session =
      let later := client.after world session method address request
      if limit.deadline.nanos < later.elapsed.nanos then (.error (.failure limit.failure), later)
      else (.ok response, later) := by
  rw [exec_ask ready, leads]
  simp only [Act.send, Act.exec_bind, Act.exec_deliver_some]
  rw [answerTo] at answered
  rw [answered]
  by_cases late : limit.deadline.nanos <
      ((client.before world session method address).exchanged world request).elapsed.nanos
  · simp only [if_pos late]
    exact (if_pos late).symm
  · simp only [if_neg late]
    exact (if_neg late).symm

omit leads answered in
/-- A request that cannot be sent is not answered. -/
theorem exec_ask_unsendable {fault : Http.Fault} (limit : Option Limit)
    (leads : requestTo secret address method content = .error fault) :
    (client.ask world limit method address content).exec session =
      (.error (.failure (.provider "azure" ("HTTP request failed: " ++ fault.message))),
        client.before world session method address) := by
  rw [exec_ask ready, leads]
  rfl

end

/-! ### In a watched world -/

section

variable {client : Client} {world : World σ} {session : Session (σ × List Call)}
  {method : Http.Method} {address : String} {request : Http.Request}

@[simp]
theorem trace_before :
    (client.before world.watched session method address).trace = session.trace := by
  unfold before TokenSource.looked
  split <;> rfl

theorem trace_after :
    (client.after world.watched session method address request).trace =
      session.trace ++
        [(request, client.answerTo world.watched session method address request)] := by
  show (client.before world.watched session method address).trace ++ _ = _
  rw [trace_before]
  rfl

end

end Client

end ClusterPorts.Azure
