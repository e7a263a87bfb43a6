import ClusterPorts.Proofs.Network.Transcript

/-!
# Courses

A course of a plan is a run of it to its end, with the progress that is reported, what
passes between the plan and the network, and the outcome. The network may answer
anything to any request. `Plan.watch` is a run with a network of any behaviour and a
new recorder, and every such run is a course (`Plan.course_watch`).

A plan is steady (`Steady`) if it reports nothing by itself and ends with the failure
of any of its requests, none of which may fail without ending it. Plans are announced
(`Plan.announced`) by what is reported before and after them.
-/

namespace ClusterPorts

variable {α β : Type}

namespace Plan

/-- A run of the plan to its end. -/
inductive Course : Plan α → List Progress → List Exchange → Except Failure α → Prop
  | done {outcome : Except Failure α} : Course (.done outcome) [] [] outcome
  | log {entry : LogEntry} {next : Plan α} {events : List Progress} {exchanges : List Exchange}
      {outcome : Except Failure α} (rest : Course next events exchanges outcome) :
      Course (.note (.log entry) next) events exchanges outcome
  | report {step : Progress} {next : Plan α} {events : List Progress} {exchanges : List Exchange}
      {outcome : Except Failure α} (rest : Course next events exchanges outcome) :
      Course (.note (.progress step) next) (step :: events) exchanges outcome
  | ask {request : Request} {next : Except Failure request.Answer → Plan α}
      {events : List Progress} {exchanges : List Exchange} {outcome : Except Failure α}
      (reply : Except Failure request.Answer)
      (rest : Course (next reply) events exchanges outcome) :
      Course (.ask request next) events (⟨request, reply⟩ :: exchanges) outcome

/-! ## Watched runs -/

/-- How a network may behave: what it answers may depend on all that has happened. -/
structure Behaviour where
  State : Type
  start : State
  answer : (request : Request) → StateM State (Except Failure request.Answer)

namespace Behaviour

variable (network : Behaviour)

/-- Take down progress in the recording of the first recorder, and pass over the log. -/
def takeNote : Note → StateM (network.State × Recorders) Unit
  | .log _ => pure ()
  | .progress step => modify fun (state, recorders) => (state, recorders.report 0 [step])

/-- Answer beside the recorders. -/
def answerBeside (request : Request) :
    StateM (network.State × Recorders) (Except Failure request.Answer) := fun (state, recorders) =>
  let (reply, state) := network.answer request state
  (reply, (state, recorders))

end Behaviour

/-- What there is to see of a run: how it ended, what was reported, and what has
passed between the plan and the network. -/
structure Seen (α : Type) where
  outcome : Except Failure α
  events : List Progress
  exchanges : List Exchange

/-- Run the plan with a network and with a new recorder. -/
def watch (plan : Plan α) (network : Behaviour) : Seen α :=
  let start := (network.start, Recorders.single)
  let (outcome, (_, recorders)) := plan.run network.takeNote network.answerBeside start
  { outcome
    events := recorders.recording 0
    exchanges := plan.exchanges network.takeNote network.answerBeside start }

theorem exists_course (plan : Plan α) (network : Behaviour) (state : network.State)
    (past : List Progress) :
    ∃ outcome state' events,
      plan.run network.takeNote network.answerBeside (state, ⟨[past], [0]⟩) =
          (outcome, (state', ⟨[past ++ events], [0]⟩)) ∧
        plan.Course events (plan.exchanges network.takeNote network.answerBeside
          (state, ⟨[past], [0]⟩)) outcome := by
  induction plan generalizing state past with
  | done outcome => exact ⟨outcome, state, [], by rw [List.append_nil]; rfl, .done⟩
  | note note plan ih =>
      cases note with
      | log entry =>
          obtain ⟨outcome, state', events, run, course⟩ := ih state past
          exact ⟨outcome, state', events, run, .log course⟩
      | progress step =>
          obtain ⟨outcome, state', events, run, course⟩ := ih state (past ++ [step])
          refine ⟨outcome, state', step :: events, ?_, .report course⟩
          rw [List.append_cons]
          exact run
  | ask request plan ih =>
      obtain ⟨outcome, state', events, run, course⟩ :=
        ih (network.answer request state).1 (network.answer request state).2 past
      exact ⟨outcome, state', events, run, .ask _ course⟩

/-- What is seen of a run is a course. -/
theorem course_watch (plan : Plan α) (network : Behaviour) :
    plan.Course (plan.watch network).events (plan.watch network).exchanges
      (plan.watch network).outcome := by
  obtain ⟨outcome, state, events, run, course⟩ := plan.exists_course network network.start []
  have seen : plan.watch network = ⟨outcome, events, plan.exchanges network.takeNote
      network.answerBeside (network.start, .single)⟩ := by
    rw [watch]
    simp only [Recorders.single, run]
    rfl
  rw [seen]
  exact course

/-! ## Courses of parts -/

variable {events : List Progress} {exchanges : List Exchange}

theorem Course.bind_error {plan : Plan α} {next : α → Plan β} {failure : Failure}
    (own : plan.Course events exchanges (.error failure)) :
    (plan >>= next).Course events exchanges (.error failure) := by
  generalize ended : Except.error failure = result at own
  induction own with
  | done => subst ended; exact .done
  | log _ ih => exact .log (ih ended)
  | report _ ih => exact .report (ih ended)
  | ask reply _ ih => exact .ask reply (ih ended)

theorem Course.bind {plan : Plan α} {next : α → Plan β} {value : α} {later : List Progress}
    {rest : List Exchange} {outcome : Except Failure β}
    (own : plan.Course events exchanges (.ok value))
    (continued : (next value).Course later rest outcome) :
    (plan >>= next).Course (events ++ later) (exchanges ++ rest) outcome := by
  generalize ended : Except.ok value = result at own
  induction own with
  | done => subst ended; exact continued
  | log _ ih => exact .log (ih ended)
  | report _ ih => exact .report (ih ended)
  | ask reply _ ih => exact .ask reply (ih ended)

/-- A plan that goes on with the value of another one has failed before, or else its
course continues the other's. -/
theorem course_bind {plan : Plan α} {next : α → Plan β} {outcome : Except Failure β} :
    (plan >>= next).Course events exchanges outcome ↔
      (∃ failure, plan.Course events exchanges (.error failure) ∧ outcome = .error failure) ∨
      ∃ value events₁ events₂ exchanges₁ exchanges₂, plan.Course events₁ exchanges₁ (.ok value) ∧
        (next value).Course events₂ exchanges₂ outcome ∧ events = events₁ ++ events₂ ∧
        exchanges = exchanges₁ ++ exchanges₂ := by
  constructor
  · intro course
    induction plan generalizing events exchanges with
    | done result =>
        cases result with
        | ok value => exact .inr ⟨value, [], events, [], exchanges, .done, course, rfl, rfl⟩
        | error failure =>
            cases course
            exact .inl ⟨failure, .done, rfl⟩
    | note note plan ih =>
        cases course with
        | log rest =>
            rcases ih rest with ⟨failure, own, rfl⟩ | ⟨value, _, _, _, _, own, later, rfl, rfl⟩
            · exact .inl ⟨failure, .log own, rfl⟩
            · exact .inr ⟨value, _, _, _, _, .log own, later, rfl, rfl⟩
        | report rest =>
            rcases ih rest with ⟨failure, own, rfl⟩ | ⟨value, _, _, _, _, own, later, rfl, rfl⟩
            · exact .inl ⟨failure, .report own, rfl⟩
            · exact .inr ⟨value, _, _, _, _, .report own, later, rfl, rfl⟩
    | ask request plan ih =>
        cases course with
        | ask reply rest =>
            rcases ih reply rest with
              ⟨failure, own, rfl⟩ | ⟨value, _, _, _, _, own, later, rfl, rfl⟩
            · exact .inl ⟨failure, .ask reply own, rfl⟩
            · exact .inr ⟨value, _, _, _, _, .ask reply own, later, rfl, rfl⟩
  · rintro (⟨failure, own, rfl⟩ | ⟨value, _, _, _, _, own, later, rfl, rfl⟩)
    · exact own.bind_error
    · exact own.bind later

/-- Where an exchange is in the course of a sequence: in the first part, which has failed
or has been gone on with, or in the second part. -/
theorem exists_of_course_bind {plan : Plan α} {next : α → Plan β} {outcome : Except Failure β}
    {earlier later : List Exchange} {exchange : Exchange}
    (course : (plan >>= next).Course events (earlier ++ exchange :: later) outcome) :
    (∃ failure, plan.Course events (earlier ++ exchange :: later) (.error failure) ∧
      outcome = .error failure) ∨
    (∃ value events₁ events₂ later₁ later₂,
      plan.Course events₁ (earlier ++ exchange :: later₁) (.ok value) ∧
      (next value).Course events₂ later₂ outcome ∧ events = events₁ ++ events₂ ∧
      later = later₁ ++ later₂) ∨
    ∃ value events₁ events₂ earlier₁ earlier₂, plan.Course events₁ earlier₁ (.ok value) ∧
      (next value).Course events₂ (earlier₂ ++ exchange :: later) outcome ∧
      events = events₁ ++ events₂ ∧ earlier = earlier₁ ++ earlier₂ := by
  rcases course_bind.mp course with failed | ⟨value, events₁, events₂, exchanges₁, exchanges₂, own,
    rest, rfl, split⟩
  · exact .inl failed
  rcases List.append_eq_append_iff.mp split with ⟨part, rfl, tail⟩ | ⟨part, rfl, rfl⟩
  · cases part with
    | nil =>
        obtain rfl : exchange :: later = exchanges₂ := tail
        rw [List.append_nil] at own
        exact .inr (.inr ⟨value, events₁, events₂, earlier, [], own, rest, rfl,
          (List.append_nil _).symm⟩)
    | cons first part =>
        obtain ⟨rfl, rfl⟩ := List.cons.inj tail
        exact .inr (.inl ⟨value, events₁, events₂, part, exchanges₂, own, rest, rfl, rfl⟩)
  · exact .inr (.inr ⟨value, events₁, events₂, exchanges₁, part, own, rest, rfl, rfl⟩)

/-- Reporting a failure adds it to what is reported. -/
theorem course_reported {plan : Plan α} {outcome : Except Failure α} :
    plan.reported.Course events exchanges outcome ↔
      ∃ earlier, plan.Course earlier exchanges outcome ∧
        events = earlier ++ Progress.ofOutcome outcome := by
  constructor
  · intro course
    induction plan generalizing events exchanges with
    | done result =>
        cases result with
        | ok value =>
            cases course
            exact ⟨[], .done, rfl⟩
        | error failure =>
            cases course with
            | report rest =>
                cases rest
                exact ⟨[], .done, rfl⟩
    | note note plan ih =>
        cases course with
        | log rest =>
            obtain ⟨earlier, own, rfl⟩ := ih rest
            exact ⟨earlier, .log own, rfl⟩
        | report rest =>
            obtain ⟨earlier, own, rfl⟩ := ih rest
            exact ⟨_, .report own, rfl⟩
    | ask request plan ih =>
        cases course with
        | ask reply rest =>
            obtain ⟨earlier, own, rfl⟩ := ih reply rest
            exact ⟨earlier, .ask reply own, rfl⟩
  · rintro ⟨earlier, own, rfl⟩
    induction own with
    | @done outcome =>
        cases outcome with
        | ok value => exact .done
        | error failure => exact .report .done
    | log _ ih => exact .log ih
    | report _ ih => exact .report ih
    | ask reply _ ih => exact .ask reply ih

/-- Reporting the failure of a sequence is reporting the failure of each part. -/
theorem reported_bind (plan : Plan α) (next : α → Plan β) :
    (plan >>= next).reported = plan.reported >>= fun value => (next value).reported := by
  induction plan with
  | done outcome => cases outcome <;> rfl
  | note n plan ih => exact congrArg (note n) ih
  | ask request plan ih => exact congrArg (ask request) (funext ih)

/-- Two networks may differ in any answer but those to the first `n` requests: the
requests up to the one after them are the same, and so is their number. -/
theorem Course.take_requests {plan : Plan α} {outcome outcome' : Except Failure α}
    {events' : List Progress} {exchanges' : List Exchange}
    (course : plan.Course events exchanges outcome)
    (course' : plan.Course events' exchanges' outcome') {n : Nat}
    (alike : ∀ i < n, ∀ request reply reply', exchanges[i]? = some ⟨request, reply⟩ →
      exchanges'[i]? = some ⟨request, reply'⟩ → reply = reply') :
    (exchanges.map (·.request)).take (n + 1) = (exchanges'.map (·.request)).take (n + 1) := by
  induction course generalizing events' exchanges' n with
  | done =>
      cases course'
      rfl
  | log _ ih =>
      cases course' with
      | log rest => exact ih rest alike
  | report _ ih =>
      cases course' with
      | report rest => exact ih rest alike
  | @ask request next _ _ _ reply _ ih =>
      cases course' with
      | ask reply' rest =>
          refine congrArg (request :: ·) ?_
          cases n with
          | zero => rfl
          | succ n =>
              obtain rfl := alike 0 (Nat.succ_pos n) request reply reply' rfl rfl
              exact ih rest fun i below => alike (i + 1) (Nat.succ_lt_succ below)

/-! ## Steady plans -/

/-- The plan reports nothing by itself; it ends with the failure of any of its requests,
and no failure of them is one to be forgiven. -/
def Steady (forgives : Request → Failure → Prop) : Plan α → Prop
  | done _ => True
  | note (.log _) next => next.Steady forgives
  | note (.progress _) _ => False
  | ask request next =>
      (∀ failure, ¬ forgives request failure ∧ next (.error failure) = done (.error failure)) ∧
        ∀ answer, (next (.ok answer)).Steady forgives

variable {forgives : Request → Failure → Prop}

theorem Steady.bind {plan : Plan α} {next : α → Plan β} (steady : plan.Steady forgives)
    (rest : ∀ value, (next value).Steady forgives) : (plan >>= next).Steady forgives := by
  induction plan with
  | done outcome =>
      cases outcome with
      | ok value => exact rest value
      | error failure => trivial
  | note note plan ih =>
      cases note with
      | log entry => exact ih steady
      | progress step => exact steady.elim
  | ask request plan ih =>
      refine ⟨fun failure => ⟨(steady.1 failure).1, ?_⟩, fun answer => ih _ (steady.2 answer)⟩
      show plan (.error failure) >>= next = _
      rw [(steady.1 failure).2]
      rfl

theorem steady_request {request : Request} (strict : ∀ failure, ¬ forgives request failure) :
    (Plan.request request).Steady forgives :=
  ⟨fun failure => ⟨strict failure, rfl⟩, fun _ => trivial⟩

/-- A steady plan reports nothing. -/
theorem Steady.silent {plan : Plan α} {outcome : Except Failure α}
    (steady : plan.Steady forgives) (course : plan.Course events exchanges outcome) :
    events = [] := by
  induction course with
  | done => rfl
  | log _ ih => exact ih steady
  | report _ _ => exact steady.elim
  | @ask request next _ _ _ reply rest ih =>
      cases reply with
      | ok answer => exact ih (steady.2 answer)
      | error failure =>
          rw [(steady.1 failure).2] at rest
          cases rest
          rfl

/-- A failure of a request is not forgiven by a steady plan: it is the last thing that
the plan is told, and what it ends with. -/
theorem Steady.stops {plan : Plan α} {outcome : Except Failure α}
    (steady : plan.Steady forgives) {earlier later : List Exchange} {request : Request}
    {failure : Failure}
    (course : plan.Course events (earlier ++ ⟨request, .error failure⟩ :: later) outcome) :
    ¬ forgives request failure ∧ later = [] ∧ outcome = .error failure := by
  generalize split : earlier ++ ⟨request, .error failure⟩ :: later = exchanges at course
  induction course generalizing earlier with
  | done => simp at split
  | log _ ih => exact ih steady split
  | report _ _ => exact steady.elim
  | @ask own next _ _ _ reply rest ih =>
      cases earlier with
      | nil =>
          cases split
          obtain ⟨strict, ends⟩ := steady.1 failure
          rw [ends] at rest
          cases rest
          exact ⟨strict, rfl, rfl⟩
      | cons first earlier =>
          obtain ⟨-, tail⟩ := List.cons.inj split
          cases reply with
          | ok answer => exact ih (steady.2 answer) tail
          | error failure' =>
              rw [(steady.1 failure').2] at rest
              cases rest
              simp at tail

/-! ## Announced plans -/

/-- Report the beginning and the end of a plan, which is a failure if it fails. -/
def announced (begun ended : String) (body : Plan Unit) : Plan Unit := do
  report (.started begun)
  body.reported
  report (.succeeded ended)

/-- What is reported of a plan with an outcome: its beginning and its end. -/
def announcement (begun ended : String) (outcome : Except Failure Unit) : List Progress :=
  [.started begun, match outcome with
    | .ok _ => .succeeded ended
    | .error failure => .failed failure.message]

theorem announced_eq (begun ended : String) (body : Plan Unit) :
    announced begun ended body =
      note (.progress (.started begun))
        (body.reported >>= fun _ => note (.progress (.succeeded ended)) (done (.ok ()))) := rfl

/-- Of a plan that reports nothing by itself, its beginning and its end are reported. -/
theorem course_announced {begun ended : String} {body : Plan Unit}
    {outcome : Except Failure Unit} (silent : ∀ {events exchanges outcome},
      body.Course events exchanges outcome → events = []) :
    (announced begun ended body).Course events exchanges outcome ↔
      body.Course [] exchanges outcome ∧ events = announcement begun ended outcome := by
  rw [announced_eq]
  constructor
  · rintro (_ | _ | rest)
    rcases course_bind.mp rest with ⟨failure, own, rfl⟩ | ⟨_, _, _, _, _, own, later, rfl, rfl⟩
    · obtain ⟨earlier, inner, rfl⟩ := course_reported.mp own
      obtain rfl := silent inner
      exact ⟨inner, rfl⟩
    · obtain ⟨earlier, inner, rfl⟩ := course_reported.mp own
      obtain rfl := silent inner
      cases later with
      | report rest =>
          cases rest
          exact ⟨by simpa using inner, rfl⟩
  · rintro ⟨course, rfl⟩
    have own := course_reported.mpr ⟨[], course, rfl⟩
    refine .report ?_
    cases outcome with
    | ok value =>
        rw [← List.append_nil exchanges]
        exact own.bind (.report .done)
    | error failure => exact own.bind_error

end Plan

end ClusterPorts
