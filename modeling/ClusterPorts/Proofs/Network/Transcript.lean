import ClusterPorts.Proofs.Network.Execution

/-!
# Transcripts

A transcript lists what passes between a plan and a network: the requests, each
with what was answered to it. `Plan.exchanges` is the transcript of a run with
something that answers, of whatever kind it is, and `Plan.Transcript` says which
transcripts there can be at all when nothing is known about the answers.

`Obeys` is the logic for these: the condition under which each request of a plan is
one that a law admits after the exchanges before it. It asks nothing of the network.
`Obeys.admits` is what it is worth.
-/

namespace ClusterPorts

/-- A request, and what was answered to it. -/
structure Exchange where
  request : Request
  reply : Except Failure request.Answer

namespace Plan

variable {α : Type}

/-- What may have passed between the plan and a network at some moment of a run.
The network may answer anything to any request. -/
inductive Transcript : Plan α → List Exchange → Prop
  | cut {plan : Plan α} : Transcript plan []
  | note {note : Note} {next : Plan α} {exchanges : List Exchange}
      (rest : Transcript next exchanges) : Transcript (.note note next) exchanges
  | ask {request : Request} {next : Except Failure request.Answer → Plan α}
      {exchanges : List Exchange} (reply : Except Failure request.Answer)
      (rest : Transcript (next reply) exchanges) :
      Transcript (.ask request next) (⟨request, reply⟩ :: exchanges)

variable {σ : Type} (takeNote : Note → StateM σ Unit)
  (answer : (request : Request) → StateM σ (Except Failure request.Answer))

/-- What passes in a run of the plan with something that takes its notes and answers
its requests, and that has a state of its own. -/
def exchanges : Plan α → σ → List Exchange
  | done _, _ => []
  | note n next, state => next.exchanges (takeNote n state).2
  | ask request next, state =>
      ⟨request, (answer request state).1⟩ ::
        (next (answer request state).1).exchanges (answer request state).2

/-- What passes in a run is a transcript, whatever it is that answers. -/
theorem transcript_exchanges (plan : Plan α) (state : σ) :
    plan.Transcript (plan.exchanges takeNote answer state) := by
  induction plan generalizing state with
  | done outcome => exact .cut
  | note note plan ih => exact .note (ih _)
  | ask request plan ih => exact .ask _ (ih _ _)

end Plan

/-! ## The requests of a run without failures -/

namespace Store

variable {α β : Type} (groupId : String → String)

/-- The requests that a plan makes to a store that fulfils every one of them. -/
def requests (plan : Plan α) (store : Store) : List Request :=
  (plan.exchanges (fun _ => pure ()) (fun request store => store.answer groupId request)
    store).map (·.request)

/-- A plan that goes on with the value of another one makes its requests after the
other's. -/
theorem requests_bind {plan : Plan α} {next : α → Plan β} {store middle : Store} {value : α}
    (ok : run groupId plan store = (.ok value, middle)) :
    requests groupId (plan >>= next) store =
      requests groupId plan store ++ requests groupId (next value) middle := by
  induction plan generalizing store with
  | done outcome =>
      cases outcome with
      | error failure => cases ok
      | ok value =>
          cases ok
          rfl
  | note note plan ih => exact ih ok
  | ask request plan ih => exact congrArg (request :: ·) (ih _ ok)

/-- Reporting a failure is not a request. -/
@[simp]
theorem requests_reported (plan : Plan α) (store : Store) :
    requests groupId plan.reported store = requests groupId plan store := by
  induction plan generalizing store with
  | done outcome => cases outcome <;> rfl
  | note note plan ih => exact ih store
  | ask request plan ih => exact congrArg (request :: ·) (ih _ _)

/-- The plan ends with a value on the store and has changed nothing then: it has
only read. -/
structure Idle (plan : Plan α) (value : α) (store : Store) : Prop where
  run_eq : run groupId plan store = (.ok value, store)
  reads : ∀ request ∈ requests groupId plan store, request.isWrite = false

variable {groupId} {plan : Plan α} {value : α} {store : Store}

theorem idle_done : Idle groupId (.done (.ok value)) value store :=
  ⟨rfl, fun _ member => absurd member List.not_mem_nil⟩

theorem idle_log (entry : LogEntry) : Idle groupId (Plan.log entry) () store :=
  ⟨rfl, fun _ member => absurd member List.not_mem_nil⟩

theorem idle_report (step : Progress) : Idle groupId (Plan.report step) () store :=
  ⟨rfl, fun _ member => absurd member List.not_mem_nil⟩

theorem idle_readGroup (name : String) :
    Idle groupId (Plan.request (.readGroup name)) (store.groups.find? name) store :=
  ⟨rfl, List.forall_mem_singleton.mpr rfl⟩

theorem idle_readBalancer (name : String) :
    Idle groupId (Plan.request (.readBalancer name)) (store.balancers.find? name) store :=
  ⟨rfl, List.forall_mem_singleton.mpr rfl⟩

theorem idle_readSubnet {network name : String} {subnet : Subnet}
    (found : store.subnets.find? (Request.subnetPath network name) = some subnet) :
    Idle groupId (Plan.request (.readSubnet network name)) subnet store :=
  ⟨by rw [run_readSubnet, found], List.forall_mem_singleton.mpr rfl⟩

theorem Idle.bind {next : α → Plan β} {result : β} (idle : Idle groupId plan value store)
    (rest : Idle groupId (next value) result store) :
    Idle groupId (plan >>= next) result store where
  run_eq := (run_bind_eq_ok groupId).mpr ⟨value, store, idle.run_eq, rest.run_eq⟩
  reads request member := by
    rw [requests_bind groupId idle.run_eq] at member
    rcases List.mem_append.mp member with first | second
    · exact idle.reads request first
    · exact rest.reads request second

theorem Idle.reported (idle : Idle groupId plan value store) :
    Idle groupId plan.reported value store where
  run_eq := (run_reported groupId plan store).trans idle.run_eq
  reads := by
    rw [requests_reported]
    exact idle.reads

end Store

namespace Memory

variable {α : Type}

/-- A network in memory remembers the requests that are made to it. -/
theorem requests_run (plan : Plan α) (memory : Memory) :
    (run plan memory).2.requests =
      memory.requests ++ (plan.exchanges takeNote answer memory).map (·.request) := by
  induction plan generalizing memory with
  | done outcome => exact (List.append_nil _).symm
  | note note plan ih => exact ih { memory with notes := memory.notes ++ [note] }
  | ask request plan ih =>
      have remembered : (answer request memory).2.requests = memory.requests ++ [request] := by
        simp only [answer]
        split <;> rfl
      have step : run (.ask request plan) memory =
          run (plan (answer request memory).1) (answer request memory).2 := rfl
      rw [step, ih, remembered, List.append_assoc]
      rfl

/-- Without faults, they are the requests that its store fulfils. -/
theorem requests_of_no_faults (plan : Plan α) (memory : Memory) (none : memory.faults = []) :
    (run plan memory).2.requests =
      memory.requests ++ memory.store.requests memory.groupId plan := by
  rw [requests_run]
  congr 1
  induction plan generalizing memory with
  | done outcome => rfl
  | note note plan ih => exact ih { memory with notes := memory.notes ++ [note] } none
  | ask request plan ih =>
      rw [Plan.exchanges, answer_of_no_faults request memory none]
      exact congrArg (request :: ·) (ih _ _ none)

/-- All that an idle plan does to a network in memory is to read. -/
theorem run_of_idle {plan : Plan α} {value : α} {memory : Memory} (none : memory.faults = [])
    (idle : Store.Idle memory.groupId plan value memory.store) :
    (run plan memory).1 = .ok value ∧ (run plan memory).2.store = memory.store ∧
      ∃ reads : List Request, (∀ request ∈ reads, request.isWrite = false) ∧
        (run plan memory).2.requests = memory.requests ++ reads := by
  obtain ⟨outcome, store⟩ := run_of_no_faults plan memory none
  rw [idle.run_eq] at outcome store
  exact ⟨outcome, store, _, idle.reads, requests_of_no_faults plan memory none⟩

end Memory

/-! ## Laws for the requests of a plan -/

section

variable {α β : Type} (law : List Exchange → Request → Prop)

/-- After some exchanges, the law admits every request of the plan, whatever is
answered, and if the plan ends with a value, `good` holds of it and of all that has
been exchanged then. -/
def Obeys : Plan α → (α → List Exchange → Prop) → List Exchange → Prop
  | .done (.ok value), good, past => good value past
  | .done (.error _), _, _ => True
  | .note _ next, good, past => Obeys next good past
  | .ask request next, good, past =>
      law past request ∧ ∀ reply, Obeys (next reply) good (past ++ [⟨request, reply⟩])

variable {law} {good : α → List Exchange → Prop} {past : List Exchange}

/-- The law admits every request in every transcript, after the exchanges before it. -/
theorem Obeys.admits {plan : Plan α} {exchanges earlier later : List Exchange}
    {exchange : Exchange} (obeys : Obeys law plan good past) (run : plan.Transcript exchanges)
    (split : exchanges = earlier ++ exchange :: later) :
    law (past ++ earlier) exchange.request := by
  induction run generalizing past earlier with
  | cut => exact absurd split.symm (List.append_ne_nil_of_right_ne_nil _ (List.cons_ne_nil _ _))
  | note _ ih => exact ih obeys split
  | ask reply _ ih =>
      obtain ⟨here, rest⟩ := obeys
      cases earlier with
      | nil =>
          obtain ⟨rfl, _⟩ := List.cons.inj split
          rw [List.append_nil]
          exact here
      | cons first earlier =>
          obtain ⟨rfl, later_split⟩ := List.cons.inj split
          have admitted := ih (rest reply) later_split
          rwa [List.append_assoc] at admitted

/-- A plan that obeys a law obeys a weaker one. -/
theorem Obeys.weaken {plan : Plan α} {law' : List Exchange → Request → Prop}
    (obeys : Obeys law plan good past) (weaker : ∀ past request, law past request →
      law' past request) : Obeys law' plan good past := by
  induction plan generalizing past with
  | done outcome => cases outcome <;> exact obeys
  | note note plan ih => exact ih obeys
  | ask request plan ih => exact ⟨weaker _ _ obeys.1, fun reply => ih reply (obeys.2 reply)⟩

/-- What holds at the end may be weakened. -/
theorem Obeys.imp {plan : Plan α} {good' : α → List Exchange → Prop}
    (obeys : Obeys law plan good past)
    (weaker : ∀ value future, good value future → good' value future) :
    Obeys law plan good' past := by
  induction plan generalizing past with
  | done outcome =>
      cases outcome with
      | ok value => exact weaker value past obeys
      | error failure => trivial
  | note note plan ih => exact ih obeys
  | ask request plan ih => exact ⟨obeys.1, fun reply => ih reply (obeys.2 reply)⟩

/-- A plan can be taken apart where it goes on with a value. -/
theorem obeys_bind {plan : Plan α} {next : α → Plan β} {good : β → List Exchange → Prop} :
    Obeys law (plan >>= next) good past ↔
      Obeys law plan (fun value => Obeys law (next value) good) past := by
  induction plan generalizing past with
  | done outcome => cases outcome <;> rfl
  | note note plan ih => exact ih
  | ask request plan ih => exact and_congr_right fun _ => forall_congr' fun reply => ih reply

/-- One plan after the other: what holds at the end of the first is what the second
may rely on. -/
theorem Obeys.bind {plan : Plan α} {next : α → Plan β} {good' : β → List Exchange → Prop}
    (obeys : Obeys law plan good past)
    (rest : ∀ value future, good value future → Obeys law (next value) good' future) :
    Obeys law (plan >>= next) good' past :=
  obeys_bind.mpr (obeys.imp rest)

/-- Reporting a failure is not a request. -/
@[simp]
theorem obeys_reported {plan : Plan α} :
    Obeys law plan.reported good past ↔ Obeys law plan good past := by
  induction plan generalizing past with
  | done outcome => cases outcome <;> rfl
  | note note plan ih => exact ih
  | ask request plan ih => exact and_congr_right fun _ => forall_congr' fun reply => ih reply

@[simp]
theorem obeys_log {entry : LogEntry} {good : Unit → List Exchange → Prop} :
    Obeys law (Plan.log entry) good past ↔ good () past := Iff.rfl

@[simp]
theorem obeys_report {step : Progress} {good : Unit → List Exchange → Prop} :
    Obeys law (Plan.report step) good past ↔ good () past := Iff.rfl

/-- A request that the plan gives up on when it fails. -/
theorem obeys_request {request : Request} {good : request.Answer → List Exchange → Prop}
    (admitted : law past request)
    (next : ∀ answer, good answer (past ++ [⟨request, .ok answer⟩])) :
    Obeys law (Plan.request request) good past := by
  refine ⟨admitted, fun reply => ?_⟩
  cases reply with
  | ok answer => exact next answer
  | error failure => trivial

/-- A request for something that may be missing. -/
theorem obeys_find {request : Request} {good : Option request.Answer → List Exchange → Prop}
    (admitted : law past request)
    (found : ∀ answer, good (some answer) (past ++ [⟨request, .ok answer⟩]))
    (missing : ∀ failure : Failure, failure.isNotFound = true →
      good none (past ++ [⟨request, .error failure⟩])) :
    Obeys law (Plan.find request) good past := by
  refine ⟨admitted, fun reply => ?_⟩
  cases reply with
  | ok answer => exact found answer
  | error failure =>
      by_cases notFound : failure.isNotFound = true
      · simp only [notFound, if_true]
        exact missing failure notFound
      · simp only [notFound]
        trivial

end

end ClusterPorts
