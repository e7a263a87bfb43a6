import ClusterPorts.Proofs.Network.Execution

/-!
# Plans on a network that fails

A request may fail, and a write that fails may have taken effect all the same.
`Ends` relates a store to what a whole run of a plan on such a network makes of
it, and `Leaves` to what is there after any number of the run's requests, so that
it covers runs that a failure has cut short as well as every moment of a run.

`Keeps` is the logic for these runs: the condition on a store under which an
invariant holds after every request of a plan, and an assertion holds of the
value that the plan ends with. It asks nothing of a plan that ends with a failure
beyond the invariant. `Keeps.leaves` and `Keeps.ends` are what it is worth. For a
plan that ends with its first failure, `Ends.run_eq` takes a run that succeeds
back to the run without failures.
-/

namespace ClusterPorts

/-- The failures that a network in a given state may answer a request with,
though it could fulfil it. -/
def Hazard := Store → Request → Failure → Prop

namespace Hazard

/-- Everything can fail in every way. -/
def any : Hazard := fun _ _ _ => True

/-- A subnet that exists is never said not to. -/
def HidesNoSubnet (hazard : Hazard) : Prop :=
  ∀ (store : Store) (network name : String) (failure : Failure),
    hazard store (.readSubnet network name) failure → failure.isNotFound →
      store.subnets.find? (Request.subnetPath network name) = none

end Hazard

section

variable {α β : Type} (groupId : String → String) (hazard : Hazard)

/-- What a network may do with a request. -/
inductive Served (store : Store) (request : Request) :
    Except Failure request.Answer → Store → Prop
  | fulfilled :
      Served store request (store.answer groupId request).1 (store.answer groupId request).2
  | refused {failure : Failure} (possible : hazard store request failure) :
      Served store request (.error failure) store
  /-- The request has its effect, but its sender is not told so. -/
  | lost {failure : Failure} (possible : hazard store request failure) :
      Served store request (.error failure) (store.answer groupId request).2

/-- The stores that are there at some moment of a run of a plan: at its start,
after any of its requests, or at its end. -/
inductive Leaves : Plan α → Store → Store → Prop
  | cut {plan : Plan α} {store : Store} : Leaves plan store store
  | note {note : Note} {next : Plan α} {store final : Store}
      (rest : Leaves next store final) : Leaves (.note note next) store final
  | ask {request : Request} {next : Except Failure request.Answer → Plan α}
      {reply : Except Failure request.Answer} {store middle final : Store}
      (served : Served groupId hazard store request reply middle)
      (rest : Leaves (next reply) middle final) : Leaves (.ask request next) store final

/-- The outcomes of a plan with the stores that they come with. -/
inductive Ends : Plan α → Store → Except Failure α → Store → Prop
  | done {outcome : Except Failure α} {store : Store} :
      Ends (.done outcome) store outcome store
  | note {note : Note} {next : Plan α} {outcome : Except Failure α} {store final : Store}
      (rest : Ends next store outcome final) : Ends (.note note next) store outcome final
  | ask {request : Request} {next : Except Failure request.Answer → Plan α}
      {reply : Except Failure request.Answer} {outcome : Except Failure α}
      {store middle final : Store}
      (served : Served groupId hazard store request reply middle)
      (rest : Ends (next reply) middle outcome final) :
      Ends (.ask request next) store outcome final

variable {groupId hazard}

/-- The end of a run is one of its moments. -/
theorem Ends.leaves {plan : Plan α} {outcome : Except Failure α} {store final : Store}
    (run : Ends groupId hazard plan store outcome final) :
    Leaves groupId hazard plan store final := by
  induction run with
  | done => exact .cut
  | note _ ih => exact .note ih
  | ask served _ ih => exact .ask served ih

/-- A run in which nothing fails is possible under every hazard. -/
theorem Ends.of_run (plan : Plan α) (store : Store) :
    Ends groupId hazard plan store (store.run groupId plan).1 (store.run groupId plan).2 := by
  induction plan generalizing store with
  | done outcome => exact .done
  | note note plan ih => exact .note (ih store)
  | ask request plan ih => exact .ask .fulfilled (ih _ _)

theorem Ends.of_run_eq {plan : Plan α} {store : Store} {outcome : Except Failure α}
    (eq : (store.run groupId plan).1 = outcome) :
    Ends groupId hazard plan store outcome (store.run groupId plan).2 :=
  eq ▸ .of_run plan store

/-- What a network in memory does, whatever its faults are, is a run of the plan
on a network where everything can fail. -/
theorem Ends.of_memory (plan : Plan α) (memory : Memory) :
    Ends memory.groupId .any plan memory.store (Memory.run plan memory).1
      (Memory.run plan memory).2.store := by
  induction plan generalizing memory with
  | done outcome => exact .done
  | note note plan ih => exact .note (ih { memory with notes := memory.notes ++ [note] })
  | ask request plan ih =>
      have step : Memory.run (.ask request plan) memory =
          Memory.run (plan (Memory.answer request memory).1)
            (Memory.answer request memory).2 := rfl
      have served : Served memory.groupId .any memory.store request
          (Memory.answer request memory).1 (Memory.answer request memory).2.store := by
        simp only [Memory.answer]
        split
        · exact .refused trivial
        · exact .fulfilled
      have same : (Memory.answer request memory).2.groupId = memory.groupId := by
        simp only [Memory.answer]
        split <;> rfl
      rw [step]
      exact .ask served (same ▸ ih (Memory.answer request memory).1
        (Memory.answer request memory).2)

/-! ## Invariants of a run -/

variable (groupId hazard)

/-- From this store on, `invariant` holds after every request of the plan, and if
the plan ends with a value, `good` holds of it and of the store at the end. -/
def Keeps (invariant : Store → Prop) : Plan α → (α → Store → Prop) → Store → Prop
  | .done (.ok value), good, store => good value store
  | .done (.error _), _, _ => True
  | .note _ next, good, store => Keeps invariant next good store
  | .ask request next, good, store =>
      ∀ reply middle, Served groupId hazard store request reply middle →
        invariant middle ∧ Keeps invariant (next reply) good middle

variable {groupId hazard} {invariant : Store → Prop} {good : α → Store → Prop} {store : Store}

/-- The invariant holds at every moment of the run. -/
theorem Keeps.leaves {plan : Plan α} {final : Store}
    (keeps : Keeps groupId hazard invariant plan good store) (here : invariant store)
    (run : Leaves groupId hazard plan store final) : invariant final := by
  induction run with
  | cut => exact here
  | note _ ih => exact ih keeps here
  | ask served _ ih =>
      obtain ⟨there, keeps⟩ := keeps _ _ served
      exact ih keeps there

/-- The assertion holds at the end of a run that ends with a value. -/
theorem Keeps.ends {plan : Plan α} {value : α} {final : Store}
    (keeps : Keeps groupId hazard invariant plan good store)
    (run : Ends groupId hazard plan store (.ok value) final) : good value final := by
  generalize outcome_eq : (Except.ok value : Except Failure α) = outcome at run
  induction run with
  | done =>
      subst outcome_eq
      exact keeps
  | note _ ih => exact ih keeps outcome_eq
  | ask served _ ih => exact ih (keeps _ _ served).2 outcome_eq

/-- What holds at the end may be weakened. -/
theorem Keeps.imp {plan : Plan α} {good' : α → Store → Prop}
    (keeps : Keeps groupId hazard invariant plan good store)
    (weaker : ∀ value final, good value final → good' value final) :
    Keeps groupId hazard invariant plan good' store := by
  induction plan generalizing store with
  | done outcome =>
      cases outcome with
      | ok value => exact weaker value store keeps
      | error failure => trivial
  | note note plan ih => exact ih keeps
  | ask request plan ih =>
      intro reply middle served
      obtain ⟨there, keeps⟩ := keeps reply middle served
      exact ⟨there, ih reply keeps⟩

/-- A plan can be taken apart where it goes on with a value. -/
theorem keeps_bind {plan : Plan α} {next : α → Plan β} {good : β → Store → Prop} :
    Keeps groupId hazard invariant (plan >>= next) good store ↔
      Keeps groupId hazard invariant plan
        (fun value => Keeps groupId hazard invariant (next value) good) store := by
  induction plan generalizing store with
  | done outcome => cases outcome <;> rfl
  | note note plan ih => exact ih
  | ask request plan ih =>
      exact forall₂_congr fun reply middle =>
        imp_congr_right fun _ => and_congr_right fun _ => ih reply

/-- One plan after the other: what holds at the end of the first is what the
second may rely on. -/
theorem Keeps.bind {plan : Plan α} {next : α → Plan β} {good' : β → Store → Prop}
    (keeps : Keeps groupId hazard invariant plan good store)
    (rest : ∀ value middle, good value middle →
      Keeps groupId hazard invariant (next value) good' middle) :
    Keeps groupId hazard invariant (plan >>= next) good' store :=
  keeps_bind.mpr (keeps.imp rest)

/-- Reporting a failure does not touch the store. -/
@[simp]
theorem keeps_reported {plan : Plan α} :
    Keeps groupId hazard invariant plan.reported good store ↔
      Keeps groupId hazard invariant plan good store := by
  induction plan generalizing store with
  | done outcome => cases outcome <;> rfl
  | note note plan ih => exact ih
  | ask request plan ih =>
      exact forall₂_congr fun reply middle =>
        imp_congr_right fun _ => and_congr_right fun _ => ih reply

@[simp]
theorem keeps_log {entry : LogEntry} {good : Unit → Store → Prop} :
    Keeps groupId hazard invariant (Plan.log entry) good store ↔ good () store := Iff.rfl

@[simp]
theorem keeps_report {step : Progress} {good : Unit → Store → Prop} :
    Keeps groupId hazard invariant (Plan.report step) good store ↔ good () store := Iff.rfl

/-- A request that the plan gives up on when it fails: the store is the one
before it or the one after it, and in the second case only if it has an answer
the plan goes on. -/
theorem keeps_request {request : Request} {good : request.Answer → Store → Prop}
    (before : invariant store) (after : invariant (store.answer groupId request).2)
    (next : ∀ answer, (store.answer groupId request).1 = .ok answer →
      good answer (store.answer groupId request).2) :
    Keeps groupId hazard invariant (Plan.request request) good store := by
  intro reply middle served
  cases served with
  | fulfilled =>
      refine ⟨after, ?_⟩
      cases eq : (store.answer groupId request).1 with
      | ok answer => exact next answer eq
      | error failure => trivial
  | refused _ => exact ⟨before, trivial⟩
  | lost _ => exact ⟨after, trivial⟩

/-- Reading a subnet: the plan goes on only with the subnet that is there. -/
theorem keeps_readSubnet {network name : String} {good : Subnet → Store → Prop}
    (here : invariant store)
    (found : ∀ subnet, store.subnets.find? (Request.subnetPath network name) = some subnet →
      good subnet store) :
    Keeps groupId hazard invariant (Plan.request (.readSubnet network name)) good store := by
  have unchanged := store.answer_readSubnet_snd groupId network name
  apply keeps_request here (unchanged.symm ▸ here)
  intro subnet eq
  rw [unchanged]
  apply found subnet
  simp only [Store.answer] at eq
  split at eq
  · next other there =>
    cases eq
    exact there
  · cases eq

/-- Looking for a subnet: the plan goes on without one if there is none, or if the
network may say so. -/
theorem keeps_find_subnet {network name : String}
    {good : Option Subnet → Store → Prop} (here : invariant store)
    (found : ∀ subnet, store.subnets.find? (Request.subnetPath network name) = some subnet →
      good (some subnet) store)
    (missing : (store.subnets.find? (Request.subnetPath network name) = none ∨
        ∃ failure, failure.isNotFound ∧ hazard store (.readSubnet network name) failure) →
      good none store) :
    Keeps groupId hazard invariant (Plan.find (.readSubnet network name)) good store := by
  have refused (failure : Failure)
      (possible : hazard store (.readSubnet network name) failure) :
      Keeps groupId hazard invariant
        (if failure.isNotFound then pure none else Plan.fail failure) good store := by
    by_cases notFound : failure.isNotFound = true
    · rw [if_pos notFound]
      exact missing (.inr ⟨failure, notFound, possible⟩)
    · rw [if_neg notFound]
      trivial
  intro reply middle served
  cases served with
  | fulfilled =>
      cases eq : store.subnets.find? (Request.subnetPath network name) with
      | some subnet =>
          simp only [Store.answer, eq]
          exact ⟨here, found subnet eq⟩
      | none =>
          simp only [Store.answer, eq]
          exact ⟨here, missing (.inl eq)⟩
  | refused possible => exact ⟨here, refused _ possible⟩
  | lost possible =>
      rw [store.answer_readSubnet_snd groupId network name]
      exact ⟨here, refused _ possible⟩

end

/-! ## Plans that end with their first failure -/

namespace Plan

variable {α β : Type}

/-- The plan fails, whatever happens, and makes no request before it does. -/
def GivesUp : Plan α → Prop
  | done (.ok _) => False
  | done (.error _) => True
  | note _ next => GivesUp next
  | ask _ _ => False

/-- The plan gives up when one of its requests fails. -/
def FailStop : Plan α → Prop
  | done _ => True
  | note _ next => FailStop next
  | ask _ next =>
      (∀ failure, GivesUp (next (.error failure))) ∧ ∀ answer, FailStop (next (.ok answer))

theorem GivesUp.bind {plan : Plan α} (gives : plan.GivesUp) (next : α → Plan β) :
    (plan >>= next).GivesUp := by
  induction plan with
  | done outcome =>
      cases outcome with
      | ok value => exact gives.elim
      | error failure => trivial
  | note note plan ih => exact ih gives
  | ask request plan ih => exact gives.elim

theorem GivesUp.reported {plan : Plan α} (gives : plan.GivesUp) : plan.reported.GivesUp := by
  induction plan with
  | done outcome =>
      cases outcome with
      | ok value => exact gives.elim
      | error failure => trivial
  | note note plan ih => exact ih gives
  | ask request plan ih => exact gives.elim

theorem FailStop.bind {plan : Plan α} (stops : plan.FailStop) {next : α → Plan β}
    (then_stops : ∀ value, (next value).FailStop) : (plan >>= next).FailStop := by
  induction plan with
  | done outcome =>
      cases outcome with
      | ok value => exact then_stops value
      | error failure => trivial
  | note note plan ih => exact ih stops
  | ask request plan ih =>
      obtain ⟨gives, stops⟩ := stops
      exact ⟨fun failure => (gives failure).bind next, fun answer => ih _ (stops answer)⟩

theorem FailStop.reported {plan : Plan α} (stops : plan.FailStop) : plan.reported.FailStop := by
  induction plan with
  | done outcome => cases outcome <;> trivial
  | note note plan ih => exact ih stops
  | ask request plan ih =>
      obtain ⟨gives, stops⟩ := stops
      exact ⟨fun failure => (gives failure).reported, fun answer => ih _ (stops answer)⟩

theorem failStop_request (request : Request) : (Plan.request request).FailStop :=
  ⟨fun _ => trivial, fun _ => trivial⟩

end Plan

section

variable {α : Type} {groupId : String → String} {hazard : Hazard}

theorem Plan.GivesUp.not_ends_ok {plan : Plan α} (gives : plan.GivesUp) {store final : Store}
    {value : α} : ¬ Ends groupId hazard plan store (.ok value) final := by
  intro run
  generalize outcome_eq : (Except.ok value : Except Failure α) = outcome at run
  induction run with
  | done =>
      subst outcome_eq
      exact gives
  | note _ ih => exact ih gives outcome_eq
  | ask _ _ _ => exact gives

/-- If a plan that ends with its first failure does not fail, then nothing has
failed. -/
theorem Ends.run_eq {plan : Plan α} (stops : plan.FailStop) {store final : Store} {value : α}
    (run : Ends groupId hazard plan store (.ok value) final) :
    store.run groupId plan = (.ok value, final) := by
  generalize outcome_eq : (Except.ok value : Except Failure α) = outcome at run
  induction run with
  | done => rfl
  | note _ ih => exact ih stops outcome_eq
  | @ask request next reply outcome store middle final served rest ih =>
      subst outcome_eq
      obtain ⟨gives, stops⟩ := stops
      cases served with
      | fulfilled =>
          cases eq : (store.answer groupId request).1 with
          | ok answer =>
              rw [eq] at ih
              rw [Store.run_ask, eq]
              exact ih (stops answer) rfl
          | error failure =>
              rw [eq] at rest
              exact absurd rest (gives failure).not_ends_ok
      | refused _ => exact absurd rest (gives _).not_ends_ok
      | lost _ => exact absurd rest (gives _).not_ends_ok

end

end ClusterPorts
