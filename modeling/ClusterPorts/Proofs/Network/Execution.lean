import ClusterPorts.Network.Memory

/-!
# Plans on a store that fulfils every request

`Store.run` is the run of a plan when nothing goes wrong. It forgets notes and
requests, so what a plan does is a function from stores to stores, and the laws
below compute it along the plan. A network in memory without faults runs a plan
in exactly this way; what faults change is not the subject here.
-/

namespace ClusterPorts

namespace Store

variable {α β : Type} (groupId : String → String)

/-- Run a plan on a store that fulfils every request. -/
def run (plan : Plan α) (store : Store) : Except Failure α × Store :=
  plan.run (m := StateM Store) (fun _ => pure ())
    (fun request store => store.answer groupId request) store

@[simp]
theorem run_ask (request : Request) (next : Except Failure request.Answer → Plan α)
    (store : Store) :
    run groupId (.ask request next) store =
      run groupId (next (store.answer groupId request).1)
        (store.answer groupId request).2 := rfl

/-- A failure in the first part of a plan skips the second one; what the first
part has written stays. -/
theorem run_bind (plan : Plan α) (next : α → Plan β) (store : Store) :
    run groupId (plan >>= next) store =
      match run groupId plan store with
      | (.ok value, store) => run groupId (next value) store
      | (.error failure, store) => (.error failure, store) := by
  induction plan generalizing store with
  | done outcome => cases outcome <;> rfl
  | note note plan ih => exact ih store
  | ask request plan ih => exact ih _ _

/-- Two parts of a plan succeed together exactly if the second one succeeds on
what the first one leaves. -/
theorem run_bind_eq_ok {plan : Plan α} {next : α → Plan β} {store final : Store} {value : β} :
    run groupId (plan >>= next) store = (.ok value, final) ↔
      ∃ first middle, run groupId plan store = (.ok first, middle) ∧
        run groupId (next first) middle = (.ok value, final) := by
  rw [run_bind]
  constructor
  · intro h
    split at h
    · next first middle eq => exact ⟨first, middle, eq, h⟩
    · cases h
  · rintro ⟨first, middle, eq, h⟩
    rw [eq]
    exact h

theorem run_eq_of_fst {plan : Plan α} {store : Store} {value : α}
    (ok : (run groupId plan store).1 = .ok value) :
    run groupId plan store = (.ok value, (run groupId plan store).2) := Prod.ext ok rfl

/-- Reporting a failure does not touch the store. -/
@[simp]
theorem run_reported (plan : Plan α) (store : Store) :
    run groupId plan.reported store = run groupId plan store := by
  induction plan generalizing store with
  | done outcome => cases outcome <;> rfl
  | note note plan ih => exact ih store
  | ask request plan ih => exact ih _ _

@[simp]
theorem run_log (entry : LogEntry) (store : Store) :
    run groupId (Plan.log entry) store = (.ok (), store) := rfl

@[simp]
theorem run_report (step : Progress) (store : Store) :
    run groupId (Plan.report step) store = (.ok (), store) := rfl

@[simp]
theorem run_fail (failure : Failure) (store : Store) :
    run groupId (Plan.fail failure : Plan α) store = (.error failure, store) := rfl

@[simp]
theorem run_readGroup (name : String) (store : Store) :
    run (α := Option SecurityGroup) groupId (Plan.request (.readGroup name)) store =
      (.ok (store.groups.find? name), store) := rfl

@[simp]
theorem run_writeGroup (group : SecurityGroup) (store : Store) :
    run (α := Unit) groupId (Plan.request (.writeGroup group)) store =
      (.ok (), { store with
        groups := store.groups.insert group.name (withId groupId group) }) := rfl

@[simp]
theorem run_deleteGroup (name : String) (store : Store) :
    run (α := Unit) groupId (Plan.request (.deleteGroup name)) store =
      (.ok (), { store with groups := store.groups.erase name }) := rfl

@[simp]
theorem run_readBalancer (name : String) (store : Store) :
    run (α := Option LoadBalancer) groupId (Plan.request (.readBalancer name)) store =
      (.ok (store.balancers.find? name), store) := rfl

@[simp]
theorem run_writeBalancer (balancer : LoadBalancer) (store : Store) :
    run (α := Unit) groupId (Plan.request (.writeBalancer balancer)) store =
      (.ok (), { store with
        balancers := store.balancers.insert balancer.name balancer }) := rfl

@[simp]
theorem run_writeSubnet (network : String) (subnet : Subnet) (store : Store) :
    run (α := Unit) groupId (Plan.request (.writeSubnet network subnet)) store =
      (.ok (), { store with subnets :=
        store.subnets.insert (Request.subnetPath network subnet.name) subnet }) := rfl

/-- Reading a subnet does not touch the store. -/
theorem answer_readSubnet_snd (network name : String) (store : Store) :
    (store.answer groupId (.readSubnet network name)).2 = store := by
  simp only [answer]
  split <;> rfl

theorem answer_snd_of_reads {request : Request} (reads : request.isWrite = false)
    (store : Store) : (store.answer groupId request).2 = store := by
  cases request with
  | readGroup _ => rfl
  | readBalancer _ => rfl
  | readSubnet network name => exact answer_readSubnet_snd groupId network name store
  | writeGroup _ => cases reads
  | deleteGroup _ => cases reads
  | writeSubnet _ _ => cases reads
  | writeBalancer _ => cases reads

/-- Reading a subnet gives it, or fails because it is missing. -/
@[simp]
theorem run_readSubnet (network name : String) (store : Store) :
    run (α := Subnet) groupId (Plan.request (.readSubnet network name)) store =
      match store.subnets.find? (Request.subnetPath network name) with
      | some subnet => (.ok subnet, store)
      | none =>
          (.error (.notFound ("subnet " ++ Request.subnetPath network name)), store) := by
  show run groupId (.ask _ .done) store = _
  rw [run_ask]
  simp only [answer]
  cases store.subnets.find? (Request.subnetPath network name) <;> rfl

/-- Looking for a subnet never fails: a missing one is no answer. -/
@[simp]
theorem run_find_subnet (network name : String) (store : Store) :
    run (α := Option Subnet) groupId (Plan.find (.readSubnet network name)) store =
      (.ok (store.subnets.find? (Request.subnetPath network name)), store) := by
  rw [Plan.find, run_ask]
  simp only [answer]
  cases store.subnets.find? (Request.subnetPath network name) <;> rfl

/-- Stores in which the same is found are equal. -/
theorem eq_of_find? {store other : Store}
    (groups : ∀ key, store.groups.find? key = other.groups.find? key)
    (subnets : ∀ key, store.subnets.find? key = other.subnets.find? key)
    (balancers : ∀ key, store.balancers.find? key = other.balancers.find? key) :
    store = other := by
  obtain ⟨g, s, b⟩ := store
  obtain ⟨g', s', b'⟩ := other
  obtain rfl : g = g' := Table.ext groups
  obtain rfl : s = s' := Table.ext subnets
  obtain rfl : b = b' := Table.ext balancers
  rfl

end Store

namespace Memory

variable {α : Type}

/-- Without faults, a network in memory answers a request as its store does, and
remembers it. -/
theorem answer_of_no_faults (request : Request) (memory : Memory) (none : memory.faults = []) :
    answer request memory = ((memory.store.answer memory.groupId request).1,
      { memory with
        requests := memory.requests ++ [request]
        store := (memory.store.answer memory.groupId request).2 }) := by
  simp only [answer, none, Fault.strike]

/-- Without faults, a network in memory runs a plan as its store does. -/
theorem run_of_no_faults (plan : Plan α) (memory : Memory) (none : memory.faults = []) :
    (run plan memory).1 = (Store.run memory.groupId plan memory.store).1 ∧
      (run plan memory).2.store = (Store.run memory.groupId plan memory.store).2 := by
  induction plan generalizing memory with
  | done outcome => exact ⟨rfl, rfl⟩
  | note note plan ih => exact ih { memory with notes := memory.notes ++ [note] } none
  | ask request plan ih =>
      have step : run (.ask request plan) memory =
          run (plan (answer request memory).1) (answer request memory).2 := rfl
      rw [step, answer_of_no_faults request memory none]
      exact ih _ _ none

end Memory

end ClusterPorts
