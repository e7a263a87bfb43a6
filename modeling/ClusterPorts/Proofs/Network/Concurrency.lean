import ClusterPorts.Proofs.Network.Execution
import Mathlib.Logic.Hydra
import Mathlib.Logic.Relation

/-!
# Plans that run at the same time

Several plans run on one store that fulfils every request. `Concurrent.Step` lets
any of them leave a note or have one request answered; between two requests of a
plan the others may do whatever they do. Every plan ends after finitely many
steps, whatever it is answered, so there are no endless interleavings.

`Withstands` is the logic of one plan among others. What the others may do to the
store between its requests is a relation, `moves`, and the plan's own requests
have to stay within the same relation. Then plans that withstand each other's
moves alone do so together: `Concurrent.Step.withstands` is the one step of this,
and `Concurrent.withstands_of_steps` the run.
-/

namespace ClusterPorts

variable {α β : Type}

/-! ## Interleavings -/

/-- A plan after one of its notes, or after any answer to its first request. -/
inductive Plan.Goes : Plan α → Plan α → Prop
  | note {note : Note} {next : Plan α} : Goes next (.note note next)
  | ask {request : Request} {next : Except Failure request.Answer → Plan α}
      (answer : Except Failure request.Answer) : Goes (next answer) (.ask request next)

/-- No plan goes on forever. -/
theorem Plan.wellFounded_goes : WellFounded (Plan.Goes (α := α)) := by
  refine ⟨fun plan => ?_⟩
  induction plan with
  | done outcome => exact ⟨_, fun _ goes => nomatch goes⟩
  | note note plan ih => exact ⟨_, fun | _, .note => ih⟩
  | ask request plan ih => exact ⟨_, fun | _, .ask answer => ih answer⟩

/-- Plans that run at the same time, and the store that they share. -/
structure Concurrent (α : Type) where
  plans : List (Plan α)
  store : Store

namespace Concurrent

/-- One of the plans leaves a note, or its next request is answered. -/
inductive Step (groupId : String → String) : Concurrent α → Concurrent α → Prop
  | note {before after : List (Plan α)} {note : Note} {next : Plan α} {store : Store} :
      Step groupId ⟨before ++ .note note next :: after, store⟩ ⟨before ++ next :: after, store⟩
  | ask {before after : List (Plan α)} {request : Request}
      {next : Except Failure request.Answer → Plan α} {store : Store} :
      Step groupId ⟨before ++ .ask request next :: after, store⟩
        ⟨before ++ next (store.answer groupId request).1 :: after,
          (store.answer groupId request).2⟩

/-- Some plans from the start, and the store that they start on. -/
def copies (count : Nat) (plan : Plan α) (store : Store) : Concurrent α :=
  ⟨List.replicate count plan, store⟩

variable {groupId : String → String} {now next : Concurrent α}

/-- A step puts the rest of one plan in the plan's place. -/
theorem Step.cutExpand (step : Step groupId now next) :
    Relation.CutExpand Plan.Goes (next.plans : Multiset (Plan α)) now.plans := by
  have replaced (before after : List (Plan α)) {rest plan : Plan α} (goes : Plan.Goes rest plan) :
      Relation.CutExpand Plan.Goes ((before ++ rest :: after : List (Plan α)) : Multiset (Plan α))
        (before ++ plan :: after : List (Plan α)) := by
    simp only [← Multiset.coe_add, ← Multiset.cons_coe, ← Multiset.singleton_add]
    exact (Relation.cutExpand_add_left _).mpr (Relation.cutExpand_single_add goes _)
  cases step with
  | note => exact replaced _ _ .note
  | ask => exact replaced _ _ (.ask _)

instance (groupId : String → String) :
    IsWellFounded (Concurrent α) fun next now => Step groupId now next where
  wf := Subrelation.wf (fun step => Step.cutExpand step)
    (InvImage.wf (fun now : Concurrent α => (now.plans : Multiset (Plan α)))
      Plan.wellFounded_goes.cutExpand)

/-- There are no endless interleavings. -/
theorem exists_not_step (groupId : String → String) (run : Nat → Concurrent α) :
    ∃ i, ¬ Step groupId (run i) (run (i + 1)) :=
  WellFounded.not_rel_apply_succ (r := fun next now => Step groupId now next) run

/-- Every start has an interleaving that goes on until nothing can happen anymore. -/
theorem exists_last (groupId : String → String) (start : Concurrent α) :
    ∃ last, Relation.ReflTransGen (Step groupId) start last ∧ ∀ next, ¬ Step groupId last next := by
  induction start using IsWellFounded.induction (fun next now => Step groupId now next) with
  | _ now ih =>
    by_cases stuck : ∀ next, ¬ Step groupId now next
    · exact ⟨now, .refl, stuck⟩
    · obtain ⟨next, step⟩ := not_forall_not.mp stuck
      obtain ⟨last, steps, stuck⟩ := ih next step
      exact ⟨last, .head step steps, stuck⟩

/-- Nothing can happen anymore exactly if every plan has ended. -/
theorem not_step_iff :
    (∀ next, ¬ Step groupId now next) ↔ ∀ plan ∈ now.plans, ∃ outcome, plan = .done outcome := by
  constructor
  · intro stuck plan member
    obtain ⟨plans, store⟩ := now
    obtain ⟨before, after, rfl⟩ := List.append_of_mem member
    cases plan with
    | done outcome => exact ⟨outcome, rfl⟩
    | note note rest => exact absurd .note (stuck _)
    | ask request rest => exact absurd .ask (stuck _)
  · intro ended next step
    cases step with
    | note => exact nomatch ended _ (List.mem_append_right _ List.mem_cons_self)
    | ask => exact nomatch ended _ (List.mem_append_right _ List.mem_cons_self)

/-- The plans are never more or fewer than at the start. -/
theorem length_of_steps (steps : Relation.ReflTransGen (Step groupId) now next) :
    next.plans.length = now.plans.length := by
  induction steps with
  | refl => rfl
  | tail _ step ih =>
      rw [← ih]
      cases step with
      | note => simp
      | ask => simp

end Concurrent

/-! ## One plan among others -/

section

/-- Moves between stores preserve a fact. -/
def Stable (moves : Store → Store → Prop) (fact : Store → Prop) : Prop :=
  ∀ ⦃store other : Store⦄, moves store other → fact store → fact other

variable (groupId : String → String) (moves : Store → Store → Prop)

/-- From this store on, whatever the others do to the store between its requests,
the plan does not fail, its requests stay within what the others rely on, and
`good` holds of the value that it ends with from then on. -/
def Withstands : Plan α → (α → Store → Prop) → Store → Prop
  | .done (.ok value), good, store => ∀ other, moves store other → good value other
  | .done (.error _), _, _ => False
  | .note _ next, good, store => Withstands next good store
  | .ask request next, good, store =>
      ∀ other, moves store other →
        moves other (other.answer groupId request).2 ∧
          Withstands (next (other.answer groupId request).1) good
            (other.answer groupId request).2

variable {groupId moves} {good : α → Store → Prop} {store : Store}

/-- What the others do makes no difference. -/
theorem Withstands.moved [IsTrans Store moves] {plan : Plan α}
    (withstands : Withstands groupId moves plan good store) {other : Store}
    (moved : moves store other) : Withstands groupId moves plan good other := by
  induction plan generalizing store with
  | done outcome =>
      cases outcome with
      | ok value => exact fun later move => withstands later (trans_of moves moved move)
      | error failure => exact withstands
  | note note plan ih => exact ih withstands moved
  | ask request plan ih => exact fun later move => withstands later (trans_of moves moved move)

/-- One plan after the other. -/
theorem Withstands.bind [Std.Refl moves] {plan : Plan α} {next : α → Plan β}
    {good' : β → Store → Prop} (withstands : Withstands groupId moves plan good store)
    (rest : ∀ value later, good value later → Withstands groupId moves (next value) good' later) :
    Withstands groupId moves (plan >>= next) good' store := by
  induction plan generalizing store with
  | done outcome =>
      cases outcome with
      | ok value => exact rest value store (withstands store (refl_of moves store))
      | error failure => exact withstands.elim
  | note note plan ih => exact ih withstands
  | ask request plan ih =>
      intro other move
      obtain ⟨kept, withstands⟩ := withstands other move
      exact ⟨kept, ih _ withstands⟩

/-- A plan whose value is made of another plan's value. -/
theorem Withstands.map {plan : Plan α} {change : α → β} {good' : β → Store → Prop}
    (withstands : Withstands groupId moves plan good store)
    (weaker : ∀ value later, good value later → good' (change value) later) :
    Withstands groupId moves (plan >>= fun value => pure (change value)) good' store := by
  induction plan generalizing store with
  | done outcome =>
      cases outcome with
      | ok value => exact fun other move => weaker value other (withstands other move)
      | error failure => exact withstands.elim
  | note note plan ih => exact ih withstands
  | ask request plan ih =>
      intro other move
      obtain ⟨kept, withstands⟩ := withstands other move
      exact ⟨kept, ih _ withstands⟩

/-- What holds at the end may be weakened. -/
theorem Withstands.imp {plan : Plan α} {good' : α → Store → Prop}
    (withstands : Withstands groupId moves plan good store)
    (weaker : ∀ value later, good value later → good' value later) :
    Withstands groupId moves plan good' store := by
  rw [← bind_pure plan]
  exact withstands.map weaker

/-- A request that is fulfilled and does not change the store: the plan goes on
with an answer that need not be true for long. -/
theorem Withstands.read [Std.Refl moves] {request : Request} {next : request.Answer → Plan α}
    (reads : ∀ other, moves store other → ∃ answer,
      other.answer groupId request = (.ok answer, other) ∧
        Withstands groupId moves (next answer) good other) :
    Withstands groupId moves (Plan.request request >>= next) good store := by
  intro other move
  obtain ⟨answer, eq, rest⟩ := reads other move
  rw [eq]
  exact ⟨refl_of moves other, rest⟩

/-- What the moves preserve holds at the end if it holds at the start. -/
theorem Withstands.and_stable {plan : Plan α} {fact : Store → Prop} (stable : Stable moves fact)
    (withstands : Withstands groupId moves plan good store) (here : fact store) :
    Withstands groupId moves plan (fun value later => good value later ∧ fact later) store := by
  induction plan generalizing store with
  | done outcome =>
      cases outcome with
      | ok value => exact fun other move => ⟨withstands other move, stable move here⟩
      | error failure => exact withstands
  | note note plan ih => exact ih withstands here
  | ask request plan ih =>
      intro other move
      obtain ⟨kept, withstands⟩ := withstands other move
      exact ⟨kept, ih _ withstands (stable kept (stable move here))⟩

/-- A plan that does not fail has no failure to report. -/
theorem Withstands.reported {plan : Plan α}
    (withstands : Withstands groupId moves plan good store) :
    Withstands groupId moves plan.reported good store := by
  induction plan generalizing store with
  | done outcome =>
      cases outcome with
      | ok value => exact withstands
      | error failure => exact withstands.elim
  | note note plan ih => exact ih withstands
  | ask request plan ih =>
      intro other move
      obtain ⟨kept, withstands⟩ := withstands other move
      exact ⟨kept, ih _ withstands⟩

end

namespace Concurrent

variable {groupId : String → String} {moves : Store → Store → Prop} {good : α → Store → Prop}
  {now next : Concurrent α}

/-- A step is a move for those who have not taken it, and leaves every plan able
to withstand the others. -/
theorem Step.withstands [Std.Refl moves] [IsTrans Store moves] (step : Step groupId now next)
    (all : ∀ plan ∈ now.plans, Withstands groupId moves plan good now.store) :
    ∀ plan ∈ next.plans, Withstands groupId moves plan good next.store := by
  cases step with
  | note =>
      simp only [List.forall_mem_append, List.forall_mem_cons] at all ⊢
      exact all
  | @ask _ _ request rest store =>
      simp only [List.forall_mem_append, List.forall_mem_cons] at all ⊢
      obtain ⟨before, own, after⟩ := all
      obtain ⟨kept, own⟩ := own store (refl_of moves store)
      exact ⟨fun plan member => (before plan member).moved kept, own,
        fun plan member => (after plan member).moved kept⟩

/-- However far plans have come that withstand each other's moves, they still do. -/
theorem withstands_of_steps [Std.Refl moves] [IsTrans Store moves]
    (steps : Relation.ReflTransGen (Step groupId) now next)
    (all : ∀ plan ∈ now.plans, Withstands groupId moves plan good now.store) :
    ∀ plan ∈ next.plans, Withstands groupId moves plan good next.store := by
  induction steps with
  | refl => exact all
  | tail _ step ih => exact step.withstands ih

end Concurrent

end ClusterPorts
