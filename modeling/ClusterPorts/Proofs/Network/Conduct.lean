import ClusterPorts.Network.Plan

/-!
# What a plan says and asks

`Confined` bounds what a plan may say and what it may ask for, as long as the
answers that it gets are within bounds as well. Unlike a run it does not follow
the answers, so it is about every network at once.
-/

namespace ClusterPorts

/-- What a plan may say and ask, and what it may be told in answer. -/
structure Bounds where
  notes : Note → Prop
  asks : Request → Prop
  told : (request : Request) → request.Answer → Prop

section

variable {α β : Type} (bounds : Bounds)

/-- Within the bounds, whatever fails. If the plan ends with a value, `good` holds
of it. -/
def Confined : Plan α → (α → Prop) → Prop
  | .done (.ok value), good => good value
  | .done (.error _), _ => True
  | .note note next, good => bounds.notes note ∧ Confined next good
  | .ask request next, good =>
      bounds.asks request ∧
        (∀ answer, bounds.told request answer → Confined (next (.ok answer)) good) ∧
        ∀ failure, Confined (next (.error failure)) good

variable {bounds} {good : α → Prop}

/-- What holds at the end may be weakened. -/
theorem Confined.imp {plan : Plan α} {good' : α → Prop}
    (confined : Confined bounds plan good) (weaker : ∀ value, good value → good' value) :
    Confined bounds plan good' := by
  induction plan with
  | done outcome =>
      cases outcome with
      | ok value => exact weaker value confined
      | error failure => trivial
  | note note plan ih => exact ⟨confined.1, ih confined.2⟩
  | ask request plan ih =>
      obtain ⟨own, answered, refused⟩ := confined
      exact ⟨own, fun answer told => ih _ (answered answer told),
        fun failure => ih _ (refused failure)⟩

/-- A plan can be taken apart where it goes on with a value. -/
theorem confined_bind {plan : Plan α} {next : α → Plan β} {good : β → Prop} :
    Confined bounds (plan >>= next) good ↔
      Confined bounds plan fun value => Confined bounds (next value) good := by
  induction plan with
  | done outcome => cases outcome <;> rfl
  | note note plan ih => exact and_congr_right fun _ => ih
  | ask request plan ih =>
      exact and_congr_right fun _ =>
        and_congr (forall₂_congr fun answer _ => ih _) (forall_congr' fun failure => ih _)

/-- One plan after the other. -/
theorem Confined.bind {plan : Plan α} {next : α → Plan β} {good' : β → Prop}
    (confined : Confined bounds plan good)
    (rest : ∀ value, good value → Confined bounds (next value) good') :
    Confined bounds (plan >>= next) good' :=
  confined_bind.mpr (confined.imp rest)

/-- A failure may be reported if failures may be reported. -/
theorem Confined.reported {plan : Plan α} (confined : Confined bounds plan good)
    (failures : ∀ message, bounds.notes (.progress (.failed message))) :
    Confined bounds plan.reported good := by
  induction plan with
  | done outcome =>
      cases outcome with
      | ok value => exact confined
      | error failure => exact ⟨failures _, trivial⟩
  | note note plan ih => exact ⟨confined.1, ih confined.2⟩
  | ask request plan ih =>
      obtain ⟨own, answered, refused⟩ := confined
      exact ⟨own, fun answer told => ih _ (answered answer told),
        fun failure => ih _ (refused failure)⟩

theorem confined_log {entry : LogEntry} {good : Unit → Prop} :
    Confined bounds (Plan.log entry) good ↔ bounds.notes (.log entry) ∧ good () := Iff.rfl

theorem confined_report {step : Progress} {good : Unit → Prop} :
    Confined bounds (Plan.report step) good ↔ bounds.notes (.progress step) ∧ good () := Iff.rfl

/-- A request that the plan gives up on when it fails. -/
theorem confined_request {request : Request} {good : request.Answer → Prop} :
    Confined bounds (Plan.request request) good ↔
      bounds.asks request ∧ ∀ answer, bounds.told request answer → good answer :=
  and_congr_right fun _ => and_iff_left fun _ => trivial

/-- A request for something that may be missing. -/
theorem confined_find {request : Request} {good : Option request.Answer → Prop}
    (own : bounds.asks request) (found : ∀ answer, bounds.told request answer → good (some answer))
    (missing : good none) : Confined bounds (Plan.find request) good := by
  refine ⟨own, found, fun failure => ?_⟩
  cases notFound : failure.isNotFound with
  | true =>
      simp only [notFound, if_true]
      exact missing
  | false =>
      simp only [notFound]
      trivial

end

end ClusterPorts
