import ClusterPorts.Network.Request
import ClusterPorts.Progress

/-!
# Plans

A plan is what an operation does with a network: it makes requests, one after
the other, and goes on with the answer to each or with the failure of it; on the
way it leaves notes. What stands behind the network is left open. A plan is run
by giving it something that answers requests and something that takes notes, so
that the same plan works on a cloud and on a network held in memory, alone or
interleaved with other plans.
-/

namespace ClusterPorts

/-- What a plan says on the way. -/
inductive Note where
  | log (entry : LogEntry)
  | progress (step : Progress)
deriving DecidableEq, Repr, Inhabited

/-- A sequence of requests that ends with a value or with a failure. -/
inductive Plan (α : Type) where
  | done (outcome : Except Failure α)
  | note (note : Note) (next : Plan α)
  | ask (request : Request) (next : Except Failure request.Answer → Plan α)

namespace Plan

variable {α β : Type}

/-- Go on with the value of a plan. A failure ends the plan. -/
def bind : Plan α → (α → Plan β) → Plan β
  | done (.ok a), f => f a
  | done (.error failure), _ => done (.error failure)
  | note n next, f => note n (next.bind f)
  | ask request next, f => ask request fun answer => (next answer).bind f

instance : Monad Plan where
  pure a := done (.ok a)
  bind := bind

/-- End with a failure. -/
def fail (failure : Failure) : Plan α := done (.error failure)

/-- Leave a log entry. -/
def log (entry : LogEntry) : Plan Unit := note (.log entry) (pure ())

/-- Say that the operation has come a step further. -/
def report (step : Progress) : Plan Unit := note (.progress step) (pure ())

/-- Make a request whose failure is the plan's failure. -/
def request (r : Request) : Plan r.Answer := ask r done

/-- Make a request for a resource that may be missing: that it is not found is
not a failure of the plan. -/
def find (r : Request) : Plan (Option r.Answer) :=
  ask r fun
    | .ok answer => pure (some answer)
    | .error failure => if failure.isNotFound then pure none else fail failure

/-- Report the failure of a plan, if it fails. -/
def reported : Plan α → Plan α
  | done (.ok a) => done (.ok a)
  | done (.error failure) => note (.progress (.failed failure.message)) (done (.error failure))
  | note n next => note n next.reported
  | ask request next => ask request fun answer => (next answer).reported

/-- Run a plan with something that takes its notes and answers its requests. -/
def run {m : Type → Type} [Monad m] (takeNote : Note → m Unit)
    (answer : (request : Request) → m (Except Failure request.Answer)) :
    Plan α → m (Except Failure α)
  | done outcome => Pure.pure outcome
  | note n next => do
    takeNote n
    next.run takeNote answer
  | ask request next => do
    let reply ← answer request
    (next reply).run takeNote answer

@[simp] theorem pure_eq (a : α) : (pure a : Plan α) = done (.ok a) := rfl

@[simp] theorem done_ok_bind (a : α) (f : α → Plan β) : (done (.ok a) >>= f) = f a := rfl

@[simp] theorem done_error_bind (failure : Failure) (f : α → Plan β) :
    (done (.error failure) >>= f) = done (.error failure) := rfl

@[simp] theorem note_bind (n : Note) (p : Plan α) (f : α → Plan β) :
    (note n p >>= f) = note n (p >>= f) := rfl

@[simp] theorem ask_bind (r : Request) (next : Except Failure r.Answer → Plan α)
    (f : α → Plan β) : (ask r next >>= f) = ask r fun answer => next answer >>= f := rfl

/-- Plans obey the laws of a monad. -/
instance : LawfulMonad Plan :=
  LawfulMonad.mk' Plan
    (fun p => by
      induction p with
      | done outcome => cases outcome <;> rfl
      | note n p ih => exact congrArg (note n) ih
      | ask r next ih => exact congrArg (ask r) (funext ih))
    (fun _ _ => rfl)
    (fun p f g => by
      induction p with
      | done outcome => cases outcome <;> rfl
      | note n p ih => exact congrArg (note n) ih
      | ask r next ih => exact congrArg (ask r) (funext ih))

end Plan

end ClusterPorts
