import ClusterPorts.Proofs.Azure.Inquiries
import Mathlib.Control.Monad.Basic
import Mathlib.Data.List.Induction

/-!
# Lifetimes that cannot be told

A server that grants a token says for how many seconds it is valid, and may say any
number. Only a number of seconds that can be counted and whose end is in the calendar
gives the token a last moment (`Moment.Reaches`). A call for a token comes to a token or
to a failure, whatever is answered and whatever the clock says, but for a grant without
such a moment: that one breaks the program down (`TokenSource.breaks_down_iff`). The token
that was kept before is still kept then.
-/

namespace ClusterPorts

/-- A number of seconds can be counted, and the moment so much later is in the calendar. -/
structure Moment.Reaches (now : Moment) (secs : Int) : Prop where
  least : -longest ≤ secs
  greatest : secs ≤ longest
  afterFirst : firstSecond * second ≤ now.nanos + secs * second
  beforeLast : now.nanos + secs * second < (lastSecond + 1) * second

theorem Moment.isInCalendar_iff {moment : Moment} :
    moment.isInCalendar ↔
      firstSecond * second ≤ moment.nanos ∧ moment.nanos < (lastSecond + 1) * second := by
  simp only [isInCalendar, Bool.and_eq_true, decide_eq_true_eq]
  simp only [firstSecond, lastSecond, second]
  omega

theorem Moment.after?_eq_none_iff {now : Moment} {secs : Int} :
    now.after? secs = none ↔ ¬ now.Reaches secs := by
  have later := @isInCalendar_iff ⟨now.nanos + secs * second⟩
  simp only [after?, ite_eq_right_iff, reduceCtorEq, imp_false, later]
  exact not_congr ⟨fun ⟨least, greatest, first, last⟩ => ⟨least, greatest, first, last⟩,
    fun ⟨least, greatest, first, last⟩ => ⟨least, greatest, first, last⟩⟩

namespace Azure

variable {σ : Type}

/-- The last that was seen in an inquiry: a grant was answered, and the clock was looked
at for the end of it. -/
def Inquiry.SawGrant (inquiry : Inquiry) (grant : TokenGrant) (now : Moment) : Prop :=
  ∃ looks sent response,
    inquiry.contacts = looks ++ [.exchanged (sent, some response), .looked now] ∧
      granted? response = some grant

/-- A grant was seen whose end cannot be told. -/
def Inquiry.SawEndless (inquiry : Inquiry) : Prop :=
  ∃ grant now, inquiry.SawGrant grant now ∧ ¬ now.Reaches grant.lifetime

theorem Lacking.length_le {kept : Option Token} {looks : List Contact}
    (lacking : Lacking kept looks) : looks.length ≤ 1 := by
  cases lacking <;> simp

namespace Inquiry

/-- One grant at most is the last that was seen. -/
theorem SawGrant.unique {inquiry : Inquiry} {grant other : TokenGrant} {now later : Moment}
    (saw : inquiry.SawGrant grant now) (again : inquiry.SawGrant other later) :
    grant = other ∧ now = later := by
  obtain ⟨looks, sent, response, contacts, grants⟩ := saw
  obtain ⟨looks', sent', response', contacts', grants'⟩ := again
  obtain ⟨-, same⟩ := List.append_inj' (contacts.symm.trans contacts') rfl
  simp only [List.cons.injEq, Contact.exchanged.injEq, Prod.mk.injEq, Option.some.injEq,
    Contact.looked.injEq, and_true] at same
  obtain ⟨⟨-, rfl⟩, rfl⟩ := same
  exact ⟨Option.some.inj (grants.symm.trans grants'), rfl⟩

/-- Nothing was granted where the clock has been looked at once at most and the rest are
exchanges. -/
theorem not_sawGrant_of_calls {inquiry : Inquiry} (looks : List Contact) (calls : List Call)
    {grant : TokenGrant} {now : Moment} (few : looks.length ≤ 1)
    (contacts : inquiry.contacts = looks ++ calls.map .exchanged) :
    ¬ inquiry.SawGrant grant now := by
  rintro ⟨looks', sent, response, same, -⟩
  rw [contacts] at same
  cases calls using List.reverseRecOn with
  | nil =>
      have lengths := congrArg List.length same
      simp only [List.map_nil, List.append_nil, List.length_append, List.length_cons,
        List.length_nil] at lengths
      omega
  | append_singleton calls call =>
      -- The last is an exchange, not a look at the clock.
      have last := congrArg List.getLast? same
      simp at last

/-- The program breaks down exactly if it sees a grant whose end cannot be told. -/
theorem Ending.outcome_eq_crash_iff {clientId : String}
    {request : Except Http.Fault Http.Request} {inquiry : Inquiry}
    (ending : inquiry.Ending clientId request) :
    inquiry.outcome = .error .crash ↔ inquiry.SawEndless := by
  cases ending with
  | @reused token now fresh =>
      refine ⟨nofun, fun ⟨grant, later, saw, _⟩ => ?_⟩
      exact absurd saw (not_sawGrant_of_calls [.looked now] []
        (Nat.le_refl 1) rfl)
  | refused lacking replied refused =>
      refine ⟨nofun, fun ⟨grant, later, saw, _⟩ => ?_⟩
      exact absurd saw (not_sawGrant_of_calls _ _ lacking.length_le rfl)
  | granted lacking leads grants valid =>
      refine ⟨nofun, fun ⟨other, later, saw, endless⟩ => ?_⟩
      obtain ⟨rfl, rfl⟩ := saw.unique ⟨_, _, _, rfl, grants⟩
      rw [Moment.after?_eq_none_iff.mpr endless] at valid
      cases valid
  | crashed lacking leads grants endless =>
      exact iff_of_true rfl
        ⟨_, _, ⟨_, _, _, rfl, grants⟩, Moment.after?_eq_none_iff.mp endless⟩

end Inquiry

/-- A call for a token, whatever the server answers and whatever the clock says, from a
session with any token or none: it breaks the program down exactly if a grant is answered
whose end cannot be told, and comes to a token or to a failure in every other case. The
token that is kept is left as it was by such a grant. -/
theorem TokenSource.breaks_down_iff (source : TokenSource) (world : World σ)
    (session : Session σ) :
    let inquiry := (source.inquire world session).1
    let after := (source.inquire world session).2
    (source.token world none).exec session = (inquiry.outcome, after) ∧
      (inquiry.outcome = .error .crash ↔ inquiry.SawEndless) ∧
      (¬ inquiry.SawEndless → (∃ secret, inquiry.outcome = .ok secret) ∨
        ∃ failure, inquiry.outcome = .error (.failure failure)) ∧
      (inquiry.SawEndless → after.token = session.token) := by
  intro inquiry after
  have crashes : inquiry.outcome = .error .crash ↔ inquiry.SawEndless := by
    cases own : source.credential with
    | accessToken secret =>
        have given : inquiry = ⟨session.token, [], .ok secret, session.token⟩ :=
          congrArg Prod.fst (inquire_given own session)
        rw [given]
        refine ⟨nofun, fun ⟨grant, now, saw, _⟩ => ?_⟩
        exact absurd saw (Inquiry.not_sawGrant_of_calls [] []
          (Nat.zero_le 1) rfl)
    | clientSecret => exact (ending_inquire own world session).outcome_eq_crash_iff
  refine ⟨exec_token_eq_inquire source world session, crashes, fun fine => ?_, fun endless => ?_⟩
  · match outcome : inquiry.outcome with
    | .ok secret => exact .inl ⟨secret, rfl⟩
    | .error (.failure failure) => exact .inr ⟨failure, rfl⟩
    | .error .crash => exact absurd (crashes.mp outcome) fine
  · cases own : source.credential with
    | accessToken secret => exact congrArg (·.2.token) (inquire_given own session)
    | clientSecret =>
        exact ((ending_inquire own world session).due_and_left_of_error
          (crashes.mpr endless)).2

/-- The longest lifetime that can be answered, in the year 1970. -/
theorem TokenSource.breaks_down_at_longest :
    (Sample.tokens.inquire World.timeline
      { outside := ([some (Sample.grant "first" 9223372036854775807)], [⟨0⟩]) }).1.outcome =
        .error .crash := by
  decide +kernel

end Azure

end ClusterPorts
