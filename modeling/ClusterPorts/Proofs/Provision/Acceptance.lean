import ClusterPorts.Provision
import Mathlib.Data.List.Nodup

/-!
# Lists of ports that are accepted

A preparation looks at its ports before it makes a request. It accepts the lists
that are not empty, have no more ports than a security group has priorities, and
have neither a port 0 nor a port twice. So it accepts with a list every other one
that takes some of its ports and takes none of them twice.
-/

namespace ClusterPorts

theorem Port.flawAfter_eq_none {seen ports : List Port} :
    flawAfter seen ports = none ↔
      (∀ port ∈ ports, port.number ≠ 0 ∧ port ∉ seen) ∧ ports.Nodup := by
  induction ports generalizing seen with
  | nil => simp [flawAfter]
  | cons port rest ih =>
      rw [flawAfter, List.forall_mem_cons, List.nodup_cons]
      by_cases zero : port.number = 0
      · simp [zero]
      by_cases repeated : port ∈ seen
      · simp [zero, repeated]
      simp only [zero, repeated, List.contains_iff_mem, if_false, ih, List.mem_cons, not_or,
        not_false_eq_true, ne_eq, true_and]
      constructor
      · rintro ⟨rest_ok, distinct⟩
        refine ⟨fun other member => ⟨(rest_ok other member).1, (rest_ok other member).2.2⟩, ?_,
          distinct⟩
        exact fun member => (rest_ok port member).2.1 rfl
      · rintro ⟨rest_ok, new, distinct⟩
        refine ⟨fun other member => ⟨(rest_ok other member).1, ?_, (rest_ok other member).2⟩,
          distinct⟩
        rintro rfl
        exact new member

theorem Port.flaw?_eq_none {ports : List Port} :
    flaw? ports = none ↔ (∀ port ∈ ports, port.number ≠ 0) ∧ ports.Nodup := by
  simp [flaw?, flawAfter_eq_none]

namespace Provision

/-- What it takes for a list of ports to be accepted. -/
theorem checkPorts_eq_ok {ports : List Port} :
    checkPorts ports = .ok () ↔
      ports ≠ [] ∧ ports.length ≤ Rules.capacity ∧ (∀ port ∈ ports, port.number ≠ 0) ∧
        ports.Nodup := by
  rw [← Port.flaw?_eq_none, checkPorts]
  by_cases empty : ports = []
  · simp [empty]
  by_cases many : Rules.capacity < ports.length
  · simp [empty, many, Nat.not_le.mpr many]
  · cases Port.flaw? ports <;> simp [empty, many, Nat.not_lt.mp many]

/-- A list of ports that is refused neither for being empty nor for its length is refused
for its first flaw. -/
theorem checkPorts_eq_flawedPorts {ports : List Port} {flaw : Port.Flaw} (nonempty : ports ≠ [])
    (few : ports.length ≤ Rules.capacity) :
    checkPorts ports = .error (.flawedPorts flaw) ↔ Port.flaw? ports = some flaw := by
  have notEmpty : ports.isEmpty = false := by simpa using nonempty
  rw [checkPorts, notEmpty]
  cases Port.flaw? ports <;> simp [Nat.not_lt.mpr few]

/-- Ports that are accepted have numbers. -/
theorem number_ne_zero_of_checkPorts {ports : List Port} (valid : checkPorts ports = .ok ()) :
    ∀ port ∈ ports, port.number ≠ 0 :=
  (checkPorts_eq_ok.mp valid).2.2.1

/-- Some of the ports of a list that is accepted are accepted, if none of them is
listed twice. -/
theorem checkPorts_of_subset {ports fewer : List Port} (valid : checkPorts ports = .ok ())
    (nonempty : fewer ≠ []) (distinct : fewer.Nodup) (within : fewer ⊆ ports) :
    checkPorts fewer = .ok () := by
  obtain ⟨_, few, nonzero, _⟩ := checkPorts_eq_ok.mp valid
  have shorter : fewer.length ≤ ports.length := distinct.length_le_of_subset within
  exact checkPorts_eq_ok.mpr ⟨nonempty, Nat.le_trans shorter few,
    fun port member => nonzero port (within member), distinct⟩

/-- In which order the ports are listed makes no difference. -/
theorem checkPorts_perm {ports others : List Port} (perm : ports.Perm others) :
    checkPorts ports = .ok () ↔ checkPorts others = .ok () := by
  simp only [checkPorts_eq_ok, ne_eq, ← List.length_eq_zero_iff, perm.length_eq, perm.mem_iff,
    perm.nodup_iff]

end Provision

end ClusterPorts
