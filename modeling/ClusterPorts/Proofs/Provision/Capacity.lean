import ClusterPorts.Proofs.Network.Transcript
import ClusterPorts.Proofs.Provision.Acceptance
import ClusterPorts.Proofs.Provision.Allocation
import ClusterPorts.Proofs.Settings.Validation

/-!
# As many ports as there are priorities

The two checks of a list of ports, the one of the settings and the one of a
preparation, differ only in that a preparation looks at how many ports there are. The
number that it allows is the number of priorities that a group has for them: whatever
it lets pass fits into a group of its own, which gets one rule for each port, with the
priorities from the first one on in the order of the list.
-/

namespace ClusterPorts

namespace Rules

variable {stem : String} {names : List String} {ports : List Port}

/-- Ports that are listed once and have no rule are all missing. -/
theorem missing_eq_self (distinct : ports.Nodup) (new : ∀ port ∈ ports, name stem port ∉ names) :
    missing stem names ports = ports := by
  induction ports generalizing names with
  | nil => rfl
  | cons port rest ih =>
      obtain ⟨notAgain, distinct⟩ := List.nodup_cons.mp distinct
      obtain ⟨new, newRest⟩ := List.forall_mem_cons.mp new
      rw [missing_cons_of_notMem new, ih distinct]
      intro other member known
      rcases List.mem_cons.mp known with same | known
      · exact notAgain (name_injective stem same ▸ member)
      · exact newRest other member known

/-- In a group without rules every priority is free. -/
theorem freePriorities_nil :
    freePriorities [] = (List.range capacity).map fun k : Nat => firstPriority + k := by
  simp [freePriorities]

theorem length_le_freePriorities_nil (few : ports.length ≤ capacity) :
    ports.length ≤ (freePriorities []).length := by
  rwa [freePriorities_nil, List.length_map, List.length_range]

end Rules

namespace Provision

/-- The group that is made where there is none: a rule for each of the ports, in their
order, with the priorities from 100 on. -/
def freshGroup (name region stem : String) (ports : List Port) : SecurityGroup where
  name := name
  location := some region
  rules := ports.mapIdx fun index port =>
    Rules.opening stem "0.0.0.0/0" "0.0.0.0/0" port (Int32.ofInt (100 + index))

variable {name region stem : String} {ports : List Port}

/-- The lowest priorities, paired with the ports. -/
theorem zipWith_opened_freePriorities_nil (few : ports.length ≤ Rules.capacity) :
    List.zipWith (Rules.opened stem) ports (Rules.freePriorities []) =
      (freshGroup name region stem ports).rules := by
  rw [Rules.freePriorities_nil]
  apply List.ext_getElem
  · simp [freshGroup, few]
  · intro index inZip inRules
    simp only [List.getElem_zipWith, List.getElem_map, List.getElem_range, freshGroup,
      List.getElem_mapIdx]
    rfl

/-- All the ports of a list that is accepted get a rule in a group without rules. -/
theorem additions_of_checkPorts (valid : checkPorts ports = .ok ()) :
    Rules.additions stem { name, location := some region } ports =
      .ok (freshGroup name region stem ports).rules := by
  obtain ⟨_, few, _, distinct⟩ := checkPorts_eq_ok.mp valid
  have all : Rules.missing stem [] ports = ports :=
    Rules.missing_eq_self distinct fun _ _ => List.not_mem_nil
  have enough := Rules.length_le_freePriorities_nil few
  apply Rules.additions_eq_ok.mpr
  show (Rules.missing stem [] ports).length ≤ (Rules.freePriorities []).length ∧
    _ = List.zipWith (Rules.opened stem) (Rules.missing stem [] ports) (Rules.freePriorities [])
  rw [all]
  exact ⟨enough, (zipWith_opened_freePriorities_nil few).symm⟩

theorem names_freshGroup (few : ports.length ≤ Rules.capacity) :
    (freshGroup name region stem ports).rules.map (·.name) = ports.map (Rules.name stem) := by
  rw [← zipWith_opened_freePriorities_nil few,
    Rules.names_zipWith_opened (Rules.length_le_freePriorities_nil few)]

/-- The rules of the group have the lowest priorities, one after the other. -/
theorem priorities_freshGroup (few : ports.length ≤ Rules.capacity) :
    (freshGroup name region stem ports).rules.map (·.priority.toInt) =
      (List.range ports.length).map fun index : Nat => 100 + (index : Int) := by
  rw [← zipWith_opened_freePriorities_nil few, Rules.priorities_zipWith_opened,
    Rules.freePriorities_nil, ← List.map_take, List.take_range, Nat.min_eq_left few]
  · rfl
  · intro priority member
    obtain ⟨first, last, _⟩ := Rules.mem_freePriorities.mp member
    exact ⟨first, last⟩

theorem priority_le_of_mem_freshGroup (few : ports.length ≤ Rules.capacity) {rule : SecurityRule}
    (member : rule ∈ (freshGroup name region stem ports).rules) : rule.priority.toInt ≤ 4096 := by
  have listed := List.mem_map_of_mem (f := (·.priority.toInt)) member
  rw [priorities_freshGroup few] at listed
  obtain ⟨index, inRange, priority⟩ := List.mem_map.mp listed
  have before : index < 3997 := Nat.lt_of_lt_of_le (List.mem_range.mp inRange) few
  rw [← priority]
  omega

/-- Where there is no group, the one with the rules for the ports is written: that there
is a priority for each of them has been seen to before. -/
theorem ensureGroup_eq (valid : checkPorts ports = .ok ()) :
    ∃ next, ensureGroup name region stem ports = .ask (.readGroup name) next ∧
      next (.ok none) =
        .note (.log (.info ("Security group " ++ name ++ " does not exist, creating it")))
          (.note (.log (.info ("Writing " ++ toString ports.length
              ++ " Submariner rule(s) to security group " ++ name)))
            (.ask (.writeGroup (freshGroup name region stem ports)) .done)) := by
  refine ⟨_, rfl, ?_⟩
  have count : (freshGroup name region stem ports).rules.length = ports.length :=
    List.length_mapIdx
  simp only [Plan.done_ok_bind, Plan.log, Plan.note_bind, Plan.pure_eq, addRules,
    additions_of_checkPorts valid, count]
  rfl

/-- The same on whatever network: the group is read and written, and how that ends is how
the step ends. -/
theorem exchanges_ensureGroup {σ : Type} {takeNote : Note → StateM σ Unit}
    {answer : (request : Request) → StateM σ (Except Failure request.Answer)} {state : σ}
    (valid : checkPorts ports = .ok ()) (absent : (answer (.readGroup name) state).1 = .ok none) :
    ∃ later,
      (ensureGroup name region stem ports).exchanges takeNote answer state =
        [⟨.readGroup name, .ok none⟩, ⟨.writeGroup (freshGroup name region stem ports),
          (answer (.writeGroup (freshGroup name region stem ports)) later).1⟩] ∧
      ((ensureGroup name region stem ports).run takeNote answer state).1 =
        (answer (.writeGroup (freshGroup name region stem ports)) later).1 := by
  obtain ⟨next, eq, created⟩ := @ensureGroup_eq name region stem ports valid
  have exchanges : (Plan.ask (.readGroup name) next).exchanges takeNote answer state =
      ⟨.readGroup name, (answer (.readGroup name) state).1⟩ ::
        (next (answer (.readGroup name) state).1).exchanges takeNote answer
          (answer (.readGroup name) state).2 := rfl
  have run : (Plan.ask (.readGroup name) next).run takeNote answer state =
      (next (answer (.readGroup name) state).1).run takeNote answer
        (answer (.readGroup name) state).2 := rfl
  rw [eq, exchanges, run, absent, created]
  exact ⟨_, rfl, rfl⟩

/-- Three things about the number of ports that a preparation allows. It accepts just the
lists that are not empty, not longer than that and without flaws; the settings, which do
not look at the length, judge such lists in the same way; and every list that it accepts
fits into a group of its own, on whatever network that is made: the rules are those for
the ports in their order, with the priorities from 100 on, none of them above 4096. -/
theorem checkPorts_exact (ports : List Port) :
    (checkPorts ports = .ok () ↔
      ports ≠ [] ∧ ports.length ≤ 3997 ∧ (∀ port ∈ ports, port.number ≠ 0) ∧ ports.Nodup) ∧
    (∀ settings : Settings, settings.ports = ports → settings.cloud.validate = .ok () →
      settings.operation.validate = .ok () →
      (settings.validate = .ok () ↔ (∀ port ∈ ports, port.number ≠ 0) ∧ ports.Nodup) ∧
      (1 ≤ ports.length → ports.length ≤ 3997 →
        (settings.validate = .ok () ↔ checkPorts ports = .ok ()) ∧
        ∀ flaw, settings.validate = .error (.flawedPorts flaw) ↔
          checkPorts ports = .error (.flawedPorts flaw))) ∧
    (checkPorts ports = .ok () → ∀ name region stem : String,
      let group := freshGroup name region stem ports
      group.rules.map (·.name) = ports.map (Rules.name stem) ∧
      group.rules.map (·.priority.toInt) =
        (List.range ports.length).map (fun index : Nat => 100 + (index : Int)) ∧
      (∀ rule ∈ group.rules, rule.priority.toInt ≤ 4096) ∧
      ∀ {σ : Type} (takeNote : Note → StateM σ Unit)
        (answer : (request : Request) → StateM σ (Except Failure request.Answer)) (state : σ),
        (answer (.readGroup name) state).1 = .ok none →
        ∃ later,
          (ensureGroup name region stem ports).exchanges takeNote answer state =
            [⟨.readGroup name, .ok none⟩,
              ⟨.writeGroup group, (answer (.writeGroup group) later).1⟩] ∧
          ((ensureGroup name region stem ports).run takeNote answer state).1 =
            (answer (.writeGroup group) later).1) := by
  refine ⟨checkPorts_eq_ok, ?_, ?_⟩
  · rintro settings rfl cloud operation
    have judged : settings.validate = .ok () ↔
        (∀ port ∈ settings.ports, port.number ≠ 0) ∧ settings.ports.Nodup := by
      rw [Settings.validate_eq_ok, Port.flaw?_eq_none, cloud, operation]
      simp
    refine ⟨judged, fun some few => ?_⟩
    have nonempty : settings.ports ≠ [] := List.ne_nil_of_length_pos some
    have few : settings.ports.length ≤ Rules.capacity := few
    refine ⟨?_, fun flaw => ?_⟩
    · rw [judged, checkPorts_eq_ok, and_iff_right nonempty, and_iff_right few]
    · rw [Settings.validate_eq_flawedPorts cloud operation,
        checkPorts_eq_flawedPorts nonempty few]
  · intro valid name region stem
    obtain ⟨_, few, _, _⟩ := checkPorts_eq_ok.mp valid
    exact ⟨names_freshGroup few, priorities_freshGroup few,
      fun _ => priority_le_of_mem_freshGroup few,
      fun _ _ _ absent => exchanges_ensureGroup valid absent⟩

end Provision

namespace Sample

/-- The first TCP ports. -/
def firstPorts (count : Nat) : List Port :=
  (List.range count).map fun index => ⟨UInt16.ofNat (index + 1), .tcp⟩

/-- Settings with that many ports. -/
def portSettings (count : Nat) : Settings where
  cloud := .azure
    { subscriptionId := "subscription", infraId := "c1", region := "westus",
      resourceGroup := "c1-rg", accessToken := some "token" }
  ports := firstPorts count

theorem ports_portSettings (count : Nat) : (portSettings count).ports = firstPorts count := rfl

theorem length_firstPorts (count : Nat) : (firstPorts count).length = count := by
  simp [firstPorts]

theorem toNat_ofNat_of_lt {count index : Nat} (few : count < 65536) (inRange : index < count) :
    (UInt16.ofNat (index + 1)).toNat = index + 1 := by
  rw [UInt16.toNat_ofNat']
  omega

theorem number_firstPorts {count : Nat} (few : count < 65536) :
    ∀ port ∈ firstPorts count, port.number ≠ 0 := by
  intro port member zero
  obtain ⟨index, inRange, rfl⟩ := List.mem_map.mp member
  have value := toNat_ofNat_of_lt few (List.mem_range.mp inRange)
  rw [show UInt16.ofNat (index + 1) = 0 from zero] at value
  cases value

theorem nodup_firstPorts {count : Nat} (few : count < 65536) : (firstPorts count).Nodup := by
  apply List.Nodup.map_on _ List.nodup_range
  intro index inRange other inRange' same
  have value := toNat_ofNat_of_lt few (List.mem_range.mp inRange)
  have value' := toNat_ofNat_of_lt few (List.mem_range.mp inRange')
  rw [show UInt16.ofNat (index + 1) = UInt16.ofNat (other + 1) from congrArg Port.number same,
    value'] at value
  omega

end Sample

/-- As many ports as there are priorities are accepted, and all of them get a rule; one
more port is one too many, though the settings accept it. -/
theorem Provision.checkPorts_exact_sample :
    checkPorts (Sample.firstPorts 3997) = .ok () ∧
    (Sample.portSettings 3997).validate = .ok () ∧
    (freshGroup "c1-nsg" "westus" Rules.internalStem (Sample.firstPorts 3997)).rules.map
        (·.priority.toInt) = (List.range 3997).map (fun index : Nat => 100 + (index : Int)) ∧
    (Store.run (fun name => "/groups/" ++ name) (ensureGroup "c1-nsg" "westus" Rules.internalStem
      (Sample.firstPorts 3997)) {}).1 = .ok () ∧
    checkPorts (Sample.firstPorts 3998) ≠ .ok () ∧
    (Sample.portSettings 3998).validate = .ok () := by
  have flawless (count : Nat) (few : count < 65536) :
      (∀ port ∈ Sample.firstPorts count, port.number ≠ 0) ∧ (Sample.firstPorts count).Nodup :=
    ⟨Sample.number_firstPorts few, Sample.nodup_firstPorts few⟩
  obtain ⟨accepts, judges, fits⟩ := checkPorts_exact (Sample.firstPorts 3997)
  obtain ⟨accepts', judges', _⟩ := checkPorts_exact (Sample.firstPorts 3998)
  have valid : checkPorts (Sample.firstPorts 3997) = .ok () := by
    refine accepts.mpr ⟨List.ne_nil_of_length_pos ?_, (Sample.length_firstPorts 3997).le,
      flawless 3997 (by decide)⟩
    rw [Sample.length_firstPorts]
    decide
  have refused : checkPorts (Sample.firstPorts 3998) ≠ .ok () := by
    intro valid
    have few := (accepts'.mp valid).2.1
    rw [Sample.length_firstPorts] at few
    exact absurd few (by decide)
  have judged := (judges _ (Sample.ports_portSettings 3997) rfl rfl).1
  have judged' := (judges' _ (Sample.ports_portSettings 3998) rfl rfl).1
  obtain ⟨_, priorities, _, writes⟩ := fits valid "c1-nsg" "westus" Rules.internalStem
  obtain ⟨_, _, ends⟩ := writes (fun _ => pure ())
    (fun request store => Store.answer (fun name => "/groups/" ++ name) store request)
    ({} : Store) rfl
  rw [Sample.length_firstPorts] at priorities
  exact ⟨valid, judged.mpr (flawless 3997 (by decide)), priorities, ends, refused,
    judged'.mpr (flawless 3998 (by decide))⟩

end ClusterPorts
