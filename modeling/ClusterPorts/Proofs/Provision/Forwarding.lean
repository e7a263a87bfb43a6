import ClusterPorts.Proofs.Provision.Naming
import ClusterPorts.Provision.Gateway

/-!
# The forwarding rules that a load balancer lacks

What `addForwarding` adds for a list of ports: rules after the ones that are
there, which forward those ports and have names that were not in use, so that
afterwards every port has a rule of its name.
-/

namespace ClusterPorts.Provision

/-- A port whose rule is there is passed over; any other gets a rule, unless some
rule forwards it already. -/
theorem addForwarding_cons_eq_ok {balancer frontendId poolId : String}
    {rules result : List ForwardingRule} {port : Port} {rest : List Port} :
    addForwarding balancer frontendId poolId rules (port :: rest) = .ok result ↔
      (∃ rule ∈ rules, rule.name = Rules.name Rules.forwardingStem port) ∧
        addForwarding balancer frontendId poolId rules rest = .ok result ∨
      (∀ rule ∈ rules, rule.name ≠ Rules.name Rules.forwardingStem port) ∧
        rules.find? (forwards frontendId port) = none ∧
        addForwarding balancer frontendId poolId (rules ++ [forwarding frontendId poolId port])
          rest = .ok result := by
  simp only [addForwarding]
  split
  · next known =>
    have known : ∃ rule ∈ rules, rule.name = Rules.name Rules.forwardingStem port := by
      simpa using known
    obtain ⟨rule, member, same⟩ := known
    constructor
    · exact fun ok => .inl ⟨⟨rule, member, same⟩, ok⟩
    · rintro (⟨_, ok⟩ | ⟨new, _⟩)
      · exact ok
      · exact absurd same (new rule member)
  · next new =>
    have new : ∀ rule ∈ rules, rule.name ≠ Rules.name Rules.forwardingStem port := by
      simpa using new
    have unknown : ¬ ∃ rule ∈ rules, rule.name = Rules.name Rules.forwardingStem port :=
      fun ⟨rule, member, same⟩ => new rule member same
    cases rules.find? (forwards frontendId port) with
    | some rule => simp [unknown]
    | none =>
        constructor
        · exact fun ok => .inr ⟨new, rfl, ok⟩
        · rintro (⟨known, _⟩ | ⟨_, _, ok⟩)
          · exact absurd known unknown
          · exact ok

section

variable {balancer frontendId poolId : String} {rules result : List ForwardingRule}
  {ports : List Port}

/-- The rules that were there stay in front; those behind them forward the ports,
under names that are new and different from each other. -/
theorem append_of_addForwarding
    (ok : addForwarding balancer frontendId poolId rules ports = .ok result) :
    ∃ added, result = rules ++ added ∧
      (∀ rule ∈ added, ∃ port ∈ ports, rule = forwarding frontendId poolId port) ∧
      (added.map (·.name)).Nodup ∧
      ∀ rule ∈ added, ∀ other ∈ rules, rule.name ≠ other.name := by
  induction ports generalizing rules with
  | nil =>
      cases ok
      exact ⟨[], by simp⟩
  | cons port rest ih =>
      rcases addForwarding_cons_eq_ok.mp ok with ⟨_, ok⟩ | ⟨new, _, ok⟩
      · obtain ⟨added, eq, forward, distinct, fresh⟩ := ih ok
        refine ⟨added, eq, fun rule member => ?_, distinct, fresh⟩
        obtain ⟨other, inRest, same⟩ := forward rule member
        exact ⟨other, List.mem_cons_of_mem _ inRest, same⟩
      · obtain ⟨added, eq, forward, distinct, fresh⟩ := ih ok
        refine ⟨forwarding frontendId poolId port :: added, by simp [eq], ?_, ?_, ?_⟩
        · intro rule member
          rcases List.mem_cons.mp member with rfl | member
          · exact ⟨port, List.mem_cons_self, rfl⟩
          · obtain ⟨other, inRest, same⟩ := forward rule member
            exact ⟨other, List.mem_cons_of_mem _ inRest, same⟩
        · refine List.nodup_cons.mpr ⟨fun member => ?_, distinct⟩
          obtain ⟨rule, inAdded, same⟩ := List.mem_map.mp member
          exact fresh rule inAdded _ (List.mem_append_right _ List.mem_cons_self) same
        · intro rule member other present
          rcases List.mem_cons.mp member with rfl | member
          · exact (new other present).symm
          · exact fresh rule member other (List.mem_append_left _ present)

/-- Afterwards every port has a rule of its name. -/
theorem name_mem_of_addForwarding
    (ok : addForwarding balancer frontendId poolId rules ports = .ok result)
    {port : Port} (member : port ∈ ports) :
    ∃ rule ∈ result, rule.name = Rules.name Rules.forwardingStem port := by
  induction ports generalizing rules with
  | nil => cases member
  | cons head rest ih =>
      rcases addForwarding_cons_eq_ok.mp ok with ⟨⟨rule, present, same⟩, ok⟩ | ⟨_, _, ok⟩
      · rcases List.mem_cons.mp member with rfl | member
        · obtain ⟨added, rfl, _⟩ := append_of_addForwarding ok
          exact ⟨rule, List.mem_append_left _ present, same⟩
        · exact ih ok member
      · rcases List.mem_cons.mp member with rfl | member
        · obtain ⟨added, rfl, _⟩ := append_of_addForwarding ok
          exact ⟨_, List.mem_append_left _ (List.mem_append_right _ List.mem_cons_self), rfl⟩
        · exact ih ok member

/-- Nothing is added for ports that have their rules. -/
theorem addForwarding_eq_self
    (present : ∀ port ∈ ports, ∃ rule ∈ rules, rule.name = Rules.name Rules.forwardingStem port) :
    addForwarding balancer frontendId poolId rules ports = .ok rules := by
  induction ports with
  | nil => rfl
  | cons port rest ih =>
      exact addForwarding_cons_eq_ok.mpr (.inl ⟨present port List.mem_cons_self,
        ih fun other member => present other (List.mem_cons_of_mem _ member)⟩)

/-- Ports may be forwarded in two parts. -/
theorem addForwarding_append_eq_ok {others : List Port} :
    addForwarding balancer frontendId poolId rules (ports ++ others) = .ok result ↔
      ∃ middle, addForwarding balancer frontendId poolId rules ports = .ok middle ∧
        addForwarding balancer frontendId poolId middle others = .ok result := by
  induction ports generalizing rules with
  | nil => simp [addForwarding]
  | cons port rest ih =>
      simp only [List.cons_append, addForwarding_cons_eq_ok, ih]
      constructor
      · rintro (⟨known, middle, ok, okOthers⟩ | ⟨new, free, middle, ok, okOthers⟩)
        · exact ⟨middle, .inl ⟨known, ok⟩, okOthers⟩
        · exact ⟨middle, .inr ⟨new, free, ok⟩, okOthers⟩
      · rintro ⟨middle, ⟨known, ok⟩ | ⟨new, free, ok⟩, okOthers⟩
        · exact .inl ⟨known, middle, ok, okOthers⟩
        · exact .inr ⟨new, free, middle, ok, okOthers⟩

end

end ClusterPorts.Provision
