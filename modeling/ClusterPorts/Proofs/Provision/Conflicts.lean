import ClusterPorts.Proofs.Network.Transcript
import ClusterPorts.Proofs.Provision.History

/-!
# Forwarding without conflicts

A load balancer takes all the ports that are to be forwarded or none of them. What
can stand in the way of a port is told from the load balancer as it was found: the
rules that are added for other ports on the way never do, because a port that has
its rule is passed over. So what is added is the list of the ports that were
missing, and if no two rules were in conflict before, none are afterwards.
-/

namespace ClusterPorts

/-- A rule forwards what the rule for a port of a frontend would forward. -/
def ForwardingRule.Takes (frontendId : String) (port : Port) (rule : ForwardingRule) : Prop :=
  rule.frontendPort = port.number ∧
    (rule.transport = port.protocol.transport ∨ rule.transport = .all) ∧
    ∃ reference, rule.frontend = some reference ∧ Text.sameLetters reference.id frontendId = true

/-- Two rules forward the same traffic: they share the frontend and its port, and a
transport protocol. -/
def ForwardingRule.Conflicts (rule other : ForwardingRule) : Prop :=
  rule.frontendPort = other.frontendPort ∧
    (rule.transport = other.transport ∨ rule.transport = .all ∨ other.transport = .all) ∧
    ∃ reference reference', rule.frontend = some reference ∧ other.frontend = some reference' ∧
      Text.sameLetters reference.id reference'.id = true

/-- No two of the rules are in conflict. -/
def ForwardingRule.Compatible (rules : List ForwardingRule) : Prop :=
  rules.Pairwise fun rule other => ¬ rule.Conflicts other

namespace Provision

/-! ## What stands in the way of a port -/

section

variable {frontendId poolId : String} {port other : Port} {rule : ForwardingRule}

theorem forwards_iff : forwards frontendId port rule = true ↔ rule.Takes frontendId port := by
  simp only [forwards, ForwardingRule.Takes, Bool.and_eq_true, Bool.or_eq_true,
    decide_eq_true_eq, Option.any_eq_true, Reference.refersTo, and_assoc]

theorem transport_ne_all (port : Port) : port.protocol.transport ≠ .all := by
  cases port.protocol <;> exact nofun

/-- What stands in the way of a port is what its rule would be in conflict with. -/
theorem conflicts_forwarding :
    rule.Conflicts (forwarding frontendId poolId port) ↔ rule.Takes frontendId port := by
  simp [ForwardingRule.Conflicts, ForwardingRule.Takes, forwarding, Reference.ofId,
    transport_ne_all]

/-- The rule for a port stands in the way of no other port. -/
theorem takes_forwarding :
    (forwarding frontendId poolId other).Takes frontendId port ↔ other = port := by
  obtain ⟨number, protocol⟩ := port
  obtain ⟨number', protocol'⟩ := other
  cases protocol <;> cases protocol' <;>
    simp [ForwardingRule.Takes, forwarding, Reference.ofId, Protocol.transport]

end

section

variable {balancer frontendId poolId : String} {rules result : List ForwardingRule}
  {ports : List Port}

/-- The ports that a load balancer has no rule for. -/
def unforwardedPorts (rules : List ForwardingRule) (ports : List Port) : List Port :=
  Rules.missing Rules.forwardingStem (rules.map (·.name)) ports

theorem mem_unforwardedPorts {port : Port} :
    port ∈ unforwardedPorts rules ports ↔
      port ∈ ports ∧ ∀ rule ∈ rules, rule.name ≠ Rules.name Rules.forwardingStem port := by
  simp [unforwardedPorts, Rules.mem_missing]

/-- Where a port was missing and gets its rule, the others are still to be seen to. -/
theorem unforwardedPorts_cons {port : Port}
    (new : ∀ rule ∈ rules, rule.name ≠ Rules.name Rules.forwardingStem port) :
    unforwardedPorts rules (port :: ports) =
      port :: unforwardedPorts (rules ++ [forwarding frontendId poolId port]) ports := by
  rw [unforwardedPorts, Rules.missing_cons_of_notMem (by simpa using new), unforwardedPorts]
  congr 1
  apply Rules.missing_congr
  simp [forwarding, or_comm]

/-- The rules for the ports that were missing are added behind the others, if none of
those stands in the way of one of them. -/
theorem addForwarding_eq_ok :
    addForwarding balancer frontendId poolId rules ports = .ok result ↔
      (∀ port ∈ unforwardedPorts rules ports, ∀ rule ∈ rules, ¬ rule.Takes frontendId port) ∧
        result = rules ++ (unforwardedPorts rules ports).map (forwarding frontendId poolId) := by
  induction ports generalizing rules with
  | nil => simp [addForwarding, unforwardedPorts, Rules.missing, eq_comm]
  | cons port rest ih =>
      rw [addForwarding_cons_eq_ok]
      by_cases known : ∃ rule ∈ rules, rule.name = Rules.name Rules.forwardingStem port
      · have new_iff : ¬ ∀ rule ∈ rules, rule.name ≠ Rules.name Rules.forwardingStem port := by
          simpa using known
        have same : unforwardedPorts rules (port :: rest) = unforwardedPorts rules rest :=
          Rules.missing_cons_of_mem (by simpa using known)
        rw [and_iff_right known, or_iff_left (fun added => new_iff added.1), same, ih]
      · have new : ∀ rule ∈ rules, rule.name ≠ Rules.name Rules.forwardingStem port := by
          simpa using known
        have free : rules.find? (forwards frontendId port) = none ↔
            ∀ rule ∈ rules, ¬ rule.Takes frontendId port := by
          simp only [List.find?_eq_none, forwards_iff]
        -- The port's own rule does not stand in the way of the ports after it.
        have own (other : Port) (member : other ∈ unforwardedPorts
            (rules ++ [forwarding frontendId poolId port]) rest) :
            ¬ (forwarding frontendId poolId port).Takes frontendId other := by
          rw [takes_forwarding]
          rintro rfl
          exact (mem_unforwardedPorts.mp member).2 _ (List.mem_append_right _ List.mem_cons_self)
            rfl
        rw [or_iff_right (fun passed => known passed.1), and_iff_right new, free, ih,
          unforwardedPorts_cons new, List.forall_mem_cons, List.map_cons, and_assoc,
          List.append_assoc, List.singleton_append]
        refine and_congr_right fun _ => and_congr_left fun _ => ?_
        refine forall₂_congr fun other member => ?_
        rw [List.forall_mem_append, List.forall_mem_singleton]
        exact and_iff_left (own other member)

/-- Rules that are added to compatible ones without standing in anybody's way are
compatible with them and with each other. -/
theorem compatible_append (compatible : ForwardingRule.Compatible rules)
    (free : ∀ port ∈ unforwardedPorts rules ports, ∀ rule ∈ rules, ¬ rule.Takes frontendId port) :
    ForwardingRule.Compatible
      (rules ++ (unforwardedPorts rules ports).map (forwarding frontendId poolId)) := by
  refine List.pairwise_append.mpr ⟨compatible, List.pairwise_map.mpr ?_, ?_⟩
  · refine (Rules.nodup_missing _ _ _).imp fun different conflict => ?_
    exact different (takes_forwarding.mp (conflicts_forwarding.mp conflict))
  · intro rule old added member
    obtain ⟨port, missing, rfl⟩ := List.mem_map.mp member
    exact mt conflicts_forwarding.mp (free port missing rule old)

end

/-! ## The ends of a forwarding -/

section

variable {name frontend pool frontendId poolId : String} {ports : List Port}
  {balancer : LoadBalancer}

theorem endpoints_eq_ok :
    endpoints name frontend pool balancer = .ok (frontendId, poolId) ↔
      ∃ id front back, balancer.id = some id ∧
        balancer.frontends.find? (·.name = frontend) = some front ∧
        balancer.pools.find? (·.name = pool) = some back ∧
        frontendId = componentId id "frontendIPConfigurations" front ∧
        poolId = componentId id "backendAddressPools" back := by
  unfold endpoints
  cases balancer.id with
  | none => simp
  | some id =>
      cases balancer.frontends.find? (·.name = frontend) with
      | none => simp
      | some front =>
          cases balancer.pools.find? (·.name = pool) with
          | none => simp
          | some back => simp [pure, Except.pure, eq_comm]

end

end Provision

/-- A load balancer can forward ports from a frontend to a pool. -/
structure LoadBalancer.CanForward (frontend pool : String) (ports : List Port)
    (balancer : LoadBalancer) : Prop where
  identified : balancer.id ≠ none
  exposed : ∃ component ∈ balancer.frontends, component.name = frontend
  pooled : ∃ component ∈ balancer.pools, component.name = pool
  /-- No rule stands in the way of a port that has no rule of its name. -/
  free : ∀ id front, balancer.id = some id →
    balancer.frontends.find? (·.name = frontend) = some front →
    ∀ port ∈ ports,
      (∀ rule ∈ balancer.rules, rule.name ≠ Rules.name Rules.forwardingStem port) →
      ∀ rule ∈ balancer.rules,
        ¬ rule.Takes (Provision.componentId id "frontendIPConfigurations" front) port

namespace Provision

theorem exists_forwarded {name frontend pool : String} {ports : List Port}
    {balancer : LoadBalancer} :
    (∃ after, Forwarded name frontend pool ports (some balancer) after) ↔
      balancer.CanForward frontend pool ports := by
  constructor
  · rintro ⟨_, ⟨ends, ok⟩⟩
    obtain ⟨id, front, back, isId, isFront, isBack, rfl, rfl⟩ := endpoints_eq_ok.mp ends
    obtain ⟨free, _⟩ := addForwarding_eq_ok.mp ok
    refine ⟨by simp [isId], ?_, ?_, ?_⟩
    · exact ⟨front, List.mem_of_find?_eq_some isFront, by simpa using List.find?_some isFront⟩
    · exact ⟨back, List.mem_of_find?_eq_some isBack, by simpa using List.find?_some isBack⟩
    · intro id' front' isId' isFront' port listed new
      cases isId.symm.trans isId'
      cases isFront.symm.trans isFront'
      exact free port (mem_unforwardedPorts.mpr ⟨listed, new⟩)
  · rintro ⟨identified, ⟨front, isFrontend, named⟩, ⟨back, isPool, named'⟩, free⟩
    obtain ⟨id, isId⟩ := Option.ne_none_iff_exists'.mp identified
    obtain ⟨front, isFront⟩ := Option.isSome_iff_exists.mp
      (List.find?_isSome (p := (·.name = frontend)).mpr ⟨front, isFrontend, by simpa using named⟩)
    obtain ⟨back, isBack⟩ := Option.isSome_iff_exists.mp
      (List.find?_isSome (p := (·.name = pool)).mpr ⟨back, isPool, by simpa using named'⟩)
    refine ⟨_, .intro (endpoints_eq_ok.mpr ⟨id, front, back, isId, isFront, isBack, rfl, rfl⟩)
      (addForwarding_eq_ok.mpr ⟨fun port missing => ?_, rfl⟩)⟩
    obtain ⟨listed, new⟩ := mem_unforwardedPorts.mp missing
    exact free id front isId isFront port listed new

/-! ## The step -/

section

variable {groupId : String → String} {cluster : Cluster} {frontend : String} {ports : List Port}
  {store final : Store}

/-- Rules are written only if there are any. -/
theorem requests_writeForwarding (name : String) (balancer : LoadBalancer)
    (added : List ForwardingRule) :
    store.requests groupId (writeForwarding name balancer (balancer.rules ++ added)) =
      if added.isEmpty then []
      else [.writeBalancer { balancer with rules := balancer.rules ++ added }] := by
  cases added with
  | nil => simp [writeForwarding, Store.requests, Plan.log, Plan.exchanges]
  | cons rule rest =>
      simp [writeForwarding, Store.requests, Plan.log, Plan.request, Plan.exchanges]

/-- Where the ports cannot be forwarded, reading the load balancer is all that is
done. -/
theorem openForwarding_of_not_forwarded
    (unable : ¬ ∃ after, Forwarded (Cluster.balancer cluster.infraId) frontend
      (Cluster.pool cluster.infraId) ports
      (store.balancers.find? (Cluster.balancer cluster.infraId)) after) :
    ∃ failure, store.run groupId (openForwarding cluster frontend ports) =
        (.error failure, store) ∧
      store.requests groupId (openForwarding cluster frontend ports) =
        [.readBalancer (Cluster.balancer cluster.infraId)] := by
  have reads := Store.run_readBalancer groupId (Cluster.balancer cluster.infraId) store
  rw [openForwarding, Store.run_bind, Store.requests_bind groupId reads, reads]
  cases found : store.balancers.find? (Cluster.balancer cluster.infraId) with
  | none => exact ⟨_, rfl, rfl⟩
  | some balancer =>
      cases ends : endpoints (Cluster.balancer cluster.infraId) frontend
          (Cluster.pool cluster.infraId) balancer with
      | error failure => simp only [ends]; exact ⟨_, rfl, rfl⟩
      | ok pair =>
          obtain ⟨frontendId, poolId⟩ := pair
          cases ok : addForwarding (Cluster.balancer cluster.infraId) frontendId poolId
              balancer.rules ports with
          | error fault => simp only [ends, ok]; exact ⟨_, rfl, rfl⟩
          | ok rules => exact absurd ⟨_, found ▸ Forwarded.intro ends ok⟩ unable

theorem requests_openForwarding {balancer : LoadBalancer} {frontendId poolId : String}
    {added : List ForwardingRule}
    (found : store.balancers.find? (Cluster.balancer cluster.infraId) = some balancer)
    (ends : endpoints (Cluster.balancer cluster.infraId) frontend (Cluster.pool cluster.infraId)
      balancer = .ok (frontendId, poolId))
    (ok : addForwarding (Cluster.balancer cluster.infraId) frontendId poolId balancer.rules ports =
      .ok (balancer.rules ++ added)) :
    store.requests groupId (openForwarding cluster frontend ports) =
      .readBalancer (Cluster.balancer cluster.infraId) ::
        if added.isEmpty then []
        else [.writeBalancer { balancer with rules := balancer.rules ++ added }] := by
  have reads := Store.run_readBalancer groupId (Cluster.balancer cluster.infraId) store
  rw [openForwarding, Store.requests_bind groupId reads, found]
  simp only [ends, ok, requests_writeForwarding]
  rfl

/-- What forwarding ports comes to on a network without failures, whatever the load
balancer is like and whichever ports are listed. It succeeds exactly if the load
balancer can forward them. If it fails it has written nothing; if it succeeds, all it
has done is to add the rules for the ports that were missing behind the others, and
to write them if there are any. Rules that were compatible stay so. -/
theorem forwarding_exact
    (own : ∀ balancer, store.balancers.find? (Cluster.balancer cluster.infraId) = some balancer →
      balancer.name = Cluster.balancer cluster.infraId) :
    ((∃ final, store.run groupId (openForwarding cluster frontend ports) = (.ok (), final)) ↔
      ∃ balancer, store.balancers.find? (Cluster.balancer cluster.infraId) = some balancer ∧
        balancer.CanForward frontend (Cluster.pool cluster.infraId) ports) ∧
    (∀ failure final,
      store.run groupId (openForwarding cluster frontend ports) = (.error failure, final) →
      final = store ∧ ∀ request ∈ store.requests groupId (openForwarding cluster frontend ports),
        request.isWrite = false) ∧
    ∀ final, store.run groupId (openForwarding cluster frontend ports) = (.ok (), final) →
      ∃ balancer frontendId poolId,
        store.balancers.find? (Cluster.balancer cluster.infraId) = some balancer ∧
        endpoints (Cluster.balancer cluster.infraId) frontend (Cluster.pool cluster.infraId)
          balancer = .ok (frontendId, poolId) ∧
        let missing := unforwardedPorts balancer.rules ports
        let after : LoadBalancer :=
          { balancer with
            rules := balancer.rules ++ missing.map (forwarding frontendId poolId) }
        final = { store with
          balancers := store.balancers.insert (Cluster.balancer cluster.infraId) after } ∧
        store.requests groupId (openForwarding cluster frontend ports) =
          (.readBalancer (Cluster.balancer cluster.infraId) ::
            if missing = [] then [] else [.writeBalancer after]) ∧
        (ForwardingRule.Compatible balancer.rules → ForwardingRule.Compatible after.rules) := by
  have able : (∃ final, store.run groupId (openForwarding cluster frontend ports) =
      (.ok (), final)) ↔ ∃ after, Forwarded (Cluster.balancer cluster.infraId) frontend
        (Cluster.pool cluster.infraId) ports
        (store.balancers.find? (Cluster.balancer cluster.infraId)) after := by
    simp only [run_openForwarding_eq_ok own]
    exact ⟨fun ⟨_, after, forwarded, _⟩ => ⟨after, forwarded⟩,
      fun ⟨after, forwarded⟩ => ⟨_, after, forwarded, rfl⟩⟩
  refine ⟨able.trans ?_, fun failure final failed => ?_, fun final ok => ?_⟩
  · cases store.balancers.find? (Cluster.balancer cluster.infraId) with
    | none =>
        constructor
        · rintro ⟨_, forwarded⟩
          cases forwarded
        · rintro ⟨_, found, _⟩
          cases found
    | some balancer => simp [exists_forwarded]
  · have unable := mt able.mpr fun ⟨_, ok⟩ => nomatch failed.symm.trans ok
    obtain ⟨_, run, requests⟩ := @openForwarding_of_not_forwarded groupId _ _ _ _ unable
    cases failed.symm.trans run
    rw [requests]
    exact ⟨rfl, List.forall_mem_singleton.mpr rfl⟩
  · obtain ⟨_, forwarded, rfl⟩ := (run_openForwarding_eq_ok own).mp ok
    generalize found : store.balancers.find? (Cluster.balancer cluster.infraId) = before
      at forwarded
    obtain ⟨ends, added⟩ := forwarded
    obtain ⟨free, rfl⟩ := addForwarding_eq_ok.mp added
    refine ⟨_, _, _, rfl, ends, rfl, ?_, fun compatible => compatible_append compatible free⟩
    rw [requests_openForwarding found ends added]
    simp

end

end Provision

/-! ### A load balancer with rules of others -/

namespace Sample

/-- One of the rules is for another port of the frontend, the other one for the port
of another frontend. -/
def crowdedBalancer : LoadBalancer :=
  { balancer with
    frontends := [{ name := "public-lb-ip-v4" }, { name := "private" }]
    rules :=
      [{ name := "api", transport := .tcp, frontendPort := 6443,
         frontend := some (.ofId "/BALANCERS/C1/frontendIPConfigurations/public-lb-ip-v4") },
       { name := "mesh", transport := .all, frontendPort := 4500,
         frontend := some (.ofId "/balancers/c1/frontendIPConfigurations/private") }] }

/-- The sample network with that load balancer. -/
def crowded : Store := { store with balancers := .ofList [("c1", crowdedBalancer)] }

theorem compatible_crowdedBalancer : ForwardingRule.Compatible crowdedBalancer.rules := by
  simp [ForwardingRule.Compatible, ForwardingRule.Conflicts, crowdedBalancer]

end Sample

/-- A port that is listed twice is forwarded once, and the rules of others do not
stand in its way. -/
theorem Provision.forwarding_exact_sample :
    ∃ final balancer frontendId poolId,
      Sample.crowded.run Sample.site.groupId (openForwarding Sample.site.cluster Cluster.frontend
        [⟨4500, .udp⟩, ⟨4490, .udp⟩, ⟨4500, .udp⟩]) = (.ok (), final) ∧
      final.balancers.find? "c1" = some balancer ∧
      balancer.rules = Sample.crowdedBalancer.rules ++
        [forwarding frontendId poolId ⟨4500, .udp⟩, forwarding frontendId poolId ⟨4490, .udp⟩] ∧
      ForwardingRule.Compatible balancer.rules := by
  have ok : (Sample.crowded.run Sample.site.groupId (openForwarding Sample.site.cluster
      Cluster.frontend [⟨4500, .udp⟩, ⟨4490, .udp⟩, ⟨4500, .udp⟩])).1 = .ok () := by rfl
  have run := Store.run_eq_of_fst _ ok
  have own (balancer : LoadBalancer) (found : Sample.crowded.balancers.find?
      (Cluster.balancer Sample.site.cluster.infraId) = some balancer) :
      balancer.name = Cluster.balancer Sample.site.cluster.infraId := by
    cases found
    rfl
  obtain ⟨balancer, frontendId, poolId, found, _, final_eq, _, compatible⟩ :=
    (forwarding_exact own).2.2 _ run
  cases found
  have missing : unforwardedPorts Sample.crowdedBalancer.rules
      [⟨4500, .udp⟩, ⟨4490, .udp⟩, ⟨4500, .udp⟩] = [⟨4500, .udp⟩, ⟨4490, .udp⟩] := by decide +kernel
  refine ⟨_, _, frontendId, poolId, run, ?_, ?_, compatible Sample.compatible_crowdedBalancer⟩
  · rw [final_eq]
    exact Table.find?_insert _ _ _ _
  · rw [missing]
    rfl

end ClusterPorts
