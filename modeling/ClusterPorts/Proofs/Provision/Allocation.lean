import ClusterPorts.Proofs.Provision.Additions

/-!
# Which rules a security group gets

The ports that a group has no rule for get one each, in the order in which they
are listed, and the rules get the lowest priorities that are free, in their order.
If there are more ports than free priorities, the first port that is left without
one is named. So `Rules.additions`, which goes through the ports once and through
the priorities once, comes to the pairing of two lists that are easy to tell:
`Rules.missing` and `Rules.freePriorities`.

What makes a single pass enough is that behind the cursor nothing is free. The
names, the priorities and the directions of the rules that the group has may be
any.
-/

namespace ClusterPorts.Rules

/-- The priorities in the range of the library that are not used, in their order. -/
def freePriorities (used : List Int) : List Int :=
  ((List.range capacity).map fun k : Nat => firstPriority + k).filter (· ∉ used)

variable {used : List Int} {cursor priority : Int}

theorem mem_freePriorities :
    priority ∈ freePriorities used ↔
      firstPriority ≤ priority ∧ priority ≤ lastPriority ∧ priority ∉ used := by
  have in_range : (∃ k < capacity, firstPriority + (k : Int) = priority) ↔
      firstPriority ≤ priority ∧ priority ≤ lastPriority := by
    unfold capacity firstPriority lastPriority
    constructor
    · rintro ⟨k, few, rfl⟩
      omega
    · rintro ⟨first, last⟩
      exact ⟨(priority - 100).toNat, by omega, by omega⟩
  simp [freePriorities, in_range, and_assoc]

theorem freePriorities_pairwise (used : List Int) : (freePriorities used).Pairwise (· < ·) := by
  apply List.Pairwise.filter
  rw [List.pairwise_map]
  exact List.pairwise_lt_range.imp fun less => by omega

/-- A priority that is taken is not free anymore. -/
theorem freePriorities_cons (used : List Int) (priority : Int) :
    freePriorities (priority :: used) = (freePriorities used).filter (· ≠ priority) := by
  simp only [freePriorities, List.filter_filter, List.mem_cons, not_or, Bool.decide_and]

/-- The lowest free priority is what is left of the others once it is taken. -/
theorem freePriorities_cons_head {rest : List Int} (free : freePriorities used = priority :: rest) :
    freePriorities (priority :: used) = rest := by
  obtain ⟨lowest, _⟩ := List.pairwise_cons.mp (free ▸ freePriorities_pairwise used)
  rw [freePriorities_cons, free, List.filter_cons_of_neg (by simp), List.filter_eq_self]
  intro other member
  simpa using Int.ne_of_gt (lowest other member)

/-! ## The search finds the lowest free priority -/

section

variable (start : firstPriority ≤ cursor)
  (behind : ∀ number, firstPriority ≤ number → number < cursor → number ∈ used)
include start behind

theorem nextFree_eq_head {rest : List Int} (free : freePriorities used = priority :: rest) :
    nextFree used used.length cursor = priority := by
  obtain ⟨first, last, unused⟩ := mem_freePriorities.mp (free ▸ List.mem_cons_self)
  have ahead : cursor ≤ priority := by
    by_contra passed
    exact unused (behind priority first (Int.not_le.mp passed))
  have no_further : nextFree used used.length cursor ≤ priority := by
    by_contra beyond
    exact unused (mem_of_lt_nextFree ahead (Int.not_le.mp beyond))
  apply Int.le_antisymm no_further
  -- What the search finds is free itself, so that it is not below the lowest one.
  have found : nextFree used used.length cursor ∈ freePriorities used :=
    mem_freePriorities.mpr ⟨Int.le_trans start (le_nextFree _ _ _), Int.le_trans no_further last,
      nextFree_notMem used cursor⟩
  rw [free] at found
  rcases List.mem_cons.mp found with same | member
  · exact Int.le_of_eq same.symm
  · obtain ⟨lowest, _⟩ := List.pairwise_cons.mp (free ▸ freePriorities_pairwise used)
    exact Int.le_of_lt (lowest _ member)

omit behind in
theorem lastPriority_lt_nextFree (full : freePriorities used = []) :
    lastPriority < nextFree used used.length cursor := by
  by_contra last
  have found : nextFree used used.length cursor ∈ freePriorities used :=
    mem_freePriorities.mpr ⟨Int.le_trans start (le_nextFree _ _ _), Int.not_lt.mp last,
      nextFree_notMem used cursor⟩
  rw [full] at found
  cases found

/-- What is taken leaves nothing free behind it. -/
theorem behind_head {rest : List Int} (free : freePriorities used = priority :: rest)
    (number : Int) (first : firstPriority ≤ number) (before : number < priority) :
    number ∈ priority :: used := by
  apply List.mem_cons_of_mem
  by_cases passed : number < cursor
  · exact behind number first passed
  · rw [← nextFree_eq_head start behind free] at before
    exact mem_of_lt_nextFree (Int.not_lt.mp passed) before

end

/-! ## The rules -/

/-- If nothing is free behind the cursor, the missing ports get the free priorities
one by one, and the first port for which there is none left is named. -/
theorem additionsFrom_eq {stem group : String} {names : List String}
    (start : firstPriority ≤ cursor)
    (behind : ∀ number, firstPriority ≤ number → number < cursor → number ∈ used)
    (ports : List Port) :
    additionsFrom stem group names used cursor ports =
      match (missing stem names ports)[(freePriorities used).length]? with
      | some port => .error (.noPriorityLeft group port)
      | none => .ok (List.zipWith (opened stem) (missing stem names ports)
          (freePriorities used)) := by
  induction ports generalizing names used cursor with
  | nil => rfl
  | cons port rest ih =>
      rw [additionsFrom]
      by_cases known : name stem port ∈ names
      · rw [if_pos (by simpa using known), missing_cons_of_mem known]
        exact ih start behind
      rw [if_neg (by simpa using known), missing_cons_of_notMem known]
      cases free : freePriorities used with
      | nil => exact if_pos (lastPriority_lt_nextFree start free)
      | cons priority free_rest =>
          obtain ⟨first, last, _⟩ := mem_freePriorities.mp (free ▸ List.mem_cons_self)
          simp only [nextFree_eq_head start behind free, if_neg (Int.not_lt.mpr last)]
          rw [ih first (behind_head start behind free), freePriorities_cons_head free,
            List.length_cons, List.getElem?_cons_succ]
          cases (missing stem (name stem port :: names) rest)[free_rest.length]? <;> rfl

/-- The rules have the priorities that they were paired with. -/
theorem priorities_zipWith_opened {stem : String} (ports : List Port) {free : List Int}
    (inRange : ∀ priority ∈ free, firstPriority ≤ priority ∧ priority ≤ lastPriority) :
    (List.zipWith (opened stem) ports free).map (·.priority.toInt) = free.take ports.length := by
  induction ports generalizing free with
  | nil => rfl
  | cons port rest ih =>
      cases free with
      | nil => rfl
      | cons priority free_rest =>
          obtain ⟨⟨first, last⟩, inRange⟩ := List.forall_mem_cons.mp inRange
          rw [List.zipWith_cons_cons, List.map_cons, opened_priority stem port first last,
            ih inRange, List.length_cons, List.take_succ_cons]

/-- The rules let traffic in, so that their priorities count as used. -/
theorem usedPriorities_zipWith_opened {stem : String} (ports : List Port) (used : List Int) :
    usedPriorities (List.zipWith (opened stem) ports (freePriorities used)) =
      (freePriorities used).take ports.length := by
  have inbound : (List.zipWith (opened stem) ports (freePriorities used)).filter
      (·.direction = .inbound) = List.zipWith (opened stem) ports (freePriorities used) := by
    rw [← List.map_uncurry_zip_eq_zipWith]
    apply List.filter_eq_self.mpr
    intro rule member
    obtain ⟨_, _, rfl⟩ := List.mem_map.mp member
    rfl
  rw [usedPriorities, inbound]
  apply priorities_zipWith_opened
  intro priority member
  obtain ⟨first, last, _⟩ := mem_freePriorities.mp member
  exact ⟨first, last⟩

theorem names_zipWith_opened {stem : String} {ports : List Port} {free : List Int}
    (enough : ports.length ≤ free.length) :
    (List.zipWith (opened stem) ports free).map (·.name) = ports.map (name stem) := by
  calc (List.zipWith (opened stem) ports free).map (·.name)
      = ((ports.zip free).map Prod.fst).map (name stem) := by
        rw [← List.map_uncurry_zip_eq_zipWith, List.map_map, List.map_map]
        rfl
    _ = ports.map (name stem) := by rw [List.map_fst_zip enough]

/-- There are as many free priorities as ports that have no rule, and the two lists are
paired. -/
theorem additions_eq_ok {stem : String} {group : SecurityGroup} {ports : List Port}
    {added : List SecurityRule} :
    additions stem group ports = .ok added ↔
      (missing stem (group.rules.map (·.name)) ports).length ≤
          (freePriorities (usedPriorities group.rules)).length ∧
        added = List.zipWith (opened stem) (missing stem (group.rules.map (·.name)) ports)
          (freePriorities (usedPriorities group.rules)) := by
  have comes : additions stem group ports = _ :=
    additionsFrom_eq (Int.le_refl _) (fun number first before => by omega) ports
  rw [comes]
  cases next : (missing stem (group.rules.map (·.name)) ports)[
      (freePriorities (usedPriorities group.rules)).length]? with
  | none => simp [List.getElem?_eq_none_iff.mp next, eq_comm]
  | some port =>
      obtain ⟨fewer, _⟩ := List.getElem?_eq_some_iff.mp next
      simp [fewer]

/-- What adding rules comes to, for every group and every list of ports. It succeeds
exactly if there are as many free priorities as ports that have no rule. Then there is
one rule more for each of these, in their order and with the priorities in their order,
behind the rules that were there. Otherwise it fails on the first of these ports that
no priority is left for. -/
theorem additions_exact (stem : String) (group : SecurityGroup) (ports : List Port) :
    let lacking := missing stem (group.rules.map (·.name)) ports
    let free := freePriorities (usedPriorities group.rules)
    ((∃ added, additions stem group ports = .ok added) ↔ lacking.length ≤ free.length) ∧
      (∀ added, additions stem group ports = .ok added →
        added.length = lacking.length ∧
        added.map (·.priority.toInt) = free.take lacking.length ∧
        (Provision.extended group added).rules = group.rules ++
          List.zipWith (fun port priority =>
            opening stem "0.0.0.0/0" "0.0.0.0/0" port (Int32.ofInt priority)) lacking free) ∧
      ∀ fault, additions stem group ports = .error fault →
        ∃ port, lacking[free.length]? = some port ∧ fault = .noPriorityLeft group.name port := by
  intro lacking free
  have comes : additions stem group ports = match lacking[free.length]? with
      | some port => .error (.noPriorityLeft group.name port)
      | none => .ok (List.zipWith (opened stem) lacking free) :=
    additionsFrom_eq (Int.le_refl _) (fun number first before => by omega) ports
  have inRange (priority : Int) (member : priority ∈ free) :
      firstPriority ≤ priority ∧ priority ≤ lastPriority := by
    obtain ⟨first, last, _⟩ := mem_freePriorities.mp member
    exact ⟨first, last⟩
  cases next : lacking[free.length]? with
  | none =>
      have enough : lacking.length ≤ free.length := List.getElem?_eq_none_iff.mp next
      rw [next] at comes
      refine ⟨⟨fun _ => enough, fun _ => ⟨_, comes⟩⟩, fun added ok => ?_, fun fault error => ?_⟩
      · cases comes.symm.trans ok
        refine ⟨?_, priorities_zipWith_opened lacking inRange, rfl⟩
        rw [List.length_zipWith, Nat.min_eq_left enough]
      · cases comes.symm.trans error
  | some port =>
      obtain ⟨fewer, _⟩ := List.getElem?_eq_some_iff.mp next
      rw [next] at comes
      refine ⟨⟨fun ⟨_, ok⟩ => ?_, fun enough => ?_⟩, fun added ok => ?_, fun fault error => ?_⟩
      · cases comes.symm.trans ok
      · exact absurd fewer (Nat.not_lt.mpr enough)
      · cases comes.symm.trans ok
      · cases comes.symm.trans error
        exact ⟨port, rfl, rfl⟩

end ClusterPorts.Rules
