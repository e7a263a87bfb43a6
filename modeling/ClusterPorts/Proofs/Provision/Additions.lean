import ClusterPorts.Proofs.Provision.Naming
import Mathlib.Data.List.Range

/-!
# The rules that a security group lacks

What `Rules.additions` adds for a list of ports: rules that open those ports, at
most one for each, with names and inbound priorities that were not in use, so
that afterwards every port has a rule of its name. That the priorities are new
rests on `nextFree_notMem`: the search looks far enough.
-/

namespace ClusterPorts.Rules

/-! ## The search for a priority -/

/-- A search that ends on a used number has seen nothing but used numbers. -/
theorem mem_of_nextFree_mem {used : List Int} {steps : Nat} {candidate : Int}
    (taken : nextFree used steps candidate ∈ used) (k : Nat) (near : k ≤ steps) :
    candidate + k ∈ used := by
  induction steps generalizing candidate k with
  | zero =>
      obtain rfl : k = 0 := Nat.le_zero.mp near
      simpa [nextFree] using taken
  | succ steps ih =>
      rw [nextFree] at taken
      split at taken
      · next used_candidate =>
        cases k with
        | zero => simpa using used_candidate
        | succ k =>
            have later := ih taken k (Nat.le_of_succ_le_succ near)
            rwa [Int.add_assoc, Int.add_comm 1, ← Int.natCast_succ] at later
      · next free => exact absurd taken (by simpa using free)

/-- As many steps as there are used numbers suffice to find one that is not used. -/
theorem nextFree_notMem (used : List Int) (candidate : Int) :
    nextFree used used.length candidate ∉ used := by
  intro taken
  let seen := (List.range (used.length + 1)).map fun k : Nat => candidate + k
  have distinct : seen.Nodup := by
    refine List.Nodup.map ?_ List.nodup_range
    intro first second same
    exact Int.ofNat_inj.mp (Int.add_left_cancel same)
  have within : seen ⊆ used := by
    intro number member
    obtain ⟨k, inRange, rfl⟩ := List.mem_map.mp member
    exact mem_of_nextFree_mem taken k (Nat.le_of_lt_succ (List.mem_range.mp inRange))
  -- One number more would be used than there are used numbers.
  have tooMany := distinct.length_le_of_subset within
  simp only [seen, List.length_map, List.length_range] at tooMany
  omega

theorem le_nextFree (used : List Int) (steps : Nat) (candidate : Int) :
    candidate ≤ nextFree used steps candidate := by
  induction steps generalizing candidate with
  | zero => exact Int.le_refl _
  | succ steps ih =>
      rw [nextFree]
      split
      · exact Int.le_trans (by omega) (ih (candidate + 1))
      · exact Int.le_refl _

/-- A number that is not used is found at once. -/
theorem nextFree_of_notMem {used : List Int} {candidate : Int} (free : candidate ∉ used)
    (steps : Nat) : nextFree used steps candidate = candidate := by
  cases steps with
  | zero => rfl
  | succ steps => rw [nextFree, if_neg (by simpa using free)]

/-- A search passes over nothing but used numbers. -/
theorem mem_of_lt_nextFree {used : List Int} {steps : Nat} {candidate number : Int}
    (from_candidate : candidate ≤ number) (passed : number < nextFree used steps candidate) :
    number ∈ used := by
  induction steps generalizing candidate with
  | zero =>
      rw [nextFree] at passed
      omega
  | succ steps ih =>
      rw [nextFree] at passed
      split at passed
      · next used_candidate =>
        by_cases here : number = candidate
        · rw [here]
          exact List.contains_iff_mem.mp used_candidate
        · exact ih (by omega) passed
      · omega

/-- A search may begin further on, if the numbers that it leaves out are used, and
does not depend on the order in which the used numbers are listed. -/
theorem nextFree_congr {used used' : List Int} (same : ∀ number, number ∈ used ↔ number ∈ used')
    {candidate candidate' : Int} (later : candidate ≤ candidate')
    (passed : ∀ number, candidate ≤ number → number < candidate' → number ∈ used) :
    nextFree used used.length candidate = nextFree used' used'.length candidate' := by
  have free := nextFree_notMem used candidate
  have free' := nextFree_notMem used' candidate'
  have reached := le_nextFree used used.length candidate
  have reached' := le_nextFree used' used'.length candidate'
  -- The search from the earlier number has not stopped before the later one.
  have caught_up : candidate' ≤ nextFree used used.length candidate := by
    by_contra early
    exact free (passed _ reached (by omega))
  apply Int.le_antisymm
  · by_contra beyond
    exact free' ((same _).mp
      (mem_of_lt_nextFree (Int.le_trans later reached') (Int.not_le.mp beyond)))
  · by_contra beyond
    exact free ((same _).mpr (mem_of_lt_nextFree caught_up (Int.not_le.mp beyond)))

/-! ## The rules that are added -/

/-- The rules that are added open ports to everyone. -/
def opened (stem : String) (port : Port) (priority : Int) : SecurityRule :=
  opening stem everywhere everywhere port (Int32.ofInt priority)

/-- A priority in the range of the library is kept as it is. -/
theorem opened_priority (stem : String) (port : Port) {priority : Int}
    (first : firstPriority ≤ priority) (last : priority ≤ lastPriority) :
    (opened stem port priority).priority.toInt = priority := by
  unfold firstPriority at first
  unfold lastPriority at last
  exact Int32.toInt_ofInt_of_le (by omega) (by omega)

theorem usedPriorities_append (rules others : List SecurityRule) :
    usedPriorities (rules ++ others) = usedPriorities rules ++ usedPriorities others := by
  simp [usedPriorities]

/-- Adding rules for ports one after the other: a port whose name is in use is
passed over, any other gets the next free priority. -/
theorem additionsFrom_cons_eq_ok {stem group : String} {names : List String} {used : List Int}
    {cursor : Int} {port : Port} {rest : List Port} {added : List SecurityRule} :
    additionsFrom stem group names used cursor (port :: rest) = .ok added ↔
      name stem port ∈ names ∧ additionsFrom stem group names used cursor rest = .ok added ∨
      name stem port ∉ names ∧ nextFree used used.length cursor ≤ lastPriority ∧
        ∃ more, additionsFrom stem group (name stem port :: names)
            (nextFree used used.length cursor :: used) (nextFree used used.length cursor) rest =
            .ok more ∧
          added = opened stem port (nextFree used used.length cursor) :: more := by
  simp only [additionsFrom, List.contains_iff_mem]
  by_cases known : name stem port ∈ names
  · simp [known]
  · by_cases last : lastPriority < nextFree used used.length cursor
    · simp [known, last, Int.not_le.mpr last]
    · simp only [known, last, if_false, false_and, false_or, not_false_eq_true, true_and,
        Int.not_lt.mp last]
      cases additionsFrom stem group (name stem port :: names)
          (nextFree used used.length cursor :: used) (nextFree used used.length cursor) rest with
      | error fault => simp [bind, Except.bind]
      | ok more => simp [bind, Except.bind, pure, Except.pure, opened, eq_comm]

/-- What is added depends on which names and which priorities are in use, and on
where the search for a priority begins only as far as that leaves out a free one. -/
theorem additionsFrom_congr {stem group : String} {names names' : List String}
    {used used' : List Int} {cursor cursor' : Int}
    (sameNames : ∀ name, name ∈ names ↔ name ∈ names')
    (sameUsed : ∀ number, number ∈ used ↔ number ∈ used') (later : cursor ≤ cursor')
    (passed : ∀ number, cursor ≤ number → number < cursor' → number ∈ used)
    (ports : List Port) :
    additionsFrom stem group names used cursor ports =
      additionsFrom stem group names' used' cursor' ports := by
  induction ports generalizing names names' used used' cursor cursor' with
  | nil => rfl
  | cons port rest ih =>
      have known := ih sameNames sameUsed later passed
      have next := nextFree_congr sameUsed later passed
      -- Once a priority is taken, both searches go on from it.
      have new (priority : Int) :
          additionsFrom stem group (name stem port :: names) (priority :: used) priority rest =
            additionsFrom stem group (name stem port :: names') (priority :: used') priority
              rest := by
        apply ih
        · simp [sameNames]
        · simp [sameUsed]
        · exact Int.le_refl _
        · intro number reached before
          omega
      simp only [additionsFrom, List.contains_iff_mem, sameNames, ← next, known, new]

section

variable {stem group : String} {names : List String} {used : List Int} {cursor : Int}
  {ports : List Port} {added : List SecurityRule}

/-- Every rule that is added opens one of the ports, with a priority in the range
of the library. -/
theorem opened_of_mem_additionsFrom
    (ok : additionsFrom stem group names used cursor ports = .ok added)
    (start : firstPriority ≤ cursor) {rule : SecurityRule} (member : rule ∈ added) :
    ∃ port ∈ ports, ∃ priority, firstPriority ≤ priority ∧ priority ≤ lastPriority ∧
      rule = opened stem port priority := by
  induction ports generalizing names used cursor added with
  | nil => cases ok; cases member
  | cons port rest ih =>
      rcases additionsFrom_cons_eq_ok.mp ok with ⟨_, ok⟩ | ⟨_, last, more, okMore, rfl⟩
      · obtain ⟨other, inRest, rest⟩ := ih ok start member
        exact ⟨other, List.mem_cons_of_mem _ inRest, rest⟩
      · have first := Int.le_trans start (le_nextFree used used.length cursor)
        rcases List.mem_cons.mp member with rfl | member
        · exact ⟨port, List.mem_cons_self, _, first, last, rfl⟩
        · obtain ⟨other, inRest, rest⟩ := ih okMore first member
          exact ⟨other, List.mem_cons_of_mem _ inRest, rest⟩

/-- Every rule that is added is of the stem. -/
theorem startsWith_of_mem_additionsFrom
    (ok : additionsFrom stem group names used cursor ports = .ok added)
    (start : firstPriority ≤ cursor) {rule : SecurityRule} (member : rule ∈ added) :
    Text.startsWith rule.name stem = true := by
  obtain ⟨port, _, priority, _, _, rfl⟩ := opened_of_mem_additionsFrom ok start member
  exact startsWith_name stem port

/-- The names of the rules that are added are new, and no two are the same. -/
theorem names_of_additionsFrom
    (ok : additionsFrom stem group names used cursor ports = .ok added) :
    (added.map (·.name)).Nodup ∧ ∀ rule ∈ added, rule.name ∉ names := by
  induction ports generalizing names used cursor added with
  | nil => cases ok; simp
  | cons port rest ih =>
      rcases additionsFrom_cons_eq_ok.mp ok with ⟨_, ok⟩ | ⟨new, _, more, okMore, rfl⟩
      · exact ih ok
      · obtain ⟨distinct, fresh⟩ := ih okMore
        refine ⟨List.nodup_cons.mpr ⟨?_, distinct⟩, ?_⟩
        · intro member
          obtain ⟨rule, inMore, same⟩ := List.mem_map.mp member
          exact fresh rule inMore (same ▸ List.mem_cons_self)
        · intro rule member
          rcases List.mem_cons.mp member with rfl | member
          · exact new
          · exact fun known => fresh rule member (List.mem_cons_of_mem _ known)

/-- The priority of a rule that is added counts as used afterwards. -/
theorem usedPriorities_cons_opened (port : Port) {priority : Int} (rules : List SecurityRule)
    (first : firstPriority ≤ priority) (last : priority ≤ lastPriority) :
    usedPriorities (opened stem port priority :: rules) = priority :: usedPriorities rules := by
  rw [usedPriorities, List.filter_cons_of_pos (by rfl), List.map_cons,
    opened_priority stem port first last]
  rfl

/-- The priorities of the rules that are added are new, and no two are the same. -/
theorem priorities_of_additionsFrom
    (ok : additionsFrom stem group names used cursor ports = .ok added)
    (start : firstPriority ≤ cursor) :
    (usedPriorities added).Nodup ∧ ∀ priority ∈ usedPriorities added, priority ∉ used := by
  induction ports generalizing names used cursor added with
  | nil => cases ok; simp [usedPriorities]
  | cons port rest ih =>
      rcases additionsFrom_cons_eq_ok.mp ok with ⟨_, ok⟩ | ⟨_, last, more, okMore, rfl⟩
      · exact ih ok start
      · have first := Int.le_trans start (le_nextFree used used.length cursor)
        obtain ⟨distinct, fresh⟩ := ih okMore first
        rw [usedPriorities_cons_opened port more first last]
        refine ⟨List.nodup_cons.mpr ⟨fun member => ?_, distinct⟩, ?_⟩
        · exact fresh _ member List.mem_cons_self
        · intro priority member
          rcases List.mem_cons.mp member with rfl | member
          · exact nextFree_notMem used cursor
          · exact fun known => fresh priority member (List.mem_cons_of_mem _ known)

/-- Afterwards every port has a rule of its name. -/
theorem name_mem_of_additionsFrom
    (ok : additionsFrom stem group names used cursor ports = .ok added)
    {port : Port} (member : port ∈ ports) :
    name stem port ∈ names ∨ ∃ rule ∈ added, rule.name = name stem port := by
  induction ports generalizing names used cursor added with
  | nil => cases member
  | cons head rest ih =>
      rcases additionsFrom_cons_eq_ok.mp ok with ⟨known, ok⟩ | ⟨_, _, more, okMore, rfl⟩
      · rcases List.mem_cons.mp member with rfl | member
        · exact .inl known
        · exact ih ok member
      · rcases List.mem_cons.mp member with rfl | member
        · exact .inr ⟨_, List.mem_cons_self, rfl⟩
        · rcases ih okMore member with known | ⟨rule, inMore, same⟩
          · rcases List.mem_cons.mp known with same | known
            · exact .inr ⟨_, List.mem_cons_self, same.symm⟩
            · exact .inl known
          · exact .inr ⟨rule, List.mem_cons_of_mem _ inMore, same⟩

/-- Nothing is added for ports that have their rules. -/
theorem additionsFrom_eq_nil (present : ∀ port ∈ ports, name stem port ∈ names) :
    additionsFrom stem group names used cursor ports = .ok [] := by
  induction ports with
  | nil => rfl
  | cons port rest ih =>
      exact additionsFrom_cons_eq_ok.mpr (.inl ⟨present port List.mem_cons_self,
        ih fun other member => present other (List.mem_cons_of_mem _ member)⟩)

/-- Each of the ports has a rule of its name. -/
def Complete (stem : String) (ports : List Port) (rules : List SecurityRule) : Prop :=
  ∀ port ∈ ports, ∃ rule ∈ rules, rule.name = name stem port

theorem complete_of_additions {group : SecurityGroup}
    (ok : additions stem group ports = .ok added) : Complete stem ports (group.rules ++ added) := by
  intro port member
  rcases name_mem_of_additionsFrom ok member with known | ⟨rule, inAdded, same⟩
  · obtain ⟨rule, inGroup, same⟩ := List.mem_map.mp known
    exact ⟨rule, List.mem_append_left _ inGroup, same⟩
  · exact ⟨rule, List.mem_append_right _ inAdded, same⟩

theorem additions_eq_nil {group : SecurityGroup} (complete : Complete stem ports group.rules) :
    additions stem group ports = .ok [] :=
  additionsFrom_eq_nil fun port member => List.mem_map.mpr (complete port member)

/-! ## Ports in two parts -/

/-- The rules for some ports and then for others are those for all of them. The
second search for priorities begins where the first one did: what it has to pass
over by then is used. -/
theorem additionsFrom_append_eq_ok (start : firstPriority ≤ cursor) {others : List Port} :
    additionsFrom stem group names used cursor (ports ++ others) = .ok added ↔
      ∃ front back, additionsFrom stem group names used cursor ports = .ok front ∧
        additionsFrom stem group (names ++ front.map (·.name)) (used ++ usedPriorities front)
          cursor others = .ok back ∧
        added = front ++ back := by
  induction ports generalizing names used cursor added with
  | nil => simp [additionsFrom, usedPriorities]
  | cons port rest ih =>
      rw [List.cons_append, additionsFrom_cons_eq_ok]
      let priority := nextFree used used.length cursor
      have first : firstPriority ≤ priority := Int.le_trans start (le_nextFree _ _ _)
      -- With the port's rule in front, the names and priorities in use are the same.
      have resumed (last : priority ≤ lastPriority) (front : List SecurityRule) :
          additionsFrom stem group ((name stem port :: names) ++ front.map (·.name))
              ((priority :: used) ++ usedPriorities front) priority others =
            additionsFrom stem group
              (names ++ (opened stem port priority :: front).map (·.name))
              (used ++ usedPriorities (opened stem port priority :: front)) cursor others := by
        rw [usedPriorities_cons_opened port front first last]
        symm
        apply additionsFrom_congr
        · intro other
          simp only [List.map_cons, List.mem_append, List.mem_cons, List.cons_append]
          exact or_left_comm
        · intro other
          simp only [List.mem_append, List.mem_cons, List.cons_append]
          exact or_left_comm
        · exact le_nextFree _ _ _
        · intro number from_cursor before
          exact List.mem_append_left _ (mem_of_lt_nextFree from_cursor before)
      constructor
      · rintro (⟨known, ok⟩ | ⟨new, last, more, ok, rfl⟩)
        · obtain ⟨front, back, okFront, okBack, rfl⟩ := (ih start).mp ok
          exact ⟨front, back, additionsFrom_cons_eq_ok.mpr (.inl ⟨known, okFront⟩), okBack, rfl⟩
        · obtain ⟨front, back, okFront, okBack, rfl⟩ := (ih first).mp ok
          refine ⟨_ :: front, back,
            additionsFrom_cons_eq_ok.mpr (.inr ⟨new, last, front, okFront, rfl⟩), ?_, rfl⟩
          rw [← resumed last front]
          exact okBack
      · rintro ⟨front, back, okFront, okBack, rfl⟩
        rcases additionsFrom_cons_eq_ok.mp okFront with
          ⟨known, okFront⟩ | ⟨new, last, more, okMore, rfl⟩
        · exact .inl ⟨known, (ih start).mpr ⟨front, back, okFront, okBack, rfl⟩⟩
        · refine .inr ⟨new, last, more ++ back, (ih first).mpr ⟨more, back, okMore, ?_, rfl⟩, rfl⟩
          rw [← resumed last more] at okBack
          exact okBack

/-- A group lacks for ports in two parts what it lacks for the first part, and what
it lacks with that for the second one. -/
theorem additions_append_eq_ok {group : SecurityGroup} {others : List Port} :
    additions stem group (ports ++ others) = .ok added ↔
      ∃ front back, additions stem group ports = .ok front ∧
        additions stem { group with rules := group.rules ++ front } others = .ok back ∧
        added = front ++ back := by
  simp only [additions, List.map_append, usedPriorities_append]
  exact additionsFrom_append_eq_ok (Int.le_refl _)

end

end ClusterPorts.Rules
