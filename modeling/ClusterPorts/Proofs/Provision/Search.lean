import ClusterPorts.Proofs.Provision.Additions
import Mathlib.Data.Int.Interval
import Mathlib.Logic.Relation

/-!
# The search for priorities within 32 bits

Priorities are numbers of 32 bits, and those of the rules that a group has may be any.
`Rules.additions` looks for free ones among all integers, in as many steps as are enough.
Here the same search goes turn by turn, with a cursor of 32 bits and for as long as it
takes: a turn passes over a port that has its rule, or moves the cursor on from a number
in use, or adds a rule. To move it on from the greatest number of 32 bits is an overflow.

What keeps the cursor low is that every number which it has left behind is in use, so
that these are no more than the priorities in use, those of the group and those that were
added (`Search.Consistent.cursor_le`). For the same reason the first number which is not
in use, the one that the search among all integers finds, is not far ahead, and the cursor
comes to it if it has 32 bits (`Search.reaches_free`). Then a port is gone. So every search
ends, and if not with an overflow then with what `Rules.additions` comes to. An overflow
would take almost as many rules and ports as there are positive numbers of 32 bits.
-/

namespace ClusterPorts

namespace Rules

/-- How far the rules for some ports have been added: the names and the priorities in
use, the cursor, the ports that are still to come, and the rules added so far. -/
structure Search where
  names : List String
  used : List Int32
  cursor : Int32
  ports : List Port
  added : List SecurityRule

namespace Search

/-- The search for the rules that a group lacks, before its first turn. -/
def start (group : SecurityGroup) (ports : List Port) : Search where
  names := group.rules.map (·.name)
  used := (group.rules.filter (·.direction = .inbound)).map (·.priority)
  cursor := Int32.ofInt firstPriority
  ports := ports
  added := []

/-- The cursor is moved on. -/
def advanced (search : Search) : Search := { search with cursor := search.cursor + 1 }

/-- A port gets a rule, with the number that the cursor is at. -/
def taken (stem : String) (port : Port) (rest : List Port) (search : Search) : Search where
  names := name stem port :: search.names
  used := search.cursor :: search.used
  cursor := search.cursor
  ports := rest
  added := search.added ++ [opening stem everywhere everywhere port search.cursor]

/-- What comes of a turn. -/
inductive Turn where
  | onward (next : Search)
  | ended (outcome : Except InputFault (List SecurityRule))
  | overflow

/-- One turn. It leaves no choice, so that from every start there is one run. -/
def turn (stem groupName : String) (search : Search) : Turn :=
  match search.ports with
  | [] => .ended (.ok search.added)
  | port :: rest =>
    if search.names.contains (name stem port) then .onward { search with ports := rest }
    else if search.used.contains search.cursor then
      if search.cursor = Int32.maxValue then .overflow else .onward search.advanced
    else if lastPriority < search.cursor.toInt then
      .ended (.error (.noPriorityLeft groupName port))
    else .onward (search.taken stem port rest)

/-- One state of a search comes after another, some number of turns later. -/
def Reaches (stem groupName : String) : Search → Search → Prop :=
  Relation.ReflTransGen fun search next => search.turn stem groupName = .onward next

/-- A state that the search for the rules of a group comes to. -/
def Reached (stem : String) (group : SecurityGroup) (ports : List Port) (search : Search) :
    Prop :=
  (start group ports).Reaches stem group.name search

variable {stem groupName : String} {group : SecurityGroup} {ports rest : List Port} {port : Port}
  {search next : Search}

/-! ## One turn -/

theorem turn_of_known (groupName : String) (pending : search.ports = port :: rest)
    (known : name stem port ∈ search.names) :
    search.turn stem groupName = .onward { search with ports := rest } := by
  simp [turn, pending, known]

theorem turn_of_used (groupName : String) (pending : search.ports = port :: rest)
    (new : name stem port ∉ search.names) (inUse : search.cursor ∈ search.used) :
    search.turn stem groupName =
      if search.cursor = Int32.maxValue then .overflow else .onward search.advanced := by
  simp [turn, pending, new, inUse]

theorem turn_of_free (groupName : String) (pending : search.ports = port :: rest)
    (new : name stem port ∉ search.names) (free : search.cursor ∉ search.used) :
    search.turn stem groupName =
      if lastPriority < search.cursor.toInt then .ended (.error (.noPriorityLeft groupName port))
      else .onward (search.taken stem port rest) := by
  simp [turn, pending, new, free]

/-- What a turn does that is not the last one. -/
theorem turn_eq_onward (onward : search.turn stem groupName = .onward next) :
    ∃ port rest, search.ports = port :: rest ∧
      (name stem port ∈ search.names ∧ next = { search with ports := rest } ∨
        name stem port ∉ search.names ∧ search.cursor ∈ search.used ∧
          search.cursor ≠ Int32.maxValue ∧ next = search.advanced ∨
        name stem port ∉ search.names ∧ search.cursor ∉ search.used ∧
          search.cursor.toInt ≤ lastPriority ∧ next = search.taken stem port rest) := by
  cases pending : search.ports with
  | nil => simp [turn, pending] at onward
  | cons port rest =>
      refine ⟨port, rest, rfl, ?_⟩
      by_cases known : name stem port ∈ search.names
      · rw [turn_of_known groupName pending known] at onward
        exact .inl ⟨known, (Turn.onward.inj onward).symm⟩
      by_cases inUse : search.cursor ∈ search.used
      · rw [turn_of_used groupName pending known inUse] at onward
        split at onward
        · cases onward
        · next fits => exact .inr (.inl ⟨known, inUse, fits, (Turn.onward.inj onward).symm⟩)
      · rw [turn_of_free groupName pending known inUse] at onward
        split at onward
        · cases onward
        · next last =>
          exact .inr (.inr ⟨known, inUse, Int.not_lt.mp last, (Turn.onward.inj onward).symm⟩)

theorem cursor_of_overflow (overflow : search.turn stem groupName = .overflow) :
    search.cursor = Int32.maxValue := by
  cases pending : search.ports with
  | nil => simp [turn, pending] at overflow
  | cons port rest =>
      by_contra fits
      by_cases known : name stem port ∈ search.names
      · simp [turn_of_known groupName pending known] at overflow
      by_cases inUse : search.cursor ∈ search.used
      · simp [turn_of_used groupName pending known inUse, fits] at overflow
      · rw [turn_of_free groupName pending known inUse] at overflow
        split at overflow <;> cases overflow

/-- Up to the greatest number of 32 bits, the next number is one more. -/
theorem toInt_advanced (fits : search.cursor ≠ Int32.maxValue) :
    search.advanced.cursor.toInt = search.cursor.toInt + 1 := by
  have least := search.cursor.le_toInt
  have below : search.cursor.toInt < Int32.maxValue.toInt :=
    lt_of_le_of_ne search.cursor.toInt_le fun same => fits (Int32.toInt_inj.mp same)
  rw [Int32.toInt_maxValue] at below
  show (search.cursor + 1).toInt = _
  rw [Int32.toInt_add]
  exact Int.bmod_eq_of_le (by simp; omega) (by simp; omega)

theorem toInt_notMem (free : search.cursor ∉ search.used) :
    search.cursor.toInt ∉ search.used.map (·.toInt) := by
  simpa [Int32.toInt_inj] using free

/-! ## What holds all along -/

/-- The priorities in use are those of the group and those that were added, nothing is
free behind the cursor, and for every rule that was added a port is gone. -/
structure Consistent (group : SecurityGroup) (ports : List Port) (search : Search) : Prop where
  used : (search.used.map (·.toInt)).Perm (usedPriorities (group.rules ++ search.added))
  first : firstPriority ≤ search.cursor.toInt
  behind : ∀ number, firstPriority ≤ number → number < search.cursor.toInt →
    number ∈ search.used.map (·.toInt)
  room : search.used.length + search.ports.length ≤
    (group.rules.filter (·.direction = .inbound)).length + ports.length

theorem toInt_start (group : SecurityGroup) (ports : List Port) :
    (start group ports).cursor.toInt = firstPriority :=
  Int32.toInt_ofInt_of_le (by decide) (by decide)

theorem used_start (group : SecurityGroup) (ports : List Port) :
    (start group ports).used.map (·.toInt) = usedPriorities group.rules :=
  List.map_map

theorem consistent_start (group : SecurityGroup) (ports : List Port) :
    (start group ports).Consistent group ports where
  used := by
    rw [used_start]
    show (usedPriorities group.rules).Perm (usedPriorities (group.rules ++ []))
    rw [List.append_nil]
  first := (toInt_start group ports).ge
  behind number first before := by
    rw [toInt_start] at before
    omega
  room := by simp [start]

/-- A turn. -/
theorem Consistent.onward (consistent : search.Consistent group ports)
    (onward : search.turn stem groupName = .onward next) : next.Consistent group ports := by
  obtain ⟨used, first, behind, room⟩ := consistent
  obtain ⟨port, rest, pending, ⟨_, rfl⟩ | ⟨_, inUse, fits, rfl⟩ | ⟨_, _, _, rfl⟩⟩ :=
    turn_eq_onward onward
  · rw [pending, List.length_cons] at room
    exact ⟨used, first, behind, Nat.le_trans (by simp) room⟩
  · -- The one number more that is behind the cursor now is in use.
    have moved := toInt_advanced fits
    refine ⟨used, by omega, fun number from_first before => ?_, room⟩
    by_cases here : number = search.cursor.toInt
    · exact here ▸ List.mem_map_of_mem inUse
    · exact behind number from_first (by omega)
  · rw [pending, List.length_cons] at room
    have added : usedPriorities (group.rules ++ (search.taken stem port rest).added) =
        usedPriorities (group.rules ++ search.added) ++ [search.cursor.toInt] := by
      simp [taken, usedPriorities, opening]
    refine ⟨?_, first, fun number from_first before => ?_, ?_⟩
    · rw [added]
      exact (used.cons _).trans (List.perm_append_singleton _ _).symm
    · exact List.mem_cons_of_mem _ (behind number from_first before)
    · simp only [taken, List.length_cons]
      omega

/-- Any number of turns. -/
theorem consistent_of_reached (reached : Reached stem group ports search) :
    search.Consistent group ports := by
  induction reached with
  | refl => exact consistent_start group ports
  | tail _ onward ih => exact ih.onward onward

/-- If all numbers from the first priority up to a bound are in use, there are no more of
them than priorities in use. -/
theorem Consistent.le_of_forall_mem (consistent : search.Consistent group ports) {bound : Int}
    (inUse : ∀ number, firstPriority ≤ number → number < bound →
      number ∈ search.used.map (·.toInt)) :
    bound ≤ 100 + (usedPriorities (group.rules ++ search.added)).toFinset.card := by
  have behind : Finset.Ico 100 bound ⊆
      (usedPriorities (group.rules ++ search.added)).toFinset := by
    intro number member
    obtain ⟨first, before⟩ := Finset.mem_Ico.mp member
    exact List.mem_toFinset.mpr (consistent.used.mem_iff.mp (inUse number first before))
  have counted := Finset.card_le_card behind
  rw [Int.card_Ico] at counted
  omega

/-- The cursor has left no more numbers behind than there are priorities in use. -/
theorem Consistent.cursor_le (consistent : search.Consistent group ports) :
    search.cursor.toInt ≤
      100 + (usedPriorities (group.rules ++ search.added)).toFinset.card :=
  consistent.le_of_forall_mem consistent.behind

/-- With few rules and ports the cursor does not come to the greatest number. -/
theorem Consistent.fits (consistent : search.Consistent group ports)
    (few : (group.rules.filter (·.direction = .inbound)).length + ports.length < 2 ^ 31 - 101) :
    search.cursor ≠ Int32.maxValue := by
  intro greatest
  have low := consistent.cursor_le
  have distinct := List.toFinset_card_le (usedPriorities (group.rules ++ search.added))
  have room := consistent.room
  rw [← consistent.used.length_eq, List.length_map] at distinct
  rw [greatest, Int32.toInt_maxValue] at low
  omega

/-! ## The loop over the numbers in use -/

/-- The first number from the cursor on that is not in use, among all integers. -/
def free (search : Search) : Int :=
  nextFree (search.used.map (·.toInt)) (search.used.map (·.toInt)).length search.cursor.toInt

theorem cursor_le_free (search : Search) : search.cursor.toInt ≤ search.free :=
  le_nextFree _ _ _

theorem free_notMem (search : Search) : search.free ∉ search.used.map (·.toInt) :=
  nextFree_notMem _ _

theorem mem_of_lt_free {number : Int} (from_cursor : search.cursor.toInt ≤ number)
    (before : number < search.free) : number ∈ search.used.map (·.toInt) :=
  mem_of_lt_nextFree from_cursor before

/-- Up to that number, too, there are no more than priorities in use. -/
theorem Consistent.free_le (consistent : search.Consistent group ports) :
    search.free ≤ 100 + (usedPriorities (group.rules ++ search.added)).toFinset.card := by
  apply consistent.le_of_forall_mem
  intro number first before
  by_cases passed : number < search.cursor.toInt
  · exact consistent.behind number first passed
  · exact mem_of_lt_free (Int.not_lt.mp passed) before

/-- The cursor comes to any number of 32 bits if those before are in use. -/
theorem reaches_of_forall_mem (groupName : String) (pending : search.ports = port :: rest)
    (new : name stem port ∉ search.names) {goal : Int} (ahead : search.cursor.toInt ≤ goal)
    (fits : goal < 2 ^ 31)
    (inUse : ∀ number, search.cursor.toInt ≤ number → number < goal →
      number ∈ search.used.map (·.toInt)) :
    search.Reaches stem groupName { search with cursor := .ofInt goal } := by
  induction distance : (goal - search.cursor.toInt).toNat generalizing search with
  | zero =>
      obtain rfl : goal = search.cursor.toInt := by omega
      rw [Int32.ofInt_toInt]
      exact .refl
  | succ distance ih =>
      have here : search.cursor ∈ search.used := by
        simpa [Int32.toInt_inj] using inUse search.cursor.toInt (Int.le_refl _) (by omega)
      have notGreatest : search.cursor ≠ Int32.maxValue := by
        intro greatest
        rw [greatest, Int32.toInt_maxValue] at distance
        omega
      have moved := toInt_advanced notGreatest
      have onward := turn_of_used groupName pending new here
      rw [if_neg notGreatest] at onward
      exact .head onward (@ih search.advanced pending new (by omega)
        (fun number from_cursor => inUse number (by omega)) (by omega))

/-- The loop over the numbers in use ends on the first one that is not, if that is a
number of 32 bits. -/
theorem reaches_free (groupName : String) (pending : search.ports = port :: rest)
    (new : name stem port ∉ search.names) (fits : search.free < 2 ^ 31) :
    search.Reaches stem groupName { search with cursor := .ofInt search.free } :=
  reaches_of_forall_mem groupName pending new search.cursor_le_free fits
    fun _ => mem_of_lt_free

theorem ofInt_free_notMem (fits : search.free < 2 ^ 31) :
    Int32.ofInt search.free ∉ search.used := by
  intro inUse
  have mapped := List.mem_map_of_mem (f := (·.toInt)) inUse
  rw [Int32.toInt_ofInt_of_le (Int.le_trans search.cursor.le_toInt search.cursor_le_free) fits]
    at mapped
  exact search.free_notMem mapped

/-- Otherwise the loop ends with an overflow. -/
theorem reaches_overflow (groupName : String) (pending : search.ports = port :: rest)
    (new : name stem port ∉ search.names) (beyond : 2 ^ 31 ≤ search.free) :
    search.Reaches stem groupName { search with cursor := Int32.maxValue } ∧
      ({ search with cursor := Int32.maxValue } : Search).turn stem groupName = .overflow := by
  have atMost := search.cursor.toInt_lt
  have inUse : Int32.maxValue.toInt ∈ search.used.map (·.toInt) :=
    mem_of_lt_free search.cursor.toInt_le (by rw [Int32.toInt_maxValue]; omega)
  constructor
  · rw [← Int32.ofInt_toInt Int32.maxValue]
    refine reaches_of_forall_mem groupName pending new search.cursor.toInt_le (by decide) ?_
    intro number from_cursor before
    rw [Int32.toInt_maxValue] at before
    exact mem_of_lt_free from_cursor (by omega)
  · exact turn_of_used groupName pending new (by simpa [Int32.toInt_inj] using inUse)

/-! ## The end of the search -/

/-- What the search among all integers comes to from here on. -/
def outcome (stem groupName : String) (search : Search) :
    Except InputFault (List SecurityRule) :=
  (additionsFrom stem groupName search.names (search.used.map (·.toInt)) search.cursor.toInt
    search.ports).map (search.added ++ ·)

theorem outcome_start (stem : String) (group : SecurityGroup) (ports : List Port) :
    (start group ports).outcome stem group.name = additions stem group ports := by
  rw [outcome, used_start, toInt_start]
  show (additions stem group ports).map ([] ++ ·) = _
  cases additions stem group ports <;> rfl

/-- A port for which only numbers beyond the last priority are left is failed on. -/
theorem outcome_of_full (pending : search.ports = port :: rest)
    (new : name stem port ∉ search.names) (free : search.cursor ∉ search.used)
    (full : lastPriority < search.cursor.toInt) :
    search.outcome stem groupName = .error (.noPriorityLeft groupName port) := by
  rw [outcome, pending, additionsFrom, if_neg (by simpa using new)]
  simp only [nextFree_of_notMem (toInt_notMem free), if_pos full]
  rfl

theorem outcome_taken (pending : search.ports = port :: rest)
    (new : name stem port ∉ search.names) (free : search.cursor ∉ search.used)
    (last : search.cursor.toInt ≤ lastPriority) :
    (search.taken stem port rest).outcome stem groupName = search.outcome stem groupName := by
  rw [outcome, outcome, pending, additionsFrom, if_neg (by simpa using new)]
  simp only [nextFree_of_notMem (toInt_notMem free), if_neg (Int.not_lt.mpr last),
    Int32.ofInt_toInt, taken, List.map_cons]
  cases additionsFrom stem groupName (name stem port :: search.names)
      (search.cursor.toInt :: search.used.map (·.toInt)) search.cursor.toInt rest with
  | error fault => rfl
  | ok more => simp [Except.map, bind, Except.bind, pure, Except.pure]

/-- It makes no difference for a search whether it begins at a number in use or behind it. -/
theorem outcome_advanced (inUse : search.cursor ∈ search.used)
    (fits : search.cursor ≠ Int32.maxValue) :
    search.advanced.outcome stem groupName = search.outcome stem groupName := by
  have moved := toInt_advanced fits
  have same : additionsFrom stem groupName search.names (search.used.map (·.toInt))
      search.cursor.toInt search.ports =
        additionsFrom stem groupName search.names (search.used.map (·.toInt))
          search.advanced.cursor.toInt search.ports := by
    apply additionsFrom_congr (fun _ => .rfl) (fun _ => .rfl)
    · omega
    · intro number from_cursor before
      obtain rfl : number = search.cursor.toInt := by omega
      exact List.mem_map_of_mem inUse
  rw [outcome, outcome, same]
  rfl

/-- A turn. -/
theorem outcome_eq_of_onward (onward : search.turn stem groupName = .onward next) :
    next.outcome stem groupName = search.outcome stem groupName := by
  obtain ⟨port, rest, pending, ⟨known, rfl⟩ | ⟨_, inUse, fits, rfl⟩ | ⟨new, free, last, rfl⟩⟩ :=
    turn_eq_onward onward
  · simp [outcome, pending, additionsFrom, known]
  · exact outcome_advanced inUse fits
  · exact outcome_taken pending new free last

/-- Any number of turns. -/
theorem outcome_eq_of_reaches (reaches : search.Reaches stem groupName next) :
    next.outcome stem groupName = search.outcome stem groupName := by
  induction reaches with
  | refl => rfl
  | tail _ onward ih => exact (outcome_eq_of_onward onward).trans ih

/-- Every search ends, with what the search among all integers comes to or with an
overflow. -/
theorem exists_last (stem groupName : String) (search : Search) :
    ∃ last, search.Reaches stem groupName last ∧
      (last.turn stem groupName = .ended (search.outcome stem groupName) ∨
        last.turn stem groupName = .overflow) := by
  induction pending : search.ports generalizing search with
  | nil =>
      refine ⟨search, .refl, .inl ?_⟩
      simp [turn, outcome, pending, additionsFrom, Except.map]
  | cons port rest ih =>
      by_cases known : name stem port ∈ search.names
      · have onward := turn_of_known groupName pending known
        obtain ⟨last, reaches, ends⟩ := ih { search with ports := rest } rfl
        exact ⟨last, .head onward reaches, outcome_eq_of_onward onward ▸ ends⟩
      by_cases fits : search.free < 2 ^ 31
      · have leaves : ∃ left : Search, left.ports = port :: rest ∧ name stem port ∉ left.names ∧
            left.cursor ∉ left.used ∧ search.Reaches stem groupName left :=
          ⟨{ search with cursor := .ofInt search.free }, pending, known, ofInt_free_notMem fits,
            reaches_free groupName pending known fits⟩
        obtain ⟨left, pending, new, free, reaches⟩ := leaves
        rw [← outcome_eq_of_reaches reaches]
        have turn := turn_of_free groupName pending new free
        split at turn
        · next full =>
          exact ⟨left, reaches, .inl (outcome_of_full pending new free full ▸ turn)⟩
        · obtain ⟨last, later, ends⟩ := ih (left.taken stem port rest) rfl
          exact ⟨last, reaches.trans (.head turn later), outcome_eq_of_onward turn ▸ ends⟩
      · obtain ⟨reaches, overflow⟩ :=
          reaches_overflow groupName pending known (Int.not_lt.mp fits)
        exact ⟨_, reaches, .inr overflow⟩

end Search

/-- The search for priorities ends, whatever priorities a group's rules have. All along,
the priorities in use are those of the group and those that were added, and with `distinct`
as their number, counted without repetition, the cursor is at most at 100 + `distinct`.
For a port that lacks a rule, the loop over the numbers in use ends on the first one that
is not, which is no further on than that; if there is none among the numbers of 32 bits,
the loop overflows. In the end there is what adding rules comes to, or such an overflow.
If the inbound rules and the ports are fewer than 2 ^ 31 - 101, nothing overflows: one
more than the cursor is always a number of 32 bits. -/
theorem search_bounded (stem : String) (group : SecurityGroup) (ports : List Port) :
    (∀ search, Search.Reached stem group ports search →
      let distinct := (usedPriorities (group.rules ++ search.added)).toFinset.card
      (search.used.map (·.toInt)).Perm (usedPriorities (group.rules ++ search.added)) ∧
      search.cursor.toInt ≤ 100 + distinct ∧
      ∀ port rest, search.ports = port :: rest → name stem port ∉ search.names →
        search.free ∉ search.used.map (·.toInt) ∧ search.free ≤ 100 + distinct ∧
        (search.free < 2 ^ 31 ∧
            search.Reaches stem group.name { search with cursor := .ofInt search.free } ∨
          2 ^ 31 ≤ search.free ∧
            search.Reaches stem group.name { search with cursor := Int32.maxValue } ∧
            ({ search with cursor := Int32.maxValue } : Search).turn stem group.name =
              .overflow)) ∧
    (∃ last, Search.Reached stem group ports last ∧
      (last.turn stem group.name = .ended (additions stem group ports) ∨
        last.turn stem group.name = .overflow)) ∧
    ((group.rules.filter (·.direction = .inbound)).length + ports.length < 2 ^ 31 - 101 →
      (∀ search, Search.Reached stem group ports search →
        (search.cursor + 1).toInt = search.cursor.toInt + 1 ∧
        search.turn stem group.name ≠ .overflow) ∧
      ∃ last, Search.Reached stem group ports last ∧
        last.turn stem group.name = .ended (additions stem group ports)) := by
  have ends := Search.exists_last stem group.name (.start group ports)
  rw [Search.outcome_start] at ends
  refine ⟨fun search reached => ?_, ends, fun few => ?_⟩
  · have consistent := Search.consistent_of_reached reached
    refine ⟨consistent.used, consistent.cursor_le, fun port rest pending new =>
      ⟨search.free_notMem, consistent.free_le, ?_⟩⟩
    rcases lt_or_ge search.free (2 ^ 31) with fits | beyond
    · exact .inl ⟨fits, Search.reaches_free group.name pending new fits⟩
    · exact .inr ⟨beyond, Search.reaches_overflow group.name pending new beyond⟩
  · have fits (search : Search) (reached : Search.Reached stem group ports search) :
        search.cursor ≠ Int32.maxValue := (Search.consistent_of_reached reached).fits few
    refine ⟨fun search reached => ⟨Search.toInt_advanced (fits search reached),
      fun overflow => fits search reached (Search.cursor_of_overflow overflow)⟩, ?_⟩
    obtain ⟨last, reached, ended | overflow⟩ := ends
    · exact ⟨last, reached, ended⟩
    · exact absurd (Search.cursor_of_overflow overflow) (fits last reached)

end Rules

namespace Sample

/-- A rule of somebody else for traffic that comes in. -/
def foreignRule (name : String) (priority : Int32) : SecurityRule where
  name := name
  protocol := "*"
  access := .deny
  priority := priority
  direction := .inbound

/-- The first two priorities are taken, and others that are below zero, beyond the last
one and the greatest of all. -/
def scatteredGroup : SecurityGroup where
  name := "c1-nsg"
  rules := [foreignRule "any" Int32.maxValue, foreignRule "mesh" 101, foreignRule "api" (-5),
    foreignRule "ssh" 4097, Rules.opening Rules.internalStem "*" "*" ⟨500, .udp⟩ 100]

/-- One port has its rule, the other two have none. -/
def scatteredPorts : List Port := [⟨4500, .udp⟩, ⟨500, .udp⟩, ⟨4500, .tcp⟩]

end Sample

open Rules in
/-- With the cursor at the second priority, which is taken, the loop ends on the third one;
the two rules get this and the fourth one. -/
theorem Rules.search_bounded_sample :
    let group := Sample.scatteredGroup
    let search := (Search.start group Sample.scatteredPorts).advanced
    (group.rules.filter (·.direction = .inbound)).length + Sample.scatteredPorts.length <
        2 ^ 31 - 101 ∧
    Search.Reached internalStem group Sample.scatteredPorts search ∧
    search.cursor.toInt ≤ 100 + (usedPriorities (group.rules ++ search.added)).toFinset.card ∧
    name internalStem ⟨4500, .udp⟩ ∉ search.names ∧
    search.Reaches internalStem "c1-nsg" { search with cursor := 102 } ∧
    (search.cursor + 1).toInt = search.cursor.toInt + 1 ∧
    ∃ last, Search.Reached internalStem group Sample.scatteredPorts last ∧
      last.turn internalStem "c1-nsg" = .ended (.ok
        [opened internalStem ⟨4500, .udp⟩ 102, opened internalStem ⟨4500, .tcp⟩ 103]) := by
  intro group search
  have few : (group.rules.filter (·.direction = .inbound)).length +
      Sample.scatteredPorts.length < 2 ^ 31 - 101 := by decide
  have reached : Search.Reached internalStem group Sample.scatteredPorts search := .single rfl
  have new : name internalStem ⟨4500, .udp⟩ ∉ search.names := by decide
  obtain ⟨always, _, bounded⟩ := search_bounded internalStem group Sample.scatteredPorts
  obtain ⟨fits, ends⟩ := bounded few
  obtain ⟨_, low, leaves⟩ := always search reached
  obtain ⟨_, _, ⟨_, reaches⟩ | ⟨beyond, _⟩⟩ :=
    leaves ⟨4500, .udp⟩ [⟨500, .udp⟩, ⟨4500, .tcp⟩] rfl new
  · exact ⟨few, reached, low, new, reaches, (fits search reached).1, ends⟩
  · exact absurd beyond (by decide)

end ClusterPorts
