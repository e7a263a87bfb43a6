import ClusterPorts.Failure
import ClusterPorts.Proofs.Text.Leniency

/-!
# How a port may be spelled

A port can be written in more ways than the one in which it is printed: white space may
stand around it and before its protocol, but not around its number, the number may have a
plus sign and any number of zeros at its front, and the letters of the protocol may be
capitals. `IsWritten` is this grammar, told without the reader; `parse_eq_ok` says that
the reader takes the texts of the grammar, each for its port, and no others.
-/

namespace ClusterPorts

open Text

/-! ## Protocols -/

namespace Protocol

/-- A protocol's name in letters of any case. -/
def IsNamed (protocol : Protocol) (word : List Char) : Prop :=
  List.Forall₂ IsLetter word protocol.name.toList

variable {protocol : Protocol} {cs word : List Char}

theorem isLower_of_mem_name : ∀ letter ∈ protocol.name.toList, letter.isLower = true := by
  cases protocol <;> simp [name]

theorem isNamed_name : protocol.IsNamed protocol.name.toList :=
  List.forall₂_same.mpr fun _ _ => .inl rfl

namespace IsNamed

theorem not_blank (named : protocol.IsNamed word) : ∀ c ∈ word, isBlank c = false :=
  not_blank_of_isLetter named isLower_of_mem_name

theorem ne_nil (named : protocol.IsNamed word) : word ≠ [] := by
  rintro rfl
  have empty := List.forall₂_nil_left_iff.mp named
  cases protocol <;> simp [name] at empty

end IsNamed

theorem parse_eq_ok_iff_lower {s : String} :
    parse s = .ok protocol ↔ lower (trim s) = protocol.name := by
  unfold parse
  generalize lower (trim s) = word
  by_cases tcp : word = "tcp"
  · subst tcp
    cases protocol <;> decide
  by_cases udp : word = "udp"
  · subst udp
    cases protocol <;> decide
  · cases protocol <;> simp [tcp, udp, name]

/-- A protocol is read of its name, in letters of any case and with white space around it. -/
theorem parse_eq_ok :
    parse (String.ofList cs) = .ok protocol ↔ ∃ before word after,
      (∀ c ∈ before, isBlank c = true) ∧ (∀ c ∈ after, isBlank c = true) ∧
        protocol.IsNamed word ∧ cs = before ++ (word ++ after) := by
  rw [parse_eq_ok_iff_lower, lower_eq_iff isLower_of_mem_name, trim, String.toList_ofList,
    String.toList_ofList]
  constructor
  · intro named
    obtain ⟨before, after, blank, blank', parts⟩ := exists_eq_append_trimChars cs
    exact ⟨before, _, after, blank, blank', named, parts⟩
  · rintro ⟨before, word, after, blank, blank', named, rfl⟩
    have seen := IsNamed.not_blank named
    rwa [trimChars_append blank blank' (fun c first => seen c (List.mem_of_mem_head? first))
      fun c last => seen c (List.mem_of_mem_getLast? last)]

end Protocol

namespace Port

/-! ## Ports -/

variable {port : Port} {s : String} {cs : List Char}

/-- The spellings of a port: white space, its number, a slash, white space, the name of its
protocol, white space. A port has 16 bits, so that its number is between 1 and 65535. -/
inductive IsWritten (port : Port) : List Char → Prop
  | intro {before number gap word after : List Char} (positive : port.number ≠ 0)
      (numeral : IsNumeral number port.number.toNat) (named : port.protocol.IsNamed word)
      (blank : ∀ c ∈ before, isBlank c = true) (blank' : ∀ c ∈ gap, isBlank c = true)
      (blank'' : ∀ c ∈ after, isBlank c = true) :
      IsWritten port (before ++ (number ++ '/' :: (gap ++ word)) ++ after)

theorem IsWritten.positive (written : port.IsWritten cs) : port.number ≠ 0 := by
  cases written with
  | intro positive => exact positive

/-- White space may be added before a spelling. -/
theorem IsWritten.cons {c : Char} (written : port.IsWritten cs) (blank : isBlank c = true) :
    port.IsWritten (c :: cs) := by
  cases written with
  | intro positive numeral named before gap after =>
      exact .intro positive numeral named (List.forall_mem_cons.mpr ⟨blank, before⟩) gap after

/-! ### The reader -/

theorem toNat_le_largest (number : UInt16) : number.toNat ≤ largest :=
  Nat.le_of_lt_succ number.toNat_lt

theorem toUInt16_eq_iff {n : Nat} (small : n ≤ largest) {number : UInt16} :
    n.toUInt16 = number ↔ n = number.toNat := by
  have whole : n % 2 ^ 16 = n := Nat.mod_eq_of_lt (Nat.lt_succ_of_le small)
  rw [← UInt16.toNat_inj, UInt16.toNat_ofNat', whole]

theorem numeralUpTo_largest {number : List Char} :
    numeralUpTo largest number = .ok port.number.toNat ↔ IsNumeral number port.number.toNat := by
  rw [numeralUpTo_eq_ok, and_iff_left (toNat_le_largest _)]

/-- What the reader does with the parts before and behind the first slash. -/
theorem parse_of_trimChars {number rest : List Char} (unsplit : '/' ∉ number)
    (trimmed : trimChars s.toList = number ++ '/' :: rest) :
    parse s = .ok port ↔ IsNumeral number port.number.toNat ∧ port.number ≠ 0 ∧
      Protocol.parse (String.ofList rest) = .ok port.protocol := by
  have own : ∀ c ∈ number, decide (c ≠ '/') = true := by
    intro c member
    exact decide_eq_true fun same => unsplit (same ▸ member)
  have front : (number ++ '/' :: rest).takeWhile (· ≠ '/') = number := by
    rw [List.takeWhile_append_of_pos own, List.takeWhile_cons_of_neg (by decide), List.append_nil]
  have back : (number ++ '/' :: rest).dropWhile (· ≠ '/') = '/' :: rest := by
    rw [List.dropWhile_append_of_pos own, List.dropWhile_cons_of_neg (by decide)]
  rw [← numeralUpTo_largest]
  unfold parse
  simp only [trimmed, front, back]
  cases outcome : numeralUpTo largest number with
  | error fault => simp
  | ok n =>
      have small : n ≤ largest := (numeralUpTo_eq_ok.mp outcome).2
      cases n with
      | zero =>
          refine iff_of_false nofun ?_
          rintro ⟨same, positive, -⟩
          exact positive (UInt16.toNat_inj.mp (Except.ok.inj same).symm)
      | succ n =>
          cases Protocol.parse (String.ofList rest) with
          | error fault => simp [Except.map]
          | ok protocol =>
              obtain ⟨number, protocol'⟩ := port
              simp only [Except.map, Except.ok.injEq, mk.injEq]
              rw [toUInt16_eq_iff small]
              refine and_congr_right fun same => (and_iff_right ?_).symm
              rintro rfl
              cases same

theorem parse_of_notMem (absent : '/' ∉ trimChars s.toList) : parse s = .error (.shapeless s) := by
  have none : (trimChars s.toList).dropWhile (· ≠ '/') = [] := by
    rw [List.dropWhile_eq_nil_iff]
    exact fun c member => decide_eq_true fun same => absent (same ▸ member)
  simp only [parse, none]

theorem slash_notMem {number : List Char} {n : Nat} (numeral : IsNumeral number n) :
    '/' ∉ number :=
  fun member => (numeral.mem member).elim (by decide) (by decide)

/-- A port is read of its spellings, and of nothing else. -/
theorem parse_eq_ok : parse s = .ok port ↔ port.IsWritten s.toList := by
  constructor
  · intro read
    have found : '/' ∈ trimChars s.toList := by
      by_contra absent
      rw [parse_of_notMem absent] at read
      cases read
    obtain ⟨number, rest, trimmed, unsplit⟩ := List.eq_append_cons_of_mem found
    obtain ⟨numeral, positive, known⟩ := (parse_of_trimChars unsplit trimmed).mp read
    obtain ⟨before, after, blank, blank', parts⟩ := exists_eq_append_trimChars s.toList
    obtain ⟨gap, word, after', blankGap, blankEnd, named, rfl⟩ := Protocol.parse_eq_ok.mp known
    have written : s.toList =
        before ++ (number ++ '/' :: (gap ++ word)) ++ (after' ++ after) := by
      rw [parts, trimmed]
      simp
    rw [written]
    exact .intro positive numeral named blank blankGap
      fun c member => (List.mem_append.mp member).elim (blankEnd c) (blank' c)
  · intro written
    generalize same : s.toList = cs at written
    obtain ⟨positive, numeral, named, blank, blankGap, blank'⟩ := written
    next before number gap word after =>
    have trimmed : trimChars s.toList = number ++ '/' :: (gap ++ word) := by
      rw [same, List.append_assoc]
      refine trimChars_append blank blank' (fun c first => ?_) fun c last => ?_
      · rw [List.head?_append_of_ne_nil _ numeral.ne_nil] at first
        exact numeral.not_blank (List.mem_of_mem_head? first)
      · rw [← List.cons_append, ← List.append_assoc,
          List.getLast?_append_of_ne_nil _ named.ne_nil] at last
        exact named.not_blank c (List.mem_of_mem_getLast? last)
    have known : Protocol.parse (String.ofList (gap ++ word)) = .ok port.protocol :=
      Protocol.parse_eq_ok.mpr ⟨gap, word, [], blankGap, nofun, named, by simp⟩
    exact (parse_of_trimChars (slash_notMem numeral) trimmed).mpr ⟨numeral, positive, known⟩

/-! ### The printed form -/

theorem text_toList :
    port.text.toList = Nat.toDigits 10 port.number.toNat ++ '/' :: port.protocol.name.toList := by
  simp [text]

/-- What is printed of a port is one of its spellings. -/
theorem isWritten_text (positive : port.number ≠ 0) : port.IsWritten port.text.toList := by
  have none : ∀ c ∈ ([] : List Char), isBlank c = true := nofun
  rw [text_toList]
  simpa using
    IsWritten.intro positive (isNumeral_toDigits _) Protocol.isNamed_name none none none

theorem read_eq_ok {s : String} : read s = .ok port ↔ port.IsWritten s.toList := by
  rw [← parse_eq_ok, read]
  cases parse s with
  | error fault => simp [Except.mapError]
  | ok other => simp [Except.mapError]

/-- Whatever text is no port, that is invalid input. -/
theorem kind_of_read {s : String} {failure : Failure} (fails : read s = .error failure) :
    failure.kind = "InvalidInput" := by
  rw [read] at fails
  cases outcome : parse s with
  | error fault =>
      rw [outcome] at fails
      cases fails
      rfl
  | ok other =>
      rw [outcome] at fails
      cases fails

/-- The reader takes the spellings of a port, each for its port, and complains of every
other text as of invalid input; what is printed of a port that can be opened is read as
that port, and two texts are read as the same port exactly if the same is printed of what
is read of them. -/
theorem read_exact :
    (∀ s port, read s = .ok port ↔ port.IsWritten s.toList) ∧
      (∀ s, (∀ port : Port, ¬ port.IsWritten s.toList) →
        ∃ failure, read s = .error failure ∧ failure.kind = "InvalidInput") ∧
      (∀ port : Port, port.number ≠ 0 → read port.text = .ok port) ∧
      ∀ s t port other, read s = .ok port → read t = .ok other →
        (port = other ↔ port.text = other.text) := by
  refine ⟨fun s port => read_eq_ok, fun s none => ?_, fun port positive => ?_, ?_⟩
  · cases outcome : read s with
    | error failure => exact ⟨failure, rfl, kind_of_read outcome⟩
    | ok port => exact absurd (read_eq_ok.mp outcome) (none port)
  · exact read_eq_ok.mpr (isWritten_text positive)
  · intro s t port other reads reads'
    refine ⟨congrArg text, fun same => ?_⟩
    have own := read_eq_ok.mpr (isWritten_text (read_eq_ok.mp reads).positive)
    have own' := read_eq_ok.mpr (isWritten_text (read_eq_ok.mp reads').positive)
    rw [same, own'] at own
    exact (Except.ok.inj own).symm

theorem read_exact_sample :
    IsWritten ⟨4500, .udp⟩ "\t+004500/\u3000UdP ".toList ∧
      (∃ failure, read "4500/sctp" = .error failure ∧ failure.kind = "InvalidInput") ∧
      read (text ⟨4500, .udp⟩) = .ok ⟨4500, .udp⟩ ∧ text ⟨500, .tcp⟩ ≠ text ⟨500, .udp⟩ := by
  obtain ⟨exact, others, printed, same⟩ := read_exact
  have refused : read "4500/sctp" = .error (.input (.notAPort (.unknownProtocol "sctp"))) := rfl
  refine ⟨(exact _ _).mp rfl, others _ fun port written => ?_, printed _ (by decide), ?_⟩
  · rw [← exact, refused] at written
    cases written
  · have apart := same "500/tcp" "0500/UDP" ⟨500, .tcp⟩ ⟨500, .udp⟩ rfl rfl
    exact fun alike => absurd (apart.mpr alike) (by decide)

end Port

end ClusterPorts
