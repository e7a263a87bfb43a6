import ClusterPorts.Text.Blank
import ClusterPorts.Text.Letter
import ClusterPorts.Text.Numeral
import Mathlib

/-!
# What a reader overlooks

White space around a text, the case of its letters, a plus sign before a number and
zeros at its front: texts that differ in these are read alike. Here is what exactly is
overlooked: `trimChars_append` says what becomes of white space around a text,
`lower_eq_iff` which texts come to the same word, and `numeralUpTo_eq_ok` which texts are
numerals, and of which number.
-/

namespace ClusterPorts.Text

/-! ## White space -/

theorem dropWhile_eq_self_of_head? {α : Type} {p : α → Bool} {items : List α}
    (first : ∀ item ∈ items.head?, p item = false) : items.dropWhile p = items := by
  cases items with
  | nil => rfl
  | cons item rest => exact List.dropWhile_cons_of_neg (by simp [first item rfl])

variable {cs core before after : List Char} {c : Char}

/-- The characters of ASCII that can be seen are no white space. -/
theorem isBlank_eq_false (visible : 0x20 < c.toNat) (ascii : c.toNat < 0x7F) :
    isBlank c = false := by
  simp only [isBlank, inRanges, blankRanges, List.any_cons, List.any_nil, Bool.or_eq_false_iff,
    Bool.and_eq_false_iff, decide_eq_false_iff_not, and_true]
  omega

/-- What trimming takes away is white space at both ends. -/
theorem exists_eq_append_trimChars (cs : List Char) :
    ∃ before after, (∀ c ∈ before, isBlank c = true) ∧ (∀ c ∈ after, isBlank c = true) ∧
      cs = before ++ (trimChars cs ++ after) := by
  let rest := cs.dropWhile isBlank
  let after := rest.reverse.takeWhile isBlank
  have parts : rest = trimChars cs ++ after.reverse := by
    rw [trimChars, ← List.reverse_append, List.takeWhile_append_dropWhile, List.reverse_reverse]
  refine ⟨cs.takeWhile isBlank, after.reverse, fun c => List.mem_takeWhile_imp, ?_, ?_⟩
  · exact fun c member => List.mem_takeWhile_imp (List.mem_reverse.mp member)
  · rw [← parts]
    exact List.takeWhile_append_dropWhile.symm

/-- Trimming takes all white space away that is around a text without any at its ends. -/
theorem trimChars_append (blank : ∀ c ∈ before, isBlank c = true)
    (blank' : ∀ c ∈ after, isBlank c = true) (first : ∀ c ∈ core.head?, isBlank c = false)
    (last : ∀ c ∈ core.getLast?, isBlank c = false) :
    trimChars (before ++ (core ++ after)) = core := by
  rw [trimChars, List.dropWhile_append_of_pos blank]
  cases core with
  | nil => simp [List.dropWhile_eq_nil_iff.mpr blank']
  | cons c rest =>
      have stops : ((c :: rest) ++ after).dropWhile isBlank = (c :: rest) ++ after :=
        dropWhile_eq_self_of_head? fun d same => first d same
      have stops' : (c :: rest).reverse.dropWhile isBlank = (c :: rest).reverse := by
        apply dropWhile_eq_self_of_head?
        intro d same
        rw [List.head?_reverse] at same
        exact last d same
      rw [stops, List.reverse_append,
        List.dropWhile_append_of_pos fun d member => blank' d (List.mem_reverse.mp member),
        stops', List.reverse_reverse]

/-! ## Letters -/

/-- A character whose small letter is a given one is that letter or its capital. -/
theorem toLower_eq_iff {letter : Char} (small : letter.isLower = true) :
    c.toLower = letter ↔ c = letter ∨ c = letter.toUpper := by
  constructor
  · rintro rfl
    rw [Char.toUpper_toLower_eq_toUpper]
    by_cases capital : c.isUpper = true
    · exact .inr (Char.toUpper_eq_of_not_isLower (Char.not_isLower_of_isUpper capital)).symm
    · exact .inl (Char.toLower_eq_of_not_isUpper capital).symm
  · have own : letter.toLower = letter :=
      Char.toLower_eq_of_not_isUpper (Char.not_isUpper_of_isLower small)
    rintro (rfl | rfl)
    · exact own
    · rw [Char.toLower_toUpper_eq_toLower, own]

/-- A character that is a letter, small or capital. -/
def IsLetter (c letter : Char) : Prop := c = letter ∨ c = letter.toUpper

theorem IsLetter.not_blank {letter : Char} (same : IsLetter c letter)
    (small : letter.isLower = true) : isBlank c = false := by
  have bounds : 97 ≤ letter.toNat ∧ letter.toNat ≤ 122 := by
    simpa [Char.isLower, UInt32.le_iff_toNat_le] using small
  obtain rfl | rfl := same
  · exact isBlank_eq_false (by omega) (by omega)
  · have capital : letter.toUpper.toNat = letter.toNat - 32 := by
      rw [Char.toUpper_eq_of_isLower small, Char.toNat_ofNat, if_pos (.inl (by omega))]
    exact isBlank_eq_false (by omega) (by omega)

theorem not_blank_of_isLetter {word : List Char} (same : List.Forall₂ IsLetter cs word)
    (small : ∀ letter ∈ word, letter.isLower = true) : ∀ c ∈ cs, isBlank c = false := by
  induction same with
  | nil => exact nofun
  | cons first _ ih =>
      obtain ⟨low, small⟩ := List.forall_mem_cons.mp small
      exact List.forall_mem_cons.mpr ⟨first.not_blank low, ih small⟩

/-- The lowered text is a word of small letters exactly if each of its letters stands in
the text, small or capital. -/
theorem lower_eq_iff {s word : String} (small : ∀ letter ∈ word.toList, letter.isLower = true) :
    lower s = word ↔ List.Forall₂ IsLetter s.toList word.toList := by
  have lowered : lower s = word ↔ s.toList.map Char.toLower = word.toList := by
    rw [lower, ← String.toList_inj, String.toList_ofList]
  rw [lowered, ← List.forall₂_eq_eq_eq, List.forall₂_map_left_iff, List.forall₂_iff_zip,
    List.forall₂_iff_zip]
  refine and_congr_right fun _ => forall₂_congr fun c letter => ?_
  exact forall_congr' fun member => toLower_eq_iff (small letter (List.of_mem_zip member).2)

/-! ## Numerals -/

/-- A numeral of a number: digits, perhaps behind a plus sign. -/
inductive IsNumeral : List Char → Nat → Prop
  | plain {digits : List Char} (written : digits ≠ [])
      (digit : ∀ c ∈ digits, c.isDigit = true) : IsNumeral digits (Nat.ofDigitChars 10 digits 0)
  | signed {digits : List Char} (written : digits ≠ [])
      (digit : ∀ c ∈ digits, c.isDigit = true) :
      IsNumeral ('+' :: digits) (Nat.ofDigitChars 10 digits 0)

namespace IsNumeral

variable {n : Nat}

theorem ne_nil (numeral : IsNumeral cs n) : cs ≠ [] := by
  cases numeral with
  | plain written _ => exact written
  | signed _ _ => exact List.cons_ne_nil _ _

theorem mem (numeral : IsNumeral cs n) (member : c ∈ cs) : c = '+' ∨ c.isDigit = true := by
  cases numeral with
  | plain _ digit => exact .inr (digit c member)
  | signed _ digit =>
      obtain rfl | member := List.mem_cons.mp member
      · exact .inl rfl
      · exact .inr (digit c member)

theorem not_blank (numeral : IsNumeral cs n) (member : c ∈ cs) : isBlank c = false := by
  obtain rfl | digit := numeral.mem member
  · decide
  · have bounds : 48 ≤ c.toNat ∧ c.toNat ≤ 57 := by
      simpa [Char.isDigit, UInt32.le_iff_toNat_le] using digit
    exact isBlank_eq_false (by omega) (by omega)

end IsNumeral

/-- A number as it is printed. -/
theorem isNumeral_toDigits (n : Nat) : IsNumeral (Nat.toDigits 10 n) n := by
  have digit : ∀ c ∈ Nat.toDigits 10 n, c.isDigit = true :=
    fun c member => Nat.isDigit_of_mem_toDigits (by decide) (by decide) member
  have plain := IsNumeral.plain Nat.toDigits_ne_nil digit
  rwa [Nat.ofDigitChars_ten_toDigits] at plain

theorem le_ofDigitChars (value : Nat) : value ≤ Nat.ofDigitChars 10 cs value := by
  induction cs generalizing value with
  | nil => exact Nat.le_refl _
  | cons c rest ih =>
      rw [Nat.ofDigitChars_cons]
      exact Nat.le_trans (by omega) (ih _)

/-- Reading digits goes wrong at something else and where the value exceeds the limit; it
does not become smaller any more. -/
theorem digitsUpTo_eq_ok {limit value n : Nat} (within : value ≤ limit) :
    digitsUpTo limit value cs = .ok n ↔
      (∀ c ∈ cs, c.isDigit = true) ∧ Nat.ofDigitChars 10 cs value = n ∧ n ≤ limit := by
  induction cs generalizing value with
  | nil =>
      rw [digitsUpTo, Nat.ofDigitChars_nil]
      constructor
      · rintro ⟨⟩
        exact ⟨nofun, rfl, within⟩
      · rintro ⟨_, rfl, _⟩
        rfl
  | cons c rest ih =>
      rw [List.forall_mem_cons, Nat.ofDigitChars_cons]
      by_cases digit : c.isDigit = true
      · have known : digitValue? c = some (c.toNat - '0'.toNat) := if_pos digit
        by_cases fits : 10 * value + (c.toNat - '0'.toNat) ≤ limit
        · simp only [digitsUpTo, known, if_pos fits, ih fits, digit, true_and]
        · simp only [digitsUpTo, known, if_neg fits]
          refine iff_of_false nofun ?_
          rintro ⟨_, rfl, small⟩
          exact fits (Nat.le_trans (le_ofDigitChars _) small)
      · have unknown : digitValue? c = none := if_neg digit
        simp only [digitsUpTo, unknown]
        exact iff_of_false nofun fun ⟨⟨isDigit, _⟩, _⟩ => digit isDigit

theorem isNumeral_plus {n : Nat} :
    IsNumeral ('+' :: cs) n ↔
      cs ≠ [] ∧ (∀ c ∈ cs, c.isDigit = true) ∧ Nat.ofDigitChars 10 cs 0 = n := by
  constructor
  · rintro (⟨_, digit⟩ | ⟨written, digit⟩)
    · exact absurd (digit '+' List.mem_cons_self) (by decide)
    · exact ⟨written, digit, rfl⟩
  · rintro ⟨written, digit, rfl⟩
    exact .signed written digit

theorem isNumeral_of_ne_plus {n : Nat} (unsigned : ∀ rest, cs ≠ '+' :: rest) :
    IsNumeral cs n ↔
      cs ≠ [] ∧ (∀ c ∈ cs, c.isDigit = true) ∧ Nat.ofDigitChars 10 cs 0 = n := by
  constructor
  · rintro (⟨written, digit⟩ | ⟨_, _⟩)
    · exact ⟨written, digit, rfl⟩
    · exact absurd rfl (unsigned _)
  · rintro ⟨written, digit, rfl⟩
    exact .plain written digit

theorem numeralUpTo_eq_ok {limit n : Nat} :
    numeralUpTo limit cs = .ok n ↔ IsNumeral cs n ∧ n ≤ limit := by
  unfold numeralUpTo
  split
  · rw [isNumeral_of_ne_plus fun _ same => List.cons_ne_nil _ _ same.symm]
    exact iff_of_false nofun fun ⟨⟨written, _⟩, _⟩ => written rfl
  · rw [isNumeral_plus]
    exact iff_of_false nofun fun ⟨⟨written, _⟩, _⟩ => written rfl
  · next rest notAlone =>
    have written : rest ≠ [] := notAlone
    rw [isNumeral_plus, digitsUpTo_eq_ok (Nat.zero_le _), and_iff_right written, and_assoc]
  · next notEmpty _ unsigned =>
    have written : cs ≠ [] := notEmpty
    rw [isNumeral_of_ne_plus unsigned, digitsUpTo_eq_ok (Nat.zero_le _), and_iff_right written,
      and_assoc]

end ClusterPorts.Text
