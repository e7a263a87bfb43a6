import ClusterPorts.Proofs.Json.Arrangement
import ClusterPorts.Proofs.Json.Extent
import Mathlib.Data.List.DropRight
import Mathlib.Tactic.SplitIfs

/-!
# The texts of a value

A value has many texts: there may be white space between the tokens, and the fields of an
object may stand in any order. `IsPadded` says which they are, for values whose numbers are
integers; the compact text that `Json.compress` writes is one of them. The reader takes each
of them for a document that spells the value (`Document.ofText_of_isPadded`), if it needs no
more room than there is. The lengths of the texts bound the fuel.
-/

namespace ClusterPorts.Json

/-- White space between tokens. -/
def IsBlank (cs : List Char) : Prop := ∀ c ∈ cs, Reader.isSpace c

mutual

/-- The texts of a value. -/
inductive IsText : Json → List Char → Prop
  | null : IsText .null "null".toList
  | yes : IsText (.bool true) "true".toList
  | no : IsText (.bool false) "false".toList
  | integer (n : Int) : IsText (.number (.integer n)) (toString n).toList
  | string (s : String) : IsText (.string s) (stringText s).toList
  | noItems {blank : List Char} (isBlank : IsBlank blank) :
      IsText (.array []) ('[' :: (blank ++ [']']))
  | array {items : List Json} {inside : List Char} (texts : AreItems items inside) :
      IsText (.array items) ('[' :: inside)
  | noMembers {blank : List Char} (isBlank : IsBlank blank) :
      IsText (.object []) ('\x7b' :: (blank ++ ['\x7d']))
  | object {members : List (String × Json)} {inside : List Char}
      (texts : AreMembers members inside) :
      IsText (.object members) ('\x7b' :: inside)

/-- A text with white space around it. -/
inductive IsPadded : Json → List Char → Prop
  | pad {value : Json} {before text after : List Char} (isBlank : IsBlank before)
      (isText : IsText value text) (isBlank' : IsBlank after) :
      IsPadded value (before ++ text ++ after)

/-- The items of an array, of which there is at least one, with the bracket after them. -/
inductive AreItems : List Json → List Char → Prop
  | last {value : Json} {text : List Char} (isPadded : IsPadded value text) :
      AreItems [value] (text ++ [']'])
  | more {value : Json} {rest : List Json} {text others : List Char}
      (isPadded : IsPadded value text) (texts : AreItems rest others) :
      AreItems (value :: rest) (text ++ ',' :: others)

/-- The members of an object, of which there is at least one, in any order, with the brace
after them. -/
inductive AreMembers : List (String × Json) → List Char → Prop
  | last {key : String} {value : Json} {before after text : List Char} (isBlank : IsBlank before)
      (isBlank' : IsBlank after) (isPadded : IsPadded value text) :
      AreMembers [(key, value)]
        (before ++ (stringText key).toList ++ after ++ ':' :: (text ++ ['\x7d']))
  | more {key : String} {value : Json} {first later : List (String × Json)}
      {before after text others : List Char} (isBlank : IsBlank before) (isBlank' : IsBlank after)
      (isPadded : IsPadded value text) (texts : AreMembers (first ++ later) others) :
      AreMembers (first ++ (key, value) :: later)
        (before ++ (stringText key).toList ++ after ++ ':' :: (text ++ ',' :: others))

end

/-! ## Tokens -/

namespace Reader

/-! ### White space -/

theorem isSpace_iff {c : Char} : isSpace c ↔ c = ' ' ∨ c = '\n' ∨ c = '\t' ∨ c = '\r' := by
  simp [isSpace, or_assoc]

theorem skipSpace_append {blank : List Char} (isBlank : IsBlank blank) (rest : List Char) :
    skipSpace (blank ++ rest) = skipSpace rest := by
  induction blank with
  | nil => rfl
  | cons c blank ih =>
      obtain ⟨space, later⟩ := List.forall_mem_cons.mp isBlank
      rw [List.cons_append, skipSpace, List.dropWhile_cons_of_pos space]
      exact ih later

theorem skipSpace_of_not_space (c : Char) (solid : isSpace c = false) (rest : List Char) :
    skipSpace (c :: rest) = c :: rest :=
  List.dropWhile_cons_of_neg (by simp [solid])

/-! ### Strings -/

/-- The escape of a control character has four digits that tell its number. -/
theorem controlEscape_eq (c : Char) (small : c.toNat < 0x20) :
    ∃ high low, controlEscape c = ['\\', 'u', '0', '0', high, low] ∧
      hexFour? '0' '0' high low = some c.toNat := by
  have all : ∀ n : Fin 0x20, ∃ pair : Char × Char,
      controlEscape (Char.ofNat n) = ['\\', 'u', '0', '0', pair.1, pair.2] ∧
        hexFour? '0' '0' pair.1 pair.2 = some (Char.ofNat n).toNat := by
    intro n
    refine ⟨((Nat.toDigits 16 (n / 16)).headD '0', (Nat.toDigits 16 (n % 16)).headD '0'), ?_⟩
    revert n
    decide
  obtain ⟨⟨high, low⟩, escape, digits⟩ := all ⟨c.toNat, small⟩
  simp only [Char.ofNat_toNat] at escape digits
  exact ⟨high, low, escape, digits⟩

theorem stringTail_hex {a b c d : Char} {n : Nat} (digits : hexFour? a b c d = some n)
    (noHigh : isHighHalf n = false) (noLow : isLowHalf n = false) (read rest : List Char) :
    stringTail read none true ('\\' :: 'u' :: a :: b :: c :: d :: rest) =
      stringTail (Char.ofNat n :: read) none true rest := by
  simp [stringTail, digits, noHigh, noLow]

theorem stringTail_plain {c : Char} (noQuote : c ≠ '"') (noSlash : c ≠ '\\')
    (large : ¬ c.toNat < 0x20) (read rest : List Char) :
    stringTail read none true (c :: rest) = stringTail (c :: read) none true rest := by
  rw [stringTail]
  · simp [large, noSlash]
  · exact noQuote
  · exact fun _ _ _ _ _ same _ => noSlash same
  · exact fun _ _ same _ => noSlash same

/-- A character is read from the way it is written in a string. -/
theorem stringTail_escapedChar (c : Char) (read rest : List Char) :
    stringTail read none true (escapedChar c ++ rest) = stringTail (c :: read) none true rest := by
  unfold escapedChar
  split_ifs with quote slash newline return_ tab backspace feed small
  -- Seven characters have an escape of one letter.
  iterate 7 (· subst c; rfl)
  · obtain ⟨high, low, escape, digits⟩ := controlEscape_eq c small
    have noHigh : isHighHalf c.toNat = false := by simp [isHighHalf]; omega
    have noLow : isLowHalf c.toNat = false := by simp [isLowHalf]; omega
    rw [escape]
    simpa using stringTail_hex digits noHigh noLow read rest
  · exact stringTail_plain quote slash small read rest

/-- A string is read from the way it is written. -/
theorem stringTail_escaped (s : String) (rest : List Char) :
    stringTail [] none true (s.toList.flatMap escapedChar ++ '"' :: rest) =
      some (some s, rest) := by
  have step (cs read : List Char) :
      stringTail read none true (cs.flatMap escapedChar ++ '"' :: rest) =
        some (some (String.ofList (read.reverse ++ cs)), rest) := by
    induction cs generalizing read with
    | nil => simp [stringTail]
    | cons c cs ih =>
        rw [List.flatMap_cons, List.append_assoc, stringTail_escapedChar, ih]
        simp
  simpa using step s.toList []

theorem toList_stringText (s : String) :
    (stringText s).toList = '"' :: (s.toList.flatMap escapedChar ++ ['"']) := by
  rw [stringText, String.toList_ofList]

/-! ### Numbers -/

/-- What follows a number does not go on with it. -/
def Apart (rest : List Char) : Prop :=
  ∀ c ∈ rest.head?, c.isDigit = false ∧ c ≠ '.' ∧ c ≠ 'e' ∧ c ≠ 'E'

theorem Apart.blank {blank rest : List Char} (isBlank : IsBlank blank) (apart : Apart rest) :
    Apart (blank ++ rest) := by
  cases blank with
  | nil => exact apart
  | cons c blank =>
      rintro _ ⟨⟩
      obtain rfl | rfl | rfl | rfl := isSpace_iff.mp (isBlank c List.mem_cons_self) <;> decide

/-- Digits are taken up to what does not go on with them. -/
theorem digits_append {cs : List Char} (all : ∀ c ∈ cs, c.isDigit = true) {rest : List Char}
    (apart : Apart rest) :
    digits (cs ++ rest) = (cs.map fun c => c.toNat - '0'.toNat, rest) := by
  have stop : rest.takeWhile Char.isDigit = [] ∧ rest.dropWhile Char.isDigit = rest := by
    cases rest with
    | nil => exact ⟨rfl, rfl⟩
    | cons c rest =>
      have solid := (apart c rfl).1
      simp [solid]
  rw [digits, List.takeWhile_append_of_pos all, List.dropWhile_append_of_pos all, stop.1, stop.2,
    List.append_nil]

theorem le_foldl_digits (ds : List Nat) (n : Nat) : n ≤ ds.foldl (fun n d => 10 * n + d) n := by
  induction ds generalizing n with
  | nil => exact Nat.le_refl n
  | cons d ds ih => exact Nat.le_trans (by omega) (ih (10 * n + d))

/-- Digits whose number is small enough are all taken. -/
theorem wholePart_eq (ds : List Nat) {significand : Nat}
    (small : ds.foldl (fun n d => 10 * n + d) significand ≤ Text.largestWord) :
    wholePart significand ds = (ds.foldl (fun n d => 10 * n + d) significand, 0) := by
  induction ds generalizing significand with
  | nil => rfl
  | cons d rest ih =>
    rw [wholePart, if_pos (Nat.le_trans (le_foldl_digits rest _) small)]
    exact ih small

theorem eq_zero_of_isDigit {c : Char} (digit : c.isDigit = true) (zero : c.toNat - '0'.toNat = 0) :
    c = '0' := by
  rw [Char.isDigit_iff_toNat] at digit
  refine Char.toNat_inj.mp ?_
  omega

theorem exists_cons_toDigits (n : Nat) :
    ∃ c cs, Nat.toDigits 10 n = c :: cs ∧ c.isDigit = true := by
  have written : Nat.toDigits 10 n ≠ [] := Nat.toDigits_ne_nil
  refine ⟨_, _, (List.cons_head_tail written).symm, ?_⟩
  exact Nat.isDigit_of_mem_toDigits (by decide) (by decide) (List.head_mem written)

/-- A number that is not zero does not start with a zero. -/
theorem head_toDigits {n : Nat} (positive : 0 < n) :
    (Nat.toDigits 10 n).head Nat.toDigits_ne_nil ≠ '0' := by
  induction n using Nat.strongRecOn with
  | ind n ih =>
    by_cases small : n < 10
    · have digit : ∀ d : Fin 10, 0 < d.val → Nat.digitChar d ≠ '0' := by decide
      simpa [Nat.toDigits_of_lt_base small] using digit ⟨n, small⟩ positive
    · have split : Nat.toDigits 10 n = Nat.toDigits 10 (n / 10) ++ [Nat.digitChar (n % 10)] := by
        rw [Nat.toDigits_eq_if (by decide), if_neg small]
      simpa [split, Nat.toDigits_ne_nil] using ih (n / 10) (by omega) (by omega)

/-- The digits of a number are read as they are written. -/
theorem unsigned_toDigits (negative : Bool) {n : Nat} (small : n ≤ Text.largestWord)
    {rest : List Char} (apart : Apart rest) :
    unsigned negative (Nat.toDigits 10 n ++ rest) = (wholeNumber negative n 0, some rest) := by
  have all : ∀ c ∈ Nat.toDigits 10 n, c.isDigit = true :=
    fun c member => Nat.isDigit_of_mem_toDigits (by decide) (by decide) member
  have worth : ((Nat.toDigits 10 n).map fun c => c.toNat - '0'.toNat).foldl
      (fun n d => 10 * n + d) 0 = n := by
    rw [List.foldl_map]
    exact Nat.ofDigitChars_ten_toDigits
  have whole := wholePart_eq _ (worth.symm ▸ small)
  rw [worth] at whole
  rw [unsigned, digits_append all apart]
  split
  · next same => simp [Nat.toDigits_ne_nil] at same
  · next d ds rest' same =>
    -- More than one digit, and the first of them a zero.
    have shape := congrArg Prod.fst same
    have positive : 0 < n := by
      refine Nat.pos_of_ne_zero fun zero => ?_
      subst zero
      simp at shape
    have first := head_toDigits positive
    obtain ⟨c, cs, written, digit⟩ := exists_cons_toDigits n
    simp only [written, List.map_cons, List.cons.injEq, List.head_cons] at shape first
    exact absurd (eq_zero_of_isDigit digit shape.1) first
  · next same =>
    obtain ⟨rfl, rfl⟩ := Prod.mk.inj same
    rw [whole]
    cases rest with
    | nil => rfl
    | cons c rest =>
      obtain ⟨-, noPoint, noSmall, noLarge⟩ := apart c rfl
      simp [noSmall, noLarge]

theorem isSpace_of_isDigit {c : Char} (digit : c.isDigit = true) : isSpace c = false := by
  refine Bool.eq_false_iff.mpr fun space => ?_
  obtain rfl | rfl | rfl | rfl := isSpace_iff.mp space <;> simp at digit

theorem exists_cons_toString (n : Int) :
    ∃ c cs, (toString n).toList = c :: cs ∧ isSpace c = false ∧ c ≠ ']' := by
  rw [Int.toString_eq_repr, Int.repr_eq_if, Nat.repr_eq_ofList_toDigits,
    Nat.repr_eq_ofList_toDigits]
  split
  · obtain ⟨c, cs, written, digit⟩ := exists_cons_toDigits n.toNat
    refine ⟨c, cs, by rw [String.toList_ofList, written], isSpace_of_isDigit digit, ?_⟩
    rintro rfl
    simp at digit
  · exact ⟨'-', _, String.toList_append, by decide⟩

/-- A value that begins with a digit is a number. -/
theorem value_digits {c : Char} (digit : c.isDigit = true) (fuel room : Nat) (cs : List Char) :
    value (fuel + 1) room (c :: cs) = unsigned false (c :: cs) := by
  rw [value, skipSpace_of_not_space c (isSpace_of_isDigit digit)]
  split
  case h_1 same => cases same
  case h_9 => rfl
  all_goals next same => obtain ⟨rfl, rfl⟩ := List.cons.inj same; simp at digit

/-- An integer of 64 bits is read as it is written. -/
theorem value_integer {n : Int} (fits : (Number.integer n).Fits) (fuel room : Nat)
    {rest : List Char} (apart : Apart rest) :
    value (fuel + 1) room ((toString n).toList ++ rest) = (.number (.integer n), some rest) := by
  obtain ⟨low, high⟩ := fits
  rw [Int.toString_eq_repr, Int.repr_eq_if, Nat.repr_eq_ofList_toDigits,
    Nat.repr_eq_ofList_toDigits]
  split
  · next positive =>
    have read := unsigned_toDigits false (show n.toNat ≤ Text.largestWord by omega) apart
    have whole : wholeNumber false n.toNat 0 = .number (.integer n) := by
      rw [wholeNumber, if_pos rfl, if_pos (by decide), Int.toNat_of_nonneg positive]
    obtain ⟨c, cs, written, digit⟩ := exists_cons_toDigits n.toNat
    rw [whole, written, List.cons_append] at read
    rw [String.toList_ofList, written, List.cons_append, value_digits digit, read]
  · next negative =>
    have small : (-n).toNat ≤ leastMagnitude := by omega
    have read := unsigned_toDigits true (Nat.le_trans small (by decide)) apart
    have whole : wholeNumber true (-n).toNat 0 = .number (.integer n) := by
      have size : ((-n).toNat : Int) = -n := Int.toNat_of_nonneg (by omega)
      rw [wholeNumber, if_pos rfl, if_neg (by decide), if_pos ⟨by omega, small⟩, size, Int.neg_neg]
    rw [String.toList_append, List.append_assoc]
    show unsigned true ((String.ofList (Nat.toDigits 10 (-n).toNat)).toList ++ rest) = _
    rw [String.toList_ofList, read, whole]

/-- A string is read as it is written. -/
theorem value_stringText (s : String) (fuel room : Nat) (rest : List Char) :
    value (fuel + 1) room ((stringText s).toList ++ rest) = (.string s, some rest) := by
  rw [toList_stringText, List.cons_append, List.append_assoc, value,
    skipSpace_of_not_space '"' rfl]
  simp only [List.singleton_append, stringTail_escaped]

/-! ## Values -/

/-- White space before a value is passed over. -/
theorem value_blank {blank : List Char} (isBlank : IsBlank blank) (fuel room : Nat)
    (rest : List Char) : value fuel room (blank ++ rest) = value fuel room rest := by
  cases fuel with
  | zero => rfl
  | succ fuel => rw [value, value, skipSpace_append isBlank]

/-- The text of a value does not begin with white space, nor with a closing bracket. -/
theorem exists_cons_of_isText {v : Json} {text : List Char} (isText : IsText v text) :
    ∃ c cs, text = c :: cs ∧ isSpace c = false ∧ c ≠ ']' := by
  cases isText with
  | null => exact ⟨_, _, rfl, by decide⟩
  | yes => exact ⟨_, _, rfl, by decide⟩
  | no => exact ⟨_, _, rfl, by decide⟩
  | integer n => exact exists_cons_toString n
  | string s => exact ⟨_, _, toList_stringText s, by decide⟩
  | noItems => exact ⟨_, _, rfl, by decide⟩
  | array => exact ⟨_, _, rfl, by decide⟩
  | noMembers => exact ⟨_, _, rfl, by decide⟩
  | object => exact ⟨_, _, rfl, by decide⟩

theorem exists_cons_of_isPadded {v : Json} {text : List Char} (isPadded : IsPadded v text)
    (rest : List Char) : ∃ c cs, skipSpace (text ++ rest) = c :: cs ∧ c ≠ ']' := by
  obtain ⟨isBlank, isText, _⟩ := isPadded
  obtain ⟨c, cs, rfl, solid, inside⟩ := exists_cons_of_isText isText
  rw [List.append_assoc, List.append_assoc, skipSpace_append isBlank, List.cons_append,
    skipSpace_of_not_space c solid]
  exact ⟨c, _, rfl, inside⟩

theorem exists_cons_of_areItems {values : List Json} {inside : List Char}
    (texts : AreItems values inside) (rest : List Char) :
    ∃ c cs, skipSpace (inside ++ rest) = c :: cs ∧ c ≠ ']' := by
  cases texts with
  | last isPadded =>
      rw [List.append_assoc]
      exact exists_cons_of_isPadded isPadded _
  | more isPadded =>
      rw [List.append_assoc]
      exact exists_cons_of_isPadded isPadded _

theorem exists_cons_of_areMembers {members : List (String × Json)} {inside : List Char}
    (texts : AreMembers members inside) (rest : List Char) :
    ∃ cs, skipSpace (inside ++ rest) = '"' :: cs := by
  have key {blank : List Char} (isBlank : IsBlank blank) (key : String) (later : List Char) :
      ∃ cs, skipSpace (blank ++ ((stringText key).toList ++ later)) = '"' :: cs := by
    rw [skipSpace_append isBlank, toList_stringText, List.cons_append,
      skipSpace_of_not_space '"' rfl]
    exact ⟨_, rfl⟩
  cases texts with
  | last isBlank => simpa only [List.append_assoc] using key isBlank _ _
  | more isBlank => simpa only [List.append_assoc] using key isBlank _ _

theorem skipSpace_skipSpace (cs : List Char) : skipSpace (skipSpace cs) = skipSpace cs :=
  List.dropWhile_idempotent _ cs

theorem value_skipSpace (fuel room : Nat) (cs : List Char) :
    value fuel room (skipSpace cs) = value fuel room cs := by
  cases fuel with
  | zero => rfl
  | succ fuel => rw [value, value, skipSpace_skipSpace]

theorem items_skipSpace (fuel room : Nat) (cs : List Char) :
    items fuel room (skipSpace cs) = items fuel room cs := by
  cases fuel with
  | zero => rfl
  | succ fuel => rw [items, items, value_skipSpace]

theorem fields_skipSpace (fuel room : Nat) (cs : List Char) :
    fields fuel room (skipSpace cs) = fields fuel room cs := by
  cases fuel with
  | zero => rfl
  | succ fuel => rw [fields, fields, skipSpace_skipSpace]

-- The recursion is on what makes a text one of a value. Each step into a part of it leaves a
-- character behind, so the length of the text is fuel enough.
mutual

/-- A text of a value is read as a node that spells the value. -/
theorem value_of_isText : {v : Json} → {text : List Char} → IsText v text →
    ∀ (fuel room : Nat) (rest : List Char), text.length ≤ fuel + 1 → v.Fits room → Apart rest →
      ∃ node, value (fuel + 1) room (text ++ rest) = (node, some rest) ∧ Spells node v
  | _, _, .null, _, _, _, _, _, _ => ⟨.null, rfl, .null⟩
  | _, _, .yes, _, _, _, _, _, _ => ⟨.bool true, rfl, .bool true⟩
  | _, _, .no, _, _, _, _, _, _ => ⟨.bool false, rfl, .bool false⟩
  | _, _, .integer n, fuel, room, rest, _, fits, apart =>
      ⟨_, value_integer fits fuel room apart, .number _⟩
  | _, _, .string s, fuel, room, rest, _, _, _ => ⟨_, value_stringText s fuel room rest, .string s⟩
  | _, _, @IsText.noItems blank isBlank, fuel, room, rest, _, fits, _ => by
      refine ⟨.array .closed, ?_, .array .closed⟩
      rw [List.cons_append, List.append_assoc, value, skipSpace_of_not_space '[' rfl]
      simp only [skipSpace_append isBlank, List.singleton_append, skipSpace_of_not_space ']' rfl,
        bounded, Nat.ne_of_gt fits.1, if_false]
  | _, _, .array texts, fuel, room, rest, enough, fits, _ => by
      obtain ⟨read, reads, spell⟩ := items_of_areItems texts fuel (room - 1) rest
        (Nat.le_of_succ_le_succ enough) fits.2
      refine ⟨.array read, ?_, .array spell⟩
      obtain ⟨c, cs, shape, other⟩ := exists_cons_of_areItems texts rest
      rw [← items_skipSpace, shape] at reads
      rw [List.cons_append, value, skipSpace_of_not_space '[' rfl]
      simp only [shape, bounded, Nat.ne_of_gt fits.1, if_false]
      split
      · next same => exact absurd (List.cons.inj same).1 other
      · rw [reads]
  | _, _, @IsText.noMembers blank isBlank, fuel, room, rest, _, fits, _ => by
      refine ⟨.object .closed, ?_, .object .closed⟩
      rw [List.cons_append, List.append_assoc, value, skipSpace_of_not_space '\x7b' rfl]
      simp only [skipSpace_append isBlank, List.singleton_append, skipSpace_of_not_space '\x7d' rfl,
        bounded, Nat.ne_of_gt fits.1, if_false]
  | _, _, .object texts, fuel, room, rest, enough, fits, _ => by
      obtain ⟨read, reads, spell⟩ := fields_of_areMembers texts fuel (room - 1) rest
        (Nat.le_of_succ_le_succ enough) fits.2
      refine ⟨.object read, ?_, .object spell⟩
      obtain ⟨cs, shape⟩ := exists_cons_of_areMembers texts rest
      rw [← fields_skipSpace, shape] at reads
      rw [List.cons_append, value, skipSpace_of_not_space '\x7b' rfl]
      simp only [shape, bounded, Nat.ne_of_gt fits.1, if_false]
      split
      · next same => cases same
      · rw [reads]

theorem value_of_isPadded : {v : Json} → {text : List Char} → IsPadded v text →
    ∀ (fuel room : Nat) (rest : List Char), text.length ≤ fuel → v.Fits room → Apart rest →
      ∃ node left, value fuel room (text ++ rest) = (node, some left) ∧
        skipSpace left = skipSpace rest ∧ Spells node v
  | _, _, @IsPadded.pad v before text after isBlank isText isBlank', fuel, room, rest, enough,
      fits, apart => by
      simp only [List.length_append] at enough
      have some : 0 < text.length := by
        obtain ⟨c, cs, rfl, -⟩ := exists_cons_of_isText isText
        exact Nat.succ_pos _
      obtain ⟨fuel, rfl⟩ : ∃ more, fuel = more + 1 := Nat.exists_eq_add_one.mpr (by omega)
      obtain ⟨node, read, spells⟩ := value_of_isText isText fuel room (after ++ rest) (by omega)
        fits (apart.blank isBlank')
      refine ⟨node, after ++ rest, ?_, skipSpace_append isBlank' rest, spells⟩
      rw [List.append_assoc, List.append_assoc, value_blank isBlank, read]

theorem items_of_areItems : {values : List Json} → {inside : List Char} → AreItems values inside →
    ∀ (fuel room : Nat) (rest : List Char), inside.length ≤ fuel → AllFit values room →
      ∃ read, items fuel room (inside ++ rest) = (read, some rest) ∧ ItemsSpell read values
  | _, _, @AreItems.last v text isPadded, fuel, room, rest, enough, fits => by
      rw [List.length_append, List.length_singleton] at enough
      obtain ⟨fuel, rfl⟩ := Nat.exists_eq_add_one.mpr (Nat.lt_of_lt_of_le (Nat.succ_pos _) enough)
      obtain ⟨node, left, read, skipped, spells⟩ := value_of_isPadded isPadded fuel room
        (']' :: rest) (Nat.le_of_succ_le_succ enough) fits.1 (by rintro _ ⟨⟩; decide)
      refine ⟨.item node .closed, ?_, .item spells .closed⟩
      rw [skipSpace_of_not_space ']' rfl] at skipped
      simp only [List.append_assoc, List.singleton_append, items, read, skipped]
  | _, _, @AreItems.more v values text others isPadded texts, fuel, room, rest, enough, fits => by
      rw [List.length_append, List.length_cons] at enough
      obtain ⟨fuel, rfl⟩ := Nat.exists_eq_add_one.mpr (Nat.lt_of_lt_of_le (Nat.succ_pos _) enough)
      obtain ⟨node, left, read, skipped, spells⟩ := value_of_isPadded isPadded fuel room
        (',' :: (others ++ rest)) (by omega) fits.1 (by rintro _ ⟨⟩; decide)
      obtain ⟨more, reads, spell⟩ := items_of_areItems texts fuel room rest (by omega) fits.2
      refine ⟨.item node more, ?_, .item spells spell⟩
      rw [skipSpace_of_not_space ',' rfl] at skipped
      simp only [List.append_assoc, List.cons_append, items, read, skipped, reads]

theorem fields_of_areMembers : {members : List (String × Json)} → {inside : List Char} →
    AreMembers members inside →
    ∀ (fuel room : Nat) (rest : List Char), inside.length ≤ fuel → HaveFit members room →
      ∃ read, fields fuel room (inside ++ rest) = (read, some rest) ∧ FieldsSpell read members
  | _, _, @AreMembers.last key v before after text isBlank isBlank' isPadded, fuel, room, rest,
      enough, fits => by
      simp only [List.length_append, List.length_cons] at enough
      obtain ⟨fuel, rfl⟩ : ∃ more, fuel = more + 1 := Nat.exists_eq_add_one.mpr (by omega)
      obtain ⟨node, left, read, skipped, spells⟩ := value_of_isPadded isPadded fuel room
        ('\x7d' :: rest) (by omega) fits.1 (by rintro _ ⟨⟩; decide)
      refine ⟨.field (some key) node .closed, ?_, @FieldsSpell.field _ _ _ _ [] [] spells .closed⟩
      rw [skipSpace_of_not_space '\x7d' rfl] at skipped
      simp only [List.append_assoc, List.cons_append, List.nil_append, fields,
        skipSpace_append isBlank, skipSpace_append isBlank', toList_stringText,
        skipSpace_of_not_space '"' rfl, skipSpace_of_not_space ':' rfl, stringTail_escaped, read,
        skipped]
  | _, _, @AreMembers.more key v first later before after text others isBlank isBlank' isPadded
      texts, fuel, room, rest, enough, fits => by
      obtain ⟨own, fits⟩ : v.Fits room ∧ HaveFit (first ++ later) room :=
        (Entries.forall_mem_middle.mp (haveFit_iff.mp fits)).imp_right haveFit_iff.mpr
      simp only [List.length_append, List.length_cons] at enough
      obtain ⟨fuel, rfl⟩ : ∃ more, fuel = more + 1 := Nat.exists_eq_add_one.mpr (by omega)
      obtain ⟨node, left, read, skipped, spells⟩ := value_of_isPadded isPadded fuel room
        (',' :: (others ++ rest)) (by omega) own (by rintro _ ⟨⟩; decide)
      obtain ⟨more, reads, spell⟩ := fields_of_areMembers texts fuel room rest (by omega) fits
      refine ⟨.field (some key) node more, ?_, .field spells spell⟩
      rw [skipSpace_of_not_space ',' rfl] at skipped
      simp only [List.append_assoc, List.cons_append, List.nil_append, fields,
        skipSpace_append isBlank, skipSpace_append isBlank', toList_stringText,
        skipSpace_of_not_space '"' rfl, skipSpace_of_not_space ':' rfl, stringTail_escaped, read,
        skipped, reads]

end

end Reader

/-- A text of a value is the document of a node that spells the value. -/
theorem Document.ofText_of_isPadded {v : Json} {s : String} (isPadded : IsPadded v s.toList)
    (fits : v.Fits Reader.deepest) : ∃ node, Document.ofText s = ⟨node, true⟩ ∧ Spells node v := by
  obtain ⟨node, left, read, skipped, spells⟩ := Reader.value_of_isPadded isPadded
    (2 * s.toList.length + 2) Reader.deepest [] (by omega) fits nofun
  rw [List.append_nil] at read
  refine ⟨node, ?_, spells⟩
  simp only [Document.ofText, read, skipped]
  rfl

/-! ## The text on one line -/

mutual

/-- Every number in a value is an integer. -/
def IsFractionless : Json → Prop
  | .null => True
  | .bool _ => True
  | .number (.integer _) => True
  | .number (.double _) => False
  | .string _ => True
  | .array items => AreFractionless items
  | .object members => HaveFractionless members

def AreFractionless : List Json → Prop
  | [] => True
  | value :: rest => IsFractionless value ∧ AreFractionless rest

def HaveFractionless : List (String × Json) → Prop
  | [] => True
  | member :: rest => HasFractionless member ∧ HaveFractionless rest

def HasFractionless : String × Json → Prop
  | (_, value) => IsFractionless value

end

theorem areFractionless_iff {items : List Json} :
    AreFractionless items ↔ ∀ value ∈ items, IsFractionless value := by
  induction items with
  | nil => simp [AreFractionless]
  | cons value rest ih => rw [AreFractionless, ih, List.forall_mem_cons]

theorem haveFractionless_iff {members : List (String × Json)} :
    HaveFractionless members ↔ ∀ member ∈ members, IsFractionless member.2 := by
  induction members with
  | nil => simp [HaveFractionless]
  | cons member rest ih =>
      obtain ⟨key, value⟩ := member
      rw [HaveFractionless, HasFractionless, ih, List.forall_mem_cons]

theorem isBlank_nil : IsBlank [] := nofun

theorem IsText.padded {value : Json} {text : List Char} (isText : IsText value text) :
    IsPadded value text := by
  have padded := IsPadded.pad isBlank_nil isText isBlank_nil
  rwa [List.nil_append, List.append_nil] at padded

mutual

/-- What `Json.compress` writes is a text of the value. -/
theorem isText_compress : (value : Json) → value.IsFractionless →
    IsText value value.compress.toList
  | .null, _ => .null
  | .bool true, _ => .yes
  | .bool false, _ => .no
  | .number (.integer n), _ => .integer n
  | .string s, _ => .string s
  | .array [], _ => .noItems isBlank_nil
  | .array (value :: rest), whole => by
      have texts := areItems_compressItems (value :: rest) whole (List.cons_ne_nil _ _)
      simpa [compress, String.toList_append] using IsText.array texts
  | .object [], _ => .noMembers isBlank_nil
  | .object (member :: rest), whole => by
      have texts := areMembers_compressMembers (member :: rest) whole (List.cons_ne_nil _ _)
      simpa [compress, String.toList_append] using IsText.object texts

theorem areItems_compressItems : (items : List Json) → AreFractionless items → items ≠ [] →
    AreItems items ((",".intercalate (compressItems items)).toList ++ [']'])
  | [], _, filled => absurd rfl filled
  | [value], whole, _ => by
      rw [compressItems, compressItems, String.intercalate_singleton]
      exact .last (isText_compress value whole.1).padded
  | value :: next :: rest, whole, _ => by
      have texts := areItems_compressItems (next :: rest) whole.2 (List.cons_ne_nil _ _)
      rw [compressItems, compressItems, String.intercalate_cons_cons, ← compressItems]
      simpa [String.toList_append] using
        AreItems.more (isText_compress value whole.1).padded texts

theorem areMembers_compressMembers : (members : List (String × Json)) →
    HaveFractionless members → members ≠ [] →
    AreMembers members ((",".intercalate (compressMembers members)).toList ++ ['\x7d'])
  | [], _, filled => absurd rfl filled
  | [(key, value)], whole, _ => by
      rw [compressMembers, compressMembers, String.intercalate_singleton, compressMember]
      have text := (isText_compress value whole.1).padded
      simpa [String.toList_append] using
        @AreMembers.last key value [] [] _ isBlank_nil isBlank_nil text
  | (key, value) :: next :: rest, whole, _ => by
      have texts := areMembers_compressMembers (next :: rest) whole.2 (List.cons_ne_nil _ _)
      have text := (isText_compress value whole.1).padded
      rw [compressMembers, compressMembers, String.intercalate_cons_cons, ← compressMembers,
        compressMember]
      simpa [String.toList_append] using
        @AreMembers.more key value [] (next :: rest) [] [] _ _ isBlank_nil isBlank_nil text texts

end

end ClusterPorts.Json
