import ClusterPorts.Json.Reader
import ClusterPorts.Proofs.Json.Normal

/-!
# How far a document goes

The reader keeps what is nested no deeper than a bound, and keeps integers exactly if they
have 64 bits. So there is a limit to the values that can be read at all (`Fits`): each array
and each object in a value takes away one level of the room there is. What the reader makes
of any text is within its limit, and so is what is kept of it. The parts that are passed
over may go further.
-/

namespace ClusterPorts.Json

/-- An integer of 64 bits, with a sign or without, or else a number with a fraction. -/
def Number.Fits : Number → Prop
  | .integer n => -(Reader.leastMagnitude : Int) ≤ n ∧ n ≤ Text.largestWord
  | .double _ => True

/-! ## Nodes -/

mutual

/-- A node needs no more than the room there is, but for what is not kept of it. -/
def Node.Fits : Node → (room : Nat) → Prop
  | .number n, _ => n.Fits
  | .array items, room => 0 < room ∧ items.Fits (room - 1)
  | .object fields, room => 0 < room ∧ fields.Fits (room - 1)
  | _, _ => True

def Items.Fits : Items → (room : Nat) → Prop
  | .item value rest, room => value.Fits room ∧ rest.Fits room
  | _, _ => True

def Fields.Fits : Fields → (room : Nat) → Prop
  | .field _ value rest, room => value.Fits room ∧ rest.Fits room
  | _, _ => True

end

/-! ## Values -/

mutual

/-- A value needs no more than the room there is. -/
def Fits : Json → (room : Nat) → Prop
  | .null, _ => True
  | .bool _, _ => True
  | .number n, _ => n.Fits
  | .string _, _ => True
  | .array items, room => 0 < room ∧ AllFit items (room - 1)
  | .object members, room => 0 < room ∧ HaveFit members (room - 1)

def AllFit : List Json → (room : Nat) → Prop
  | [], _ => True
  | value :: rest, room => Fits value room ∧ AllFit rest room

def HaveFit : List (String × Json) → (room : Nat) → Prop
  | [], _ => True
  | member :: rest, room => HasFit member room ∧ HaveFit rest room

def HasFit : String × Json → (room : Nat) → Prop
  | (_, value), room => Fits value room

end

variable {room : Nat}

theorem allFit_iff {items : List Json} : AllFit items room ↔ ∀ value ∈ items, Fits value room := by
  induction items with
  | nil => simp [AllFit]
  | cons value rest ih => rw [AllFit, ih, List.forall_mem_cons]

theorem haveFit_iff {members : List (String × Json)} :
    HaveFit members room ↔ ∀ member ∈ members, Fits member.2 room := by
  induction members with
  | nil => simp [HaveFit]
  | cons member rest ih =>
      obtain ⟨key, value⟩ := member
      rw [HaveFit, HasFit, ih, List.forall_mem_cons]

/-! ### The node of a value -/

mutual

theorem fits_node : (value : Json) → ∀ {room : Nat}, value.Fits room → value.node.Fits room
  | .null, _, _ => trivial
  | .bool _, _, _ => trivial
  | .number _, _, fits => fits
  | .string _, _, _ => trivial
  | .array items, _, fits => ⟨fits.1, fits_nodeItems items fits.2⟩
  | .object members, _, fits => ⟨fits.1, fits_nodeFields members fits.2⟩

theorem fits_nodeItems : (items : List Json) → ∀ {room : Nat}, AllFit items room →
    (nodeItems items).Fits room
  | [], _, _ => trivial
  | value :: rest, _, fits => ⟨fits_node value fits.1, fits_nodeItems rest fits.2⟩

theorem fits_nodeFields : (members : List (String × Json)) → ∀ {room : Nat}, HaveFit members room →
    (nodeFields members).Fits room
  | [], _, _ => trivial
  | member :: rest, _, fits => fits_nodeField member fits.1 (fits_nodeFields rest fits.2)

theorem fits_nodeField : (member : String × Json) → ∀ {room : Nat}, HasFit member room →
    ∀ {rest : Fields}, rest.Fits room → (nodeField member rest).Fits room
  | (_, value), _, fits, _, others => ⟨fits_node value fits, others⟩

end

/-! ### The value of a node -/

mutual

theorem fits_of_keep : (node : Node) → ∀ {room : Nat} {value : Json}, node.Fits room →
    node.keep = .ok value → value.Fits room
  | .null, _, _, _, kept => by cases kept; trivial
  | .bool _, _, _, _, kept => by cases kept; trivial
  | .number _, _, _, fits, kept => by cases kept; exact fits
  | .string _, _, _, _, kept => by cases kept; trivial
  | .array items, _, _, fits, kept => by
      rw [Node.keep] at kept
      obtain ⟨values, same, done⟩ := exists_of_bind_eq_ok kept
      cases done
      exact ⟨fits.1, allFit_of_keep items fits.2 same⟩
  | .object fields, _, _, fits, kept => by
      rw [Node.keep] at kept
      obtain ⟨members, same, done⟩ := exists_of_bind_eq_ok kept
      cases done
      exact ⟨fits.1, haveFit_of_keep fields fits.2 same trivial⟩
  | .unkept _, _, _, _, kept => by cases kept
  | .broken, _, _, _, kept => by cases kept

theorem allFit_of_keep : (items : Items) → ∀ {room : Nat} {values : List Json}, items.Fits room →
    items.keep = .ok values → AllFit values room
  | .closed, _, _, _, kept => by cases kept; trivial
  | .cut, _, _, _, kept => by cases kept
  | .item node rest, _, _, fits, kept => by
      rw [Items.keep] at kept
      obtain ⟨value, first, kept⟩ := exists_of_bind_eq_ok kept
      obtain ⟨values, others, done⟩ := exists_of_bind_eq_ok kept
      cases done
      exact ⟨fits_of_keep node fits.1 first, allFit_of_keep rest fits.2 others⟩

theorem haveFit_of_keep : (fields : Fields) → ∀ {room : Nat} {past members : Members},
    fields.Fits room → fields.keep past = .ok members → HaveFit past room → HaveFit members room
  | .closed, _, _, _, _, kept, before => by cases kept; exact before
  | .cut, _, _, _, _, kept, _ => by cases kept
  | .field none _ _, _, _, _, _, kept, _ => by cases kept
  | .field (some key) node rest, _, past, _, fits, kept, before => by
      rw [Fields.keep] at kept
      obtain ⟨value, same, kept⟩ := exists_of_bind_eq_ok kept
      refine haveFit_of_keep rest fits.2 kept (haveFit_iff.mpr ?_)
      exact Entries.forall_mem_insert (fits_of_keep node fits.1 same) (haveFit_iff.mp before)

end

/-! ## What is read -/

namespace Reader

theorem fits_bounded {node : Node} (fits : 0 < room → node.Fits room) :
    (bounded room node).Fits room := by
  rw [bounded]
  split
  · trivial
  · exact fits (Nat.pos_of_ne_zero ‹_›)

/-! ### Numbers -/

theorem wholePart_le {significand : Nat} (small : significand ≤ Text.largestWord) (ds : List Nat) :
    (wholePart significand ds).1 ≤ Text.largestWord := by
  induction ds generalizing significand with
  | nil => exact small
  | cons d rest ih =>
      rw [wholePart]
      split
      · exact ih ‹_›
      · exact small

theorem fits_scaledNumber (negative : Bool) (significand : Nat) (exponent : Int) :
    (scaledNumber negative significand exponent).Fits room := by
  rw [scaledNumber]
  split <;> trivial

theorem fits_withExponent (negative : Bool) (significand : Nat) (exponent : Int)
    (cs : List Char) : (withExponent negative significand exponent cs).1.Fits room := by
  have scaled (exponent : Int) := @fits_scaledNumber room negative significand exponent
  unfold withExponent
  cases cs with
  | nil => exact scaled exponent
  | cons c rest =>
    simp only
    split
    · split
      · trivial
      · split
        · split <;> trivial
        · exact scaled _
    · exact scaled exponent

theorem fits_wholeNumber {significand : Nat} (small : significand ≤ Text.largestWord)
    (negative : Bool) (dropped : Nat) : (wholeNumber negative significand dropped).Fits room := by
  unfold wholeNumber
  split
  · split
    · show -(leastMagnitude : Int) ≤ significand ∧ (significand : Int) ≤ Text.largestWord
      omega
    · split
      · next bounds =>
        show -(leastMagnitude : Int) ≤ -significand ∧ -(significand : Int) ≤ Text.largestWord
        omega
      · exact fits_scaledNumber _ _ _
  · exact fits_scaledNumber _ _ _

theorem fits_unsigned (negative : Bool) (cs : List Char) : (unsigned negative cs).1.Fits room := by
  unfold unsigned
  split
  · trivial
  · trivial
  · next _ ds after _ _ _ =>
    have small := wholePart_le (Nat.zero_le Text.largestWord) ds
    generalize wholePart 0 ds = whole at small
    obtain ⟨significand, dropped⟩ := whole
    simp only
    split
    · next rest =>
      split
      · trivial
      · exact fits_withExponent _ _ _ _
    · split
      · exact fits_withExponent _ _ _ _
      · exact fits_wholeNumber small _ _
    · exact fits_wholeNumber small _ _

/-! ### Values -/

theorem fits_literal (rest : String) {node : Node} (fits : node.Fits room) (cs : List Char) :
    (literal rest node cs).1.Fits room := by
  rw [literal]
  split
  · exact fits
  · trivial

/-- With so much fuel, what is read needs no more than the room there is. -/
structure Fitting (fuel : Nat) : Prop where
  value : ∀ room cs, (value fuel room cs).1.Fits room
  items : ∀ room cs, (items fuel room cs).1.Fits room
  fields : ∀ room cs, (fields fuel room cs).1.Fits room

section

variable {fuel : Nat} (fitting : Fitting fuel)

include fitting

theorem Fitting.value_succ (room : Nat) (cs : List Char) :
    (Reader.value (fuel + 1) room cs).1.Fits room := by
  unfold Reader.value
  split
  · trivial
  · exact fits_literal _ (show Node.null.Fits room from trivial) _
  · exact fits_literal _ (show (Node.bool true).Fits room from trivial) _
  · exact fits_literal _ (show (Node.bool false).Fits room from trivial) _
  · split <;> trivial
  -- What an array or an object holds has one level less.
  · split
    · exact fits_bounded fun positive => ⟨positive, trivial⟩
    · exact fits_bounded fun positive => ⟨positive, fitting.items _ _⟩
  · split
    · exact fits_bounded fun positive => ⟨positive, trivial⟩
    · exact fits_bounded fun positive => ⟨positive, fitting.fields _ _⟩
  · exact fits_unsigned _ _
  · exact fits_unsigned _ _

theorem Fitting.items_succ (room : Nat) (cs : List Char) :
    (Reader.items (fuel + 1) room cs).1.Fits room := by
  have first := fitting.value room cs
  unfold Reader.items
  split
  · next v read =>
    rw [read] at first
    exact ⟨first, trivial⟩
  · next v after read =>
    rw [read] at first
    split
    · exact ⟨first, trivial⟩
    · exact ⟨first, fitting.items _ _⟩
    · exact ⟨first, trivial⟩

theorem Fitting.fields_succ (room : Nat) (cs : List Char) :
    (Reader.fields (fuel + 1) room cs).1.Fits room := by
  unfold Reader.fields
  split
  · split
    · trivial
    · split
      · next rest _ =>
        have first := fitting.value room rest
        split
        · next v read =>
          rw [read] at first
          exact ⟨first, trivial⟩
        · next v after read =>
          rw [read] at first
          split
          · exact ⟨first, trivial⟩
          · exact ⟨first, fitting.fields _ _⟩
          · exact ⟨first, trivial⟩
      · exact ⟨trivial, trivial⟩
  · trivial

end

theorem fitting (fuel : Nat) : Fitting fuel := by
  induction fuel with
  | zero => exact ⟨fun _ _ => trivial, fun _ _ => trivial, fun _ _ => trivial⟩
  | succ fuel ih => exact ⟨ih.value_succ, ih.items_succ, ih.fields_succ⟩

end Reader

/-- The document of a text needs no more than the room that the reader gives it. -/
theorem Document.fits_root (s : String) : (Document.ofText s).root.Fits Reader.deepest := by
  have fits := (Reader.fitting (2 * s.toList.length + 2)).value Reader.deepest s.toList
  rw [Document.ofText]
  split
  · next root read =>
    rw [read] at fits
    exact fits
  · next root rest read =>
    rw [read] at fits
    exact fits

end ClusterPorts.Json
