import SchemaEvolution.Schema.Basic

/-!
# Defaults that count as the same

Two defaults count as the same for a comparison where their texts may still differ: the text of an
expression plays no part, and the two zeros of a double are one number. Both freedoms are taken away
in a canonical form, in which every expression has the same text and every zero is positive.
Defaults count as the same exactly if their canonical forms are equal
(`ColumnDefault.equivalent?_iff`), so that to count as the same is an equivalence.
-/

namespace SchemaEvolution

/-! ## Numbers -/

/-- The number itself, but positive zero for either zero. -/
def Binary64.unsignedZero (x : Binary64) : Binary64 :=
  { x with negative := x.negative && x.significand != 0 }

theorem Binary64.agrees_iff {x y : Binary64} :
    x.agrees y = true ↔ x.unsignedZero = y.unsignedZero := by
  obtain ⟨negative, significand, exponent, _⟩ := x
  obtain ⟨negative', significand', exponent', _⟩ := y
  simp only [agrees, unsignedZero, Bool.and_eq_true, Bool.or_eq_true, beq_iff_eq, mk.injEq]
  constructor
  · rintro ⟨⟨rfl, rfl⟩, rfl | rfl⟩ <;> simp
  · rintro ⟨hsign, rfl, rfl⟩
    refine ⟨⟨rfl, rfl⟩, ?_⟩
    by_cases hzero : significand = 0
    · exact .inr hzero
    · have hnonzero : (significand != 0) = true := bne_iff_ne.mpr hzero
      rw [hnonzero, Bool.and_true, Bool.and_true] at hsign
      exact .inl hsign

/-- The number itself, but positive zero for either zero that is a double. -/
def JsonNumber.unsignedZero : JsonNumber → JsonNumber
  | .whole n fits => .whole n fits
  | .double x => .double x.unsignedZero

theorem JsonNumber.agrees_iff {a b : JsonNumber} :
    a.agrees b = true ↔ a.unsignedZero = b.unsignedZero := by
  cases a with
  | whole n _ => cases b <;> simp [agrees, unsignedZero]
  | double x =>
    cases b with
    | whole _ _ => simp [agrees, unsignedZero]
    | double y => simp only [agrees, unsignedZero, double.injEq, Binary64.agrees_iff]

/-! ## Values -/

namespace Json

mutual

/-- The value with every zero that is a double made positive. -/
def unsignedZeros : Json → Json
  | .null => .null
  | .bool b => .bool b
  | .number n => .number n.unsignedZero
  | .text s => .text s
  | .list items => .list (itemsUnsignedZeros items)
  | .object members => .object (membersUnsignedZeros members)

/-- The items of a list, in each every zero made positive. -/
def itemsUnsignedZeros : List Json → List Json
  | [] => []
  | item :: rest => item.unsignedZeros :: itemsUnsignedZeros rest

/-- The members of an object, in the value of each every zero made positive. -/
def membersUnsignedZeros : List (String × Json) → List (String × Json)
  | [] => []
  | (name, value) :: rest => (name, value.unsignedZeros) :: membersUnsignedZeros rest

end

mutual

/-- **Values agree exactly if they differ in the signs of zeros alone.** -/
theorem agrees_iff : ∀ a b : Json, a.agrees b = true ↔ a.unsignedZeros = b.unsignedZeros
  | .null, b => by cases b <;> simp [agrees, unsignedZeros]
  | .bool x, b => by cases b <;> simp [agrees, unsignedZeros]
  | .number x, b => by cases b <;> simp [agrees, unsignedZeros, JsonNumber.agrees_iff]
  | .text s, b => by cases b <;> simp [agrees, unsignedZeros]
  | .list items, b => by
    cases b with
    | list items' =>
      rw [agrees, unsignedZeros, unsignedZeros, list.injEq, itemsAgree_iff items items']
    | _ => simp [agrees, unsignedZeros]
  | .object members, b => by
    cases b with
    | object members' =>
      rw [agrees, unsignedZeros, unsignedZeros, object.injEq, membersAgree_iff members members']
    | _ => simp [agrees, unsignedZeros]

theorem itemsAgree_iff : ∀ as bs : List Json,
    itemsAgree as bs = true ↔ itemsUnsignedZeros as = itemsUnsignedZeros bs
  | [], bs => by cases bs <;> simp [itemsAgree, itemsUnsignedZeros]
  | a :: as, [] => by simp [itemsAgree, itemsUnsignedZeros]
  | a :: as, b :: bs => by
    rw [itemsAgree, itemsUnsignedZeros, itemsUnsignedZeros, Bool.and_eq_true, List.cons.injEq,
      agrees_iff a b, itemsAgree_iff as bs]

theorem membersAgree_iff : ∀ as bs : List (String × Json),
    membersAgree as bs = true ↔ membersUnsignedZeros as = membersUnsignedZeros bs
  | [], bs => by cases bs <;> simp [membersAgree, membersUnsignedZeros]
  | (m, a) :: as, [] => by simp [membersAgree, membersUnsignedZeros]
  | (m, a) :: as, (n, b) :: bs => by
    rw [membersAgree, membersUnsignedZeros, membersUnsignedZeros, Bool.and_eq_true,
      Bool.and_eq_true, beq_iff_eq, List.cons.injEq, Prod.mk.injEq, agrees_iff a b,
      membersAgree_iff as bs]

end

theorem map_fst_membersUnsignedZeros (members : List (String × Json)) :
    (membersUnsignedZeros members).map Prod.fst = members.map Prod.fst := by
  induction members with
  | nil => rfl
  | cons m rest ih =>
    obtain ⟨name, value⟩ := m
    rw [membersUnsignedZeros, List.map_cons, List.map_cons, ih]

mutual

/-- The signs of zeros play no part in the order of members. -/
theorem Ordered.unsignedZeros : ∀ {j : Json}, j.Ordered → j.unsignedZeros.Ordered
  | .null, _ | .bool _, _ | .number _, _ | .text _, _ => by simp [Json.unsignedZeros, Ordered]
  | .list items, h => by
    rw [Ordered] at h
    rw [Json.unsignedZeros, Ordered]
    exact ItemsOrdered.unsignedZeros h
  | .object members, h => by
    rw [Ordered] at h
    rw [Json.unsignedZeros, Ordered, map_fst_membersUnsignedZeros]
    exact ⟨h.1, MembersOrdered.unsignedZeros h.2⟩

theorem ItemsOrdered.unsignedZeros : ∀ {items : List Json},
    ItemsOrdered items → ItemsOrdered (itemsUnsignedZeros items)
  | [], _ => by simp [itemsUnsignedZeros, ItemsOrdered]
  | item :: rest, h => by
    rw [ItemsOrdered] at h
    rw [itemsUnsignedZeros, ItemsOrdered]
    exact ⟨h.1.unsignedZeros, h.2.unsignedZeros⟩

theorem MembersOrdered.unsignedZeros : ∀ {members : List (String × Json)},
    MembersOrdered members → MembersOrdered (membersUnsignedZeros members)
  | [], _ => by simp [membersUnsignedZeros, MembersOrdered]
  | (name, value) :: rest, h => by
    rw [MembersOrdered] at h
    rw [membersUnsignedZeros, MembersOrdered]
    exact ⟨h.1.unsignedZeros, h.2.unsignedZeros⟩

end

end Json

/-- The data with every zero that is a double made positive. -/
def JsonData.unsignedZeros (v : JsonData) : JsonData :=
  ⟨v.val.unsignedZeros, v.property.unsignedZeros⟩

/-! ## Defaults -/

namespace ColumnDefault

/-- The default that stands for all that count as the same: an expression without its text, or a
constant whose zeros are positive. -/
def canonical : ColumnDefault → ColumnDefault
  | .literal value => .literal value.unsignedZeros
  | .expression _ => .expression ""
  | .supplied => .supplied

theorem equivalent_iff {a b : ColumnDefault} :
    a.equivalent b = true ↔ a.canonical = b.canonical := by
  cases a with
  | literal v =>
    cases b with
    | literal w =>
      rw [equivalent, Json.agrees_iff, canonical, canonical, literal.injEq, Subtype.ext_iff]
      rfl
    | _ => simp [equivalent, canonical]
  | expression _ => cases b <;> simp [equivalent, canonical]
  | supplied => cases b <;> simp [equivalent, canonical]

/-- **Defaults count as the same exactly if they have one canonical form.** -/
theorem equivalent?_iff {a b : Option ColumnDefault} :
    equivalent? a b = true ↔ a.map canonical = b.map canonical := by
  cases a with
  | none => cases b <;> simp [equivalent?]
  | some x =>
    cases b with
    | none => simp [equivalent?]
    | some y =>
      rw [equivalent?, equivalent_iff, Option.map_some, Option.map_some, Option.some.injEq]

theorem equivalent?_refl (a : Option ColumnDefault) : equivalent? a a = true :=
  equivalent?_iff.mpr rfl

theorem equivalent?_symm {a b : Option ColumnDefault} (h : equivalent? a b = true) :
    equivalent? b a = true :=
  equivalent?_iff.mpr (equivalent?_iff.mp h).symm

theorem equivalent?_trans {a b c : Option ColumnDefault} (hab : equivalent? a b = true)
    (hbc : equivalent? b c = true) : equivalent? a c = true :=
  equivalent?_iff.mpr ((equivalent?_iff.mp hab).trans (equivalent?_iff.mp hbc))

end ColumnDefault

end SchemaEvolution
