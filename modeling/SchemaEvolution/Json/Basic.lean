import SchemaEvolution.NameMap
import SchemaEvolution.Decimal.Binary64

/-!
# JSON values

`Json` is a tree of the six kinds of value. An object is a list of members, in
the order in which they are written; nothing in the type keeps names apart.

A value that stands for data rather than for a text is a `JsonData`: in each of
its objects the names increase strictly, so the order of members carries no
meaning and the last of several members of one name has won. `JsonData.of`
brings any tree into that form.
-/

namespace SchemaEvolution

/-- A JSON number. A number written without point and exponent that fits a
64-bit integer, signed or not, is whole; every other number is a double. -/
inductive JsonNumber where
  | whole (value : Int) (fits : -9223372036854775808 ≤ value ∧ value < 18446744073709551616)
  | double (value : Binary64)
deriving DecidableEq

namespace JsonNumber

/-- Equality of numbers: a whole number never equals a double, and doubles are
compared as numbers. -/
def agrees : JsonNumber → JsonNumber → Bool
  | .whole a _, .whole b _ => a == b
  | .double a, .double b => a.agrees b
  | _, _ => false

end JsonNumber

/-- A JSON value, with the members of objects as written. -/
inductive Json where
  | null
  | bool (value : Bool)
  | number (value : JsonNumber)
  | text (value : String)
  | list (items : List Json)
  | object (members : List (String × Json))

instance : Inhabited Json := ⟨.null⟩

namespace Json

mutual

/-- Whether every object of a value has its names in strictly increasing
order. -/
def Ordered : Json → Prop
  | .null | .bool _ | .number _ | .text _ => True
  | .list items => ItemsOrdered items
  | .object members => (members.map Prod.fst).Pairwise (· < ·) ∧ MembersOrdered members

/-- Whether all items of a list are ordered. -/
def ItemsOrdered : List Json → Prop
  | [] => True
  | item :: rest => item.Ordered ∧ ItemsOrdered rest

/-- Whether the values of all members are ordered. -/
def MembersOrdered : List (String × Json) → Prop
  | [] => True
  | (_, value) :: rest => value.Ordered ∧ MembersOrdered rest

end

mutual

/-- The same data with the names of every object in increasing order, the last
member of a name standing for all of that name. -/
def normal : Json → Json
  | .null => .null
  | .bool b => .bool b
  | .number n => .number n
  | .text s => .text s
  | .list items => .list (normalItems items)
  | .object members => .object (NameMap.ofList (normalMembers members)).entries

/-- The items of a list, each in normal form. -/
def normalItems : List Json → List Json
  | [] => []
  | item :: rest => item.normal :: normalItems rest

/-- The members of an object, each value in normal form. -/
def normalMembers : List (String × Json) → List (String × Json)
  | [] => []
  | (name, value) :: rest => (name, value.normal) :: normalMembers rest

end

mutual

/-- Equality of values in normal form: numbers as numbers, all else by its
parts. -/
def agrees : Json → Json → Bool
  | .null, .null => true
  | .bool a, .bool b => a == b
  | .number a, .number b => a.agrees b
  | .text a, .text b => a == b
  | .list a, .list b => itemsAgree a b
  | .object a, .object b => membersAgree a b
  | _, _ => false

/-- Whether two lists have the same length and agree item by item. -/
def itemsAgree : List Json → List Json → Bool
  | [], [] => true
  | a :: as, b :: bs => a.agrees b && itemsAgree as bs
  | _, _ => false

/-- Whether two objects have the same names and agree member by member. -/
def membersAgree : List (String × Json) → List (String × Json) → Bool
  | [], [] => true
  | (m, a) :: as, (n, b) :: bs => m == n && a.agrees b && membersAgree as bs
  | _, _ => false

end

/-- The value of the first member of a name, if the value is an object that has
one. -/
def member? : Json → String → Option Json
  | .object members, name => members.lookup name
  | _, _ => none

/-! ## Normal forms are ordered -/

theorem membersOrdered_iff {members : List (String × Json)} :
    MembersOrdered members ↔ ∀ m ∈ members, m.2.Ordered := by
  induction members with
  | nil => simp [MembersOrdered]
  | cons m rest ih => simp [MembersOrdered, ih]

mutual

theorem ordered_normal : ∀ j : Json, j.normal.Ordered
  | .null | .bool _ | .number _ | .text _ => by simp [normal, Ordered]
  | .list items => by simpa [normal, Ordered] using itemsOrdered_normalItems items
  | .object members => by
    rw [normal, Ordered]
    refine ⟨(NameMap.ofList _).ascending, membersOrdered_iff.2 fun m hm => ?_⟩
    exact ordered_normalMembers members m (NameMap.mem_of_mem_ofList hm)

theorem itemsOrdered_normalItems : ∀ items : List Json, ItemsOrdered (normalItems items)
  | [] => by simp [normalItems, ItemsOrdered]
  | item :: rest => by
    rw [normalItems, ItemsOrdered]
    exact ⟨ordered_normal item, itemsOrdered_normalItems rest⟩

theorem ordered_normalMembers : ∀ (members : List (String × Json)),
    ∀ m ∈ normalMembers members, m.2.Ordered
  | [], _, h => by simp [normalMembers] at h
  | (_, value) :: rest, m, h => by
    rw [normalMembers] at h
    rcases List.mem_cons.1 h with rfl | h
    · exact ordered_normal value
    · exact ordered_normalMembers rest m h

end

end Json

/-- A JSON value as data: the names of each object increase strictly. -/
abbrev JsonData := { j : Json // j.Ordered }

/-- The data that a tree stands for. -/
def JsonData.of (j : Json) : JsonData :=
  ⟨j.normal, j.ordered_normal⟩

end SchemaEvolution
