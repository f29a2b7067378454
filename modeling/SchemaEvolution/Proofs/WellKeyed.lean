import SchemaEvolution.Proofs.NameMap
import SchemaEvolution.Schema.Basic

/-!
# Held under its own name

What is found under a name in a well-keyed description bears that name. The functions that build
tables and schemas add to them under the name that the new part bears, so whatever they build is
well-keyed.
-/

namespace SchemaEvolution

/-- Whatever is put into a map beside entries that have a property, the entries of the new map have
it if the new one does. -/
private theorem NameMap.forall_mem_insert {α : Type} {m : NameMap α} {p : String × α → Prop}
    {n : String} {v : α} (old : ∀ e ∈ m.entries, p e) (new : p (n, v)) :
    ∀ e ∈ (m.insert n v).entries, p e := by
  intro e he
  have hfind := NameMap.find?_of_mem he
  rw [NameMap.find?_insert] at hfind
  split at hfind
  · rename_i hn
    have hv : v = e.2 := Option.some.inj hfind
    rw [hn, hv] at new
    exact new
  · exact old e (NameMap.find?_eq_some_iff.mp hfind)

namespace Table.WellKeyed

variable {t : Table}

theorem name_of_find? (h : t.WellKeyed) {n : String} {c : Column}
    (hc : t.columns.find? n = some c) : c.name = n :=
  h _ (NameMap.find?_eq_some_iff.mp hc)

theorem empty (name : String) : (Table.empty name).WellKeyed := by
  intro e he
  cases he

theorem withColumn (h : t.WellKeyed) (c : Column) : (t.withColumn c).WellKeyed :=
  NameMap.forall_mem_insert h rfl

theorem withIndex (h : t.WellKeyed) (i : Index) : (t.withIndex i).WellKeyed := h

theorem withPrimaryKey (h : t.WellKeyed) (key : CompositeKey) :
    (t.withPrimaryKey key).WellKeyed := h

theorem interleavedIn (h : t.WellKeyed) (parent : String) (onDelete : ParentDelete) :
    (t.interleavedIn parent onDelete).WellKeyed := h

end Table.WellKeyed

namespace Schema.WellKeyed

variable {s : Schema}

theorem name_of_find? (h : s.WellKeyed) {n : String} {t : Table}
    (ht : s.tables.find? n = some t) : t.name = n :=
  (h _ (NameMap.find?_eq_some_iff.mp ht)).1

theorem of_find? (h : s.WellKeyed) {n : String} {t : Table}
    (ht : s.tables.find? n = some t) : t.WellKeyed :=
  (h _ (NameMap.find?_eq_some_iff.mp ht)).2

theorem empty : Schema.empty.WellKeyed := by
  intro e he
  cases he

theorem withTable (h : s.WellKeyed) {t : Table} (ht : t.WellKeyed) : (s.withTable t).WellKeyed :=
  NameMap.forall_mem_insert h ⟨rfl, ht⟩

end Schema.WellKeyed

end SchemaEvolution
