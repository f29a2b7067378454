/-!
# Maps keyed by name

A `NameMap α` holds values under names, in strictly increasing order of name.
The order is part of the type because it is observable: documents list tables
and columns in it, and statements are generated in it. Since the entries of a
map are sorted and free of repetition, two maps with the same look-ups are the
same list of entries.

Strings are ordered by the code points of their characters, which is also the
order of their UTF-8 bytes.
-/

namespace SchemaEvolution

/-- A map from names to values, as its entries in strictly increasing order of
name. -/
structure NameMap (α : Type) where
  /-- The entries, least name first. -/
  entries : List (String × α)
  /-- Names increase strictly, so no name occurs twice. -/
  ascending : (entries.map Prod.fst).Pairwise (· < ·)
deriving DecidableEq

namespace NameMap

variable {α : Type}

/-- The map with no entry. -/
def empty : NameMap α := ⟨[], .nil⟩

instance : EmptyCollection (NameMap α) := ⟨empty⟩

instance : Inhabited (NameMap α) := ⟨empty⟩

/-- The names of a map, in increasing order. -/
def names (m : NameMap α) : List String :=
  m.entries.map Prod.fst

/-- The values of a map, in the order of their names. -/
def values (m : NameMap α) : List α :=
  m.entries.map Prod.snd

/-- The value stored under a name. -/
def find? (m : NameMap α) (name : String) : Option α :=
  m.entries.lookup name

/-- Whether something is stored under a name. -/
def contains (m : NameMap α) (name : String) : Bool :=
  (m.find? name).isSome

/-- Whether a map has no entry. -/
def isEmpty (m : NameMap α) : Bool :=
  m.entries.isEmpty

/-! ## Insertion -/

/-- Puts an entry at its place in a sorted list, replacing the entry of the
same name. -/
def insertEntry (name : String) (value : α) : List (String × α) → List (String × α)
  | [] => [(name, value)]
  | (n, v) :: rest =>
    if name < n then (name, value) :: (n, v) :: rest
    else if name = n then (name, value) :: rest
    else (n, v) :: insertEntry name value rest

private theorem fst_of_mem_insertEntry {name : String} {value : α} {n : String} :
    ∀ {l : List (String × α)}, n ∈ (insertEntry name value l).map Prod.fst →
      n = name ∨ n ∈ l.map Prod.fst
  | [], h => by simpa [insertEntry] using h
  | (m, w) :: rest, h => by
    unfold insertEntry at h
    split at h
    · simpa using h
    · split at h
      · rename_i heq
        subst heq
        simpa using h
      · have h : n = m ∨ ∃ x, (n, x) ∈ insertEntry name value rest := by simpa using h
        rcases h with h | ⟨x, h⟩
        · exact .inr (by simp [h])
        · rcases fst_of_mem_insertEntry (List.mem_map.2 ⟨(n, x), h, rfl⟩) with h | h
          · exact .inl h
          · exact .inr (by simpa using .inr (by simpa using h))

private theorem ascending_insertEntry (name : String) (value : α) :
    ∀ {l : List (String × α)}, (l.map Prod.fst).Pairwise (· < ·) →
      ((insertEntry name value l).map Prod.fst).Pairwise (· < ·)
  | [], _ => by simp [insertEntry]
  | (n, v) :: rest, h => by
    rw [List.map_cons, List.pairwise_cons] at h
    unfold insertEntry
    split
    · rename_i hlt
      refine List.pairwise_cons.2 ⟨fun m hm => ?_, List.pairwise_cons.2 h⟩
      rcases List.mem_cons.1 hm with rfl | hm
      · exact hlt
      · exact String.lt_trans hlt (h.1 m hm)
    · split
      · rename_i heq
        subst heq
        exact List.pairwise_cons.2 h
      · rename_i hnlt hne
        refine List.pairwise_cons.2 ⟨fun m hm => ?_, ascending_insertEntry name value h.2⟩
        rcases fst_of_mem_insertEntry hm with rfl | hm
        · rcases Std.lt_trichotomy (α := String) n m with hlt | heq | hlt
          · exact hlt
          · exact absurd heq.symm hne
          · exact absurd hlt hnlt
        · exact h.1 m hm

/-- The map with a value stored under a name, in place of what was there. -/
def insert (m : NameMap α) (name : String) (value : α) : NameMap α :=
  ⟨insertEntry name value m.entries, ascending_insertEntry name value m.ascending⟩

/-- The map of a list of entries; of two entries with one name the later one
stays. -/
def ofList (entries : List (String × α)) : NameMap α :=
  entries.foldl (fun m e => m.insert e.1 e.2) empty

private theorem mem_of_mem_insertEntry {name : String} {value : α} {e : String × α} :
    ∀ {l : List (String × α)}, e ∈ insertEntry name value l → e = (name, value) ∨ e ∈ l
  | [], h => by simpa [insertEntry] using h
  | (n, v) :: rest, h => by
    unfold insertEntry at h
    split at h
    · simpa using h
    · split at h
      · rcases List.mem_cons.1 h with h | h
        · exact .inl h
        · exact .inr (List.mem_cons_of_mem _ h)
      · rcases List.mem_cons.1 h with h | h
        · exact .inr (h ▸ List.mem_cons_self)
        · rcases mem_of_mem_insertEntry h with h | h
          · exact .inl h
          · exact .inr (List.mem_cons_of_mem _ h)

/-- Every entry of a map made from a list is in the list. -/
theorem mem_of_mem_ofList {l : List (String × α)} {e : String × α}
    (h : e ∈ (ofList l).entries) : e ∈ l := by
  suffices ∀ (l : List (String × α)) (m : NameMap α),
      e ∈ (l.foldl (fun m e => m.insert e.1 e.2) m).entries → e ∈ l ∨ e ∈ m.entries by
    rcases this l empty h with h | h
    · exact h
    · simp [empty] at h
  intro l
  induction l with
  | nil => exact fun m h => .inr h
  | cons a rest ih =>
    intro m h
    rcases ih _ h with h | h
    · exact .inl (List.mem_cons_of_mem _ h)
    · rcases mem_of_mem_insertEntry h with h | h
      · exact .inl (h ▸ List.mem_cons_self)
      · exact .inr h

/-! ## Removal -/

/-- The map without the entry of a name. -/
def erase (m : NameMap α) (name : String) : NameMap α where
  entries := m.entries.filter (·.1 ≠ name)
  ascending := m.ascending.sublist (List.filter_sublist.map Prod.fst)

end NameMap

end SchemaEvolution
