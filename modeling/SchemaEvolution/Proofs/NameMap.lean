import SchemaEvolution.NameMap
import Mathlib.Data.List.Forall2
import Mathlib.Data.List.Nodup

/-!
# Looking up in maps

What each operation on a `NameMap` does to look-ups. A map is determined by its look-ups
(`ext_find?`), so these equations are all that other modules know of it; that entries are a sorted
list shows only where their order does.

`alter` changes what is stored under one name and leaves the rest alone. Changes under several
names, one after the other, do not meet: after a list of them, a name holds what the changes of its
own have made of it, in their order (`find?_foldl_alter`). This is what makes it possible to carry
out a patch and to reason about it name by name.
-/

namespace SchemaEvolution.NameMap

variable {α : Type}

/-! ## Entries -/

private theorem lookup_cons_eq_ite (m : String) (w : α) (rest : List (String × α)) (k : String) :
    ((m, w) :: rest).lookup k = if m = k then some w else rest.lookup k := by
  rw [List.lookup_cons]
  by_cases hm : m = k
  · rw [if_pos hm, hm, beq_self_eq_true]
  · rw [if_neg hm, beq_false_of_ne (Ne.symm hm)]

/-- In a list of entries with distinct names, looking up finds exactly the members. -/
theorem lookup_eq_some_iff_mem {l : List (String × α)} (h : (l.map Prod.fst).Nodup) {n : String}
    {v : α} : l.lookup n = some v ↔ (n, v) ∈ l := by
  induction l with
  | nil => simp
  | cons e rest ih =>
    obtain ⟨m, w⟩ := e
    rw [List.map_cons, List.nodup_cons] at h
    rw [lookup_cons_eq_ite, List.mem_cons, Prod.mk.injEq]
    by_cases hm : m = n
    · subst hm
      have hrest : (m, v) ∉ rest := fun hv => h.1 (List.mem_map.mpr ⟨(m, v), hv, rfl⟩)
      simp only [if_true, Option.some.injEq, true_and, hrest, or_false, eq_comm]
    · simp only [hm, Ne.symm hm, if_false, false_and, false_or, ih h.2]

theorem nodup_names (m : NameMap α) : m.names.Nodup :=
  m.ascending.imp fun h => Std.ne_of_lt h

theorem nodup_entries (m : NameMap α) : m.entries.Nodup :=
  (List.pairwise_map.mp m.nodup_names).imp fun hne heq => hne (congrArg Prod.fst heq)

/-- Looking up finds exactly the entries. -/
theorem find?_eq_some_iff {m : NameMap α} {n : String} {v : α} :
    m.find? n = some v ↔ (n, v) ∈ m.entries :=
  lookup_eq_some_iff_mem m.nodup_names

/-- An entry is what is found under its name. -/
theorem find?_of_mem {m : NameMap α} {e : String × α} (h : e ∈ m.entries) :
    m.find? e.1 = some e.2 :=
  find?_eq_some_iff.mpr h

theorem mem_values {m : NameMap α} {v : α} : v ∈ m.values ↔ ∃ n, m.find? n = some v := by
  simp only [values, List.mem_map, Prod.exists, exists_eq_right, find?_eq_some_iff]

theorem contains_iff {m : NameMap α} {n : String} :
    m.contains n = true ↔ ∃ v, m.find? n = some v :=
  Option.isSome_iff_exists

theorem contains_eq_false_iff {m : NameMap α} {n : String} :
    m.contains n = false ↔ m.find? n = none := by
  rw [contains, Option.isSome_eq_false_iff, Option.isNone_iff_eq_none]

theorem mem_names {m : NameMap α} {n : String} : n ∈ m.names ↔ m.contains n = true := by
  simp only [names, List.mem_map, Prod.exists, exists_and_right, exists_eq_right, contains_iff,
    find?_eq_some_iff]

/-- **A map is determined by its look-ups.** -/
theorem ext_find? {m m' : NameMap α} (h : ∀ n, m.find? n = m'.find? n) : m = m' := by
  have sorted : ∀ m : NameMap α, m.entries.Pairwise (·.1 < ·.1) :=
    fun m => List.pairwise_map.mp m.ascending
  have perm : m.entries.Perm m'.entries := by
    refine (List.perm_ext_iff_of_nodup m.nodup_entries m'.nodup_entries).mpr fun e => ?_
    obtain ⟨n, v⟩ := e
    rw [← find?_eq_some_iff, ← find?_eq_some_iff, h n]
  have entries : m.entries = m'.entries := by
    refine List.Perm.eq_of_pairwise (fun a b _ _ hab hba => ?_) (sorted m) (sorted m') perm
    exact absurd (String.lt_trans hab hba) (String.lt_irrefl _)
  cases m
  cases m'
  exact (mk.injEq ..).mpr entries

/-! ## Operations -/

@[simp] theorem find?_empty (n : String) : (empty : NameMap α).find? n = none := rfl

private theorem lookup_insertEntry (n : String) (v : α) (k : String) (l : List (String × α)) :
    (insertEntry n v l).lookup k = if n = k then some v else l.lookup k := by
  induction l with
  | nil => rw [insertEntry, lookup_cons_eq_ite]
  | cons e rest ih =>
    obtain ⟨m, w⟩ := e
    unfold insertEntry
    split
    · rw [lookup_cons_eq_ite]
    · split
      · rename_i heq
        subst heq
        rw [lookup_cons_eq_ite, lookup_cons_eq_ite]
        split <;> rfl
      · rename_i hne
        rw [lookup_cons_eq_ite, lookup_cons_eq_ite, ih]
        by_cases hm : m = k
        · subst hm
          rw [if_pos rfl, if_neg hne, if_pos rfl]
        · rw [if_neg hm, if_neg hm]

theorem find?_insert (m : NameMap α) (n : String) (v : α) (k : String) :
    (m.insert n v).find? k = if n = k then some v else m.find? k :=
  lookup_insertEntry n v k m.entries

theorem find?_erase (m : NameMap α) (n k : String) :
    (m.erase n).find? k = if n = k then none else m.find? k := by
  refine Option.ext fun v => ?_
  rw [find?_eq_some_iff, erase, List.mem_filter, decide_eq_true_eq]
  split
  · rename_i heq
    simp [heq]
  · rename_i hne
    simp [find?_eq_some_iff, Ne.symm hne]

/-- An entry beside the map without its name makes up the map. -/
theorem entries_perm_erase {m : NameMap α} {e : String × α} (h : e ∈ m.entries) :
    m.entries.Perm (e :: (m.erase e.1).entries) := by
  refine (List.perm_ext_iff_of_nodup m.nodup_entries
    (List.nodup_cons.mpr ⟨?_, nodup_entries _⟩)).mpr fun x => ?_
  · simp [erase]
  · rw [erase, List.mem_cons, List.mem_filter, decide_eq_true_eq]
    by_cases hx : x.1 = e.1
    · have heq : x ∈ m.entries ↔ x = e := by
        refine ⟨fun hm => ?_, fun hx => hx ▸ h⟩
        have hv : some x.2 = some e.2 := by
          rw [← find?_of_mem hm, ← find?_of_mem h, hx]
        exact Prod.ext hx (Option.some.inj hv)
      simp [hx, heq]
    · have hne : x ≠ e := fun heq => hx (congrArg Prod.fst heq)
      simp [hx, hne]

/-! ## Maps of lists -/

private theorem find?_foldl_insert (l : List (String × α)) (m : NameMap α) (k : String) :
    (l.foldl (fun m e => m.insert e.1 e.2) m).find? k = (l.reverse.lookup k).or (m.find? k) := by
  induction l generalizing m with
  | nil => rfl
  | cons e rest ih =>
    rw [List.foldl_cons, ih, find?_insert, List.reverse_cons, List.lookup_append, Option.or_assoc,
      lookup_cons_eq_ite]
    split <;> rfl

/-- In the map of a list, the last entry of a name counts. -/
theorem find?_ofList (l : List (String × α)) (k : String) :
    (ofList l).find? k = l.reverse.lookup k := by
  rw [ofList, find?_foldl_insert, find?_empty, Option.or_none]

/-- In the map of a list with distinct names, every entry counts. -/
theorem find?_ofList_eq_some_iff {l : List (String × α)} (h : (l.map Prod.fst).Nodup) {n : String}
    {v : α} : (ofList l).find? n = some v ↔ (n, v) ∈ l := by
  have hrev : (l.reverse.map Prod.fst).Nodup := by
    rw [List.map_reverse, List.Nodup, List.pairwise_reverse]
    exact h.imp Ne.symm
  rw [find?_ofList, lookup_eq_some_iff_mem hrev, List.mem_reverse]

/-- The order of a list with distinct names plays no part in its map. -/
theorem ofList_perm {l l' : List (String × α)} (h : (l.map Prod.fst).Nodup) (perm : l.Perm l') :
    ofList l = ofList l' := by
  have h' : (l'.map Prod.fst).Nodup := (perm.map Prod.fst).nodup_iff.mp h
  refine ext_find? fun n => Option.ext fun v => ?_
  rw [find?_ofList_eq_some_iff h, find?_ofList_eq_some_iff h', perm.mem_iff]

/-- The map of a map's entries is that map. -/
theorem ofList_entries (m : NameMap α) : ofList m.entries = m :=
  ext_find? fun _ => Option.ext fun _ =>
    (find?_ofList_eq_some_iff m.nodup_names).trans find?_eq_some_iff.symm

/-- A map whose values bear their names is made from its values. -/
theorem ofList_values {m : NameMap α} {name : α → String}
    (h : ∀ n v, m.find? n = some v → name v = n) :
    ofList (m.values.map fun v => (name v, v)) = m := by
  have entries : m.values.map (fun v => (name v, v)) = m.entries := by
    rw [values, List.map_map]
    calc m.entries.map ((fun v => (name v, v)) ∘ Prod.snd)
        = m.entries.map id := by
          refine List.map_congr_left fun e he => ?_
          exact Prod.ext (h e.1 e.2 (find?_of_mem he)) rfl
      _ = m.entries := List.map_id _
  rw [entries, ofList_entries]

/-- The map of a list holds the names of the list. -/
theorem contains_ofList {l : List (String × α)} {n : String} :
    (ofList l).contains n = true ↔ n ∈ l.map Prod.fst := by
  rw [contains, find?_ofList, List.lookup_isSome_iff]
  simp only [List.mem_reverse, List.mem_map, beq_iff_eq, @eq_comm _ n]

/-! ## Changes under one name -/

/-- The map in which what is stored under a name, or its absence, is put through a function. -/
def alter (m : NameMap α) (n : String) (f : Option α → Option α) : NameMap α :=
  match f (m.find? n) with
  | some v => m.insert n v
  | none => m.erase n

theorem find?_alter (m : NameMap α) (n : String) (f : Option α → Option α) (k : String) :
    (m.alter n f).find? k = if n = k then f (m.find? k) else m.find? k := by
  unfold alter
  by_cases hn : n = k
  · subst hn
    cases hf : f (m.find? n) with
    | none => simp only [find?_erase, if_true]
    | some v => simp only [find?_insert, if_true]
  · cases hf : f (m.find? n) with
    | none => simp only [find?_erase, hn, if_false]
    | some v => simp only [find?_insert, hn, if_false]

/-- **Changes under different names do not meet**: after a list of changes, a name holds what the
changes of its own have made of what it held. -/
theorem find?_foldl_alter {ε : Type} (name : ε → String) (effect : ε → Option α → Option α)
    (edits : List ε) (m : NameMap α) (k : String) :
    (edits.foldl (fun m e => m.alter (name e) (effect e)) m).find? k =
      (edits.filter (name · = k)).foldl (fun v e => effect e v) (m.find? k) := by
  induction edits generalizing m with
  | nil => rfl
  | cons e rest ih =>
    rw [List.foldl_cons, ih, find?_alter]
    by_cases he : name e = k
    · rw [if_pos he, List.filter_cons, if_pos (decide_eq_true he), List.foldl_cons]
    · rw [if_neg he, List.filter_cons, if_neg (by simpa using he)]

private theorem filter_filterMap_lookup {ε : Type} {name : ε → String}
    {f : String × α → Option ε} {l : List (String × α)} (nodup : (l.map Prod.fst).Nodup)
    (h : ∀ e ∈ l, ∀ x, f e = some x → name x = e.1) (k : String) :
    (l.filterMap f).filter (name · = k) = ((l.lookup k).bind fun v => f (k, v)).toList := by
  induction l with
  | nil => rfl
  | cons e rest ih =>
    obtain ⟨m, w⟩ := e
    rw [List.map_cons, List.nodup_cons] at nodup
    have hrest := ih nodup.2 fun e he => h e (List.mem_cons_of_mem _ he)
    rw [List.filterMap_cons, lookup_cons_eq_ite]
    by_cases hm : m = k
    · subst hm
      have hnone : rest.lookup m = none := by
        refine List.lookup_eq_none_iff.mpr fun e he => ?_
        exact bne_iff_ne.mpr fun heq => nodup.1 (List.mem_map.mpr ⟨e, he, heq.symm⟩)
      rw [hnone] at hrest
      rw [if_pos rfl, Option.bind_some]
      cases hf : f (m, w) with
      | none => exact hrest
      | some x =>
        have hx : name x = m := h _ List.mem_cons_self x hf
        simp only [List.filter_cons, hx, decide_true, if_true, hrest]
        rfl
    · rw [if_neg hm, ← hrest]
      cases hf : f (m, w) with
      | none => rfl
      | some x =>
        have hx : name x ≠ k := fun heq => hm ((h _ List.mem_cons_self x hf).symm.trans heq)
        simp only [List.filter_cons, hx, decide_false, Bool.false_eq_true, if_false]

/-- Of what is made from the entries of a map one by one, under the names of the entries, at most
one has a given name: what is made from the entry of that name. -/
theorem filter_filterMap_entries {ε : Type} {m : NameMap α} (name : ε → String)
    {f : String × α → Option ε} (h : ∀ e ∈ m.entries, ∀ x, f e = some x → name x = e.1)
    (k : String) :
    (m.entries.filterMap f).filter (name · = k) = ((m.find? k).bind fun v => f (k, v)).toList :=
  filter_filterMap_lookup m.nodup_names h k

/-- A list with at most one element of each name has exactly the elements that it has by name. -/
theorem mem_iff_of_filter_eq {ε : Type} {l : List ε} {name : ε → String} {under : String → Option ε}
    {x : ε} (h : l.filter (name · = name x) = (under (name x)).toList) :
    x ∈ l ↔ under (name x) = some x := by
  have hmem : x ∈ l.filter (name · = name x) ↔ x ∈ l := by
    simp only [List.mem_filter, decide_true, and_true]
  rw [← hmem, h, Option.mem_toList]

/-- What is made name by name has a property exactly if what is made under each name has it. -/
theorem forall_mem_iff_of_filter {ε : Type} {l : List ε} {name : ε → String}
    {under : String → Option ε} (h : ∀ n, l.filter (name · = n) = (under n).toList)
    {p : ε → Prop} : (∀ x ∈ l, p x) ↔ ∀ n x, under n = some x → p x := by
  constructor
  · intro hall n x hx
    have hmem : x ∈ l.filter (name · = n) := by
      rw [h, hx]
      exact List.mem_singleton_self x
    exact hall x (List.mem_filter.mp hmem).1
  · intro hunder x hx
    exact hunder (name x) x ((mem_iff_of_filter_eq (h (name x))).mp hx)

/-- A list with at most one element of each name has distinct names. -/
theorem nodup_names_of_filter {ε : Type} {l : List ε} {name : ε → String}
    {under : String → Option ε} (h : ∀ n, l.filter (name · = n) = (under n).toList) :
    (l.map name).Nodup := by
  refine List.nodup_iff_count_le_one.mpr fun n => ?_
  have hcount : (l.map name).count n = (l.filter (name · = n)).length := by
    rw [List.count, List.countP_map, List.countP_eq_length_filter]
    rfl
  rw [hcount, h]
  cases under n with
  | none => exact Nat.zero_le 1
  | some x => exact Nat.le_refl 1

/-! ## Lists in the order of names -/

/-- What is made from the entries of a map, under the names of the entries, is in the order of
names. -/
theorem pairwise_filterMap_entries {ε : Type} {m : NameMap α} (name : ε → String)
    {f : String × α → Option ε} (h : ∀ e ∈ m.entries, ∀ x, f e = some x → name x = e.1) :
    (m.entries.filterMap f).Pairwise (name · < name ·) := by
  have ascending : m.entries.Pairwise fun e e' => e ∈ m.entries ∧ e' ∈ m.entries ∧ e.1 < e'.1 :=
    (List.pairwise_map.mp m.ascending).imp_of_mem fun he he' hlt => ⟨he, he', hlt⟩
  refine List.Pairwise.filterMap f (fun e e' ⟨he, he', hlt⟩ x hx x' hx' => ?_) ascending
  rw [h e he x hx, h e' he' x' hx']
  exact hlt

section

variable {ε : Type} {name : ε → String} {x : ε} {xs : List ε}

private theorem filter_eq_nil_of_lt {k : String} (h : ∀ z ∈ xs, k < name z) :
    xs.filter (name · = k) = [] := by
  refine List.filter_eq_nil_iff.mpr fun z hz => ?_
  rw [decide_eq_true_eq]
  exact fun heq => String.lt_irrefl _ (heq ▸ h z hz)

private theorem filter_cons_self (h : ∀ z ∈ xs, name x < name z) :
    (x :: xs).filter (name · = name x) = [x] := by
  rw [List.filter_cons, if_pos (decide_eq_true rfl), filter_eq_nil_of_lt h]

private theorem filter_cons_eq_nil_of_lt (h : ∀ z ∈ xs, name x < name z) {k : String}
    (hlt : k < name x) : (x :: xs).filter (name · = k) = [] := by
  refine filter_eq_nil_of_lt fun z hz => ?_
  rcases List.mem_cons.mp hz with rfl | hz
  · exact hlt
  · exact String.lt_trans hlt (h z hz)

end

/-- **Two lists in the order of names correspond if they correspond name by name.** -/
theorem forall₂_of_filter {ε ε' : Type} {R : ε → ε' → Prop} {name : ε → String}
    {name' : ε' → String} {l : List ε} {l' : List ε'} (hl : l.Pairwise (name · < name ·))
    (hl' : l'.Pairwise (name' · < name' ·))
    (h : ∀ k, List.Forall₂ R (l.filter (name · = k)) (l'.filter (name' · = k))) :
    List.Forall₂ R l l' := by
  induction l generalizing l' with
  | nil =>
    cases l' with
    | nil => exact .nil
    | cons y ys =>
      have hy := h (name' y)
      rw [filter_cons_self (List.pairwise_cons.mp hl').1] at hy
      cases hy
  | cons x xs ih =>
    rw [List.pairwise_cons] at hl
    have hx := h (name x)
    rw [filter_cons_self hl.1] at hx
    cases l' with
    | nil => cases hx
    | cons y ys =>
      rw [List.pairwise_cons] at hl'
      have hy := h (name' y)
      rw [filter_cons_self hl'.1] at hy
      -- the lesser of two different first names would have nothing to correspond to
      have hname : name x = name' y := by
        rcases Std.lt_trichotomy (α := String) (name x) (name' y) with hlt | heq | hgt
        · rw [filter_cons_eq_nil_of_lt hl'.1 hlt] at hx
          cases hx
        · exact heq
        · rw [filter_cons_eq_nil_of_lt hl.1 hgt] at hy
          cases hy
      rw [hname, filter_cons_self hl'.1] at hx
      cases hx with
      | cons hxy _ =>
        refine .cons hxy (ih hl.2 hl'.2 fun k => ?_)
        by_cases hk : name x = k
        · rw [← hk, filter_eq_nil_of_lt hl.1, hname, filter_eq_nil_of_lt hl'.1]
          exact .nil
        · have hrest := h k
          rw [List.filter_cons_of_neg (by simpa using hk),
            List.filter_cons_of_neg (by simpa using hname ▸ hk)] at hrest
          exact hrest

/-- The values of two maps correspond, in the order of their names, if they correspond name by
name. -/
theorem forall₂_values {β : Type} {R : α → β → Prop} {m : NameMap α} {m' : NameMap β}
    (h : ∀ n, Option.Rel R (m.find? n) (m'.find? n)) : List.Forall₂ R m.values m'.values := by
  have filter_entries : ∀ {γ : Type} (m : NameMap γ) (k : String),
      m.entries.filter (·.1 = k) = ((m.find? k).map (k, ·)).toList := by
    intro γ m k
    have filtered := filter_filterMap_entries (m := m) Prod.fst
      (f := some) (fun _ _ _ hx => congrArg Prod.fst (Option.some.inj hx).symm) k
    rw [List.filterMap_some] at filtered
    rw [filtered]
    cases m.find? k <;> rfl
  have entries : List.Forall₂ (fun e e' => R e.2 e'.2) m.entries m'.entries := by
    refine forall₂_of_filter (List.pairwise_map.mp m.ascending) (List.pairwise_map.mp m'.ascending)
      fun k => ?_
    rw [filter_entries, filter_entries]
    have hk := h k
    generalize m.find? k = v? at hk ⊢
    generalize m'.find? k = w? at hk ⊢
    cases hk with
    | none => exact .nil
    | some hvw => exact .cons hvw .nil
  rw [values, values, List.forall₂_map_left_iff, List.forall₂_map_right_iff]
  exact entries

end SchemaEvolution.NameMap
