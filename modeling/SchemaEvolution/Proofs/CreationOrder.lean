import SchemaEvolution.Proofs.NameMap
import SchemaEvolution.Patch.Order
import Mathlib.Data.Fintype.Card
import Mathlib.Data.Fintype.EquivFin
import Mathlib.Data.Fintype.Sets
import Mathlib.Logic.Relation

/-!
# Created in order

`creationOrder` rearranges tables of different names (`creationOrder_perm`), and where no table
depends on itself by a detour it puts none before one that it depends on
(`creationOrder_dependenciesFirst`).

The second rests on one step (`exists_ready`): as long as a table waits from which every chain of
dependencies ends, some waiting table depends on none that waits. So the first of those is taken,
and what is left behind it is nothing that it depends on. That chains end where there is no cycle is
a fact about finitely many names (`wellFounded_of_acyclic`).
-/

namespace SchemaEvolution

open Relation

/-! ## Dependencies -/

/-- Under a name there is a table that depends on another one. -/
def DependsOn (tables : NameMap Table) (n d : String) : Prop :=
  ∃ t, tables.find? n = some t ∧ d ∈ t.dependencies

/-- No table depends on itself by way of others. -/
def Schema.Acyclic (s : Schema) : Prop :=
  ∀ n, ¬ TransGen (DependsOn s.tables) n n

/-- No table depends on itself where all that a table depends on ranks below it. -/
theorem Schema.acyclic_of_rank {s : Schema} (rank : String → Nat)
    (h : ∀ e ∈ s.tables.entries, ∀ d ∈ e.2.dependencies, rank d < rank e.1) : s.Acyclic := by
  have below : ∀ {n d}, DependsOn s.tables n d → rank d < rank n := by
    rintro n d ⟨t, ht, hd⟩
    exact h (n, t) (NameMap.find?_eq_some_iff.mp ht) d hd
  have descends : ∀ {n d}, TransGen (DependsOn s.tables) n d → rank d < rank n := by
    intro n d hnd
    induction hnd with
    | single hdep => exact below hdep
    | tail _ hdep ih => exact (below hdep).trans ih
  exact fun n hn => Nat.lt_irrefl _ (descends hn)

/-- Where only finitely many things are related to others, every chain from a thing ends that
reaches nothing related to itself by a detour. -/
theorem acc_of_no_cycle {α : Type} {R : α → α → Prop} {support : List α}
    (inside : ∀ a b, R a b → a ∈ support) {a : α}
    (noCycle : ∀ b, ReflTransGen R a b → ¬ TransGen R b b) : Acc (fun b a => R a b) a := by
  let Inside := {b // b ∈ support ∧ ReflTransGen R a b}
  let Below : Inside → Inside → Prop := fun b c => TransGen R c.1 b.1
  have finite : Finite Inside := by
    classical
    have listed : Finite {b // b ∈ support} := inferInstance
    exact Finite.of_injective (fun b : Inside => (⟨b.1, b.2.1⟩ : {b // b ∈ support}))
      fun b c h => Subtype.ext (Subtype.mk.inj h)
  have trans : IsTrans Inside Below := ⟨fun _ _ _ hab hbc => hbc.trans hab⟩
  have irrefl : Std.Irrefl Below := ⟨fun b => noCycle b.1 b.2.2⟩
  have ends : ∀ b : Inside, Acc (fun b a => R a b) b.1 := by
    intro b
    induction b using (Finite.wellFounded_of_trans_of_irrefl Below).induction with
    | _ b ih =>
      refine Acc.intro _ fun c hc => ?_
      by_cases hmem : c ∈ support
      · exact ih ⟨c, hmem, b.2.2.tail hc⟩ (.single hc)
      · -- what is not among those is related to nothing
        exact Acc.intro _ fun d hd => absurd (inside c d hd) hmem
  by_cases hmem : a ∈ support
  · exact ends ⟨a, hmem, .refl⟩
  · exact Acc.intro _ fun d hd => absurd (inside a d hd) hmem

/-- Only under names of tables there is something that depends on others. -/
theorem mem_names_of_dependsOn {tables : NameMap Table} {n d : String}
    (h : DependsOn tables n d) : n ∈ tables.names := by
  obtain ⟨t, ht, _⟩ := h
  exact NameMap.mem_names.mpr (NameMap.contains_iff.mpr ⟨t, ht⟩)

/-- Where nothing depends on itself, every chain of dependencies ends: there are only finitely many
names that it can go through. -/
theorem wellFounded_of_acyclic {tables : NameMap Table}
    (h : ∀ n, ¬ TransGen (DependsOn tables) n n) :
    WellFounded fun d n => DependsOn tables n d :=
  ⟨fun _ => acc_of_no_cycle (fun _ _ => mem_names_of_dependsOn) fun m _ => h m⟩

/-! ## The next table -/

/-- A table depends on none that waits. -/
def Ready (waiting : NameMap Table) (t : Table) : Prop :=
  ∀ d ∈ t.dependencies, waiting.contains d = false

private theorem all_not_contains_iff {waiting : NameMap Table} {t : Table} :
    t.dependencies.all (!waiting.contains ·) = true ↔ Ready waiting t := by
  simp only [List.all_eq_true, Bool.not_eq_true', Ready]

theorem mem_of_nextTable? {waiting : NameMap Table} {e : String × Table}
    (h : nextTable? waiting = some e) : e ∈ waiting.entries := by
  unfold nextTable? at h
  split at h
  · rename_i hfind
    exact Option.some.inj h ▸ List.mem_of_find?_eq_some hfind
  · exact List.mem_of_mem_head? h

theorem nextTable?_eq_none {waiting : NameMap Table} (h : nextTable? waiting = none) :
    waiting.entries = [] := by
  unfold nextTable? at h
  split at h
  · cases h
  · exact List.head?_eq_none_iff.mp h

/-- If some waiting table is ready, the next table is. -/
theorem ready_of_nextTable? {waiting : NameMap Table} {e : String × Table}
    (some_ready : ∃ e ∈ waiting.entries, Ready waiting e.2) (h : nextTable? waiting = some e) :
    Ready waiting e.2 := by
  unfold nextTable? at h
  split at h
  · rename_i hfind
    cases h
    have hready := List.find?_some hfind
    exact all_not_contains_iff.mp hready
  · rename_i hfind
    obtain ⟨e', he', hready⟩ := some_ready
    exact absurd (all_not_contains_iff.mpr hready) (List.find?_eq_none.mp hfind e' he')

/-- Of the tables that are ready, the one of least name is next. -/
theorem eq_or_lt_of_nextTable? {waiting : NameMap Table} {e e' : String × Table}
    (h : nextTable? waiting = some e) (he' : e' ∈ waiting.entries) (ready : Ready waiting e'.2) :
    e.1 = e'.1 ∨ e.1 < e'.1 := by
  unfold nextTable? at h
  split at h
  · rename_i hfind
    cases h
    obtain ⟨-, before, behind, split, notReady⟩ := List.find?_eq_some_iff_append.mp hfind
    have ascending := List.pairwise_map.mp waiting.ascending
    rw [split] at he' ascending
    obtain he' | he' := List.mem_append.mp he'
    · have passed := notReady e' he'
      rw [all_not_contains_iff.mpr ready] at passed
      cases passed
    · obtain rfl | he' := List.mem_cons.mp he'
      · exact .inl rfl
      · exact .inr (List.rel_of_pairwise_cons (List.pairwise_append.mp ascending).2.1 he')
  · rename_i hfind
    exact absurd (all_not_contains_iff.mpr ready) (List.find?_eq_none.mp hfind e' he')

/-- As long as a table waits from which every chain of dependencies ends, some waiting table is
ready. -/
theorem exists_ready {waiting : NameMap Table} {n : String}
    (ends : Acc (fun d n => DependsOn waiting n d) n) (hn : waiting.contains n = true) :
    ∃ e ∈ waiting.entries, Ready waiting e.2 := by
  induction ends with
  | intro n _ ih =>
    obtain ⟨t, ht⟩ := NameMap.contains_iff.mp hn
    by_cases hready : Ready waiting t
    · exact ⟨(n, t), NameMap.find?_eq_some_iff.mp ht, hready⟩
    · obtain ⟨d, hd, hwaits⟩ : ∃ d ∈ t.dependencies, waiting.contains d = true := by
        simpa only [Ready, not_forall, Bool.not_eq_false, exists_prop] using hready
      exact ih d ⟨t, ht, hd⟩ hwaits

/-! ## All of them -/

theorem takeTables_perm {count : Nat} {waiting : NameMap Table}
    (h : waiting.entries.length ≤ count) : (takeTables count waiting).Perm waiting.values := by
  induction count generalizing waiting with
  | zero =>
    rw [NameMap.values, List.eq_nil_of_length_eq_zero (Nat.le_zero.mp h)]
    exact .nil
  | succ count ih =>
    unfold takeTables
    split
    · rename_i hnext
      rw [NameMap.values, nextTable?_eq_none hnext]
      exact .nil
    · rename_i name table hnext
      have perm := NameMap.entries_perm_erase (mem_of_nextTable? hnext)
      have length : waiting.entries.length = (waiting.erase name).entries.length + 1 :=
        perm.length_eq
      exact ((ih (by omega)).cons table).trans (perm.map Prod.snd).symm

/-- The tables of a list, by their names. -/
def byName (tables : List Table) : NameMap Table :=
  .ofList (tables.map fun t => (t.name, t))

theorem map_fst_named (tables : List Table) :
    (tables.map fun t => (t.name, t)).map Prod.fst = tables.map (·.name) :=
  List.map_map

theorem keyed_byName (tables : List Table) : ∀ e ∈ (byName tables).entries, e.2.name = e.1 := by
  intro e he
  obtain ⟨t, -, rfl⟩ := List.mem_map.mp (NameMap.mem_of_mem_ofList he)
  rfl

/-- Under a name there is the table of that name. -/
theorem find?_byName {tables : List Table} (distinct : (tables.map (·.name)).Nodup) {n : String}
    {t : Table} : (byName tables).find? n = some t ↔ t ∈ tables ∧ t.name = n := by
  rw [byName, NameMap.find?_ofList_eq_some_iff (map_fst_named tables ▸ distinct), List.mem_map]
  constructor
  · rintro ⟨u, hu, same⟩
    cases same
    exact ⟨hu, rfl⟩
  · rintro ⟨ht, rfl⟩
    exact ⟨t, ht, rfl⟩

theorem values_byName_perm {tables : List Table} (distinct : (tables.map (·.name)).Nodup) :
    (byName tables).values.Perm tables := by
  have nodup_values : (byName tables).values.Nodup := by
    refine List.pairwise_map.mpr ((List.pairwise_map.mp (byName tables).nodup_names).imp_of_mem ?_)
    intro e e' he he' differ same
    exact differ (by rw [← keyed_byName tables e he, ← keyed_byName tables e' he', same])
  refine (List.perm_ext_iff_of_nodup nodup_values distinct.of_map).mpr fun t => ?_
  simp only [NameMap.mem_values, find?_byName distinct, exists_and_left, exists_eq', and_true]

theorem length_entries_byName {tables : List Table} (distinct : (tables.map (·.name)).Nodup) :
    (byName tables).entries.length = tables.length := by
  rw [← (values_byName_perm distinct).length_eq, NameMap.values, List.length_map]

/-- **The order of creation loses and repeats nothing.** -/
theorem creationOrder_perm {tables : List Table} (h : (tables.map (·.name)).Nodup) :
    (creationOrder tables).Perm tables :=
  (takeTables_perm (length_entries_byName h).le).trans (values_byName_perm h)

/-- No table of a list depends on one behind it. -/
def DependenciesFirst (tables : List Table) : Prop :=
  tables.Pairwise fun t u => u.name ∉ t.dependencies

theorem mem_of_mem_takeTables {count : Nat} {waiting : NameMap Table} {t : Table}
    (h : t ∈ takeTables count waiting) : ∃ n, (n, t) ∈ waiting.entries := by
  induction count generalizing waiting with
  | zero => cases h
  | succ count ih =>
    unfold takeTables at h
    split at h
    · cases h
    · rename_i name table hnext
      rcases List.mem_cons.mp h with rfl | h
      · exact ⟨name, mem_of_nextTable? hnext⟩
      · obtain ⟨n, hn⟩ := ih h
        exact ⟨n, (List.mem_filter.mp hn).1⟩

theorem takeTables_dependenciesFirst {count : Nat} {waiting : NameMap Table}
    (keyed : ∀ e ∈ waiting.entries, e.2.name = e.1)
    (ends : WellFounded fun d n => DependsOn waiting n d) :
    DependenciesFirst (takeTables count waiting) := by
  induction count generalizing waiting with
  | zero => exact .nil
  | succ count ih =>
    unfold takeTables
    split
    · exact .nil
    · rename_i name table hnext
      have hmem := mem_of_nextTable? hnext
      have hwaits : waiting.contains name = true :=
        NameMap.contains_iff.mpr ⟨table, NameMap.find?_of_mem hmem⟩
      have hready : Ready waiting table :=
        ready_of_nextTable? (exists_ready (ends.apply name) hwaits) hnext
      refine List.pairwise_cons.mpr ⟨fun u hu hdep => ?_, ih ?_ ?_⟩
      · obtain ⟨n, hn⟩ := mem_of_mem_takeTables hu
        have hn : (n, u) ∈ waiting.entries := (List.mem_filter.mp hn).1
        have hcontains : waiting.contains u.name = true := by
          rw [keyed _ hn]
          exact NameMap.contains_iff.mpr ⟨u, NameMap.find?_of_mem hn⟩
        rw [hready _ hdep] at hcontains
        cases hcontains
      · exact fun e he => keyed e (List.mem_filter.mp he).1
      · refine Subrelation.wf (fun {d n} ⟨t, ht, hd⟩ => ⟨t, ?_, hd⟩) ends
        rw [NameMap.find?_erase] at ht
        split at ht
        · cases ht
        · exact ht

/-- **Tables are created behind those that they depend on**, where no table of their schema depends
on itself. -/
theorem creationOrder_dependenciesFirst {s : Schema} (acyclic : s.Acyclic) {tables : List Table}
    (h : ∀ t ∈ tables, s.tables.find? t.name = some t) :
    DependenciesFirst (creationOrder tables) := by
  have keyed : ∀ e ∈ (NameMap.ofList (tables.map fun t => (t.name, t))).entries,
      e.2.name = e.1 ∧ e.2 ∈ tables := by
    intro e he
    obtain ⟨t, ht, rfl⟩ := List.mem_map.mp (NameMap.mem_of_mem_ofList he)
    exact ⟨rfl, ht⟩
  refine takeTables_dependenciesFirst (fun e he => (keyed e he).1) ?_
  refine Subrelation.wf (fun {d n} ⟨t, ht, hd⟩ => ⟨t, ?_, hd⟩) (wellFounded_of_acyclic acyclic)
  obtain ⟨hname, hmem⟩ := keyed _ (NameMap.find?_eq_some_iff.mp ht)
  have hfind : s.tables.find? t.name = some t := h t hmem
  rwa [hname] at hfind

end SchemaEvolution
