import SchemaEvolution.Proofs.SchemaReplay
import SchemaEvolution.Proofs.Dependencies

/-!
# The least order of creation

What `creationOrder` makes of tables in which dependencies may run in circles, and which of several
orders it takes where they do not (`creationOrder_least`).

Both follow from the choice of one table. The fallback to the least name of all takes a table only
when none is ready, and then every table that waits reaches a cycle (`exists_ready`); so a table
from which none can be reached waits for what it depends on, whatever goes on around it
(`takeTables_follows`). And in any order that respects dependencies the first table is a ready one,
so its name is no less than the one that is taken (`takeTables_least`): that settles the order of
names unless the two are the same table, and then what is left is compared.
-/

namespace SchemaEvolution

open Relation

/-- Among tables, one of a name depends on another one. -/
def DependsWithin (tables : List Table) (n d : String) : Prop :=
  d ∈ tables.map (·.name) ∧ ∃ t ∈ tables, t.name = n ∧ d ∈ t.dependencies

/-- From a name no cycle of dependencies among tables can be reached. -/
def ReachesNoCycle (tables : List Table) (n : String) : Prop :=
  ∀ m, ReflTransGen (DependsWithin tables) n m → ¬ TransGen (DependsWithin tables) m m

/-- There is no cycle of dependencies among tables. -/
def NoCycle (tables : List Table) : Prop :=
  ∀ n, ¬ TransGen (DependsWithin tables) n n

/-- Some tables come no later than others, name by name: the first names that differ decide. -/
def NamesUpTo (l l' : List Table) : Prop :=
  l.map (·.name) = l'.map (·.name) ∨ List.Lex (· < ·) (l.map (·.name)) (l'.map (·.name))

/-- An order of tables that puts all of them behind what they depend on, as far as no cycle is in
the way, and that is the least in which this is so. -/
structure OrdersLeast (tables order : List Table) : Prop where
  perm : order.Perm tables
  /-- A table from which no cycle can be reached follows everything that it depends on. -/
  follows : ∀ t ∈ tables, ReachesNoCycle tables t.name → ∀ before behind,
    order = before ++ t :: behind → ∀ d, DependsWithin tables t.name d → d ∈ before.map (·.name)
  /-- Where there is no cycle, so does every table. -/
  first : NoCycle tables → DependenciesFirst order
  least : NoCycle tables → ∀ l, l.Perm tables → DependenciesFirst l → NamesUpTo order l

theorem NamesUpTo.refl (l : List Table) : NamesUpTo l l :=
  .inl rfl

theorem NamesUpTo.cons {t : Table} {l l' : List Table} (h : NamesUpTo l l') :
    NamesUpTo (t :: l) (t :: l') := by
  obtain same | before := h
  · exact .inl (congrArg (t.name :: ·) same)
  · exact .inr (.cons before)

/-! ## The choice of one table -/

variable {waiting : NameMap Table} {count : Nat}

/-- What is left when a table is taken depends on no more than before. -/
theorem dependsOn_of_erase {name n d : String} (h : DependsOn (waiting.erase name) n d) :
    DependsOn waiting n d := by
  obtain ⟨t, ht, hd⟩ := h
  rw [NameMap.find?_erase] at ht
  split at ht
  · cases ht
  · exact ⟨t, ht, hd⟩

/-! ## A table that reaches no cycle -/

/-- **A table from which every chain of dependencies ends is taken behind what it depends on.** -/
theorem takeTables_follows (keyed : ∀ e ∈ waiting.entries, e.2.name = e.1) {t : Table}
    (ends : Acc (fun d n => DependsOn waiting n d) t.name) {before behind : List Table}
    (taken : takeTables count waiting = before ++ t :: behind) {d : String}
    (hd : d ∈ t.dependencies) (waits : waiting.contains d = true) : d ∈ before.map (·.name) := by
  induction count generalizing waiting before with
  | zero => exact absurd taken.symm (List.append_ne_nil_of_right_ne_nil _ (List.cons_ne_nil _ _))
  | succ count ih =>
    unfold takeTables at taken
    split at taken
    · exact absurd taken.symm (List.append_ne_nil_of_right_ne_nil _ (List.cons_ne_nil _ _))
    · rename_i name table hnext
      have hmem := mem_of_nextTable? hnext
      cases before with
      | nil =>
        -- it would have been taken while it waited
        obtain ⟨rfl, -⟩ := List.cons.inj taken
        have itself : waiting.contains table.name = true :=
          NameMap.contains_iff.mpr ⟨table, keyed _ hmem ▸ NameMap.find?_of_mem hmem⟩
        have ready : Ready waiting table :=
          ready_of_nextTable? (exists_ready ends itself) hnext
        exact absurd waits (Bool.not_eq_true _ ▸ ready d hd)
      | cons first before =>
        obtain ⟨rfl, others⟩ := List.cons.inj taken
        by_cases hname : d = name
        · have taken_name : table.name = d := (keyed _ hmem).trans hname.symm
          rw [List.map_cons, taken_name]
          exact List.mem_cons_self
        · refine List.mem_cons_of_mem _ (ih ?_ ?_ others ?_)
          · exact fun e he => keyed e (List.mem_filter.mp he).1
          · exact Subrelation.accessible (fun h => dependsOn_of_erase h) ends
          · rw [NameMap.contains, NameMap.find?_erase, if_neg (Ne.symm hname)]
            exact waits

/-! ## The least order -/

/-- In an order that respects dependencies, the first of the tables that wait is ready. -/
theorem ready_of_dependenciesFirst {t : Table} {rest : List Table}
    (keyed : ∀ e ∈ waiting.entries, e.2.name = e.1) (perm : (t :: rest).Perm waiting.values)
    (first : DependenciesFirst (t :: rest)) : Ready waiting t := by
  intro d hd
  rw [← Bool.not_eq_true, NameMap.contains_iff]
  rintro ⟨u, hu⟩
  have hname : u.name = d := keyed _ (NameMap.find?_eq_some_iff.mp hu)
  have hmem : u ∈ t :: rest := perm.mem_iff.mpr (NameMap.mem_values.mpr ⟨d, hu⟩)
  obtain rfl | hrest := List.mem_cons.mp hmem
  · exact (Table.mem_dependencies.mp hd).2 hname.symm
  · exact List.rel_of_pairwise_cons first hrest (hname ▸ hd)

/-- **Where every chain of dependencies ends, the tables are taken in the least order** that
respects dependencies. -/
theorem takeTables_least (keyed : ∀ e ∈ waiting.entries, e.2.name = e.1)
    (enough : waiting.entries.length ≤ count)
    (ends : WellFounded fun d n => DependsOn waiting n d) {l : List Table}
    (perm : l.Perm waiting.values) (first : DependenciesFirst l) :
    NamesUpTo (takeTables count waiting) l := by
  induction count generalizing waiting l with
  | zero =>
    rw [NameMap.values, List.eq_nil_of_length_eq_zero (Nat.le_zero.mp enough)] at perm
    rw [List.Perm.eq_nil perm]
    exact .refl _
  | succ count ih =>
    unfold takeTables
    split
    · rename_i hnext
      rw [NameMap.values, nextTable?_eq_none hnext] at perm
      rw [List.Perm.eq_nil perm]
      exact .refl _
    · rename_i name table hnext
      have hmem := mem_of_nextTable? hnext
      have split := NameMap.entries_perm_erase hmem
      cases l with
      | nil =>
        have nothing := List.Perm.nil_eq (perm.trans (split.map Prod.snd))
        cases nothing
      | cons t rest =>
        obtain ⟨n, ht⟩ : ∃ n, (n, t) ∈ waiting.entries := by
          obtain ⟨n, hn⟩ := NameMap.mem_values.mp (perm.mem_iff.mp List.mem_cons_self)
          exact ⟨n, NameMap.find?_eq_some_iff.mp hn⟩
        obtain rfl | less := eq_or_lt_of_nextTable? hnext ht
          (ready_of_dependenciesFirst keyed perm first)
        · obtain rfl : table = t :=
            Option.some.inj ((NameMap.find?_of_mem hmem).symm.trans (NameMap.find?_of_mem ht))
          have rest_perm : rest.Perm (waiting.erase name).values :=
            (perm.trans (split.map Prod.snd)).cons_inv
          refine (ih ?_ ?_ ?_ rest_perm (List.pairwise_cons.mp first).2).cons
          · exact fun e he => keyed e (List.mem_filter.mp he).1
          · have length : waiting.entries.length = (waiting.erase name).entries.length + 1 :=
              split.length_eq
            omega
          · exact Subrelation.wf (fun h => dependsOn_of_erase h) ends
        · have taken_name : table.name = name := keyed _ hmem
          have other_name : t.name = n := keyed _ ht
          refine .inr (.rel ?_)
          change table.name < t.name
          rw [taken_name, other_name]
          exact less

/-- When nothing waits any more, nothing more is taken. -/
theorem takeTables_add (enough : waiting.entries.length ≤ count) (more : Nat) :
    takeTables (count + more) waiting = takeTables count waiting := by
  induction count generalizing waiting with
  | zero =>
    have nothing : nextTable? waiting = none := by
      rw [nextTable?, List.eq_nil_of_length_eq_zero (Nat.le_zero.mp enough)]
      rfl
    cases more with
    | zero => rfl
    | succ more =>
      rw [Nat.zero_add, takeTables, takeTables, nothing]
  | succ count ih =>
    rw [Nat.add_right_comm, takeTables, takeTables]
    split
    · rfl
    · rename_i name table hnext
      have length : waiting.entries.length = (waiting.erase name).entries.length + 1 :=
        (NameMap.entries_perm_erase (mem_of_nextTable? hnext)).length_eq
      rw [ih (by omega)]

/-! ## Tables in a list -/

variable {tables : List Table}

theorem dependsWithin_iff (distinct : (tables.map (·.name)).Nodup) {n d : String} :
    DependsWithin tables n d ↔
      (byName tables).contains d = true ∧ DependsOn (byName tables) n d := by
  rw [DependsWithin, byName, NameMap.contains_ofList, map_fst_named, ← byName, DependsOn]
  simp only [find?_byName distinct, and_assoc]

/-- A chain of dependencies that leaves the list ends there. -/
theorem acc_of_reachesNoCycle (distinct : (tables.map (·.name)).Nodup) {n : String}
    (h : ReachesNoCycle tables n) : Acc (fun d n => DependsOn (byName tables) n d) n := by
  have within : Acc (fun d n => DependsWithin tables n d) n :=
    acc_of_no_cycle
      (fun _ _ hdep => mem_names_of_dependsOn ((dependsWithin_iff distinct).mp hdep).2) h
  induction within with
  | intro n _ ih =>
    refine Acc.intro _ fun d hd => ?_
    by_cases hcontains : (byName tables).contains d = true
    · have edge : DependsWithin tables n d := (dependsWithin_iff distinct).mpr ⟨hcontains, hd⟩
      exact ih d edge fun m hm => h m (.head edge hm)
    · refine Acc.intro _ fun k hk => absurd ?_ hcontains
      exact NameMap.mem_names.mp (mem_names_of_dependsOn hk)

/-- Where there is no cycle in the list, every chain of dependencies ends. -/
theorem wellFounded_of_noCycle (distinct : (tables.map (·.name)).Nodup) (h : NoCycle tables) :
    WellFounded fun d n => DependsOn (byName tables) n d :=
  ⟨fun _ => acc_of_reachesNoCycle distinct fun m _ => h m⟩

/-- **The order of creation is the least that respects dependencies**, and where they run in circles
it respects those of every table that reaches no circle. It takes one round for each table, and does
not hang on the order in which the tables are listed. -/
theorem creationOrder_least (distinct : (tables.map (·.name)).Nodup) :
    OrdersLeast tables (creationOrder tables) ∧
      (∀ more, takeTables (tables.length + more) (byName tables) = creationOrder tables) ∧
      ∀ tables', tables'.Perm tables → creationOrder tables' = creationOrder tables := by
  have keyed := keyed_byName tables
  have enough := (length_entries_byName distinct).le
  have values := values_byName_perm distinct
  refine ⟨⟨creationOrder_perm distinct, ?_, ?_, ?_⟩, takeTables_add enough, ?_⟩
  · intro t ht reachesNone before behind split d edge
    obtain ⟨waits, u, hu, hd⟩ := (dependsWithin_iff distinct).mp edge
    have itself : (byName tables).find? t.name = some t := (find?_byName distinct).mpr ⟨ht, rfl⟩
    obtain rfl : t = u := Option.some.inj (itself.symm.trans hu)
    exact takeTables_follows keyed (acc_of_reachesNoCycle distinct reachesNone) split hd waits
  · exact fun noCycle =>
      takeTables_dependenciesFirst keyed (wellFounded_of_noCycle distinct noCycle)
  · exact fun noCycle l hl first =>
      takeTables_least keyed enough (wellFounded_of_noCycle distinct noCycle)
        (hl.trans values.symm) first
  · intro tables' same
    have distinct' : ((tables'.map fun t => (t.name, t)).map Prod.fst).Nodup := by
      rw [map_fst_named]
      exact (same.map _).nodup_iff.mpr distinct
    rw [creationOrder, creationOrder, same.length_eq,
      NameMap.ofList_perm distinct' (same.map fun t => (t.name, t))]

namespace Shop

/-- A table whose rows belong to rows of another one. -/
def belonging (name owner : String) : Table :=
  (numbered name).withColumn ((number "owner").withReference ⟨owner, "id", none, none⟩)

/-- Shifts and teams belong to each other, so that alerts, which belong to shifts, reach a cycle.
Carts belong to users, and those to nobody. -/
def staff : List Table :=
  [belonging "teams" "shifts", belonging "alerts" "shifts", belonging "carts" "users",
    belonging "shifts" "teams", numbered "users"]

/-- The carts come behind the users, although nothing comes behind what it depends on where no order
could do that. -/
theorem creationOrder_least_staff :
    (staff.map (·.name)).Nodup ∧
      (creationOrder staff).map (·.name) = ["users", "carts", "alerts", "shifts", "teams"] ∧
      OrdersLeast staff (creationOrder staff) ∧
      creationOrder staff.reverse = creationOrder staff := by
  have distinct : (staff.map (·.name)).Nodup := by decide
  obtain ⟨least, -, indifferent⟩ := creationOrder_least distinct
  exact ⟨distinct, by decide, least, indifferent _ (List.reverse_perm staff)⟩

end Shop

end SchemaEvolution
