import SchemaEvolution.Proofs.Progress

/-!
# No table without those it depends on

A schema is closed if it has every table that its tables depend on. A patch from one closed schema
to another keeps to closed schemas all the way (`SchemaPatch.replay_closed`): a table is added
behind those it depends on, is changed when they are all there, and is removed before them.

Which of two tables is already as it is to be decides what is to be shown. If neither is, or both
are, one of the two schemas at the ends answers for the dependency; otherwise the order of the two
actions does.
-/

namespace SchemaEvolution

/-! ## Foreign keys and dependencies -/

namespace Table

variable {t u : Table}

/-- The foreign keys of a table. -/
def references (t : Table) : List Reference :=
  t.columns.values.filterMap (·.reference?)

theorem mem_references {r : Reference} :
    r ∈ t.references ↔ ∃ n c, t.columns.find? n = some c ∧ c.reference? = some r := by
  rw [references, List.mem_filterMap]
  constructor
  · rintro ⟨c, hc, hr⟩
    obtain ⟨n, hn⟩ := NameMap.mem_values.mp hc
    exact ⟨n, c, hn, hr⟩
  · rintro ⟨n, c, hn, hr⟩
    exact ⟨c, NameMap.mem_values.mpr ⟨n, hn⟩, hr⟩

/-- What a table depends on: the targets of its foreign keys and its parent, but not itself. -/
theorem mem_dependencies {d : String} :
    d ∈ t.dependencies ↔
      ((∃ r ∈ t.references, r.table = d) ∨ ∃ i, t.interleave? = some i ∧ i.parent = d) ∧
        d ≠ t.name := by
  have targets : (t.columns.values.filterMap fun c => c.reference?.map (·.table)) =
      t.references.map (·.table) := by
    rw [references, List.map_filterMap]
  have listed : ∀ l : List String, (l.map (·, ())).map Prod.fst = l := by
    intro l
    rw [List.map_map]
    exact List.map_id l
  rw [dependencies, NameMap.mem_names, NameMap.contains_ofList, targets, listed, List.mem_filter,
    List.mem_append, List.mem_map, List.mem_map, decide_eq_true_eq]
  simp only [Option.mem_toList]

/-- Tables that match have the same foreign keys. -/
theorem Matches.mem_references_iff (h : t.Matches u) {r : Reference} :
    r ∈ t.references ↔ r ∈ u.references := by
  rw [mem_references, mem_references]
  constructor
  · rintro ⟨n, c, hc, hr⟩
    obtain ⟨c', hc', hmatch⟩ := exists_of_some_rel (hc ▸ h.columns n)
    exact ⟨n, c', hc', hmatch.reference ▸ hr⟩
  · rintro ⟨n, c, hc, hr⟩
    obtain ⟨c', hc', hmatch⟩ := exists_of_rel_some (hc ▸ h.columns n)
    exact ⟨n, c', hc', hmatch.reference.symm ▸ hr⟩

/-- Tables that match depend on the same tables. -/
theorem Matches.mem_dependencies_iff (h : t.Matches u) {d : String} :
    d ∈ t.dependencies ↔ d ∈ u.dependencies := by
  rw [mem_dependencies, mem_dependencies, h.name, h.interleave]
  simp only [h.mem_references_iff]

end Table

/-! ## Closed schemas -/

/-- A schema has every table that its tables depend on. -/
def Schema.Closed (s : Schema) : Prop :=
  ∀ n d, DependsOn s.tables n d → s.tables.contains d = true

namespace Schema

variable {s s' : Schema} {n d : String}

theorem closed_iff :
    s.Closed ↔
      ∀ e ∈ s.tables.entries, ∀ d ∈ e.2.dependencies, s.tables.contains d = true := by
  constructor
  · intro h e he d hd
    exact h e.1 d ⟨e.2, NameMap.find?_of_mem he, hd⟩
  · rintro h n d ⟨t, ht, hd⟩
    exact h (n, t) (NameMap.find?_eq_some_iff.mp ht) d hd

instance : Decidable s.Closed :=
  decidable_of_iff _ closed_iff.symm

theorem AgreesAt.dependsOn_iff (h : s.AgreesAt s' n) :
    DependsOn s.tables n d ↔ DependsOn s'.tables n d := by
  rw [DependsOn, DependsOn, h]

theorem AgreesAt.contains_eq (h : s.AgreesAt s' n) :
    s.tables.contains n = s'.tables.contains n := by
  rw [NameMap.contains, NameMap.contains, h]

theorem MatchesAt.dependsOn_iff (h : s.MatchesAt s' n) :
    DependsOn s.tables n d ↔ DependsOn s'.tables n d := by
  constructor
  · rintro ⟨t, ht, hd⟩
    obtain ⟨u, hu, hmatch⟩ := h.right ht
    exact ⟨u, hu, hmatch.mem_dependencies_iff.mp hd⟩
  · rintro ⟨u, hu, hd⟩
    obtain ⟨t, ht, hmatch⟩ := h.left hu
    exact ⟨t, ht, hmatch.mem_dependencies_iff.mpr hd⟩

theorem MatchesAt.contains_eq (h : s.MatchesAt s' n) :
    s.tables.contains n = s'.tables.contains n :=
  NameMap.contains_eq_of_rel h

end Schema

/-! ## Dependencies and the order of actions -/

namespace TableAction

variable {before after : Schema} {a b : TableAction} {n d : String}

/-- A table whose action precedes the one on a new table does not depend on the new table. -/
theorem not_dependsOn_of_added (hafter : after.WellKeyed) (ha : under before after n = some a)
    (hb : under before after d = some b) (order : a.MayPrecede b)
    (hadded : before.tables.find? d = none) : ¬ DependsOn after.tables n d := by
  rintro ⟨t, ht, hdep⟩
  rcases under_cases hafter hb with ⟨u, rfl, _, hu⟩ | ⟨_, _, _, _, _, hu, _⟩ | ⟨_, _, hu, _⟩
  · rcases under_cases hafter ha with ⟨t', rfl, _, ht'⟩ | ⟨_, _, _, rfl, _⟩ | ⟨_, rfl, _⟩
    · rw [ht] at ht'
      obtain rfl := Option.some.inj ht'
      rw [← hafter.name_of_find? hu] at hdep
      exact order hdep
    · exact order
    · exact order
  · rw [hadded] at hu
    cases hu
  · rw [hadded] at hu
    cases hu

/-- A table whose action follows the one on an old table did not depend on the old table. -/
theorem not_dependsOn_of_removed (hbefore : before.WellKeyed) (hafter : after.WellKeyed)
    (ha : under before after n = some a) (hb : under before after d = some b)
    (order : b.MayPrecede a) (hremoved : after.tables.find? d = none) :
    ¬ DependsOn before.tables n d := by
  rintro ⟨t, ht, hdep⟩
  rcases under_cases hafter hb with ⟨_, _, _, hu⟩ | ⟨_, _, _, _, _, _, hu⟩ | ⟨u, rfl, hu, _⟩
  · rw [hremoved] at hu
    cases hu
  · rw [hremoved] at hu
    cases hu
  · rcases under_cases hafter ha with ⟨_, rfl, _⟩ | ⟨_, _, _, rfl, _⟩ | ⟨t', rfl, ht', _⟩
    · exact order
    · exact order
    · rw [ht] at ht'
      obtain rfl := Option.some.inj ht'
      rw [← hbefore.name_of_find? hu] at hdep
      exact order hdep

end TableAction

/-! ## From one closed schema to another -/

namespace SchemaPatch

variable {before after : Schema} {done : List TableAction}

/-- **After each action of a patch between closed schemas the schema is closed.** -/
theorem replay_closed (hbefore : before.WellKeyed) (hafter : after.WellKeyed)
    (closed_before : before.Closed) (closed_after : after.Closed)
    (acyclic_before : before.Acyclic) (acyclic_after : after.Acyclic)
    (h : done <+: (between before after).actions) : (before.replay done).Closed := by
  intro n d hdep
  rcases both_or_between hbefore hafter acyclic_before acyclic_after h n d with
    ⟨hn, hd⟩ | ⟨hn, hd⟩ | ⟨hn, hd, a, b, ha, hb, order⟩ | ⟨hn, hd, a, b, ha, hb, order⟩
  · rw [hd.contains_eq]
    exact closed_before n d (hn.dependsOn_iff.mp hdep)
  · rw [hd.contains_eq]
    exact closed_after n d (hn.dependsOn_iff.mp hdep)
  · -- what `d` is to be when `n` already is as it is to be: if it is new, it has been added
    rw [hd.contains_eq, ← Bool.not_eq_false, NameMap.contains_eq_false_iff]
    exact fun hadded =>
      TableAction.not_dependsOn_of_added hafter ha hb order hadded (hn.dependsOn_iff.mp hdep)
  · -- as long as `n` is as it was, `d` has not been removed
    rw [hd.contains_eq, ← Bool.not_eq_false, NameMap.contains_eq_false_iff]
    exact fun hremoved =>
      TableAction.not_dependsOn_of_removed hbefore hafter ha hb order hremoved
        (hn.dependsOn_iff.mp hdep)

end SchemaPatch

namespace Shop

/-- Users rank lowest: whatever belongs to a user depends on them. -/
def rank (name : String) : Nat :=
  if name = "users" then 0 else 1

theorem acyclic_before : before.Acyclic :=
  Schema.acyclic_of_rank rank (by decide)

theorem acyclic_after : after.Acyclic :=
  Schema.acyclic_of_rank rank (by decide)

/-- Half of the way from the old shop to the new one, carts and orders both depend on users. -/
theorem replay_closed_shop :
    (before.WellKeyed ∧ after.WellKeyed ∧ before.Closed ∧ after.Closed ∧ before.Acyclic ∧
      after.Acyclic) ∧
      (before.replay ((SchemaPatch.between before after).actions.take 2)).Closed :=
  ⟨⟨wellKeyed_before, wellKeyed_after, by decide, by decide, acyclic_before, acyclic_after⟩,
    SchemaPatch.replay_closed wellKeyed_before wellKeyed_after (by decide) (by decide)
      acyclic_before acyclic_after (List.take_prefix 2 _)⟩

end Shop

end SchemaEvolution
