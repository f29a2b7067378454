import SchemaEvolution.Proofs.Dependencies

/-!
# Foreign keys on the way through a patch

Two schemas may have a column for each of their foreign keys, and a patch from the one to the other
may still pass through a schema that lacks one. A patch brings tables in order, not columns: a new
table comes before all tables that change, whichever of their columns it refers to, and a table that
goes comes behind them; of two tables that change, the one of lesser name comes first, and all of
its columns with it.

`ReferencesKept` says what a patch has to leave alone so that no foreign key is ever without its
column. It does not mention the patch, and it is exactly what it takes
(`SchemaPatch.replay_referencesResolve_iff`).
-/

namespace SchemaEvolution

/-! ## Foreign keys and their targets -/

/-- The table under a name has a foreign key. -/
def Refers (tables : NameMap Table) (n : String) (r : Reference) : Prop :=
  ∃ t, tables.find? n = some t ∧ r ∈ t.references

/-- The table that a foreign key refers to is there, and so is the column. -/
def Resolves (tables : NameMap Table) (r : Reference) : Prop :=
  ∃ u, tables.find? r.table = some u ∧ u.columns.contains r.column = true

theorem resolves_iff_any {tables : NameMap Table} {r : Reference} :
    Resolves tables r ↔ (tables.find? r.table).any (·.columns.contains r.column) = true := by
  rw [Option.any_eq_true]
  rfl

instance {tables : NameMap Table} {r : Reference} : Decidable (Resolves tables r) :=
  decidable_of_iff _ resolves_iff_any.symm

/-- What is to hold of all foreign keys can be checked table by table. -/
theorem forall_refers_iff {tables : NameMap Table} {p : String → Reference → Prop} :
    (∀ n r, Refers tables n r → p n r) ↔ ∀ e ∈ tables.entries, ∀ r ∈ e.2.references, p e.1 r := by
  constructor
  · intro h e he r hr
    exact h e.1 r ⟨e.2, NameMap.find?_of_mem he, hr⟩
  · rintro h n r ⟨t, ht, hr⟩
    exact h (n, t) (NameMap.find?_eq_some_iff.mp ht) r hr

namespace Schema

variable {s s' : Schema} {n : String} {r : Reference}

/-- Every foreign key names a column that is there. -/
def ReferencesResolve (s : Schema) : Prop :=
  ∀ n r, Refers s.tables n r → Resolves s.tables r

instance : Decidable s.ReferencesResolve :=
  decidable_of_iff _ forall_refers_iff.symm

/-- A table depends on what it refers to, unless that is the table itself. -/
theorem WellKeyed.dependsOn_of_refers (keyed : s.WellKeyed) (h : Refers s.tables n r)
    (hne : n ≠ r.table) : DependsOn s.tables n r.table := by
  obtain ⟨t, ht, hr⟩ := h
  refine ⟨t, ht, Table.mem_dependencies.mpr ⟨.inl ⟨r, hr, rfl⟩, ?_⟩⟩
  rw [keyed.name_of_find? ht]
  exact hne.symm

theorem AgreesAt.refers_iff (h : s.AgreesAt s' n) :
    Refers s.tables n r ↔ Refers s'.tables n r := by
  rw [Refers, Refers, h]

theorem MatchesAt.refers_iff (h : s.MatchesAt s' n) :
    Refers s.tables n r ↔ Refers s'.tables n r := by
  constructor
  · rintro ⟨t, ht, hr⟩
    obtain ⟨u, hu, hmatch⟩ := h.right ht
    exact ⟨u, hu, hmatch.mem_references_iff.mp hr⟩
  · rintro ⟨u, hu, hr⟩
    obtain ⟨t, ht, hmatch⟩ := h.left hu
    exact ⟨t, ht, hmatch.mem_references_iff.mpr hr⟩

theorem AgreesAt.resolves_iff (h : s.AgreesAt s' r.table) :
    Resolves s.tables r ↔ Resolves s'.tables r := by
  rw [Resolves, Resolves, h]

theorem MatchesAt.resolves_iff (h : s.MatchesAt s' r.table) :
    Resolves s.tables r ↔ Resolves s'.tables r := by
  constructor
  · rintro ⟨t, ht, hc⟩
    obtain ⟨u, hu, hmatch⟩ := h.right ht
    exact ⟨u, hu, NameMap.contains_eq_of_rel (hmatch.columns _) ▸ hc⟩
  · rintro ⟨u, hu, hc⟩
    obtain ⟨t, ht, hmatch⟩ := h.left hu
    exact ⟨t, ht, (NameMap.contains_eq_of_rel (hmatch.columns _)).symm ▸ hc⟩

theorem contains_of_refers (h : Refers s.tables n r) : s.tables.contains n = true := by
  obtain ⟨t, ht, _⟩ := h
  exact NameMap.contains_iff.mpr ⟨t, ht⟩

theorem contains_of_resolves (h : Resolves s.tables r) : s.tables.contains r.table = true := by
  obtain ⟨u, hu, _⟩ := h
  exact NameMap.contains_iff.mpr ⟨u, hu⟩

end Schema

/-! ## The order of two actions, one of which changes a table -/

namespace TableAction

variable {before after : Schema} {a b : TableAction} {n d : String}

/-- The action on a table that both schemas have is a change. -/
theorem exists_eq_change (hafter : after.WellKeyed) (h : under before after n = some a)
    (hb : before.tables.contains n = true) (ha : after.tables.contains n = true) :
    ∃ e, a = .change e ∧ e.name = n := by
  obtain ⟨t, ht⟩ := NameMap.contains_iff.mp hb
  obtain ⟨u, hu⟩ := NameMap.contains_iff.mp ha
  rcases under_cases hafter h with ⟨_, _, hnone, _⟩ | ⟨e, _, _, he, hname, _⟩ | ⟨_, _, _, hnone⟩
  · rw [ht] at hnone
    cases hnone
  · exact ⟨e, he, hname⟩
  · rw [hu] at hnone
    cases hnone

/-- An action may precede the change of a table if it adds one or changes one of lesser name. -/
theorem mayPrecede_change_iff (hafter : after.WellKeyed) (ha : under before after n = some a)
    (hb : under before after d = some b) (hd : before.tables.contains d = true)
    (hd' : after.tables.contains d = true) :
    a.MayPrecede b ↔ after.tables.contains n = true ∧
      (before.tables.contains n = false ∨ n < d) := by
  obtain ⟨f, rfl, rfl⟩ := exists_eq_change hafter hb hd hd'
  unfold NameMap.contains
  rcases under_cases hafter ha with ⟨_, rfl, hn, hn'⟩ | ⟨e, _, _, rfl, rfl, hn, hn'⟩ |
    ⟨_, rfl, hn, hn'⟩
  · simp [MayPrecede, hn, hn']
  · simp [MayPrecede, hn, hn']
  · simp [MayPrecede, hn, hn']

/-- The change of a table may precede an action that removes a table or changes one of greater
name. -/
theorem change_mayPrecede_iff (hafter : after.WellKeyed) (ha : under before after n = some a)
    (hb : under before after d = some b) (hd : before.tables.contains d = true)
    (hd' : after.tables.contains d = true) :
    b.MayPrecede a ↔ before.tables.contains n = true ∧
      (after.tables.contains n = false ∨ d < n) := by
  obtain ⟨f, rfl, rfl⟩ := exists_eq_change hafter hb hd hd'
  unfold NameMap.contains
  rcases under_cases hafter ha with ⟨_, rfl, hn, hn'⟩ | ⟨e, _, _, rfl, rfl, hn, hn'⟩ |
    ⟨_, rfl, hn, hn'⟩
  · simp [MayPrecede, hn, hn']
  · simp [MayPrecede, hn, hn']
  · simp [MayPrecede, hn, hn']

end TableAction

/-! ## What is to be left alone -/

/-- No foreign key ever has to wait for its column, or outlives it. -/
structure ReferencesKept (before after : Schema) : Prop where
  /-- What a table is to refer to when it is added, or changed ahead of the table it refers to, is
  there already. -/
  ahead : ∀ n r, Refers after.tables n r →
    before.tables.contains r.table = true → before.tables.contains n = false ∨ n < r.table →
    Resolves before.tables r
  /-- What a table refers to until it is removed, or changed behind the table it refers to, is there
  in the end. -/
  behind : ∀ n r, Refers before.tables n r →
    after.tables.contains r.table = true → after.tables.contains n = false ∨ r.table < n →
    Resolves after.tables r

theorem referencesKept_iff {before after : Schema} :
    ReferencesKept before after ↔
      (∀ e ∈ after.tables.entries, ∀ r ∈ e.2.references,
        before.tables.contains r.table = true → before.tables.contains e.1 = false ∨ e.1 < r.table →
        Resolves before.tables r) ∧
      ∀ e ∈ before.tables.entries, ∀ r ∈ e.2.references,
        after.tables.contains r.table = true → after.tables.contains e.1 = false ∨ r.table < e.1 →
        Resolves after.tables r := by
  constructor
  · intro kept
    exact ⟨forall_refers_iff.mp kept.ahead, forall_refers_iff.mp kept.behind⟩
  · rintro ⟨ahead, behind⟩
    exact ⟨forall_refers_iff.mpr ahead, forall_refers_iff.mpr behind⟩

instance {before after : Schema} : Decidable (ReferencesKept before after) :=
  decidable_of_iff _ referencesKept_iff.symm

namespace SchemaPatch

variable {before after : Schema} {done : List TableAction}

/-- Where a patch leaves alone what it has to, every foreign key names a column that is there after
each action. -/
theorem replay_referencesResolve (hbefore : before.WellKeyed) (hafter : after.WellKeyed)
    (acyclic_before : before.Acyclic) (acyclic_after : after.Acyclic)
    (resolve_before : before.ReferencesResolve) (resolve_after : after.ReferencesResolve)
    (kept : ReferencesKept before after) (h : done <+: (between before after).actions) :
    (before.replay done).ReferencesResolve := by
  intro n r hrefers
  by_cases hself : n = r.table
  · -- a table that refers to itself brings the column along
    obtain ⟨rest, h⟩ := h
    rcases pending_or_done hbefore hafter h n with ⟨_, hn, _⟩ | ⟨hn, _⟩
    · have hresolves := resolve_before n r (hn.refers_iff.mp hrefers)
      rw [hself] at hn
      exact hn.resolves_iff.mpr hresolves
    · have hresolves := resolve_after n r (hn.refers_iff.mp hrefers)
      rw [hself] at hn
      exact hn.resolves_iff.mpr hresolves
  · rcases both_or_between hbefore hafter acyclic_before acyclic_after h n r.table with
      ⟨hn, hd⟩ | ⟨hn, hd⟩ | ⟨hn, hd, a, b, ha, hb, order⟩ | ⟨hn, hd, a, b, ha, hb, order⟩
    · exact hd.resolves_iff.mpr (resolve_before n r (hn.refers_iff.mp hrefers))
    · exact hd.resolves_iff.mpr (resolve_after n r (hn.refers_iff.mp hrefers))
    · have hrefers := hn.refers_iff.mp hrefers
      have hd' := Schema.contains_of_resolves (resolve_after n r hrefers)
      have hdep := hafter.dependsOn_of_refers hrefers hself
      have hthere : before.tables.contains r.table = true := by
        rw [← Bool.not_eq_false, NameMap.contains_eq_false_iff]
        exact fun hadded => TableAction.not_dependsOn_of_added hafter ha hb order hadded hdep
      have horder := (TableAction.mayPrecede_change_iff hafter ha hb hthere hd').mp order
      exact hd.resolves_iff.mpr (kept.ahead n r hrefers hthere horder.2)
    · have hrefers := hn.refers_iff.mp hrefers
      have hthere := Schema.contains_of_resolves (resolve_before n r hrefers)
      have hdep := hbefore.dependsOn_of_refers hrefers hself
      have hd' : after.tables.contains r.table = true := by
        rw [← Bool.not_eq_false, NameMap.contains_eq_false_iff]
        exact fun hremoved => TableAction.not_dependsOn_of_removed hbefore hafter ha hb
          order hremoved hdep
      have horder := (TableAction.change_mayPrecede_iff hafter ha hb hthere hd').mp order
      exact hd.resolves_iff.mpr (kept.behind n r hrefers hd' horder.2)

/-- Where every foreign key names a column that is there after each action, the patch leaves alone
what it has to: some time after the action on the one table, and before that on the other, the key
and its target stand as they do in the two schemas. -/
theorem referencesKept_of_replay (hbefore : before.WellKeyed) (hafter : after.WellKeyed)
    (acyclic_before : before.Acyclic) (acyclic_after : after.Acyclic)
    (resolve_before : before.ReferencesResolve) (resolve_after : after.ReferencesResolve)
    (hall : ∀ done, done <+: (between before after).actions →
      (before.replay done).ReferencesResolve) : ReferencesKept before after where
  ahead n r hrefers hd horder := by
    have hd' := Schema.contains_of_resolves (resolve_after n r hrefers)
    have hn' := Schema.contains_of_refers hrefers
    have hne : n ≠ r.table := by
      rintro rfl
      rcases horder with hnew | hlt
      · exact Bool.false_ne_true (hnew.symm.trans hd)
      · exact String.lt_irrefl _ hlt
    obtain ⟨done, hdone, hn, htarget⟩ :=
      exists_between hbefore hafter acyclic_before acyclic_after hne fun a b ha hb hprecedes => by
        obtain ⟨hn, hgone | hgt⟩ :=
          (TableAction.change_mayPrecede_iff hafter ha hb hd hd').mp hprecedes
        · exact Bool.false_ne_true (hgone.symm.trans hn')
        · rcases horder with hnew | hlt
          · exact Bool.false_ne_true (hnew.symm.trans hn)
          · exact String.lt_asymm hlt hgt
    exact htarget.resolves_iff.mp (hall done hdone n r (hn.refers_iff.mpr hrefers))
  behind n r hrefers hd' horder := by
    have hd := Schema.contains_of_resolves (resolve_before n r hrefers)
    have hn := Schema.contains_of_refers hrefers
    have hne : r.table ≠ n := by
      rintro rfl
      rcases horder with hgone | hlt
      · exact Bool.false_ne_true (hgone.symm.trans hd')
      · exact String.lt_irrefl _ hlt
    obtain ⟨done, hdone, htarget, hn⟩ :=
      exists_between hbefore hafter acyclic_before acyclic_after hne fun b a hb ha hprecedes => by
        obtain ⟨hn', hnew | hgt⟩ :=
          (TableAction.mayPrecede_change_iff hafter ha hb hd hd').mp hprecedes
        · exact Bool.false_ne_true (hnew.symm.trans hn)
        · rcases horder with hgone | hlt
          · exact Bool.false_ne_true (hgone.symm.trans hn')
          · exact String.lt_asymm hlt hgt
    exact htarget.resolves_iff.mp (hall done hdone n r (hn.refers_iff.mpr hrefers))

/-- **When every foreign key names a column that is there after each action of a patch**: exactly if
the patch leaves alone what it has to. -/
theorem replay_referencesResolve_iff (hbefore : before.WellKeyed) (hafter : after.WellKeyed)
    (acyclic_before : before.Acyclic) (acyclic_after : after.Acyclic)
    (resolve_before : before.ReferencesResolve) (resolve_after : after.ReferencesResolve) :
    (∀ done, done <+: (between before after).actions → (before.replay done).ReferencesResolve) ↔
      ReferencesKept before after :=
  ⟨referencesKept_of_replay hbefore hafter acyclic_before acyclic_after resolve_before
    resolve_after, fun kept _ => replay_referencesResolve hbefore hafter acyclic_before
    acyclic_after resolve_before resolve_after kept⟩

end SchemaPatch

namespace Shop

/-- Carts and orders refer to a column of the users that both schemas have. -/
theorem replay_referencesResolve_shop :
    (before.WellKeyed ∧ after.WellKeyed ∧ before.Acyclic ∧ after.Acyclic ∧
      before.ReferencesResolve ∧ after.ReferencesResolve) ∧
      ∀ done, done <+: (SchemaPatch.between before after).actions →
        (before.replay done).ReferencesResolve :=
  ⟨⟨wellKeyed_before, wellKeyed_after, acyclic_before, acyclic_after, by decide, by decide⟩,
    (SchemaPatch.replay_referencesResolve_iff wellKeyed_before wellKeyed_after acyclic_before
      acyclic_after (by decide) (by decide)).mpr (by decide)⟩

/-- Users who have nothing but a number. -/
def unnamed : Schema :=
  Schema.empty.withTable (numbered "users")

/-- Users with a code, and orders that refer to the code. -/
def named : Schema :=
  (Schema.empty.withTable ((numbered "users").withColumn (number "code").withUnique)).withTable
    ((numbered "orders").withColumn
      ((number "buyer").withReference ⟨"users", "code", none, none⟩))

/-- **A foreign key may come before the column that it refers to**: orders are added first, and the
users get their code only then. -/
theorem not_referencesResolve_named :
    (unnamed.WellKeyed ∧ named.WellKeyed ∧ unnamed.Acyclic ∧ named.Acyclic ∧
      unnamed.ReferencesResolve ∧ named.ReferencesResolve) ∧
      ¬ ∀ done, done <+: (SchemaPatch.between unnamed named).actions →
        (unnamed.replay done).ReferencesResolve := by
  refine ⟨⟨?_, ?_, Schema.acyclic_of_rank rank (by decide), Schema.acyclic_of_rank rank (by decide),
    by decide, by decide⟩, fun hall => ?_⟩
  · exact Schema.WellKeyed.empty.withTable (wellKeyed_numbered _)
  · exact (Schema.WellKeyed.empty.withTable ((wellKeyed_numbered _).withColumn _)).withTable
      ((wellKeyed_numbered _).withColumn _)
  · have hfirst := hall _ (List.take_prefix 1 _)
    revert hfirst
    decide

end Shop

end SchemaEvolution
