import SchemaEvolution.Proofs.SchemaReplay

/-!
# Patches one after the other

A patch that is carried out on a schema that matches the one it was made for leads to a schema that
matches the one it was made to lead to (`Schema.replay_congr`). So the patches between schemas that
follow each other lead from the first to the last, although what each of them starts from need only
match what it was made for (`SchemaPatch.replayAll_chain`).

An edit of an index is carried out on whatever is known by the same. That it leaves what an index is
known by (`IndexEdit.KeepsIdentity`) is not said by its form, but true of every edit that a
comparison finds.
-/

namespace SchemaEvolution

/-! ## Columns -/

theorem FieldEdit.apply_congr (e : FieldEdit) {c d : Column} (h : c.Matches d) :
    (e.apply c).Matches (e.apply d) := by
  obtain ⟨name, type, physical, nullable, default, primaryKey, unique, reference⟩ := h
  cases e with
  | type abstract storage =>
    exact ⟨name, rfl, rfl, nullable, default, primaryKey, unique, reference⟩
  | nullable flag => exact ⟨name, type, physical, rfl, default, primaryKey, unique, reference⟩
  | default before after =>
    exact ⟨name, type, physical, nullable, ColumnDefault.equivalent?_refl _, primaryKey, unique,
      reference⟩
  | primaryKey flag => exact ⟨name, type, physical, nullable, default, rfl, unique, reference⟩
  | unique flag => exact ⟨name, type, physical, nullable, default, primaryKey, rfl, reference⟩
  | reference before after =>
    exact ⟨name, type, physical, nullable, default, primaryKey, unique, rfl⟩

theorem ColumnEdit.effect_congr (e : ColumnEdit) {c? d? : Option Column}
    (h : Option.Rel Column.Matches c? d?) :
    Option.Rel Column.Matches (e.effect c?) (e.effect d?) := by
  cases e with
  | add column => exact .some (.refl column)
  | remove name previous => exact .none
  | change name column keyColumn edits =>
    cases h with
    | none => exact .none
    | some h => exact .some (List.foldl_rel h fun e _ _ _ h => e.apply_congr h)

/-! ## Indexes -/

namespace IndexEdit

/-- An edit leaves what an index is known by. -/
def KeepsIdentity : IndexEdit → Prop
  | .add _ | .remove _ => True
  | .change before after => after.identity = before.identity

theorem keepsIdentity_of_mem_between {before after : Table} {e : IndexEdit}
    (he : e ∈ between before after) : e.KeepsIdentity := by
  cases e with
  | add index => trivial
  | remove index => trivial
  | change previous index =>
    have hunder := (NameMap.mem_iff_of_filter_eq (filter_between before after _)).mp he
    generalize (IndexEdit.change previous index).identity = n at hunder
    unfold under at hunder
    split at hunder
    next => cases hunder
    next => cases hunder
    next => cases hunder
    next hb ha =>
      split at hunder <;> cases hunder
      exact (Table.identity_of_find? ha).trans (Table.identity_of_find? hb).symm

/-- What an edit makes of the index of its identity is known by the same. -/
theorem identity_of_effect {e : IndexEdit} (keeps : e.KeepsIdentity) {i? : Option Index}
    (h : ∀ i ∈ i?, i.identity = e.identity) : ∀ i ∈ e.effect i?, i.identity = e.identity := by
  cases e with
  | add index => exact fun i hi => Option.some.inj hi ▸ rfl
  | remove index => exact nofun
  | change before after =>
    intro i hi
    obtain ⟨_, _, rfl⟩ := Option.map_eq_some_iff.mp hi
    exact keeps

/-- After edits that keep identities, what is held under an identity is known by it still. -/
theorem identity_of_find?_replay_of_keeps {edits : List IndexEdit} {indexes : NameMap Index}
    (keeps : ∀ e ∈ edits, e.KeepsIdentity)
    (known : ∀ n i, indexes.find? n = some i → i.identity = n) (n : String) (i : Index)
    (h : (replay indexes edits).find? n = some i) : i.identity = n := by
  rw [replay, NameMap.find?_foldl_alter] at h
  have held : ∀ i ∈ (edits.filter (·.identity = n)).foldl (fun i? e => e.effect i?)
      (indexes.find? n), i.identity = n := by
    refine List.foldlRecOn _ _ (motive := fun i? : Option Index => ∀ i ∈ i?, i.identity = n)
      (known n) fun i? hi? e he => ?_
    obtain ⟨hmem, hname⟩ := List.mem_filter.mp he
    obtain rfl := of_decide_eq_true hname
    exact identity_of_effect (keeps e hmem) hi?
  exact held i h

theorem effect_congr (e : IndexEdit) {i? j? : Option Index}
    (h : i?.map Index.content = j?.map Index.content) :
    (e.effect i?).map Index.content = (e.effect j?).map Index.content := by
  cases e with
  | add index => rfl
  | remove index => rfl
  | change before after =>
    cases i? <;> cases j? <;> first | rfl | cases h

end IndexEdit

/-! ## Tables -/

namespace TableEdit

/-- An edit of a table leaves what its indexes are known by. -/
def KeepsIdentities (e : TableEdit) : Prop :=
  ∀ i ∈ e.indexes, i.KeepsIdentity

variable {e : TableEdit}

theorem indexesByIdentity_apply_of_keeps (keeps : e.KeepsIdentities) (t : Table) :
    (e.apply t).indexesByIdentity = IndexEdit.replay t.indexesByIdentity e.indexes :=
  NameMap.ofList_values
    (IndexEdit.identity_of_find?_replay_of_keeps keeps fun _ _ => Table.identity_of_find?)

/-- **What an edit makes of tables that match are tables that match.** -/
theorem apply_congr (keeps : e.KeepsIdentities) {t u : Table} (h : t.Matches u) :
    (e.apply t).Matches (e.apply u) where
  name := h.name
  columns n := by
    simp only [apply, ColumnEdit.replay, NameMap.find?_foldl_alter]
    exact List.foldl_rel (h.columns n) fun edit _ _ _ => edit.effect_congr
  indexes n := by
    simp only [indexesByIdentity_apply_of_keeps keeps, IndexEdit.replay,
      NameMap.find?_foldl_alter]
    exact List.foldl_rel (r := fun i? j? : Option Index => i?.map Index.content =
      j?.map Index.content)
      (h.indexes n) fun edit _ _ _ => edit.effect_congr
  primaryKey := congrArg (KeyEdit.replay · e.primaryKey?) h.primaryKey
  interleave := congrArg (InterleaveEdit.replay · e.interleave?) h.interleave

end TableEdit

/-! ## Schemas -/

/-- An action on a table leaves what its indexes are known by. -/
def TableAction.KeepsIdentities : TableAction → Prop
  | .add _ | .remove _ _ => True
  | .change edit => edit.KeepsIdentities

theorem TableAction.effect_congr {a : TableAction} (keeps : a.KeepsIdentities)
    {t? u? : Option Table} (h : Option.Rel Table.Matches t? u?) :
    Option.Rel Table.Matches (a.effect t?) (a.effect u?) := by
  cases a with
  | add table => exact .some (.refl table)
  | remove name previous => exact .none
  | change edit =>
    cases h with
    | none => exact .none
    | some h => exact .some (TableEdit.apply_congr keeps h)

/-- **What actions make of schemas that match are schemas that match.** -/
theorem Schema.replay_congr {actions : List TableAction}
    (keeps : ∀ a ∈ actions, a.KeepsIdentities) {s s' : Schema} (h : s.Matches s') :
    (s.replay actions).Matches (s'.replay actions) := by
  intro n
  unfold MatchesAt
  rw [find?_replay, find?_replay]
  exact List.foldl_rel (h n) fun a ha _ _ =>
    TableAction.effect_congr (keeps a (List.mem_filter.mp ha).1)

namespace SchemaPatch

theorem keepsIdentities_of_mem_between {before after : Schema} (hbefore : before.WellKeyed)
    (hafter : after.WellKeyed) {a : TableAction} (ha : a ∈ (between before after).actions) :
    a.KeepsIdentities := by
  cases a with
  | add table => trivial
  | remove name previous => trivial
  | change edit =>
    have hunder := (mem_actions_iff hbefore hafter).mp ha
    unfold TableAction.under at hunder
    split at hunder
    next => cases hunder
    next => cases hunder
    next => cases hunder
    next =>
      obtain ⟨e, he, heq⟩ := Option.map_eq_some_iff.mp hunder
      cases heq
      obtain rfl := TableEdit.between_eq_some he
      exact fun i => IndexEdit.keepsIdentity_of_mem_between

/-- A patch leads to a schema that matches its goal from any that matches its start. -/
theorem replay_matches_of_matches {start before after : Schema} (h : start.Matches before)
    (hbefore : before.WellKeyed) (hafter : after.WellKeyed) :
    (start.replay (between before after).actions).Matches after := by
  intro n
  have carried := Schema.replay_congr
    (fun _ => keepsIdentities_of_mem_between hbefore hafter) h n
  have led := TableAction.effect_under_matches hbefore hafter n
  rw [← filter_actions hbefore hafter, ← Schema.find?_replay] at led
  exact (equivalence_rel Table.matches_equivalence).trans carried led

/-! ## Chains -/

/-- The patches that lead from a schema through others, from each to the next. -/
def chain : Schema → List Schema → List SchemaPatch
  | _, [] => []
  | before, after :: rest => between before after :: chain after rest

theorem chain_concat (before after : Schema) (through : List Schema) :
    chain before (through ++ [after]) =
      chain before through ++ [between (through.getLastD before) after] := by
  induction through generalizing before with
  | nil => rfl
  | cons next rest ih =>
    rw [List.cons_append, chain, ih, chain, List.cons_append, List.getLastD_cons]

/-- The schema after patches, carried out one after the other. -/
def replayAll (s : Schema) (patches : List SchemaPatch) : Schema :=
  patches.foldl (fun s p => s.replay p.actions) s

/-- **A chain of patches leads to its last schema.** -/
theorem replayAll_chain {start before : Schema} (h : start.Matches before)
    (hbefore : before.WellKeyed) {through : List Schema} (keyed : ∀ s ∈ through, s.WellKeyed) :
    (replayAll start (chain before through)).Matches (through.getLastD before) := by
  induction through generalizing start before with
  | nil => exact h
  | cons after rest ih =>
    have ⟨hafter, hrest⟩ := List.forall_mem_cons.mp keyed
    rw [List.getLastD_cons]
    exact ih (replay_matches_of_matches h hbefore hafter) hafter hrest

end SchemaPatch

end SchemaEvolution
