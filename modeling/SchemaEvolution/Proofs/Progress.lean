import SchemaEvolution.Proofs.SchemaReplay

/-!
# Part of the way through a patch

When some of the actions of a patch are done and the rest are not, each table is still as it was or
already as it is to be. Two tables may then belong to different ends of the patch; in that case an
action on the one is done and an action on the other is not, so the first may precede the second
(`SchemaPatch.both_or_between`). Whatever is to hold after each action can be shown from these four
cases, with no look at the list of actions.
-/

namespace SchemaEvolution

/-- Under one name, two schemas hold the same table, or neither holds one. -/
def Schema.AgreesAt (s s' : Schema) (n : String) : Prop :=
  s.tables.find? n = s'.tables.find? n

namespace SchemaPatch

variable {before after : Schema} {done rest : List TableAction}

/-- Part of the way through a patch, a table on which nothing is done is as it was, and then as it
is to be or with its action still to come; or else its action is done, and it is as it is to be. -/
theorem pending_or_done (hbefore : before.WellKeyed) (hafter : after.WellKeyed)
    (h : done ++ rest = (between before after).actions) (n : String) :
    ((∀ a ∈ done, TableAction.under before after n ≠ some a) ∧
      (before.replay done).AgreesAt before n ∧
      ((before.replay done).MatchesAt after n ∨
        ∃ a ∈ rest, TableAction.under before after n = some a)) ∨
    ((before.replay done).MatchesAt after n ∧
      ∃ a ∈ done, TableAction.under before after n = some a) := by
  have split := filter_actions hbefore hafter n
  rw [← h, List.filter_append] at split
  have effect := TableAction.effect_under_matches hbefore hafter n
  unfold Schema.AgreesAt Schema.MatchesAt
  rw [Schema.find?_replay]
  cases hunder : TableAction.under before after n with
  | none =>
    rw [hunder] at split effect
    rw [(List.append_eq_nil_iff.mp split).1]
    exact .inl ⟨fun a _ => (Option.some_ne_none a).symm, rfl, .inl effect⟩
  | some a =>
    rw [hunder] at split effect
    rcases List.append_eq_singleton_iff.mp split with ⟨hdone, hrest⟩ | ⟨hdone, hrest⟩
    · have hmem : a ∈ rest.filter (·.tableName = n) := hrest ▸ List.mem_singleton_self a
      have hnot : ∀ a' ∈ done, some a ≠ some a' := by
        rintro a' ha' ⟨⟩
        have hname := TableAction.tableName_of_under hbefore hafter hunder
        exact List.filter_eq_nil_iff.mp hdone a ha' (decide_eq_true hname)
      rw [hdone]
      exact .inl ⟨hnot, rfl, .inr ⟨a, (List.mem_filter.mp hmem).1, rfl⟩⟩
    · have hmem : a ∈ done.filter (·.tableName = n) := hdone ▸ List.mem_singleton_self a
      rw [hdone]
      exact .inr ⟨effect, a, (List.mem_filter.mp hmem).1, rfl⟩

/-- **Two tables part of the way through a patch** are both as they were, or both as they are to be,
or else the one that is no longer as it was had an action that may precede that of the other. -/
theorem both_or_between (hbefore : before.WellKeyed) (hafter : after.WellKeyed)
    (acyclic_before : before.Acyclic) (acyclic_after : after.Acyclic)
    (h : done <+: (between before after).actions) (n d : String) :
    ((before.replay done).AgreesAt before n ∧ (before.replay done).AgreesAt before d) ∨
    ((before.replay done).MatchesAt after n ∧ (before.replay done).MatchesAt after d) ∨
    ((before.replay done).MatchesAt after n ∧ (before.replay done).AgreesAt before d ∧
      ∃ a b, TableAction.under before after n = some a ∧
        TableAction.under before after d = some b ∧ a.MayPrecede b) ∨
    ((before.replay done).AgreesAt before n ∧ (before.replay done).MatchesAt after d ∧
      ∃ a b, TableAction.under before after n = some a ∧
        TableAction.under before after d = some b ∧ b.MayPrecede a) := by
  obtain ⟨rest, h⟩ := h
  have order := pairwise_actions hbefore hafter acyclic_before acyclic_after
  rw [← h] at order
  have order := (List.pairwise_append.mp order).2.2
  rcases pending_or_done hbefore hafter h n with ⟨_, hn, hpending⟩ | ⟨hn, a, ha, hunder⟩
  · rcases pending_or_done hbefore hafter h d with ⟨_, hd, _⟩ | ⟨hd, b, hb, hunder'⟩
    · exact .inl ⟨hn, hd⟩
    · rcases hpending with hmatches | ⟨a, ha, hunder⟩
      · exact .inr (.inl ⟨hmatches, hd⟩)
      · exact .inr (.inr (.inr ⟨hn, hd, a, b, hunder, hunder', order b hb a ha⟩))
  · rcases pending_or_done hbefore hafter h d with ⟨_, hd, hpending⟩ | ⟨hd, _⟩
    · rcases hpending with hmatches | ⟨b, hb, hunder'⟩
      · exact .inr (.inl ⟨hn, hmatches⟩)
      · exact .inr (.inr (.inl ⟨hn, hd, a, b, hunder, hunder', order a ha b hb⟩))
    · exact .inr (.inl ⟨hn, hd⟩)

/-- **There is a time between the actions on two tables**, when the one table already is as it is to
be and the other still as it was, unless the action on the other has to precede the one on the
one. -/
theorem exists_between (hbefore : before.WellKeyed) (hafter : after.WellKeyed)
    (acyclic_before : before.Acyclic) (acyclic_after : after.Acyclic) {n d : String} (hne : n ≠ d)
    (free : ∀ a b, TableAction.under before after n = some a →
      TableAction.under before after d = some b → ¬ b.MayPrecede a) :
    ∃ done, done <+: (between before after).actions ∧
      (before.replay done).MatchesAt after n ∧ (before.replay done).AgreesAt before d := by
  cases hunder : TableAction.under before after n with
  | none =>
    refine ⟨[], List.nil_prefix, ?_, rfl⟩
    rcases pending_or_done hbefore hafter (List.nil_append _) n with
      ⟨_, _, hmatches | ⟨a, _, ha⟩⟩ | ⟨hmatches, _⟩
    · exact hmatches
    · rw [hunder] at ha
      cases ha
    · exact hmatches
  | some a =>
    have hname := TableAction.tableName_of_under hbefore hafter hunder
    have hmem : a ∈ (between before after).actions := by
      rw [mem_actions_iff hbefore hafter, hname]
      exact hunder
    obtain ⟨first, rest, hsplit⟩ := List.append_of_mem hmem
    have h : first ++ [a] ++ rest = (between before after).actions := by
      rw [hsplit, List.append_assoc, List.singleton_append]
    refine ⟨first ++ [a], ⟨rest, h⟩, ?_, ?_⟩
    · rcases pending_or_done hbefore hafter h n with ⟨hnot, _⟩ | ⟨hmatches, _⟩
      · exact absurd hunder (hnot a (List.mem_append_right _ (List.mem_singleton_self a)))
      · exact hmatches
    · rcases pending_or_done hbefore hafter h d with ⟨_, hagrees, _⟩ | ⟨_, b, hb, hunder'⟩
      · exact hagrees
      · rcases List.mem_append.mp hb with hb | hb
        · have order := pairwise_actions hbefore hafter acyclic_before acyclic_after
          rw [hsplit] at order
          have := (List.pairwise_append.mp order).2.2 b hb a List.mem_cons_self
          exact absurd this (free a b hunder hunder')
        · obtain rfl := List.mem_singleton.mp hb
          have hname' := TableAction.tableName_of_under hbefore hafter hunder'
          exact absurd (hname.symm.trans hname') hne

end SchemaPatch

end SchemaEvolution
