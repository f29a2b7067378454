import Mathlib.Data.List.Pairwise
import Mathlib.Data.List.ReduceOption
import SchemaEvolution.Proofs.JsonReading
import SchemaEvolution.Proofs.Rewording

/-!
# Records in other words

A record is read from an object exactly if each member fills in the field of its name or is passed
over, no field is filled in twice, and none is missing that is required (`JsonForm.read_eq_ok`). In
this the order of the members plays a part only through the order in which fields are filled in, and
that makes no difference where each field sets a part of the record that is its own
(`JsonField.Commute`). A field in which `null` stands for nothing sets what the blank record has
anyway: as it could be filled in first, it may as well be left out.

From a list, fields are filled in one by one, in their own order.
-/

namespace SchemaEvolution

/-! ## Fields in any order -/

namespace JsonField

variable {α β : Type}

/-- It makes no difference which of two fields is filled in first. -/
def Commute (f g : JsonField α) : Prop :=
  ∀ ⦃a a' : JsonAccess⦄ ⦃node node' : JsonNode⦄ ⦃update update' : α → α⦄,
    f.fill a node = .ok update → g.fill a' node' = .ok update' →
      ∀ record, update (update' record) = update' (update record)

instance : Std.Symm (Commute (α := α)) where
  symm _ _ h _ _ _ _ _ _ filled filled' record := (h filled' filled record).symm

/-- Fields that set different parts of a record commute. -/
@[simp] theorem commute_of_set {γ : Type} {name name' : String} {presence presence' : FieldPresence}
    {r : JsonReader β} {q : JsonReader γ} {set : β → α → α} {set' : γ → α → α}
    (h : ∀ v w record, set v (set' w record) = set' w (set v record)) :
    Commute ⟨name, presence, r.map set⟩ ⟨name', presence', q.map set'⟩ := by
  intro a a' node node' update update' filled filled' record
  obtain ⟨v, _, rfl⟩ := map_eq_ok.mp filled
  obtain ⟨w, _, rfl⟩ := map_eq_ok.mp filled'
  exact h v w record

end JsonField

namespace JsonForm

variable {α : Type} {form : JsonForm α} {a : JsonAccess}

/-! ## What the members of an object do -/

/-- What a member of an object does to a record: it fills in the field of its name, or it is passed
over. -/
inductive Takes (form : JsonForm α) (a : JsonAccess) :
    Option String × JsonNode → Option (String × (α → α)) → Prop where
  | field {name : String} {node : JsonNode} {field : JsonField α} {update : α → α}
      (known : form.fields.find? (·.name == name) = some field)
      (filled : field.fill a node = .ok update) :
      Takes form a (some name, node) (some (name, update))
  | passed {name : String} {node : JsonNode}
      (unknown : form.fields.find? (·.name == name) = none) (passes : a.passes node = true) :
      Takes form a (some name, node) none

/-- The record after updates under the names of fields. -/
def updated (updates : List (String × (α → α))) (record : α) : α :=
  updates.foldl (fun r u => u.2 r) record

/-- Updates fill in a record: no field twice, and each that is required. -/
structure Makes (form : JsonForm α) (updates : List (String × (α → α))) (x : α) : Prop where
  once : (updates.map Prod.fst).Nodup
  complete : ∀ field ∈ form.fields, field.presence = .required →
    field.name ∈ updates.map Prod.fst
  record : updated updates form.blank = x

theorem readMembers_eq_ok {members : List (Option String × JsonNode)} {seen seen' : List String}
    (nodup : seen.Nodup) {record x : α} :
    form.readMembers a members seen record = .ok (seen', x) ↔
      ∃ taken, List.Forall₂ (form.Takes a) members taken ∧ seen'.Nodup ∧
        seen' = (taken.reduceOption.map Prod.fst).reverse ++ seen ∧
        x = updated taken.reduceOption record := by
  induction members generalizing seen record with
  | nil =>
    simp only [readMembers, List.forall₂_nil_left_iff, exists_eq_left, Except.ok.injEq,
      Prod.mk.injEq]
    constructor
    · rintro ⟨rfl, rfl⟩
      exact ⟨nodup, rfl, rfl⟩
    · rintro ⟨_, hseen, hx⟩
      exact ⟨hseen.symm, hx.symm⟩
  | cons m rest ih =>
    have reversed : ∀ (name : String) (update : α → α) (taken : List (Option (String × (α → α)))),
        ((some (name, update) :: taken).reduceOption.map Prod.fst).reverse ++ seen =
          (taken.reduceOption.map Prod.fst).reverse ++ name :: seen := by
      intro name update taken
      rw [List.reduceOption_cons_of_some, List.map_cons, List.reverse_cons, List.append_assoc,
        List.singleton_append]
    constructor
    · intro h
      obtain ⟨_ | name, node⟩ := m
      · cases h
      · rw [readMembers] at h
        split at h
        case h_1 field known =>
          split at h
          · cases h
          · rename_i fresh
            obtain ⟨update, filled, h⟩ := bind_eq_ok.mp h
            obtain ⟨taken, others, nodup', seen_eq, x_eq⟩ :=
              (ih (List.nodup_cons.mpr ⟨fresh, nodup⟩)).mp h
            exact ⟨some (name, update) :: taken, .cons (.field known filled) others, nodup',
              seen_eq.trans (reversed name update taken).symm, x_eq⟩
        case h_2 unknown =>
          split at h
          · rename_i passes
            obtain ⟨taken, others, same⟩ := (ih nodup).mp h
            exact ⟨none :: taken, .cons (.passed unknown passes) others, same⟩
          · cases h
    · rintro ⟨_, took, nodup', seen_eq, x_eq⟩
      cases took with
      | @cons _ _ _ taken first others =>
        cases first with
        | @field name node field update known filled =>
          rw [reversed] at seen_eq
          rw [seen_eq] at nodup'
          have fresh := List.nodup_cons.mp (List.nodup_append.mp nodup').2.1
          rw [readMembers, known]
          dsimp only
          rw [if_neg fresh.1, bind_eq_ok]
          exact ⟨update, filled, (ih (List.nodup_cons.mpr fresh)).mpr
            ⟨taken, others, seen_eq ▸ nodup', seen_eq, x_eq⟩⟩
        | @passed name node unknown passes =>
          rw [readMembers, unknown]
          dsimp only
          rw [if_pos passes]
          exact (ih nodup).mpr ⟨taken, others, nodup', seen_eq, x_eq⟩

theorem missing?_eq_none {seen : List String} :
    form.missing? seen = none ↔
      ∀ field ∈ form.fields, field.presence = .required → field.name ∈ seen := by
  simp only [missing?, Option.map_eq_none_iff, List.find?_eq_none, decide_eq_true_eq, not_and,
    not_not]

/-- **A record is read from an object** exactly if each member fills in a field or is passed over,
and together they fill in the record. -/
theorem read_eq_ok {members : List (Option String × JsonNode)} {x : α} :
    form.read a (.object members true) = .ok x ↔ ∃ inner, a.enter = .ok inner ∧
      ∃ taken, List.Forall₂ (form.Takes inner) members taken ∧ form.Makes taken.reduceOption x := by
  rw [read, bind_eq_ok]
  refine exists_congr fun inner => and_congr_right fun _ => ?_
  constructor
  · intro h
    obtain ⟨⟨seen, record⟩, members, h⟩ := bind_eq_ok.mp h
    obtain ⟨taken, took, nodup, rfl, rfl⟩ := (readMembers_eq_ok List.nodup_nil).mp members
    rw [List.append_nil] at nodup h
    dsimp only at h
    rw [if_neg (by decide)] at h
    split at h
    · cases h
    · rename_i complete
      cases h
      exact ⟨taken, took, List.nodup_reverse.mp nodup, fun field known required =>
        List.mem_reverse.mp (missing?_eq_none.mp complete field known required), rfl⟩
  · rintro ⟨taken, took, makes⟩
    have complete : form.missing? (taken.reduceOption.map Prod.fst).reverse = none :=
      missing?_eq_none.mpr fun field known required =>
        List.mem_reverse.mpr (makes.complete field known required)
    have read : form.readMembers inner members [] form.blank =
        .ok ((taken.reduceOption.map Prod.fst).reverse, x) :=
      (readMembers_eq_ok List.nodup_nil).mpr ⟨taken, took, List.nodup_reverse.mpr makes.once,
        (List.append_nil _).symm, makes.record.symm⟩
    rw [bind_eq_ok]
    refine ⟨_, read, ?_⟩
    dsimp only
    rw [if_neg (by decide), complete]
    rfl

/-! ## Where fields lie -/

/-- What a field of a record is said to hold is so, and `null` is only said to stand for nothing in
it if it may be left out and leaves the blank record alone. -/
structure Lies (blank : α) (layout : String × Bool × Layout) (field : JsonField α) : Prop where
  name : field.name = layout.1
  describes : layout.2.2.Describes field.fill
  nothing : layout.2.1 = true → field.presence ≠ .required ∧
    ∀ a, ∃ update, field.fill a .null = .ok update ∧ update blank = blank

namespace Lies

variable {β : Type} {blank : α} {name : String} {r : JsonReader β} {layout : Layout}

theorem required {set : β → α → α} (h : layout.Describes r) :
    Lies blank (name, false, layout) (.required name r set) :=
  ⟨rfl, h.map set, nofun⟩

theorem defaulted {set : β → α → α} (h : layout.Describes r) :
    Lies blank (name, false, layout) (.defaulted name r set) :=
  ⟨rfl, h.map set, nofun⟩

theorem optional {set : Option β → α → α} (h : layout.Describes r)
    (nothing : set none blank = blank) : Lies blank (name, true, layout) (.optional name r set) :=
  ⟨rfl, h.optional.map set, fun _ => ⟨nofun, fun _ => ⟨set none, rfl, nothing⟩⟩⟩

end Lies

/-- Fields that lie as is said, and may be filled in in any order. -/
structure Laid (form : JsonForm α) (layouts : List (String × Bool × Layout)) : Prop where
  fields : List.Forall₂ (Lies form.blank) layouts form.fields
  distinct : (form.fields.map (·.name)).Nodup
  apart : form.fields.Pairwise JsonField.Commute

variable {layouts : List (String × Bool × Layout)}

namespace Laid

theorem rel_find? (laid : form.Laid layouts) (name : String) :
    Option.Rel (fun layout field => Lies form.blank (name, layout) field) (layouts.lookup name)
      (form.fields.find? (·.name == name)) := by
  have fields := laid.fields
  clear laid
  generalize form.fields = fields' at fields ⊢
  induction fields with
  | nil => exact .none
  | @cons layout field _ _ lies _ ih =>
    rw [List.lookup_cons, List.find?_cons, lies.name, Bool.beq_comm]
    by_cases h : layout.1 = name
    · subst h
      rw [beq_self_eq_true]
      exact .some lies
    · rw [beq_false_of_ne h]
      exact ih

/-- A field that is said to lie in a record is found there under its name. -/
theorem exists_find? (laid : form.Laid layouts) {name : String} {layout : Bool × Layout}
    (said : layouts.lookup name = some layout) :
    ∃ field, form.fields.find? (·.name == name) = some field ∧
      Lies form.blank (name, layout) field := by
  have found := laid.rel_find? name
  rw [said] at found
  generalize form.fields.find? (·.name == name) = found? at found ⊢
  cases found with
  | some lies => exact ⟨_, rfl, lies⟩

/-- No field is found under any other name. -/
theorem find?_eq_none (laid : form.Laid layouts) {name : String}
    (passed : (Layout.record layouts).passesOver name = true) :
    form.fields.find? (·.name == name) = none := by
  have found := laid.rel_find? name
  rw [Option.isNone_iff_eq_none.mp passed] at found
  generalize form.fields.find? (·.name == name) = found? at found ⊢
  cases found
  rfl

/-- Where `null` stands for nothing, it leaves the blank record alone, and the field may be left
out. -/
theorem exists_nothing (laid : form.Laid layouts) {name : String}
    (nullable : (Layout.record layouts).nullable name = true) (a : JsonAccess) :
    ∃ update, form.Takes a (some name, .null) (some (name, update)) ∧
      update form.blank = form.blank ∧
        ∀ field ∈ form.fields, field.name = name → field.presence ≠ .required := by
  obtain ⟨layout, said, nullable⟩ := (Option.any_eq_true _ _).mp nullable
  obtain ⟨field, known, lies⟩ := laid.exists_find? said
  obtain ⟨omissible, nothing⟩ := lies.nothing nullable
  obtain ⟨update, filled, blank⟩ := nothing a
  refine ⟨update, .field known filled, blank, fun other hother same => ?_⟩
  have found := find?_field laid.distinct hother
  rw [same, known] at found
  cases found
  exact omissible

end Laid

namespace Takes

variable {m : Option String × JsonNode} {u : String × (α → α)}

theorem name_eq (h : form.Takes a m (some u)) : m.1 = some u.1 := by
  cases h
  rfl

/-- Updates under different names are by different fields. -/
theorem commute (laid : form.Laid layouts)
    {m' : Option String × JsonNode} {u' : String × (α → α)} (h : form.Takes a m (some u))
    (h' : form.Takes a m' (some u')) (apart : u.1 ≠ u'.1) (record : α) :
    u.2 (u'.2 record) = u'.2 (u.2 record) := by
  cases h with
  | @field name node f update known filled =>
    cases h' with
    | @field name' node' g update' known' filled' =>
      have differ : f ≠ g := by
        rintro rfl
        have named := List.find?_some known
        have named' := List.find?_some known'
        exact apart ((beq_iff_eq.mp named).symm.trans (beq_iff_eq.mp named'))
      exact laid.apart.forall (List.mem_of_find?_eq_some known) (List.mem_of_find?_eq_some known')
        differ filled filled' record

/-- There is but one thing that a member does. -/
theorem unique {u' : Option (String × (α → α))} (h : form.Takes a m (some u))
    (h' : form.Takes a m u') : u' = some u := by
  cases h with
  | field known filled =>
    cases h' with
    | field known' filled' =>
      cases known.symm.trans known'
      cases filled.symm.trans filled'
      rfl
    | passed unknown => cases known.symm.trans unknown

/-- A member in which a field lies may be put in another way. -/
theorem reword (laid : form.Laid layouts) {inside : Layout} {name : String} {node node' : JsonNode}
    {u' : Option (String × (α → α))} (h : form.Takes a (some name, node) u')
    (place : (Layout.record layouts).member? name = some inside)
    (within : Reworded inside node node') : form.Takes a (some name, node') u' := by
  obtain ⟨layout, said, rfl⟩ := Option.map_eq_some_iff.mp place
  obtain ⟨field, found, lies⟩ := laid.exists_find? said
  cases h with
  | field known filled =>
    cases found.symm.trans known
    exact .field known (lies.describes within a _ filled)
  | passed unknown => cases found.symm.trans unknown

end Takes

/-! ## The order of members -/

/-- What a record is made of comes from the members of an object. -/
theorem exists_takes {members : List (Option String × JsonNode)}
    {taken : List (Option (String × (α → α)))} (took : List.Forall₂ (form.Takes a) members taken)
    {u : Option (String × (α → α))} (hu : u ∈ taken) : ∃ m ∈ members, form.Takes a m u := by
  induction took with
  | nil => cases hu
  | cons first _ ih =>
    obtain rfl | hu := List.mem_cons.mp hu
    · exact ⟨_, List.mem_cons_self, first⟩
    · obtain ⟨m, hm, takes⟩ := ih hu
      exact ⟨m, List.mem_cons_of_mem _ hm, takes⟩

theorem not_mem_names {members : List (Option String × JsonNode)}
    {taken : List (Option (String × (α → α)))} (took : List.Forall₂ (form.Takes a) members taken)
    {name : String} (absent : some name ∉ members.map Prod.fst) :
    name ∉ taken.reduceOption.map Prod.fst := by
  intro there
  obtain ⟨u, hu, rfl⟩ := List.mem_map.mp there
  obtain ⟨m, hm, takes⟩ := exists_takes took (List.reduceOption_mem_iff.mp hu)
  exact absent (List.mem_map.mpr ⟨m, hm, takes.name_eq⟩)

/-- Updates may come in any order. -/
theorem Makes.perm (laid : form.Laid layouts)
    {members : List (Option String × JsonNode)} {taken taken' : List (Option (String × (α → α)))}
    {x : α} (h : form.Makes taken.reduceOption x) (same : taken.Perm taken')
    (took : List.Forall₂ (form.Takes a) members taken) : form.Makes taken'.reduceOption x := by
  have same : taken.reduceOption.Perm taken'.reduceOption := same.filterMap id
  have names := same.map Prod.fst
  refine ⟨names.nodup_iff.mp h.once,
    fun field known required => names.mem_iff.mp (h.complete field known required), ?_⟩
  rw [← h.record]
  -- Updates commute only if they are made by different members.
  refine (same.foldl_eq' (fun u hu u' hu' record => ?_) form.blank).symm
  obtain rfl | differ := eq_or_ne u u'
  · rfl
  · have apart : u'.1 ≠ u.1 := fun h' => differ (List.inj_on_of_nodup_map h.once hu hu' h'.symm)
    obtain ⟨m, _, takes⟩ := exists_takes took (List.reduceOption_mem_iff.mp hu)
    obtain ⟨m', _, takes'⟩ := exists_takes took (List.reduceOption_mem_iff.mp hu')
    exact takes'.commute laid takes apart record

/-- An update that leaves the blank record alone may be made. -/
theorem Makes.with_nothing {updates : List (String × (α → α))} {x : α}
    (h : form.Makes updates x) {name : String} {update : α → α}
    (nothing : update form.blank = form.blank) (absent : name ∉ updates.map Prod.fst) :
    form.Makes ((name, update) :: updates) x where
  once := List.nodup_cons.mpr ⟨absent, h.once⟩
  complete field known required := List.mem_cons_of_mem _ (h.complete field known required)
  record := (congrArg (updated updates) nothing).trans h.record

/-- An update that leaves the blank record alone may be left out. -/
theorem Makes.without_nothing {updates : List (String × (α → α))} {x : α} {name : String}
    {update : α → α} (h : form.Makes ((name, update) :: updates) x)
    (nothing : update form.blank = form.blank)
    (omissible : ∀ field ∈ form.fields, field.name = name → field.presence ≠ .required) :
    form.Makes updates x where
  once := (List.nodup_cons.mp h.once).2
  complete field known required := by
    obtain same | there := List.mem_cons.mp (h.complete field known required)
    · exact absurd required (omissible field known same)
    · exact there
  record := (congrArg (updated updates) nothing).symm.trans h.record

/-! ## Records in other words -/

/-- What the members of an object do is still done when it is put in another way. -/
theorem Laid.reword (laid : form.Laid layouts) {members members' : List (Option String × JsonNode)}
    (reworded : Reworded (.record layouts) (.object members true) (.object members' true))
    {taken : List (Option (String × (α → α)))} {x : α}
    (took : List.Forall₂ (form.Takes a) members taken) (makes : form.Makes taken.reduceOption x) :
    ∃ taken', List.Forall₂ (form.Takes a) members' taken' ∧ form.Makes taken'.reduceOption x := by
  cases reworded with
  | member place within =>
    exact ⟨taken, forall₂_replace took fun u took => took.reword laid place within, makes⟩
  | permuted same =>
    obtain ⟨taken', took', same'⟩ := List.perm_comp_forall₂ same.symm took
    exact ⟨taken', took', makes.perm laid same'.symm took⟩
  | added passed readable =>
    have takes := Takes.passed (laid.find?_eq_none passed) (a.passes_of_wellFormed readable)
    obtain ⟨before, after, rfl, tookBefore, tookAfter⟩ := exists_of_forall₂_append took
    refine ⟨before ++ none :: after, List.rel_append tookBefore (.cons takes tookAfter), ?_⟩
    rwa [List.reduceOption_append, List.reduceOption_cons_of_none, ← List.reduceOption_append]
  | removed passed =>
    obtain ⟨before, u, after, rfl, tookBefore, here, tookAfter⟩ :=
      exists_of_forall₂_append_cons took
    refine ⟨before ++ after, List.rel_append tookBefore tookAfter, ?_⟩
    cases here with
    | field known => cases (laid.find?_eq_none passed).symm.trans known
    | passed =>
      rwa [List.reduceOption_append, List.reduceOption_cons_of_none, ← List.reduceOption_append]
        at makes
  | nullAdded nullable absent =>
    -- The new update is made first, on the blank record, and then moved to its place.
    obtain ⟨update, takes, blank, -⟩ := laid.exists_nothing nullable a
    have more := makes.with_nothing blank (not_mem_names took absent)
    rw [← List.reduceOption_cons_of_some] at more
    obtain ⟨before, after, rfl, tookBefore, tookAfter⟩ := exists_of_forall₂_append took
    exact ⟨_, List.rel_append tookBefore (.cons takes tookAfter),
      more.perm laid List.perm_middle.symm (.cons takes took)⟩
  | nullRemoved nullable =>
    obtain ⟨update, takes, blank, omissible⟩ := laid.exists_nothing nullable a
    obtain ⟨before, u, after, rfl, tookBefore, here, tookAfter⟩ :=
      exists_of_forall₂_append_cons took
    have first := makes.perm laid List.perm_middle took
    rw [takes.unique here, List.reduceOption_cons_of_some] at first
    exact ⟨before ++ after, List.rel_append tookBefore tookAfter,
      first.without_nothing blank omissible⟩

/-- An item at the place of a field may be put in another way. -/
theorem readItems_reword {blank : α} {fields : List (JsonField α)}
    (lie : List.Forall₂ (Lies blank) layouts fields) {before after : List JsonNode}
    {node node' : JsonNode} {inside : Layout}
    (place : (Layout.record layouts).item? before.length = some inside)
    (within : Reworded inside node node') {record x : α}
    (h : readItems a true fields (before ++ node :: after) record = .ok x) :
    readItems a true fields (before ++ node' :: after) record = .ok x := by
  induction before generalizing layouts fields record with
  | nil =>
    cases lie with
    | nil => cases place
    | cons first others =>
      cases place
      obtain ⟨update, filled, h⟩ := bind_eq_ok.mp h
      exact bind_eq_ok.mpr ⟨update, first.describes within a update filled, h⟩
  | cons item before ih =>
    cases lie with
    | nil => cases place
    | cons first others =>
      obtain ⟨update, filled, h⟩ := bind_eq_ok.mp h
      exact bind_eq_ok.mpr ⟨update, filled, ih others place h⟩

/-- **A record is read the same from an object or a list that is put in another way.** -/
theorem Laid.describes (laid : form.Laid layouts) :
    (Layout.record layouts).Describes form.read := by
  intro node node' reworded a x read
  have reworded' := reworded
  cases reworded with
  | item place within =>
    obtain ⟨inner, entered, items⟩ := bind_eq_ok.mp read
    exact bind_eq_ok.mpr ⟨inner, entered, readItems_reword laid.fields place within items⟩
  | _ =>
    obtain ⟨inner, entered, taken, took, makes⟩ := read_eq_ok.mp read
    exact read_eq_ok.mpr ⟨inner, entered, laid.reword reworded' took makes⟩

end JsonForm

end SchemaEvolution
