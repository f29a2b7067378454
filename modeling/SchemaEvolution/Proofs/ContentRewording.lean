import SchemaEvolution.Proofs.DataRewording

/-!
# Tags and contents in other words

An object with a tag and a content is read from left to right, and the content is held back if it
comes first. What is read can nonetheless be said without regard to the order: up to it, the object
is made of its tag, of its content if there is one, and of members that are passed over
(`JsonVariant.Holds`). This takes that the content of every alternative is read the same when it is
held back.
-/

namespace SchemaEvolution

/-! ## Contents -/

namespace JsonVariant

variable {α β : Type}

theorem Content.readsScalars_none (value : α) : (Content.none value).read.ReadsScalars := by
  intro a node x read
  cases node with
  | list | object =>
    obtain ⟨_, _, read⟩ := bind_eq_ok.mp read
    cases read
  | _ => rfl

theorem Content.holdsBack_none (value : α) : (Content.none value).read.HoldsBack := by
  intro levels node x
  cases node with
  | null => exact (and_iff_right (decide_eq_true (Nat.zero_le levels))).symm
  | list | object =>
    have refused : ∀ a : JsonAccess,
        (a.enter >>= fun _ => (.error .wrongType : Except ReadError α)) ≠ .ok x := by
      intro a read
      obtain ⟨_, _, read⟩ := bind_eq_ok.mp read
      cases read
    exact ⟨fun read => absurd read (refused _), fun h => absurd h.2 (refused .held)⟩
  | _ => exact ⟨nofun, fun h => nomatch h.2⟩

/-- What is chosen by a name is one of the choices. -/
theorem mem_of_choose {choices : List (String × β)} {name : String} {v : β}
    (h : JsonReader.choose choices name = .ok v) : (name, v) ∈ choices := by
  unfold JsonReader.choose at h
  split at h
  · rename_i found
    cases h
    obtain ⟨before, after, rfl, -⟩ := List.lookup_eq_some_iff.mp found
    exact List.mem_append_right _ List.mem_cons_self
  · cases h

theorem mem_of_choice {choices : List (String × β)} {a : JsonAccess} {node : JsonNode} {v : β}
    (h : JsonReader.choice choices a node = .ok v) : ∃ name, (name, v) ∈ choices := by
  unfold JsonReader.choice at h
  split at h
  · exact ⟨_, mem_of_choose h⟩
  · obtain ⟨w, chosen, h⟩ := bind_eq_ok.mp h
    obtain ⟨_, _, h⟩ := bind_eq_ok.mp h
    cases h
    exact ⟨_, mem_of_choose chosen⟩
  · cases h
  · cases h
  · obtain ⟨inner, _, h⟩ := bind_eq_ok.mp h
    split at h
    · cases h
    · cases h
    · obtain ⟨w, chosen, h⟩ := bind_eq_ok.mp h
      obtain ⟨_, _, h⟩ := bind_eq_ok.mp h
      split at h
      · cases h
        exact ⟨_, mem_of_choose chosen⟩
      · cases h
  · cases h

theorem mem_of_readTag {variants : List (String × β)} {a : JsonAccess} {node : JsonNode} {v : β}
    (h : readTag variants a node = .ok v) : ∃ name, (name, v) ∈ variants := by
  unfold readTag at h
  split at h
  · exact ⟨_, mem_of_choose h⟩
  · split at h
    · cases h
    · split at h
      · rename_i found
        cases h
        exact ⟨_, List.mem_of_getElem? found⟩
      · cases h
  · cases h

/-! ## Up to the order -/

section

variable {x y : β} {l l' : List β}

/-- Two elements of a list may be put before the others. -/
theorem perm_two (before between after : List β) :
    (before ++ x :: (between ++ y :: after)).Perm (x :: y :: (before ++ between ++ after)) := by
  refine List.perm_middle.trans (.cons x ?_)
  rw [← List.append_assoc]
  exact List.perm_middle

/-- What stands first up to the order, stands somewhere. -/
theorem exists_of_perm_cons (h : l.Perm (x :: l')) :
    ∃ before after, l = before ++ x :: after ∧ (before ++ after).Perm l' := by
  obtain ⟨before, after, rfl⟩ := List.append_of_mem (h.mem_iff.mpr List.mem_cons_self)
  exact ⟨before, after, rfl, (List.perm_middle.symm.trans h).cons_inv⟩

/-- Of what stands first and second up to the order, one stands before the other. -/
theorem exists_of_perm_cons_cons (h : l.Perm (x :: y :: l')) :
    ∃ before between after, (before ++ between ++ after).Perm l' ∧
      (l = before ++ x :: (between ++ y :: after) ∨
        l = before ++ y :: (between ++ x :: after)) := by
  obtain ⟨before, after, rfl, same⟩ := exists_of_perm_cons h
  have there : y ∈ before ++ after := same.mem_iff.mpr List.mem_cons_self
  obtain there | there := List.mem_append.mp there
  · obtain ⟨before, between, rfl⟩ := List.append_of_mem there
    rw [List.append_assoc, List.cons_append] at same ⊢
    refine ⟨before, between, after, ?_, .inr rfl⟩
    rw [List.append_assoc]
    exact (List.perm_middle.symm.trans same).cons_inv
  · obtain ⟨between, after, rfl⟩ := List.append_of_mem there
    rw [← List.append_assoc] at same
    exact ⟨before, between, after, (List.perm_middle.symm.trans same).cons_inv, .inl rfl⟩

/-- Of two lists that are the same up to the order but begin with different elements, each holds
what the other begins with. -/
theorem exists_of_cons_perm_cons (h : (x :: l).Perm (y :: l')) (differ : x ≠ y) :
    ∃ rest, l'.Perm (x :: rest) ∧ l.Perm (y :: rest) := by
  have there : x ∈ l' := List.mem_of_ne_of_mem differ (h.mem_iff.mp List.mem_cons_self)
  obtain ⟨before, after, rfl⟩ := List.append_of_mem there
  refine ⟨before ++ after, List.perm_middle, ?_⟩
  exact (h.trans ((List.perm_middle.cons y).trans (.swap _ _ _))).cons_inv

end

/-! ## The members that matter -/

section

variable {tag content : String} {a : JsonAccess}

/-- Members that are neither the tag nor the content and can be passed over. -/
def Passed (tag content : String) (a : JsonAccess) (members : List (Option String × JsonNode)) :
    Prop :=
  ∀ m ∈ members, ∃ name, m.1 = some name ∧ name ≠ tag ∧ name ≠ content ∧ a.passes m.2 = true

namespace Passed

variable {l l' : List (Option String × JsonNode)} {name : String} {node : JsonNode}

theorem cons (h : Passed tag content a l) (notTag : name ≠ tag) (notContent : name ≠ content)
    (passes : a.passes node = true) : Passed tag content a ((some name, node) :: l) :=
  List.forall_mem_cons.mpr ⟨⟨name, rfl, notTag, notContent, passes⟩, h⟩

theorem append :
    Passed tag content a (l ++ l') ↔ Passed tag content a l ∧ Passed tag content a l' :=
  List.forall_mem_append

theorem perm (h : Passed tag content a l) (same : l'.Perm l) : Passed tag content a l' :=
  fun m hm => h m (same.mem_iff.mp hm)

end Passed

/-- Where the first member stands that matters. -/
inductive Finds (tag content : String) (a : JsonAccess)
    (members : List (Option String × JsonNode)) : Relevant → Prop where
  | finished (passed : Passed tag content a members) : Finds tag content a members .finished
  | tag {before after : List (Option String × JsonNode)} {node : JsonNode}
      (passed : Passed tag content a before)
      (split : members = before ++ (some tag, node) :: after) :
      Finds tag content a members (.tag node after)
  | content {before after : List (Option String × JsonNode)} {node : JsonNode}
      (passed : Passed tag content a before)
      (split : members = before ++ (some content, node) :: after) :
      Finds tag content a members (.content node after)

theorem relevant_passed {before members : List (Option String × JsonNode)}
    (passed : Passed tag content a before) :
    relevant tag content a true (before ++ members) = relevant tag content a true members := by
  induction before with
  | nil => rfl
  | cons m rest ih =>
    obtain ⟨⟨name, hname, notTag, notContent, passes⟩, others⟩ := List.forall_mem_cons.mp passed
    obtain ⟨_, node⟩ := m
    cases hname
    rw [List.cons_append, relevant, if_neg notTag, if_neg notContent, if_pos passes]
    exact ih others

theorem relevant_eq_ok (differ : content ≠ tag) {members : List (Option String × JsonNode)}
    {found : Relevant} :
    relevant tag content a true members = .ok found ↔ Finds tag content a members found := by
  constructor
  · intro h
    induction members with
    | nil =>
      cases h
      exact .finished nofun
    | cons m rest ih =>
      obtain ⟨_ | name, node⟩ := m
      · cases h
      · rw [relevant] at h
        split at h
        case isTrue same =>
          cases h
          cases same
          exact .tag (List.forall_mem_nil _) rfl
        case isFalse notTag =>
          split at h
          case isTrue same =>
            cases h
            cases same
            exact .content (List.forall_mem_nil _) rfl
          case isFalse notContent =>
            split at h
            case isTrue passes =>
              cases ih h with
              | finished passed => exact .finished (passed.cons notTag notContent passes)
              | tag passed split =>
                exact .tag (passed.cons notTag notContent passes) (congrArg (_ :: ·) split)
              | content passed split =>
                exact .content (passed.cons notTag notContent passes) (congrArg (_ :: ·) split)
            case isFalse => cases h
  · intro h
    cases h with
    | finished passed =>
      rw [← List.append_nil members, relevant_passed passed]
      rfl
    | tag passed split => rw [split, relevant_passed passed, relevant, if_pos rfl]
    | content passed split =>
      rw [split, relevant_passed passed, relevant, if_neg differ, if_pos rfl]

/-- What an object with a tag holds, whatever the order of its members. -/
inductive Holds (tag content : String) (variants : List (String × Content α)) (a : JsonAccess)
    (members : List (Option String × JsonNode)) (x : α) : Prop where
  /-- The content is left out. -/
  | alone {passed : List (Option String × JsonNode)} {name : JsonNode} {variant : Content α}
      (passes : Passed tag content a passed) (order : members.Perm ((some tag, name) :: passed))
      (chosen : JsonReader.choice variants a name = .ok variant)
      (read : variant.absent content = .ok x)
  | both {passed : List (Option String × JsonNode)} {name node : JsonNode} {variant : Content α}
      (passes : Passed tag content a passed)
      (order : members.Perm ((some tag, name) :: (some content, node) :: passed))
      (chosen : JsonReader.choice variants a name = .ok variant)
      (read : variant.read a node = .ok x)

variable {variants : List (String × Content α)}

theorem finish_eq_ok (differ : content ≠ tag) {members : List (Option String × JsonNode)}
    {value x : α} :
    finish tag content a true members value = .ok x ↔ Passed tag content a members ∧ value = x := by
  rw [finish, bind_eq_ok]
  constructor
  · rintro ⟨found, relevant, h⟩
    cases (relevant_eq_ok differ).mp relevant with
    | finished passed =>
      cases h
      exact ⟨passed, rfl⟩
    | tag | content => cases h
  · rintro ⟨passed, rfl⟩
    exact ⟨_, (relevant_eq_ok differ).mpr (.finished passed), rfl⟩

/-- What is read from an object is what it holds. -/
theorem holds_of_beside (differ : content ≠ tag) (held : ∀ v ∈ variants, v.2.read.HoldsBack)
    {members : List (Option String × JsonNode)} {x : α}
    (h : beside tag content variants a (.object members true) = .ok x) :
    ∃ inner, a.enter = .ok inner ∧ Holds tag content variants inner members x := by
  obtain ⟨inner, entered, h⟩ := bind_eq_ok.mp h
  refine ⟨inner, entered, ?_⟩
  obtain ⟨found, first, h⟩ := bind_eq_ok.mp h
  cases (relevant_eq_ok differ).mp first with
  | finished => cases h
  | @tag before after name passed split =>
    obtain ⟨variant, chosen, h⟩ := bind_eq_ok.mp h
    obtain ⟨found, second, h⟩ := bind_eq_ok.mp h
    cases (relevant_eq_ok differ).mp second with
    | finished passed' =>
      exact .alone (Passed.append.mpr ⟨passed, passed'⟩) (split ▸ List.perm_middle) chosen h
    | tag => cases h
    | @content before' after' node passed' split' =>
      obtain ⟨value, read, h⟩ := bind_eq_ok.mp h
      obtain ⟨passed'', rfl⟩ := (finish_eq_ok differ).mp h
      subst split split'
      exact .both (Passed.append.mpr ⟨Passed.append.mpr ⟨passed, passed'⟩, passed''⟩)
        (perm_two before before' after') chosen read
  | @content before after node passed split =>
    dsimp only at h
    split at h
    · cases h
    rename_i holds
    obtain ⟨found, second, h⟩ := bind_eq_ok.mp h
    cases (relevant_eq_ok differ).mp second with
    | finished => cases h
    | content => cases h
    | @tag before' after' name passed' split' =>
      obtain ⟨variant, chosen, h⟩ := bind_eq_ok.mp h
      obtain ⟨value, read, h⟩ := bind_eq_ok.mp h
      obtain ⟨passed'', rfl⟩ := (finish_eq_ok differ).mp h
      obtain ⟨_, member⟩ := mem_of_choice chosen
      have holds : inner.holds node = true := by simpa using holds
      have read := (held _ member).held_iff.mp ⟨holds, read⟩
      subst split split'
      exact .both (Passed.append.mpr ⟨Passed.append.mpr ⟨passed, passed'⟩, passed''⟩)
        ((perm_two before before' after').trans (.swap _ _ _)) chosen read

/-- What an object holds is read from it. -/
theorem beside_of_holds (differ : content ≠ tag) (held : ∀ v ∈ variants, v.2.read.HoldsBack)
    {members : List (Option String × JsonNode)} {x : α} {inner : JsonAccess}
    (entered : a.enter = .ok inner) (h : Holds tag content variants inner members x) :
    beside tag content variants a (.object members true) = .ok x := by
  rw [beside, entered]
  refine bind_eq_ok.mpr ⟨inner, rfl, bind_eq_ok.mpr ?_⟩
  cases h with
  | @alone _ name variant passes order chosen read =>
    obtain ⟨before, after, split, same⟩ := exists_of_perm_cons order
    obtain ⟨passed, passed'⟩ := Passed.append.mp (passes.perm same)
    refine ⟨_, (relevant_eq_ok differ).mpr (.tag passed split), bind_eq_ok.mpr ⟨_, chosen, ?_⟩⟩
    exact bind_eq_ok.mpr ⟨_, (relevant_eq_ok differ).mpr (.finished passed'), read⟩
  | @both _ name node variant passes order chosen read =>
    obtain ⟨before, between, after, same, split⟩ := exists_of_perm_cons_cons order
    obtain ⟨others, passed''⟩ := Passed.append.mp (passes.perm same)
    obtain ⟨passed, passed'⟩ := Passed.append.mp others
    obtain split | split := split
    · -- The tag comes first, so the content is read where it stands.
      refine ⟨_, (relevant_eq_ok differ).mpr (.tag passed split), bind_eq_ok.mpr ⟨_, chosen, ?_⟩⟩
      refine bind_eq_ok.mpr ⟨_, (relevant_eq_ok differ).mpr (.content passed' rfl), ?_⟩
      exact bind_eq_ok.mpr ⟨_, read, (finish_eq_ok differ).mpr ⟨passed'', rfl⟩⟩
    · -- The content comes first and has to be held back until the tag is known.
      obtain ⟨_, member⟩ := mem_of_choice chosen
      obtain ⟨holds, read⟩ := (held _ member).held_iff.mpr read
      refine ⟨_, (relevant_eq_ok differ).mpr (.content passed split), ?_⟩
      dsimp only
      rw [holds, if_neg (by decide)]
      refine bind_eq_ok.mpr ⟨_, (relevant_eq_ok differ).mpr (.tag passed' rfl), ?_⟩
      refine bind_eq_ok.mpr ⟨_, chosen, bind_eq_ok.mpr ⟨_, read, ?_⟩⟩
      exact (finish_eq_ok differ).mpr ⟨passed'', rfl⟩

namespace Holds

variable {members members' : List (Option String × JsonNode)} {x : α} {name : String}
  {node node' : JsonNode}

theorem perm (h : Holds tag content variants a members x) (same : members'.Perm members) :
    Holds tag content variants a members' x := by
  cases h with
  | alone passes order chosen read => exact .alone passes (same.trans order) chosen read
  | both passes order chosen read => exact .both passes (same.trans order) chosen read

/-- One more member may be passed over. -/
theorem cons (h : Holds tag content variants a members x) (notTag : name ≠ tag)
    (notContent : name ≠ content) (passes : a.passes node = true) :
    Holds tag content variants a ((some name, node) :: members) x := by
  cases h with
  | alone passed order chosen read =>
    exact .alone (passed.cons notTag notContent passes) ((order.cons _).trans (.swap _ _ _)) chosen
      read
  | both passed order chosen read =>
    refine .both (passed.cons notTag notContent passes) ((order.cons _).trans ?_) chosen read
    exact (List.Perm.swap _ _ _).trans (.cons _ (.swap _ _ _))

/-- A member that is passed over may be left out. -/
theorem of_cons (h : Holds tag content variants a ((some name, node) :: members) x)
    (notTag : name ≠ tag) (notContent : name ≠ content) :
    Holds tag content variants a members x := by
  have apart {other} {node'} (h : name ≠ other) : (some name, node) ≠ (some other, node') :=
    fun same => h (Option.some.inj (congrArg Prod.fst same))
  have fewer {passed passed'} (h : Passed tag content a passed)
      (same : passed.Perm ((some name, node) :: passed')) : Passed tag content a passed' :=
    (List.forall_mem_cons.mp (h.perm same.symm)).2
  cases h with
  | alone passes order chosen read =>
    obtain ⟨passed', same, order⟩ := exists_of_cons_perm_cons order (apart notTag)
    exact .alone (fewer passes same) order chosen read
  | both passes order chosen read =>
    obtain ⟨rest, same, order⟩ := exists_of_cons_perm_cons order (apart notTag)
    obtain ⟨passed', same, rest_perm⟩ := exists_of_cons_perm_cons same.symm (apart notContent)
    exact .both (fewer passes same) (order.trans (rest_perm.cons _)) chosen read

/-- The content may be replaced by one that is read the same. -/
theorem replace (h : Holds tag content variants a ((some content, node) :: members) x)
    (differ : content ≠ tag)
    (same : ∀ v ∈ variants, v.2.read a node = .ok x → v.2.read a node' = .ok x) :
    Holds tag content variants a ((some content, node') :: members) x := by
  cases h with
  | @alone passed _ _ passes order =>
    have there : (some content, node) ∈ (some tag, _) :: passed :=
      order.mem_iff.mp List.mem_cons_self
    obtain h | h := List.mem_cons.mp there
    · cases h
      exact absurd rfl differ
    · obtain ⟨_, ⟨⟩, -, other, -⟩ := passes _ h
      exact absurd rfl other
  | @both passed _ other variant passes order chosen read =>
    have there : (some content, node) ∈ (some tag, _) :: (some content, other) :: passed :=
      order.mem_iff.mp List.mem_cons_self
    obtain ⟨_, member⟩ := mem_of_choice chosen
    obtain h | h := List.mem_cons.mp there
    · cases h
      exact absurd rfl differ
    obtain h | h := List.mem_cons.mp h
    · cases h
      have rest := (order.trans (.swap _ _ _)).cons_inv
      exact .both passes ((rest.cons _).trans (.swap _ _ _)) chosen (same _ member read)
    · obtain ⟨_, ⟨⟩, -, other, -⟩ := passes _ h
      exact absurd rfl other

end Holds

/-- **An alternative is read the same from an object or a list that is put in another way.** -/
theorem describes_beside {inside : Layout} (differ : content ≠ tag)
    (held : ∀ v ∈ variants, v.2.read.HoldsBack)
    (described : ∀ v ∈ variants, inside.Describes v.2.read) :
    (Layout.beside tag content inside).Describes (beside tag content variants) := by
  intro node node' reworded a x read
  cases reworded with
  | @item _ _ before after node node' place within =>
    -- In a list only the content, behind the tag, is something that can be put in another way.
    rw [Layout.item?] at place
    split at place
    · rename_i second
      cases place
      obtain ⟨first, rfl⟩ := List.length_eq_one_iff.mp second
      obtain ⟨inner, entered, h⟩ := bind_eq_ok.mp read
      obtain ⟨variant, chosen, h⟩ := bind_eq_ok.mp h
      obtain ⟨value, content, h⟩ := bind_eq_ok.mp h
      obtain ⟨_, member⟩ := mem_of_readTag chosen
      have content := described _ member within inner value content
      exact bind_eq_ok.mpr ⟨inner, entered,
        bind_eq_ok.mpr ⟨variant, chosen, bind_eq_ok.mpr ⟨value, content, h⟩⟩⟩
    · cases place
  | member place within =>
    rw [Layout.member?] at place
    split at place
    · rename_i same
      cases same
      cases place
      obtain ⟨inner, entered, holds⟩ := holds_of_beside differ held read
      refine beside_of_holds differ held entered (.perm (.replace (holds.perm List.perm_middle.symm)
        differ fun v member read => described v member within inner x read) List.perm_middle)
    · cases place
  | permuted same =>
    obtain ⟨inner, entered, holds⟩ := holds_of_beside differ held read
    exact beside_of_holds differ held entered (holds.perm same.symm)
  | added passed readable =>
    obtain ⟨inner, entered, holds⟩ := holds_of_beside differ held read
    simp only [Layout.passesOver, Bool.and_eq_true, decide_eq_true_eq] at passed
    have holds := holds.cons passed.1 passed.2 (inner.passes_of_wellFormed readable)
    exact beside_of_holds differ held entered (holds.perm List.perm_middle)
  | removed passed =>
    obtain ⟨inner, entered, holds⟩ := holds_of_beside differ held read
    simp only [Layout.passesOver, Bool.and_eq_true, decide_eq_true_eq] at passed
    have holds := holds.perm List.perm_middle.symm
    exact beside_of_holds differ held entered (holds.of_cons passed.1 passed.2)
  | nullAdded nullable | nullRemoved nullable => cases nullable

end

end JsonVariant

end SchemaEvolution
