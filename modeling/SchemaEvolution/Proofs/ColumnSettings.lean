import SchemaEvolution.Proofs.Creation
import SchemaEvolution.Proofs.Documents
import SchemaEvolution.Proofs.ForeignKeys

/-!
# The type and the default of a column that changes

Of a column the database keeps its type and its default, if it has one; a default can be dropped
only where there is one (`ColumnSettings.execute`). The statements of a change of a column lead from
the type and the default of the one version to those of the other, and none of them is refused
(`ColumnSettings.replay_changeColumn`).

Two defaults may differ without a statement that says so. The database knows nothing of a value
supplied by the application, and so nothing of a change from such a default to none. Of defaults
that count as the same, only those that are both expressions can have different texts, as long as
constants have no doubles, whose zeros have signs (`Sql.defaultText?_eq_of_equivalent`).
-/

namespace SchemaEvolution

/-! ## Defaults that count as the same -/

namespace Json

mutual

/-- Without doubles there are no zeros with signs. -/
theorem Whole.unsignedZeros : ∀ {j : Json}, j.Whole → j.unsignedZeros = j
  | .null, _ | .bool _, _ | .text _, _ => rfl
  | .number n, h => by
    cases n with
    | whole _ _ => rfl
    | double _ => cases h
  | .list items, h => by
    rw [Whole] at h
    rw [Json.unsignedZeros, ItemsWhole.unsignedZeros h]
  | .object members, h => by
    rw [Whole] at h
    rw [Json.unsignedZeros, MembersWhole.unsignedZeros h]

theorem ItemsWhole.unsignedZeros : ∀ {items : List Json},
    ItemsWhole items → itemsUnsignedZeros items = items
  | [], _ => rfl
  | item :: rest, h => by
    rw [ItemsWhole] at h
    rw [itemsUnsignedZeros, Whole.unsignedZeros h.1, ItemsWhole.unsignedZeros h.2]

theorem MembersWhole.unsignedZeros : ∀ {members : List (String × Json)},
    MembersWhole members → membersUnsignedZeros members = members
  | [], _ => rfl
  | (name, value) :: rest, h => by
    rw [MembersWhole] at h
    rw [membersUnsignedZeros, Whole.unsignedZeros h.1, MembersWhole.unsignedZeros h.2]

end

end Json

namespace ColumnDefault

/-- Two defaults are both expressions. -/
def areExpressions : Option ColumnDefault → Option ColumnDefault → Bool
  | some (.expression _), some (.expression _) => true
  | _, _ => false

theorem equivalent?_of_areExpressions {x? y? : Option ColumnDefault}
    (h : areExpressions x? y? = true) : equivalent? x? y? = true := by
  unfold areExpressions at h
  split at h
  · rfl
  · cases h

end ColumnDefault

/-- Defaults that count as the same have the same text, unless they are expressions. -/
theorem Sql.defaultText?_eq_of_equivalent (d : Dialect) {x? y? : Option ColumnDefault}
    (whole : ∀ v ∈ x?.toList.flatMap ColumnDefault.literals, v.Whole)
    (whole' : ∀ v ∈ y?.toList.flatMap ColumnDefault.literals, v.Whole)
    (h : ColumnDefault.equivalent? x? y? = true)
    (other : ColumnDefault.areExpressions x? y? = false) :
    defaultText? d x? = defaultText? d y? := by
  cases WrittenAlike.of_equivalent d h with
  | expressions => cases other
  | literals alike =>
    rw [(whole _ List.mem_cons_self).unsignedZeros,
      (whole' _ List.mem_cons_self).unsignedZeros] at alike
    exact congrArg some alike
  | same alike => exact alike

/-! ## Settings -/

/-- What the database keeps of the type and the default of a column. -/
structure ColumnSettings where
  type : String
  default? : Option String
deriving DecidableEq

namespace ColumnSettings

open Ddl (fieldStatements)

/-- The settings that a version of a column is to have. -/
def ofColumn (d : Dialect) (c : Column) : ColumnSettings :=
  ⟨c.physical.inDialect d, Sql.defaultText? d c.default?⟩

/-- What a change of a table makes of the settings of a column, or `none` if it is refused. -/
def alter (column : String) (s : ColumnSettings) : Sql.AlterClause → Option ColumnSettings
  | .setType c type | .restate c type _ => some (if c = column then { s with type } else s)
  | .setDefault c value => some (if c = column then { s with default? := some value } else s)
  | .dropDefault c =>
    if c ≠ column then some s
    else if s.default?.isSome then some { s with default? := none } else none
  | _ => some s

/-- What a statement makes of the settings of a column, or `none` if it is refused. -/
def execute (table column : String) (s : ColumnSettings) :
    Sql.Statement → Option ColumnSettings
  | .alterTable table' clause => if table' = table then alter column s clause else some s
  | _ => some s

section

variable {d : Dialect} {table column : String} {s : ColumnSettings} {c : Column}
  {keyColumn : Bool} {edits : List FieldEdit}

@[simp] theorem execute_alterTable (clause : Sql.AlterClause) :
    execute table column s (.alterTable table clause) = alter column s clause :=
  if_pos rfl

/-- One default takes the place of another, whether the database knows of both, of one or of
none. -/
theorem execute_changeDefault {before after : Option ColumnDefault}
    (now : s.default? = Sql.defaultText? d before) :
    (Ddl.changeDefault d table column before after).foldlM (execute table column) s =
      some { s with default? := Sql.defaultText? d after } := by
  obtain ⟨type, default?⟩ := s
  obtain rfl : default? = _ := now
  unfold Ddl.changeDefault
  cases Sql.defaultText? d before <;> cases Sql.defaultText? d after <;> simp [alter]

theorem execute_type (t : ColumnType) :
    (fieldStatements d table c keyColumn edits (.type t c.physical)).foldlM
        (execute table c.name) s = some { s with type := c.physical.inDialect d } := by
  cases d <;> simp [fieldStatements, Ddl.Postgres.editField, Ddl.Spanner.editField,
    Ddl.Spanner.restate, alter, PhysicalType.inDialect]

/-- To say anew whether a column may be null leaves its type, if that is new already. -/
theorem execute_nullable (typed : s.type = c.physical.inDialect d) (nullable : Bool) :
    (fieldStatements d table c keyColumn edits (.nullable nullable)).foldlM
        (execute table c.name) s = some s := by
  cases d with
  | postgres => cases nullable <;> simp [fieldStatements, Ddl.Postgres.editField, alter]
  | spanner =>
    obtain ⟨type, default?⟩ := s
    obtain rfl : type = _ := typed
    simp [fieldStatements, Ddl.Spanner.editField, Ddl.Spanner.restate, alter,
      PhysicalType.inDialect]

theorem execute_default {before after : Option ColumnDefault}
    (now : s.default? = Sql.defaultText? d before) :
    (fieldStatements d table c keyColumn edits (.default before after)).foldlM
        (execute table c.name) s = some { s with default? := Sql.defaultText? d after } := by
  cases d <;> exact execute_changeDefault now

theorem execute_primaryKey (flag : Bool) :
    (fieldStatements d table c keyColumn edits (.primaryKey flag)).foldlM
        (execute table c.name) s = some s := by
  cases d <;> rfl

theorem execute_unique (unique : Bool) :
    (fieldStatements d table c keyColumn edits (.unique unique)).foldlM
        (execute table c.name) s = some s := by
  cases d <;> cases unique <;> simp [fieldStatements, Ddl.Postgres.editField,
    Ddl.Spanner.editField, Ddl.Spanner.createUnique, Ddl.Spanner.dropUnique, alter, execute]

theorem execute_reference (before after : Option Reference) :
    (fieldStatements d table c keyColumn edits (.reference before after)).foldlM
        (execute table c.name) s = some s := by
  rw [ForeignKeys.fieldStatements_reference, ForeignKeys.exchange]
  cases before <;> cases after <;> simp [alter]

end

/-! ## Changes of a column -/

section

variable {d : Dialect} {table : String} {old new : Column} {keyColumn : Bool}

/-- A column is changed, unless it is to enter or leave the key in Spanner, by the statements of its
edits one after the other. -/
theorem exists_changeColumn_eq_ok (table : String) (keyColumn : Bool)
    (flag : d = .spanner → old.primaryKey = new.primaryKey) :
    ∃ r, Ddl.changeColumn d table new keyColumn (FieldEdit.between old new) = .ok r ∧
      r.statements = (FieldEdit.between old new).flatMap
        (fieldStatements d table new keyColumn (FieldEdit.between old new)) := by
  have compiles : ∃ r,
      Ddl.changeColumn d table new keyColumn (FieldEdit.between old new) = .ok r := by
    cases d with
    | postgres => exact ⟨_, rfl⟩
    | spanner =>
      have kept := FieldEdit.any_isKeyFlag_between.mpr (flag rfl)
      refine Ddl.exists_sequence_eq_ok.mpr (List.forall_mem_map.mpr fun edit hedit => ?_)
      have unflagged := Bool.eq_false_iff.mpr (List.any_eq_false.mp kept edit hedit)
      exact Ddl.Spanner.exists_editField_eq_ok.mpr unflagged
  obtain ⟨r, hr⟩ := compiles
  refine ⟨r, hr, ?_⟩
  rw [(Ddl.sequence_eq_ok hr).2]
  exact (List.append_nil _).symm.trans (Ddl.editStatements_change d table new.name new ..)

/-- An edit that leaves the settings as they are may be there or not. -/
theorem foldlM_flatMap_ite_self {p : Prop} [Decidable p] {edit : FieldEdit} {s : ColumnSettings}
    {step : ColumnSettings → Sql.Statement → Option ColumnSettings}
    {statements : FieldEdit → List Sql.Statement}
    (h : (statements edit).foldlM step s = some s) :
    ((if p then [edit] else []).flatMap statements).foldlM step s = some s := by
  split
  · rwa [List.flatMap_singleton]
  · rfl

/-- The type of a column is changed if there is an edit of it. -/
theorem execute_typeEdit (edits : List FieldEdit) :
    ((if old.type ≠ new.type ∨ old.physical ≠ new.physical then
        [.type new.type new.physical] else []).flatMap
          (fieldStatements d table new keyColumn edits)).foldlM
        (execute table new.name) (ofColumn d old) =
      some ⟨new.physical.inDialect d, Sql.defaultText? d old.default?⟩ := by
  split
  · rw [List.flatMap_singleton, execute_type]
    rfl
  · rename_i same
    rw [not_or, not_not, not_not] at same
    rw [ofColumn, same.2]
    rfl

/-- The default that a column has after a change. -/
def defaultAfter? (old new : Column) : Option ColumnDefault :=
  if ColumnDefault.areExpressions old.default? new.default? then old.default? else new.default?

/-- The default of a column is changed if there is an edit of it, and else it is the same already,
or an expression that stays. -/
theorem execute_defaultEdit (whole : ∀ v ∈ old.literals, v.Whole)
    (whole' : ∀ v ∈ new.literals, v.Whole) (edits : List FieldEdit) (type : String) :
    ((if ColumnDefault.equivalent? old.default? new.default? then []
        else [.default old.default? new.default?]).flatMap
          (fieldStatements d table new keyColumn edits)).foldlM
        (execute table new.name) ⟨type, Sql.defaultText? d old.default?⟩ =
      some ⟨type, Sql.defaultText? d (defaultAfter? old new)⟩ := by
  unfold defaultAfter?
  by_cases expressions : ColumnDefault.areExpressions old.default? new.default? = true
  · rw [if_pos (ColumnDefault.equivalent?_of_areExpressions expressions), if_pos expressions]
    rfl
  · rw [if_neg expressions]
    split
    · rename_i same
      rw [Sql.defaultText?_eq_of_equivalent d whole whole' same (Bool.eq_false_iff.mpr expressions)]
      rfl
    · rw [List.flatMap_singleton, execute_default rfl]

/-- **The statements of a change of a column lead from its type and default to the new ones.** In
Spanner the column is not to enter or leave the key, and no constant is to hold doubles. None of
the statements is refused, and in the end type and default are those of the new version; but of two
expressions the old one stays. -/
theorem replay_changeColumn (d : Dialect) (table : String) (old new : Column) (keyColumn : Bool)
    (flag : d = .spanner → old.primaryKey = new.primaryKey)
    (whole : ∀ v ∈ old.literals ++ new.literals, v.Whole) :
    ∃ r, Ddl.changeColumn d table new keyColumn (FieldEdit.between old new) = .ok r ∧
      r.statements.foldlM (execute table new.name) (ofColumn d old) =
        some ⟨new.physical.inDialect d, Sql.defaultText? d (defaultAfter? old new)⟩ := by
  obtain ⟨r, hr, hstatements⟩ := exists_changeColumn_eq_ok table keyColumn flag
  refine ⟨r, hr, ?_⟩
  rw [List.forall_mem_append] at whole
  have run : ∀ edits, ((FieldEdit.between old new).flatMap
      (fieldStatements d table new keyColumn edits)).foldlM (execute table new.name)
        (ofColumn d old) =
      some ⟨new.physical.inDialect d, Sql.defaultText? d (defaultAfter? old new)⟩ := by
    intro edits
    unfold FieldEdit.between
    simp only [List.flatMap_append, List.foldlM_append, Option.bind_eq_bind, execute_typeEdit,
      Option.bind_some]
    rw [foldlM_flatMap_ite_self (execute_nullable rfl _), Option.bind_some,
      execute_defaultEdit whole.1 whole.2, Option.bind_some,
      foldlM_flatMap_ite_self (execute_primaryKey _), Option.bind_some,
      foldlM_flatMap_ite_self (execute_unique _), Option.bind_some,
      foldlM_flatMap_ite_self (execute_reference _ _)]
  rw [hstatements, run]

end

end ColumnSettings

namespace Shop

/-- A price that was a number of cents becomes a decimal number that the application supplies. Its
default is dropped where there is one, and between that its NOT NULL states its type once more. -/
theorem replay_changeColumn_price :
    let old := (number "price").withDefault (.literal (.of (.number (.whole 0 (by decide)))))
    let new := { (number "price").notNull with
      type := .decimal, physical := ⟨"NUMERIC", "NUMERIC"⟩, default? := some .supplied }
    (old.primaryKey = new.primaryKey ∧ ∀ v ∈ old.literals ++ new.literals, v.Whole) ∧
    ColumnSettings.ofColumn .spanner old = ⟨"INT64", some "0"⟩ ∧
    ∃ r, Ddl.changeColumn .spanner "goods" new false (FieldEdit.between old new) = .ok r ∧
      r.statements = [.alterTable "goods" (.restate "price" "NUMERIC" false),
        .alterTable "goods" (.restate "price" "NUMERIC" true),
        .alterTable "goods" (.dropDefault "price")] ∧
      r.statements.foldlM (ColumnSettings.execute "goods" "price") ⟨"INT64", some "0"⟩ =
        some ⟨"NUMERIC", none⟩ := by
  intro old new
  have flag : old.primaryKey = new.primaryKey := rfl
  have whole : ∀ v ∈ old.literals ++ new.literals, v.Whole := by decide
  have before : ColumnSettings.ofColumn .spanner old = ⟨"INT64", some "0"⟩ := by decide +kernel
  obtain ⟨r, hr, run⟩ :=
    ColumnSettings.replay_changeColumn .spanner "goods" old new false (fun _ => flag) whole
  have compiled : Ddl.changeColumn .spanner "goods" new false (FieldEdit.between old new) = .ok
      ⟨[.alterTable "goods" (.restate "price" "NUMERIC" false),
        .alterTable "goods" (.restate "price" "NUMERIC" true),
        .alterTable "goods" (.dropDefault "price")], []⟩ := by decide +kernel
  obtain rfl := Except.ok.inj (hr.symm.trans compiled)
  rw [before] at run
  exact ⟨⟨flag, whole⟩, before, _, compiled, rfl, run⟩

end Shop

end SchemaEvolution
