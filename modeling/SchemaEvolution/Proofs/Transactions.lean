import Mathlib.Data.List.Lex
import Mathlib.Data.String.Basic
import SchemaEvolution.Proofs.Compiling
import SchemaEvolution.Proofs.Rehearsal

/-!
# The ledger of a dry run is a table with transactions

Of a database a dry run keeps the ledger alone, and it keeps it as a database would: no two rows
have the same name and dialect, and a call that fails changes nothing, be it a statement, a batch or
a transaction with everything that was done in it. This holds of every call of every session, at any
depth of transactions and whatever the session makes of its answers
(`Session.passage_of_start`).

A statement can do four things to the ledger (`DryRun.Change`), and each of them keeps the names and
dialects apart. What holds of one call is `DryRun.Step.Transactional`, and what holds of all calls
between two states of a dry run is `DryRun.Passage`. The calls of a session are listed as they are
answered, so a transaction stands behind the calls of its work; whichever way it ends, it leaves the
rows of a state that has been before.
-/

namespace SchemaEvolution

/-! ## The order in which rows are read -/

namespace Instant

theorem eq_of_key {a b : Instant} (h : a.key = b.key) : a = b := by
  obtain ⟨⟨_, _, _, _⟩, _, _, _⟩ := a
  obtain ⟨⟨_, _, _, _⟩, _, _, _⟩ := b
  simp only [key, List.cons.injEq, Int.ofNat_inj] at h
  obtain ⟨rfl, rfl, rfl, rfl, rfl, -⟩ := h
  rfl

theorem lt_of_lt_of_lt {a b c : Instant} (hab : a < b) (hbc : b < c) : a < c :=
  List.lt_trans hab hbc

theorem lt_or_eq_or_gt (a b : Instant) : a < b ∨ a = b ∨ b < a :=
  (lt_trichotomy a.key b.key).imp id (Or.imp eq_of_key id)

end Instant

namespace LedgerRow

variable {a b c : LedgerRow}

/-- What no two rows of a ledger share. -/
def key (r : LedgerRow) : String × String :=
  (r.name, r.dialect)

/-- A row comes before another if its time is earlier, or the same and its name comes first. -/
def Precedes (a b : LedgerRow) : Prop :=
  a.appliedAt < b.appliedAt ∨ a.appliedAt = b.appliedAt ∧ a.name < b.name

theorem upTo_iff : a.upTo b = true ↔
    a.appliedAt < b.appliedAt ∨ a.appliedAt = b.appliedAt ∧ a.name ≤ b.name := by
  simp only [upTo, Bool.or_eq_true, Bool.and_eq_true, decide_eq_true_eq]

theorem upTo_trans (hab : a.upTo b = true) (hbc : b.upTo c = true) : a.upTo c = true := by
  rw [upTo_iff] at *
  rcases hab with hab | ⟨hab, nab⟩
  · rcases hbc with hbc | ⟨hbc, -⟩
    · exact .inl (Instant.lt_of_lt_of_lt hab hbc)
    · exact .inl (hbc ▸ hab)
  · rw [hab]
    exact hbc.imp_right (And.imp_right nab.trans)

theorem upTo_total (a b : LedgerRow) : (a.upTo b || b.upTo a) = true := by
  rw [Bool.or_eq_true, upTo_iff, upTo_iff]
  rcases Instant.lt_or_eq_or_gt a.appliedAt b.appliedAt with h | h | h
  · exact .inl (.inl h)
  · exact (le_total a.name b.name).imp (fun hn => .inr ⟨h, hn⟩) fun hn => .inr ⟨h.symm, hn⟩
  · exact .inr (.inl h)

/-- Rows with different names can stand in one order only. -/
theorem precedes_of_upTo (h : a.upTo b = true) (apart : a.name ≠ b.name) : a.Precedes b :=
  (upTo_iff.mp h).imp_right (And.imp_right fun hn => lt_of_le_of_ne hn apart)

theorem isFor_iff {name dialect : String} :
    a.isFor name dialect = true ↔ a.key = (name, dialect) := by
  rw [isFor, Bool.and_eq_true, beq_iff_eq, beq_iff_eq, key, Prod.mk.injEq]

end LedgerRow

namespace DryRun

variable {rows : List LedgerRow}

/-- No two rows have the same name and dialect. -/
def KeysUnique (ledger? : Option (List LedgerRow)) : Prop :=
  ((ledger?.getD []).map LedgerRow.key).Nodup

theorem map_key_filter_isFor (name dialect : String) :
    (rows.filter (·.isFor name dialect)).map LedgerRow.key =
      List.replicate (rows.countP (·.isFor name dialect)) (name, dialect) := by
  rw [List.eq_replicate_iff, List.length_map, List.countP_eq_length_filter]
  refine ⟨rfl, fun key hkey => ?_⟩
  obtain ⟨r, hr, rfl⟩ := List.mem_map.mp hkey
  exact LedgerRow.isFor_iff.mp (List.mem_filter.mp hr).2

/-- At most one row has a name and a dialect. -/
theorem countP_isFor_le_one (h : KeysUnique (some rows)) (name dialect : String) :
    rows.countP (·.isFor name dialect) ≤ 1 := by
  have unique : ((rows.filter (·.isFor name dialect)).map LedgerRow.key).Nodup :=
    List.Nodup.sublist (List.filter_sublist.map _) h
  rwa [map_key_filter_isFor, List.nodup_replicate] at unique

theorem length_filter_not_isFor (rows : List LedgerRow) (name dialect : String) :
    (rows.filter (!·.isFor name dialect)).length + rows.countP (·.isFor name dialect) =
      rows.length := by
  have split := rows.length_eq_countP_add_countP (·.isFor name dialect)
  simp only [Bool.not_eq_true, Bool.decide_eq_false] at split
  rw [split, ← List.countP_eq_length_filter, Nat.add_comm]

theorem perm_select {params : List Cell} {dialect : String}
    (h : params.head?.bind Cell.text? = some dialect) :
    (select rows params).Perm (rows.filter (·.dialect = dialect)) := by
  rw [select, h]
  exact List.mergeSort_perm ..

theorem pairwise_upTo_select (rows : List LedgerRow) (params : List Cell) :
    (select rows params).Pairwise fun a b => a.upTo b = true :=
  @List.pairwise_mergeSort _ LedgerRow.upTo (fun _ _ _ => LedgerRow.upTo_trans)
    LedgerRow.upTo_total _

/-- Rows of one dialect are read in their order, in which no two of them are equal. -/
theorem pairwise_precedes_select {params : List Cell} {dialect : String}
    (unique : KeysUnique (some rows)) (h : params.head?.bind Cell.text? = some dialect) :
    (select rows params).Pairwise LedgerRow.Precedes := by
  have filtered : ((rows.filter (·.dialect = dialect)).map LedgerRow.key).Nodup :=
    List.Nodup.sublist (List.filter_sublist.map _) unique
  have apart : ((select rows params).map LedgerRow.key).Nodup :=
    ((perm_select h).map _).nodup_iff.mpr filtered
  have alike {r : LedgerRow} (hr : r ∈ select rows params) : r.dialect = dialect :=
    of_decide_eq_true (List.mem_filter.mp ((perm_select h).mem_iff.mp hr)).2
  refine ((pairwise_upTo_select rows params).and (List.pairwise_map.mp apart)).imp_of_mem ?_
  rintro a b ha hb ⟨hle, hne⟩
  refine LedgerRow.precedes_of_upTo hle fun hname => hne ?_
  rw [LedgerRow.key, LedgerRow.key, hname, alike ha, alike hb]

/-! ## What a statement does to the ledger -/

/-- What a statement can do to the ledger, with the number of rows that it says it has changed. -/
inductive Change : Option (List LedgerRow) → Nat → Option (List LedgerRow) → Prop
  | nothing (ledger? : Option (List LedgerRow)) : Change ledger? 0 ledger?
  | create : Change none 0 (some [])
  | insert (rows : List LedgerRow) (r : LedgerRow)
    (new : rows.any (·.isFor r.name r.dialect) = false) : Change (some rows) 1 (some (rows ++ [r]))
  | delete (rows : List LedgerRow) (name dialect : String) :
    Change (some rows) (rows.countP (·.isFor name dialect))
      (some (rows.filter (!·.isFor name dialect)))

theorem textOf_eq_ok {c : Cell} {s : String} (h : textOf c = .ok s) : c = .text s := by
  cases c <;> cases h
  rfl

/-- A row that is added has a key of its own. -/
theorem change_of_insertRow {params : List Cell} {changed : Nat} {rows' : List LedgerRow}
    (h : insertRow rows params = .ok (changed, rows')) :
    Change (some rows) changed (some rows') := by
  unfold insertRow at h
  split at h
  · obtain ⟨name, -, h⟩ := bind_eq_ok.mp h
    obtain ⟨dialect, -, h⟩ := bind_eq_ok.mp h
    split at h
    · cases h
    · rename_i appliedAt _
      split at h
      · cases h
      · rename_i new
        cases h
        exact .insert rows ⟨name, dialect, appliedAt⟩ ((Bool.not_eq_true _).mp new)
  · cases h

/-- Rows that are removed are those of the name and the dialect in the parameters. -/
theorem deleteRow_eq_ok {params : List Cell} {changed : Nat} {rows' : List LedgerRow}
    (h : deleteRow rows params = .ok (changed, rows')) :
    ∃ name dialect, params = [.text name, .text dialect] ∧
      changed = rows.countP (·.isFor name dialect) ∧
      rows' = rows.filter (!·.isFor name dialect) := by
  unfold deleteRow at h
  split at h
  · obtain ⟨name, hname, h⟩ := bind_eq_ok.mp h
    obtain ⟨dialect, hdialect, h⟩ := bind_eq_ok.mp h
    cases h
    refine ⟨name, dialect, by rw [textOf_eq_ok hname, textOf_eq_ok hdialect], ?_, rfl⟩
    have kept := length_filter_not_isFor rows name dialect
    omega
  · cases h

/-- A statement that removes rows neither creates the ledger nor adds a row. -/
theorem not_begins_of_delete {sql : String} (h : beginsWith sql "DELETE" = true) :
    beginsWith sql "CREATE TABLE" = false ∧ beginsWith sql "INSERT" = false := by
  rw [beginsWith, List.isPrefixOf_iff_prefix] at h
  obtain ⟨rest, h⟩ := h
  rw [beginsWith, beginsWith, ← h]
  exact ⟨rfl, rfl⟩

variable {ledger? ledger'? : Option (List LedgerRow)} {sql : String} {params : List Cell}
  {changed : Nat}

theorem effect_of_delete (about : hasPart sql Ledger.table = true)
    (delete : beginsWith sql "DELETE" = true)
    (h : effect ledger? sql params = .ok (changed, ledger'?)) :
    ∃ rows name dialect, ledger? = some rows ∧ params = [.text name, .text dialect] ∧
      changed = rows.countP (·.isFor name dialect) ∧
      ledger'? = some (rows.filter (!·.isFor name dialect)) := by
  obtain ⟨notCreate, notInsert⟩ := not_begins_of_delete delete
  simp only [effect, about, notCreate, notInsert, delete, Bool.not_true, Bool.false_eq_true,
    if_false, if_true] at h
  cases ledger? with
  | none => cases h
  | some rows =>
    obtain ⟨r, hr, h⟩ := map_eq_ok.mp h
    cases h
    obtain ⟨name, dialect, hparams, hchanged, hrows⟩ := deleteRow_eq_ok hr
    exact ⟨rows, name, dialect, rfl, hparams, hchanged, congrArg some hrows⟩

/-- Whatever a statement does to the ledger is a change of one of the four kinds. -/
theorem change_of_effect (h : effect ledger? sql params = .ok (changed, ledger'?)) :
    Change ledger? changed ledger'? := by
  unfold effect at h
  split at h
  · cases h
    exact .nothing ledger?
  · split at h
    · cases ledger? with
      | some rows => cases h
      | none =>
        cases h
        exact .create
    · cases ledger? with
      | none => cases h
      | some rows =>
        dsimp only at h
        split at h
        · obtain ⟨r, hr, h⟩ := map_eq_ok.mp h
          cases h
          exact change_of_insertRow hr
        · split at h
          · obtain ⟨r, hr, h⟩ := map_eq_ok.mp h
            cases h
            obtain ⟨name, dialect, -, hchanged, hrows⟩ := deleteRow_eq_ok hr
            rw [hchanged, hrows]
            exact .delete rows name dialect
          · cases h
            exact .nothing (some rows)

theorem keysUnique_none : KeysUnique none :=
  List.nodup_nil

/-- **No statement makes two rows alike.** -/
theorem Change.keysUnique (h : Change ledger? changed ledger'?) (unique : KeysUnique ledger?) :
    KeysUnique ledger'? := by
  cases h with
  | nothing => exact unique
  | create => exact List.nodup_nil
  | insert rows r new =>
    change ((rows ++ [r]).map LedgerRow.key).Nodup
    rw [List.map_append, List.map_singleton, List.nodup_append_comm, List.singleton_append,
      List.nodup_cons]
    refine ⟨fun hr => ?_, unique⟩
    obtain ⟨r', hr', alike⟩ := List.mem_map.mp hr
    exact List.any_eq_false.mp new r' hr' (LedgerRow.isFor_iff.mpr alike)
  | delete rows name dialect => exact List.Nodup.sublist (List.filter_sublist.map _) unique

/-! ## From state to state -/

/-- A dry run can go from one state to another: the log goes on, and if no two rows were alike, then
no two are. -/
structure Advances (s s' : DryRun) : Prop where
  log : s.log <+: s'.log
  unique : KeysUnique s.ledger? → KeysUnique s'.ledger?

variable {s s' s'' : DryRun}

theorem Advances.refl (s : DryRun) : s.Advances s :=
  ⟨List.prefix_rfl, id⟩

theorem Advances.trans (h : s.Advances s') (h' : s'.Advances s'') : s.Advances s'' :=
  ⟨h.log.trans h'.log, h'.unique ∘ h.unique⟩

/-- What is noted does not change the ledger. -/
theorem advances_of_append {lines : List String} (log : s'.log = s.log ++ lines)
    (ledger : s'.ledger? = s.ledger?) : s.Advances s' :=
  ⟨log ▸ List.prefix_append _ _, ledger ▸ id⟩

/-- Taking back what was done to the ledger leaves its rows as they were. -/
theorem Advances.rollback (h : s.Advances s') :
    s.Advances { s' with ledger? := s.ledger? } :=
  ⟨h.log, id⟩

/-- A statement that fails is noted, and nothing else. One that succeeds does what it does to the
ledger. -/
theorem execute_cases (s : DryRun) (sql : String) (params : List Cell) :
    (∃ e, s.execute sql params = (.error e, s.record "SQL" sql)) ∨
      ∃ changed ledger?, effect s.ledger? sql params = .ok (changed, ledger?) ∧
        s.execute sql params = (.ok changed, { s.record "SQL" sql with ledger? }) := by
  cases hfails : s.fails sql with
  | true => exact .inl ⟨injected sql, execute_of_fails hfails params⟩
  | false =>
    have done := execute_of_not_fails hfails params
    cases heffect : effect s.ledger? sql params with
    | error e => exact .inl ⟨e, by rw [done, heffect]⟩
    | ok changed => exact .inr ⟨changed.1, changed.2, rfl, by rw [done, heffect]⟩

theorem advances_execute (s : DryRun) (sql : String) (params : List Cell) :
    s.Advances (s.execute sql params).2 := by
  rcases s.execute_cases sql params with ⟨e, h⟩ | ⟨changed, ledger?, heffect, h⟩
  · rw [h]
    exact advances_of_append rfl rfl
  · rw [h]
    exact ⟨List.prefix_append _ _, (change_of_effect heffect).keysUnique⟩

theorem advances_executeAll (s : DryRun) (sqls : List String) :
    s.Advances (s.executeAll sqls).2 := by
  induction sqls generalizing s with
  | nil => exact .refl s
  | cons sql rest ih =>
    have one := s.advances_execute sql []
    rw [executeAll]
    generalize s.execute sql [] = answered at one
    obtain ⟨_ | _, s'⟩ := answered
    · exact one
    · exact one.trans (ih s')

/-- A batch that fails leaves the ledger as it was. -/
theorem batch_cases (s : DryRun) (sqls : List String) :
    (∃ e, s.batch sqls = (.error e, { (s.executeAll sqls).2 with ledger? := s.ledger? })) ∨
      s.batch sqls = (.ok (), (s.executeAll sqls).2) := by
  rw [batch]
  rcases s.executeAll sqls with ⟨e | ⟨⟨⟩⟩, s'⟩
  · exact .inl ⟨e, rfl⟩
  · exact .inr rfl

theorem advances_batch (s : DryRun) (sqls : List String) : s.Advances (s.batch sqls).2 := by
  have all := s.advances_executeAll sqls
  rcases s.batch_cases sqls with ⟨e, h⟩ | h
  · rw [h]
    exact all.rollback
  · rw [h]
    exact all

/-- The end of a transaction, be it one way or the other. -/
theorem Advances.finish {ε β : Type} (h : (s.note "BEGIN").Advances s') (ending : Except ε β) :
    s.Advances (finish s s' ending) := by
  have noted : s.Advances (s.note "BEGIN") := advances_of_append rfl rfl
  have begun := noted.trans h
  cases ending with
  | error e => exact begun.rollback.trans (advances_of_append rfl rfl)
  | ok b => exact begun.trans (advances_of_append rfl rfl)

/-! ## Calls -/

/-- A call and its answer; of a transaction, whether it has failed. -/
inductive Call where
  | execute (sql : String) (params : List Cell) (answer : Answer Nat)
  | batch (sqls : List String) (answer : Answer Unit)
  | query (sql : String) (params : List Cell) (answer : Answer (List Row))
  | transaction (failed : Bool)

namespace Call

/-- Whether a call has failed. -/
def failed : Call → Bool
  | .execute _ _ answer => !answer.isOk
  | .batch _ answer => !answer.isOk
  | .query _ _ answer => !answer.isOk
  | .transaction failed => failed

end Call

/-- A call with the states in which it was made and answered. -/
structure Step where
  before : DryRun
  call : Call
  after : DryRun

/-- What a table with transactions and a key makes of a call. -/
structure Step.Transactional (t : Step) : Prop where
  unique : KeysUnique t.before.ledger? ∧ KeysUnique t.after.ledger?
  log : t.before.log <+: t.after.log
  /-- A call that fails has done nothing. -/
  failed : t.call.failed = true → t.after.ledger? = t.before.ledger?
  /-- Rows are removed by name and dialect, and there is at most one to remove. -/
  deleted : ∀ sql params n, t.call = .execute sql params (.ok n) →
    hasPart sql Ledger.table = true → beginsWith sql "DELETE" = true →
    ∃ rows name dialect, params = [.text name, .text dialect] ∧ t.before.ledger? = some rows ∧
      t.after.ledger? = some (rows.filter (!·.isFor name dialect)) ∧
      (rows.filter (!·.isFor name dialect)).length + n = rows.length ∧ n ≤ 1
  /-- The rows of a dialect are read in their order. -/
  selected : ∀ sql params answer dialect, t.call = .query sql params answer →
    hasPart sql Ledger.table = true → params.head?.bind Cell.text? = some dialect →
    match t.before.ledger? with
    | none => answer = .error noLedger
    | some rows => ∃ found : List LedgerRow, answer = .ok (found.map LedgerRow.toRow) ∧
        found.Perm (rows.filter (·.dialect = dialect)) ∧ found.Pairwise LedgerRow.Precedes

theorem transactional_execute (unique : KeysUnique s.ledger?) {sql : String}
    {params : List Cell} {answer : Answer Nat} (h : s.execute sql params = (answer, s')) :
    Step.Transactional ⟨s, .execute sql params answer, s'⟩ := by
  have advances := s.advances_execute sql params
  rw [h] at advances
  refine ⟨⟨unique, advances.unique unique⟩, advances.log, fun failed => ?_,
    fun sql' params' n called about delete => ?_, nofun⟩
  · rcases s.execute_cases sql params with ⟨e, h'⟩ | ⟨changed, ledger?, -, h'⟩
    · cases h.symm.trans h'
      rfl
    · cases h.symm.trans h'
      cases failed
  · cases called
    rcases s.execute_cases sql params with ⟨e, h'⟩ | ⟨changed, ledger?, heffect, h'⟩
    · cases h.symm.trans h'
    · cases h.symm.trans h'
      obtain ⟨rows, name, dialect, hrows, hparams, hn, hledger⟩ :=
        effect_of_delete about delete heffect
      refine ⟨rows, name, dialect, hparams, hrows, hledger, ?_, ?_⟩
      · rw [hn]
        exact length_filter_not_isFor rows name dialect
      · rw [hn]
        exact countP_isFor_le_one (hrows ▸ unique) name dialect

theorem transactional_batch (unique : KeysUnique s.ledger?) {sqls : List String}
    {answer : Answer Unit} (h : s.batch sqls = (answer, s')) :
    Step.Transactional ⟨s, .batch sqls answer, s'⟩ := by
  have advances := s.advances_batch sqls
  rw [h] at advances
  refine ⟨⟨unique, advances.unique unique⟩, advances.log, fun failed => ?_, nofun, nofun⟩
  rcases s.batch_cases sqls with ⟨e, h'⟩ | h'
  · cases h.symm.trans h'
    rfl
  · cases h.symm.trans h'
    cases failed

theorem transactional_query (unique : KeysUnique s.ledger?) {sql : String} {params : List Cell}
    {answer : Answer (List Row)} (h : s.query sql params = (answer, s')) :
    Step.Transactional ⟨s, .query sql params answer, s'⟩ := by
  cases h
  refine ⟨⟨unique, unique⟩, List.prefix_append _ _, fun _ => rfl, nofun,
    fun sql' params' answer dialect called about text => ?_⟩
  cases called
  rw [about]
  cases hledger : s.ledger? with
  | none => rfl
  | some rows =>
    exact ⟨select rows params, rfl, perm_select text,
      pairwise_precedes_select (hledger ▸ unique) text⟩

theorem transactional_finish {ε β : Type} (unique : KeysUnique s.ledger?)
    (h : (s.note "BEGIN").Advances s') (ending : Except ε β) :
    Step.Transactional ⟨s, .transaction !ending.isOk, finish s s' ending⟩ := by
  have advances := h.finish ending
  refine ⟨⟨unique, advances.unique unique⟩, advances.log, fun failed => ?_, nofun, nofun⟩
  cases ending with
  | error e => rfl
  | ok b => cases failed

/-! ## All calls of a session -/

/-- What holds of the calls that take a dry run from one state to another. -/
structure Passage (s : DryRun) (steps : List Step) (s' : DryRun) : Prop where
  transactional : ∀ t ∈ steps, t.Transactional
  /-- The log that a call leaves goes on from what the calls before it have left. -/
  logs : steps.Pairwise fun t u => t.after.log <+: u.after.log
  between : ∀ t ∈ steps, s.log <+: t.after.log ∧ t.after.log <+: s'.log
  log : s.log <+: s'.log
  unique : KeysUnique s'.ledger?

namespace Passage

variable {steps steps' : List Step}

theorem nil (h : s.Advances s') (unique : KeysUnique s.ledger?) : Passage s [] s' :=
  ⟨List.forall_mem_nil _, .nil, List.forall_mem_nil _, h.log, h.unique unique⟩

theorem append (h : Passage s steps s') (h' : Passage s' steps' s'') :
    Passage s (steps ++ steps') s'' where
  transactional t ht := (List.mem_append.mp ht).elim (h.transactional t) (h'.transactional t)
  logs := List.pairwise_append.mpr ⟨h.logs, h'.logs, fun t ht u hu =>
    (h.between t ht).2.trans (h'.between u hu).1⟩
  between t ht := by
    rcases List.mem_append.mp ht with ht | ht
    · exact ⟨(h.between t ht).1, (h.between t ht).2.trans h'.log⟩
    · exact ⟨h.log.trans (h'.between t ht).1, (h'.between t ht).2⟩
  log := h.log.trans h'.log
  unique := h'.unique

/-- What touches neither the log nor the ledger may come before. -/
theorem quiet (h : Passage s' steps s'') (log : s'.log = s.log) (ledger : s'.ledger? = s.ledger?)
    (unique : KeysUnique s.ledger?) : Passage s steps s'' :=
  (nil (advances_of_append (log.trans (List.append_nil _).symm) ledger) unique).append h

/-- A call may be answered long after it was made. -/
theorem answered (h : Passage s steps s') {t : Step} (ht : t.Transactional)
    (log : s'.log <+: t.after.log) : Passage s (steps ++ [t]) t.after := by
  have last : Passage s' [t] t.after := by
    refine ⟨?_, List.pairwise_singleton _ t, ?_, log, ht.unique.2⟩
    · intro u hu
      cases List.mem_singleton.mp hu
      exact ht
    · intro u hu
      cases List.mem_singleton.mp hu
      exact ⟨log, List.prefix_rfl⟩
  exact h.append last

theorem singleton {t : Step} (ht : t.Transactional) : Passage t.before [t] t.after :=
  (nil (.refl t.before) ht.unique.1).answered ht ht.log

/-- The calls of a transaction's work, and then the transaction. -/
theorem transaction {ε β : Type} (h : Passage (s.note "BEGIN") steps s')
    (unique : KeysUnique s.ledger?) (ending : Except ε β) :
    Passage s (steps ++ [⟨s, .transaction !ending.isOk, finish s s' ending⟩])
      (finish s s' ending) := by
  have ended := transactional_finish unique ⟨h.log, fun _ => h.unique⟩ ending
  have begun : Passage s [] (s.note "BEGIN") := nil (advances_of_append rfl rfl) unique
  refine (begun.append h).answered ended ?_
  cases ending with
  | error e => exact List.prefix_append _ _
  | ok b => exact List.prefix_append _ _

end Passage

end DryRun

namespace Session

open DryRun

/-- The calls of a session that is carried out as a dry run, at every depth, in the order in which
they are answered: a transaction comes behind the calls of its work. -/
def steps {α : Type} (clock : Nat → Instant) : Session α → DryRun → List Step
  | .done _, _ => []
  | .connect next, s => (next (.ok ())).steps clock { s with connected := true }
  | .disconnect next, s => (next (.ok ())).steps clock { s with connected := false }
  | .execute sql params next, s =>
    let (answer, after) := s.execute sql params
    ⟨s, .execute sql params answer, after⟩ :: (next answer).steps clock after
  | .batch sqls next, s =>
    let (answer, after) := s.batch sqls
    ⟨s, .batch sqls answer, after⟩ :: (next answer).steps clock after
  | .query sql params next, s =>
    let (answer, after) := s.query sql params
    ⟨s, .query sql params answer, after⟩ :: (next answer).steps clock after
  | .transaction work next, s =>
    let (ending, worked) := work.rehearse clock (s.note "BEGIN")
    let after := DryRun.finish s worked ending
    work.steps clock (s.note "BEGIN") ++
      ⟨s, .transaction !ending.isOk, after⟩ :: (next (.ok ending)).steps clock after
  | .clock next, s =>
    (next (clock s.readings)).steps clock { s with readings := s.readings + 1 }
  | .tell message next, s => next.steps clock (s.hear message)

/-- **Every call of a session is carried out as by a table with a key and transactions.** -/
theorem passage {α : Type} (clock : Nat → Instant) (p : Session α) {s : DryRun}
    (unique : KeysUnique s.ledger?) : Passage s (p.steps clock s) (p.rehearse clock s).2 := by
  induction p generalizing s with
  | done value => exact .nil (.refl s) unique
  | connect next ih =>
    exact (ih (.ok ()) (s := { s with connected := true }) unique).quiet rfl rfl unique
  | disconnect next ih =>
    exact (ih (.ok ()) (s := { s with connected := false }) unique).quiet rfl rfl unique
  | execute sql params next ih =>
    have one : Step.Transactional ⟨s, .execute sql params _, _⟩ :=
      transactional_execute unique rfl
    exact (Passage.singleton one).append (ih _ one.unique.2)
  | batch sqls next ih =>
    have one : Step.Transactional ⟨s, .batch sqls _, _⟩ := transactional_batch unique rfl
    exact (Passage.singleton one).append (ih _ one.unique.2)
  | query sql params next ih =>
    have one : Step.Transactional ⟨s, .query sql params _, _⟩ := transactional_query unique rfl
    exact (Passage.singleton one).append (ih _ one.unique.2)
  | transaction work next work_ih ih =>
    let ending := (work.rehearse clock (s.note "BEGIN")).1
    have one := (work_ih (s := s.note "BEGIN") unique).transaction unique ending
    have all := one.append (ih (.ok ending) one.unique)
    rwa [List.append_assoc] at all
  | clock next ih =>
    exact (ih _ (s := { s with readings := s.readings + 1 }) unique).quiet rfl rfl unique
  | tell message next ih => exact (ih (s := s.hear message) unique).quiet rfl rfl unique

/-- **A dry run keeps its ledger as a table with a key and transactions**, from its beginning and in
every session, whatever statements are to fail. -/
theorem passage_of_start {α : Type} (clock : Nat → Instant) (failing? : Option String)
    (p : Session α) :
    let s : DryRun := { DryRun.start with failing? }
    Passage s (p.steps clock s) (p.rehearse clock s).2 :=
  p.passage clock keysUnique_none

/-- The inner transaction creates the ledger and fails, and the outer one does not mind. -/
example (clock : Nat → Instant) :
    let inner : Session (Except String Unit) :=
      .execute "CREATE TABLE schema_migrations" [] fun _ => .done (.error "given up")
    let outer : Session (Except String Unit) := .transaction inner fun _ => .done (.ok ())
    let p : Session Unit := .transaction outer fun _ => .done ()
    (p.steps clock DryRun.start).map (fun t => (t.call.failed, t.after.ledger?.isSome)) =
      [(false, true), (true, false), (false, false)] :=
  rfl

end Session

end SchemaEvolution
