import Mathlib
import SchemaEvolution.Database.DryRun
import SchemaEvolution.Ledger.Record
import SchemaEvolution.Proofs.NameMap

/-!
# What a session leaves in a dry run

A session is made of calls, and a dry run carries them out one after the other: what it does with a
session and then another is what it does with each (`Session.rehearse_bind`). So a session is
described by what it ends with and by what it leaves behind (`Session.Leaves`): the lines it adds to
the log, the ledger, and how often it reads the clock. What it tells is left open.

The second half describes the sessions that keep the ledger. Their statements are about the ledger
and do what they say there; a statement that is to fail is noted and does nothing.
-/

namespace SchemaEvolution

/-! ## Parts and beginnings of texts -/

theorem occursIn_iff {part cs : List Char} : occursIn part cs = true ↔ part <:+: cs := by
  induction cs with
  | nil => rw [occursIn, List.isEmpty_iff, List.infix_nil]
  | cons c rest ih =>
    rw [occursIn, Bool.or_eq_true, List.isPrefixOf_iff_prefix, ih, List.infix_cons_iff]

theorem hasPart_self_append (part after : String) : hasPart (part ++ after) part = true := by
  rw [hasPart, occursIn_iff, String.toList_append]
  exact (List.prefix_append _ _).isInfix

theorem hasPart_append_right {text part : String} (h : hasPart text part = true)
    (before : String) : hasPart (before ++ text) part = true := by
  rw [hasPart, occursIn_iff, String.toList_append]
  exact (occursIn_iff.mp h).trans (List.suffix_append _ _).isInfix

/-- How a text begins is told by its start, if that is long enough. -/
theorem beginsWith_append {text start : String} (h : start.toList.length ≤ text.toList.length)
    (more : String) : beginsWith (text ++ more) start = beginsWith text start := by
  rw [Bool.eq_iff_iff, beginsWith, beginsWith, List.isPrefixOf_iff_prefix,
    List.isPrefixOf_iff_prefix, String.toList_append]
  exact ⟨fun hp => List.prefix_of_prefix_length_le hp (List.prefix_append _ _) h,
    fun hp => hp.trans (List.prefix_append _ _)⟩

/-! ## From one state to the next -/

namespace DryRun

/-- A dry run has come from one state to another: these lines are new in the log, the ledger is this
one, and the clock was read so often. -/
structure Follows (s : DryRun) (lines : List String) (ledger? : Option (List LedgerRow))
    (readings : Nat) (s' : DryRun) : Prop where
  log : s'.log = s.log ++ lines
  ledger : s'.ledger? = ledger?
  readings : s'.readings = s.readings + readings
  failing : s'.failing? = s.failing?
  connected : s'.connected = s.connected

theorem Follows.trans {s s' s'' : DryRun} {lines lines' : List String}
    {ledger? ledger'? : Option (List LedgerRow)} {m n : Nat} (h : s.Follows lines ledger? m s')
    (h' : s'.Follows lines' ledger'? n s'') : s.Follows (lines ++ lines') ledger'? (m + n) s'' where
  log := by rw [h'.log, h.log, List.append_assoc]
  ledger := h'.ledger
  readings := by rw [h'.readings, h.readings, Nat.add_assoc]
  failing := h'.failing.trans h.failing
  connected := h'.connected.trans h.connected

theorem follows_hear (s : DryRun) (message : Message) :
    s.Follows [] s.ledger? 0 (s.hear message) :=
  ⟨(List.append_nil _).symm, rfl, rfl, rfl, rfl⟩

theorem follows_note (s : DryRun) (line : String) : s.Follows [line] s.ledger? 0 (s.note line) :=
  ⟨rfl, rfl, rfl, rfl, rfl⟩

theorem follows_record (s : DryRun) (what sql : String) :
    s.Follows [sql] s.ledger? 0 (s.record what sql) :=
  ⟨rfl, rfl, rfl, rfl, rfl⟩

theorem Follows.withLedger {s s' : DryRun} {lines : List String}
    {ledger? : Option (List LedgerRow)} {n : Nat} (h : s.Follows lines ledger? n s')
    (ledger'? : Option (List LedgerRow)) :
    s.Follows lines ledger'? n { s' with ledger? := ledger'? } :=
  ⟨h.log, rfl, h.readings, h.failing, h.connected⟩

end DryRun

/-! ## Sessions -/

namespace Session

variable {α β ε δ : Type} {clock : Nat → Instant}

/-- **One session after another is rehearsed as the one and then the other.** -/
theorem rehearse_bind (p : Session α) (f : α → Session β) (s : DryRun) :
    (p.bind f).rehearse clock s =
      (f (p.rehearse clock s).1).rehearse clock (p.rehearse clock s).2 := by
  induction p generalizing s with
  | done value => rfl
  | connect next ih => exact ih _ f _
  | disconnect next ih => exact ih _ f _
  | execute sql params next ih => exact ih _ f _
  | batch sqls next ih => exact ih _ f _
  | query sql params next ih => exact ih _ f _
  | transaction work next _ ih => exact ih _ f _
  | clock next ih => exact ih _ f _
  | tell message next ih => exact ih f _

/-- What a session ends with when it is carried out from a state, and what it leaves behind. -/
def Leaves (clock : Nat → Instant) (p : Session α) (s : DryRun) (result : α) (lines : List String)
    (ledger? : Option (List LedgerRow)) (readings : Nat) : Prop :=
  ∃ s', p.rehearse clock s = (result, s') ∧ s.Follows lines ledger? readings s'

namespace Leaves

variable {s : DryRun} {lines lines' : List String} {ledger? ledger'? : Option (List LedgerRow)}
  {m n : Nat}

/-- A session ends in one way. -/
theorem unique {p : Session α} {a b : α} (h : p.Leaves clock s a lines ledger? m)
    (h' : p.Leaves clock s b lines' ledger'? n) : a = b := by
  obtain ⟨_, ran, -⟩ := h
  obtain ⟨_, ran', -⟩ := h'
  exact (Prod.mk.inj (ran.symm.trans ran')).1

theorem bind {p : Session α} {f : α → Session β} {a : α} {b : β}
    (h : p.Leaves clock s a lines ledger? m)
    (k : ∀ s', s.Follows lines ledger? m s' → (f a).Leaves clock s' b lines' ledger'? n) :
    (p.bind f).Leaves clock s b (lines ++ lines') ledger'? (m + n) := by
  obtain ⟨s', hp, hs'⟩ := h
  obtain ⟨s'', hf, hs''⟩ := k s' hs'
  refine ⟨s'', ?_, hs'.trans hs''⟩
  rw [rehearse_bind, hp]
  exact hf

/-- A session that goes well goes on with what follows. -/
theorem bind_ok {p : Fallible ε α} {f : α → Fallible ε β} {a : α} {r : Except ε β}
    (h : p.run.Leaves clock s (.ok a) lines ledger? m)
    (k : ∀ s', s.Follows lines ledger? m s' → (f a).run.Leaves clock s' r lines' ledger'? n) :
    (p >>= f).run.Leaves clock s r (lines ++ lines') ledger'? (m + n) :=
  bind h k

/-- What follows may leave nothing more. -/
theorem bind_quiet {p : Session α} {f : α → Session β} {a : α} {b : β}
    (h : p.Leaves clock s a lines ledger? n)
    (k : ∀ s', s.Follows lines ledger? n s' → (f a).Leaves clock s' b [] ledger'? 0) :
    (p.bind f).Leaves clock s b lines ledger'? n := by
  have both := bind h k
  rwa [List.append_nil] at both

/-- A session that fails does nothing of what follows. -/
theorem bind_error {p : Fallible ε α} {e : ε} (h : p.run.Leaves clock s (.error e) lines ledger? m)
    (f : α → Fallible ε β) : (p >>= f).run.Leaves clock s (.error e) lines ledger? m := by
  obtain ⟨s', hp, hs'⟩ := h
  refine ⟨s', ?_, hs'⟩
  change (p.run.bind _).rehearse clock s = _
  rw [rehearse_bind, hp]
  rfl

theorem done (a : α) (h : s.ledger? = ledger?) : (Session.done a).Leaves clock s a [] ledger? 0 :=
  ⟨s, rfl, (List.append_nil _).symm, h, rfl, rfl, rfl⟩

theorem bind_pure {p : Fallible ε α} {r : Except ε α} (h : p.run.Leaves clock s r lines ledger? n)
    (f : α → β) : (p >>= fun a => pure (f a)).run.Leaves clock s (r.map f) lines ledger? n := by
  obtain ⟨s', hp, hs'⟩ := h
  refine ⟨s', ?_, hs'⟩
  change (p.run.bind _).rehearse clock s = _
  rw [rehearse_bind, hp]
  cases r <;> rfl

/-- What is told goes before, and leaves nothing but itself. -/
theorem tell {p : Session α} {a : α} (message : Message)
    (k : ∀ s', s.Follows [] s.ledger? 0 s' → p.Leaves clock s' a lines ledger? n) :
    (Session.tell message p).Leaves clock s a lines ledger? n := by
  obtain ⟨s', hp, hs'⟩ := k _ (s.follows_hear message)
  refine ⟨s', hp, ?_⟩
  simpa only [List.nil_append, Nat.zero_add] using (s.follows_hear message).trans hs'

theorem tell_bind {r : Except ε β} {f : Unit → Fallible ε β} (message : Message)
    (k : ∀ s', s.Follows [] s.ledger? 0 s' → (f ()).run.Leaves clock s' r lines ledger? n) :
    (Fallible.tell message >>= f).run.Leaves clock s r lines ledger? n :=
  tell message k

/-- A word on what has gone well leaves nothing but itself. -/
theorem then_tell {p : Fallible ε α} {r : Except ε α}
    (h : p.run.Leaves clock s r lines ledger? n) (told : α → Message) :
    (p >>= fun a => do Fallible.tell (told a); pure a).run.Leaves clock s r lines ledger? n := by
  obtain ⟨s', hp, hs'⟩ := h
  cases r with
  | error e => exact bind_error ⟨s', hp, hs'⟩ _
  | ok a =>
    refine ⟨s'.hear (told a), ?_, ⟨hs'.log, hs'.ledger, hs'.readings, hs'.failing, hs'.connected⟩⟩
    change (p.run.bind _).rehearse clock s = _
    rw [rehearse_bind, hp]
    rfl

theorem wrap {p : Fallible ε α} {r : Except ε α} (h : p.run.Leaves clock s r lines ledger? n)
    (f : ε → δ) : (p.wrap f).run.Leaves clock s (r.mapError f) lines ledger? n := by
  obtain ⟨s', hp, hs'⟩ := h
  refine ⟨s', ?_, hs'⟩
  change (p.run.bind _).rehearse clock s = _
  rw [rehearse_bind, hp]
  rfl

theorem execute {sql : String} {params : List Cell} {answer : Answer Nat} {s' : DryRun}
    (h : s.execute sql params = (answer, s')) (hs' : s.Follows lines ledger? n s') :
    (Strict.execute sql params).run.Leaves clock s answer lines ledger? n :=
  ⟨s', h, hs'⟩

theorem batch {sqls : List String} {answer : Answer Unit} {s' : DryRun}
    (h : s.batch sqls = (answer, s')) (hs' : s.Follows lines ledger? n s') :
    (Strict.batch sqls).run.Leaves clock s answer lines ledger? n :=
  ⟨s', h, hs'⟩

theorem query {sql : String} {params : List Cell} {answer : Answer (List Row)} {s' : DryRun}
    (h : s.query sql params = (answer, s')) (hs' : s.Follows lines ledger? n s') :
    (Strict.query sql params).run.Leaves clock s answer lines ledger? n :=
  ⟨s', h, hs'⟩

/-- Work that goes well is kept. -/
theorem transaction {work : Strict Unit}
    (h : work.run.Leaves clock (s.note "BEGIN") (.ok ()) lines ledger? n) :
    (Strict.transaction work).run.Leaves clock s (.ok ()) ("BEGIN" :: (lines ++ ["COMMIT"])) ledger?
      n := by
  obtain ⟨s', hwork, hs'⟩ := h
  refine ⟨s'.note "COMMIT", ?_, ?_⟩
  · change (Session.transaction work.run _).rehearse clock s = _
    rw [rehearse, hwork]
    rfl
  · have ended := ((s.follows_note "BEGIN").trans hs').trans (s'.follows_note "COMMIT")
    rw [hs'.ledger, Nat.zero_add, Nat.add_zero] at ended
    exact ended

/-- Nothing that failing work has done is kept but its lines in the log. -/
theorem transaction_error {work : Strict Unit} {e : DatabaseError}
    (h : work.run.Leaves clock (s.note "BEGIN") (.error e) lines ledger? n) :
    (Strict.transaction work).run.Leaves clock s (.error e) ("BEGIN" :: (lines ++ ["ROLLBACK"]))
      s.ledger? n := by
  obtain ⟨s', hwork, hs'⟩ := h
  let back : DryRun := { s' with ledger? := s.ledger? }
  refine ⟨back.note "ROLLBACK", ?_, ?_⟩
  · change (Session.transaction work.run _).rehearse clock s = _
    rw [rehearse, hwork]
    rfl
  · have ended := ((s.follows_note "BEGIN").trans (hs'.withLedger s.ledger?)).trans
      (back.follows_note "ROLLBACK")
    rw [Nat.zero_add, Nat.add_zero] at ended
    exact ended

theorem readClock (s : DryRun) :
    Strict.clock.run.Leaves clock s (.ok (clock s.readings)) [] s.ledger? 1 :=
  ⟨{ s with readings := s.readings + 1 }, rfl, (List.append_nil _).symm, rfl, rfl, rfl, rfl⟩

theorem discard {p : Fallible ε α} {r : Except ε α} (h : p.run.Leaves clock s r lines ledger? n) :
    (Functor.discard p).run.Leaves clock s (r.map fun _ => ()) lines ledger? n := by
  obtain ⟨s', hp, hs'⟩ := h
  refine ⟨s', ?_, hs'⟩
  change (p.run.bind _).rehearse clock s = _
  rw [rehearse_bind, hp]
  cases r <;> rfl

end Leaves

end Session

/-! ## The statements of the ledger -/

namespace Ledger

/-! Each of the statements names the ledger right behind its first words. -/

theorem exists_createSql (d : Dialect) :
    ∃ rest, createSql d = "CREATE TABLE " ++ (table ++ rest) := by
  unfold createSql
  cases d with
  | postgres =>
    generalize timeColumn .postgres = column
    simp only [String.append_assoc]
    exact ⟨_, rfl⟩
  | spanner =>
    generalize timeColumn .spanner = column
    simp only [String.append_assoc]
    exact ⟨_, rfl⟩

theorem exists_insertSql (d : Dialect) :
    ∃ rest, insertSql d = "INSERT INTO " ++ (table ++ rest) := by
  unfold insertSql
  generalize timeColumn d = column
  simp only [String.append_assoc]
  exact ⟨_, rfl⟩

theorem exists_deleteSql (d : Dialect) :
    ∃ rest, deleteSql d = "DELETE FROM " ++ (table ++ rest) := by
  unfold deleteSql
  generalize parameter d 1 = first
  simp only [String.append_assoc]
  exact ⟨_, rfl⟩

theorem hasPart_createSql (d : Dialect) : hasPart (createSql d) table = true := by
  obtain ⟨rest, h⟩ := exists_createSql d
  rw [h]
  exact hasPart_append_right (hasPart_self_append ..) _

theorem hasPart_insertSql (d : Dialect) : hasPart (insertSql d) table = true := by
  obtain ⟨rest, h⟩ := exists_insertSql d
  rw [h]
  exact hasPart_append_right (hasPart_self_append ..) _

theorem hasPart_deleteSql (d : Dialect) : hasPart (deleteSql d) table = true := by
  obtain ⟨rest, h⟩ := exists_deleteSql d
  rw [h]
  exact hasPart_append_right (hasPart_self_append ..) _

theorem hasPart_selectSql (d : Dialect) : hasPart (selectSql d) table = true := by
  unfold selectSql
  generalize timeColumn d = column
  simp only [String.append_assoc]
  iterate 3 refine hasPart_append_right ?_ _
  exact hasPart_self_append ..

theorem createSql_begins (d : Dialect) : beginsWith (createSql d) "CREATE TABLE" = true := by
  obtain ⟨rest, h⟩ := exists_createSql d
  rw [h, beginsWith_append (by decide)]
  decide

theorem insertSql_begins (d : Dialect) : beginsWith (insertSql d) "CREATE TABLE" = false ∧
    beginsWith (insertSql d) "INSERT" = true := by
  obtain ⟨rest, h⟩ := exists_insertSql d
  rw [h, beginsWith_append (by decide), beginsWith_append (by decide)]
  decide

theorem deleteSql_begins (d : Dialect) : beginsWith (deleteSql d) "CREATE TABLE" = false ∧
    beginsWith (deleteSql d) "INSERT" = false ∧ beginsWith (deleteSql d) "DELETE" = true := by
  obtain ⟨rest, h⟩ := exists_deleteSql d
  rw [h, beginsWith_append (by decide), beginsWith_append (by decide),
    beginsWith_append (by decide)]
  decide

end Ledger

namespace DryRun

variable {s : DryRun} {rows : List LedgerRow}

/-- The failure of a statement that is to fail. -/
def injected (sql : String) : DatabaseError :=
  .other ("injected failure: " ++ sql)

theorem execute_of_fails {sql : String} (h : s.fails sql = true) (params : List Cell) :
    s.execute sql params = (.error (injected sql), s.record "SQL" sql) := by
  rw [execute, if_pos h]
  rfl

/-- A statement that is not to fail does what it does to the ledger. -/
theorem execute_of_not_fails {sql : String} (h : s.fails sql = false) (params : List Cell) :
    s.execute sql params =
      match effect s.ledger? sql params with
      | .ok (changed, ledger?) => (.ok changed, { s.record "SQL" sql with ledger? })
      | .error e => (.error e, s.record "SQL" sql) := by
  rw [execute]
  exact (if_neg (Bool.not_eq_true _ ▸ h)).trans rfl

theorem effect_createSql (d : Dialect) (ledger? : Option (List LedgerRow)) :
    effect ledger? (Ledger.createSql d) [] =
      match ledger? with
      | some _ => .error ⟨.alreadyExists, "table " ++ Ledger.table ++ " already exists"⟩
      | none => .ok (0, some []) := by
  unfold effect
  rw [Ledger.hasPart_createSql, Ledger.createSql_begins]
  rfl

theorem effect_insertSql (d : Dialect) (rows : List LedgerRow) (params : List Cell) :
    effect (some rows) (Ledger.insertSql d) params =
      (insertRow rows params).map fun r => (r.1, some r.2) := by
  obtain ⟨create, insert⟩ := Ledger.insertSql_begins d
  rw [effect, Ledger.hasPart_insertSql, create, insert]
  rfl

theorem effect_deleteSql (d : Dialect) (rows : List LedgerRow) (params : List Cell) :
    effect (some rows) (Ledger.deleteSql d) params =
      (deleteRow rows params).map fun r => (r.1, some r.2) := by
  obtain ⟨create, insert, delete⟩ := Ledger.deleteSql_begins d
  rw [effect, Ledger.hasPart_deleteSql, create, insert, delete]
  rfl

theorem insertRow_of_new {name dialect : String} {time : Instant}
    (h : rows.any (·.isFor name dialect) = false) :
    insertRow rows [.text name, .text dialect, .timestamp time] =
      .ok (1, rows ++ [⟨name, dialect, time⟩]) := by
  change (if rows.any (·.isFor name dialect) then _ else _) = _
  rw [h]
  rfl

end DryRun

namespace Ledger

open Session (Leaves Strict)

variable {s : DryRun} {rows : List LedgerRow} {d : Dialect}

/-! ## Sessions that keep the ledger -/

theorem leaves_create_failed (clock : Nat → Instant) (h : s.fails (createSql d) = true) :
    (create d).run.Leaves clock s (.error (DryRun.injected (createSql d))) [createSql d] s.ledger?
      0 := by
  have failed := DryRun.execute_of_fails h []
  have noted := s.follows_record "SQL" (createSql d)
  cases d with
  | postgres => exact (Leaves.execute failed noted).discard
  | spanner =>
    refine Leaves.batch ?_ (noted.withLedger s.ledger?)
    rw [DryRun.batch, DryRun.executeAll, failed]

/-- The failure of creating a ledger that is there. -/
def alreadyThere : DatabaseError :=
  ⟨.alreadyExists, "table " ++ table ++ " already exists"⟩

theorem leaves_create (clock : Nat → Instant) (h : s.fails (createSql d) = false) :
    (create d).run.Leaves clock s
      (if s.ledger?.isSome then .error alreadyThere else .ok ()) [createSql d]
      (some (s.ledger?.getD [])) 0 := by
  have done := DryRun.execute_of_not_fails h []
  rw [DryRun.effect_createSql] at done
  have noted := s.follows_record "SQL" (createSql d)
  cases hledger : s.ledger? with
  | none =>
    rw [hledger] at done
    cases d with
    | postgres => exact (Leaves.execute done (noted.withLedger (some []))).discard
    | spanner =>
      refine Leaves.batch ?_ (noted.withLedger (some []))
      rw [DryRun.batch, DryRun.executeAll, done]
      rfl
  | some rows =>
    rw [hledger] at done noted
    cases d with
    | postgres => exact (Leaves.execute done noted).discard
    | spanner =>
      refine Leaves.batch ?_ (noted.withLedger (some rows))
      rw [DryRun.batch, DryRun.executeAll, done, hledger]
      rfl

/-- A ledger that cannot be created is left as it was. -/
theorem leaves_ensure_failed (clock : Nat → Instant) (h : s.fails (createSql d) = true) :
    (ensure d).run.Leaves clock s (.error (.ledgerNotCreated (DryRun.injected (createSql d))))
      [createSql d] s.ledger? 0 :=
  Leaves.bind_quiet (leaves_create_failed clock h) fun _ hs' => Leaves.done _ hs'.ledger

/-- A ledger that is there is as good as a new one. -/
theorem leaves_ensure (clock : Nat → Instant) (h : s.fails (createSql d) = false) :
    (ensure d).run.Leaves clock s (.ok ()) [createSql d] (some (s.ledger?.getD [])) 0 := by
  refine Leaves.bind_quiet (leaves_create clock h) fun s' hs' => ?_
  cases s.ledger?.isSome with
  | true => exact Leaves.tell _ fun s'' hs'' => Leaves.done _ (hs''.ledger.trans hs'.ledger)
  | false => exact Leaves.tell _ fun s'' hs'' => Leaves.done _ (hs''.ledger.trans hs'.ledger)

/-- What a row says about a migration. -/
def migrationOf (d : Dialect) (r : LedgerRow) : AppliedMigration :=
  ⟨r.name, d, r.appliedAt⟩

theorem decode_toRow (r : LedgerRow) : decode d r.toRow = .ok (migrationOf d r) := by
  have name : r.toRow.find? "name" = some (.text r.name) := by
    rw [LedgerRow.toRow, NameMap.find?_ofList]
    rfl
  have time : r.toRow.find? "appliedAt" = some (.timestamp r.appliedAt) := by
    rw [LedgerRow.toRow, NameMap.find?_ofList]
    rfl
  rw [decode, name, time]
  rfl

theorem mapM_decode_toRow (rows : List LedgerRow) :
    (rows.map LedgerRow.toRow).mapM (decode d) = .ok (rows.map (migrationOf d)) := by
  induction rows with
  | nil => rfl
  | cons r rest ih =>
    rw [List.map_cons, List.mapM_cons, decode_toRow, ih]
    rfl

/-- The rows of a dialect in the order in which they are read. -/
def rowsFor (d : Dialect) (ledger? : Option (List LedgerRow)) : List LedgerRow :=
  DryRun.select (ledger?.getD []) [.text d.tag]

theorem rowsFor_none (d : Dialect) : rowsFor d none = [] :=
  List.mergeSort_nil

/-- The ledger is read as it is; one that is not there has no rows. -/
theorem leaves_applied (clock : Nat → Instant) (s : DryRun) :
    (applied d).run.Leaves clock s (.ok ((rowsFor d s.ledger?).map (migrationOf d))) [selectSql d]
      s.ledger? 0 := by
  have noted := s.follows_record "query" (selectSql d)
  cases hledger : s.ledger? with
  | none =>
    have query : s.query (selectSql d) [.text d.tag] =
        (.error DryRun.noLedger, s.record "query" (selectSql d)) := by
      rw [DryRun.query, hasPart_selectSql, hledger]
      rfl
    rw [hledger] at noted
    refine Leaves.bind_quiet (Leaves.query query noted) fun s' hs' => ?_
    rw [rowsFor_none]
    exact Leaves.tell _ fun s'' hs'' => Leaves.done _ (hs''.ledger.trans hs'.ledger)
  | some rows =>
    have query : s.query (selectSql d) [.text d.tag] =
        (.ok ((DryRun.select rows [.text d.tag]).map LedgerRow.toRow),
          s.record "query" (selectSql d)) := by
      rw [DryRun.query, hasPart_selectSql, hledger]
      rfl
    rw [hledger] at noted
    refine Leaves.bind_quiet (Leaves.query query noted) fun s' hs' => ?_
    change (Session.done _).Leaves clock s' _ _ _ _
    rw [mapM_decode_toRow]
    exact Leaves.done _ hs'.ledger

/-- The names of a dialect in the order in which they are read. -/
def namesFor (d : Dialect) (ledger? : Option (List LedgerRow)) : List String :=
  (rowsFor d ledger?).map (·.name)

theorem leaves_appliedNames (clock : Nat → Instant) (s : DryRun) :
    (appliedNames d).run.Leaves clock s (.ok (namesFor d s.ledger?)) [selectSql d] s.ledger? 0 := by
  have names : namesFor d s.ledger? =
      ((rowsFor d s.ledger?).map (migrationOf d)).map (·.name) := by
    rw [List.map_map]
    rfl
  have listed := (leaves_applied (d := d) clock s).bind_pure fun migrations =>
    migrations.map (·.name)
  rw [names]
  exact listed

/-- The note that a migration is applied, when it is not to fail and the ledger does not list the
migration. -/
theorem leaves_recordApplied (clock : Nat → Instant) {name : String}
    (hledger : s.ledger? = some rows) (h : s.fails (insertSql d) = false)
    (new : rows.any (·.isFor name d.tag) = false) :
    (recordApplied d name).run.Leaves clock s (.ok ()) [insertSql d]
      (some (rows ++ [⟨name, d.tag, clock s.readings⟩])) 1 := by
  have read : Strict.clock.run.Leaves clock s (.ok (clock s.readings)) [] s.ledger? 1 :=
    Leaves.readClock s
  refine Leaves.bind_ok (n := 0) read fun s' hs' => ?_
  have h' : s'.fails (insertSql d) = false := by rwa [DryRun.fails, hs'.failing]
  have done := DryRun.execute_of_not_fails h'
    [.text name, .text d.tag, .timestamp (clock s.readings)]
  rw [hs'.ledger, hledger, DryRun.effect_insertSql, DryRun.insertRow_of_new new] at done
  exact (Leaves.execute done ((s'.follows_record ..).withLedger _)).discard

theorem leaves_recordApplied_failed (clock : Nat → Instant) (name : String)
    (h : s.fails (insertSql d) = true) :
    (recordApplied d name).run.Leaves clock s (.error (DryRun.injected (insertSql d)))
      [insertSql d] s.ledger? 1 := by
  have read : Strict.clock.run.Leaves clock s (.ok (clock s.readings)) [] s.ledger? 1 :=
    Leaves.readClock s
  refine Leaves.bind_ok (n := 0) read fun s' hs' => ?_
  have h' : s'.fails (insertSql d) = true := by rwa [DryRun.fails, hs'.failing]
  have noted := s'.follows_record "SQL" (insertSql d)
  rw [hs'.ledger] at noted
  exact (Leaves.execute (DryRun.execute_of_fails h' _) noted).discard

theorem leaves_recordReverted (clock : Nat → Instant) {name : String}
    (hledger : s.ledger? = some rows) (h : s.fails (deleteSql d) = false) :
    (recordReverted d name).run.Leaves clock s (.ok ()) [deleteSql d]
      (some (rows.filter (!·.isFor name d.tag))) 0 := by
  have done := DryRun.execute_of_not_fails h [.text name, .text d.tag]
  rw [hledger, DryRun.effect_deleteSql] at done
  exact (Leaves.execute done ((s.follows_record ..).withLedger _)).discard

theorem leaves_recordReverted_failed (clock : Nat → Instant) (name : String)
    (h : s.fails (deleteSql d) = true) :
    (recordReverted d name).run.Leaves clock s (.error (DryRun.injected (deleteSql d)))
      [deleteSql d] s.ledger? 0 :=
  (Leaves.execute (DryRun.execute_of_fails h _) (s.follows_record ..)).discard

end Ledger

end SchemaEvolution
