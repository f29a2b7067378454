import SchemaEvolution.Project.Apply
import SchemaEvolution.Proofs.Directories
import SchemaEvolution.Proofs.DocumentDepth
import SchemaEvolution.Proofs.Rehearsal

/-!
# Applying migrations in a dry run

A dry run of a migration's statements is told beforehand: while there is a ledger no statement
without parameters changes it (`DryRun.effect_of_ledger`), so which of them fails hangs on their
texts alone (`DryRun.refusal?`). What comes of a file when it is its turn (`Files.turn`) then hangs
on the file, the dialect and the text that lets statements fail, and not on what went before.

Files that have their turns one after the other are a `Course`: it ends at the first that stops, and
what it leaves in the log and the ledger is put together from the turns before
(`Project.leaves_applyAll`, by induction on the files, with a ledger that lists none of those to
come). The main statement, `Project.applyPending_outcome`, is about a project's directory in any
state, whatever the ledger lists and whatever is to fail.
-/

namespace SchemaEvolution

open Session (Strict Fallible Leaves)

/-! ## Statements of migrations -/

namespace DryRun

variable {s : DryRun} {rows : List LedgerRow} {failing? : Option String}

/-- Why a statement without parameters is refused by a ledger that is there: it lacks what to write
to the ledger or to remove from it, or would create it again. -/
def ledgerRefusal? (sql : String) : Option DatabaseError :=
  if !hasPart sql Ledger.table then none
  else if beginsWith sql "CREATE TABLE" then some Ledger.alreadyThere
  else if beginsWith sql "INSERT" then some (.other "ledger insert takes three parameters")
  else if beginsWith sql "DELETE" then some (.other "ledger delete takes two parameters")
  else none

/-- Why a statement without parameters fails while there is a ledger. -/
def refusal? (failing? : Option String) (sql : String) : Option DatabaseError :=
  if failing?.any (hasPart sql ·) then some (injected sql) else ledgerRefusal? sql

/-- The statements up to the first that fails, and with it. -/
def through (failing? : Option String) : List String → List String
  | [] => []
  | sql :: rest =>
    sql :: if (refusal? failing? sql).isSome then [] else through failing? rest

/-- **No statement without parameters changes a ledger that is there.** -/
theorem effect_of_ledger (rows : List LedgerRow) (sql : String) :
    effect (some rows) sql [] =
      match ledgerRefusal? sql with
      | none => .ok (0, some rows)
      | some e => .error e := by
  unfold effect ledgerRefusal?
  cases hasPart sql Ledger.table with
  | false => rfl
  | true =>
    cases beginsWith sql "CREATE TABLE" with
    | true => rfl
    | false =>
      cases beginsWith sql "INSERT" with
      | true => rfl
      | false => cases beginsWith sql "DELETE" <;> rfl

theorem execute_of_ledger (hledger : s.ledger? = some rows) (sql : String) :
    s.execute sql [] =
      (match refusal? s.failing? sql with
        | none => .ok 0
        | some e => .error e,
        s.record "SQL" sql) := by
  unfold refusal?
  cases hfails : s.fails sql with
  | true =>
    rw [execute_of_fails hfails, if_pos (show s.failing?.any (hasPart sql ·) = true from hfails)]
  | false =>
    have hnot : ¬ s.failing?.any (hasPart sql ·) = true := Bool.not_eq_true _ ▸ hfails
    rw [execute_of_not_fails hfails, if_neg hnot, hledger, effect_of_ledger]
    cases ledgerRefusal? sql with
    | none =>
      rw [← hledger]
      rfl
    | some e => rfl

variable (clock : Nat → Instant)

/-- What comes of statements, given the first failure. -/
def endingOf : Option DatabaseError → Answer Unit
  | none => .ok ()
  | some e => .error e

/-- The first failure of statements while there is a ledger. -/
def firstRefusal? (failing? : Option String) (sqls : List String) : Option DatabaseError :=
  sqls.findSome? (refusal? failing?)

theorem through_of_refusal {sql : String} {e : DatabaseError} (h : refusal? failing? sql = some e)
    (rest : List String) : through failing? (sql :: rest) = [sql] := by
  rw [through, h]
  rfl

theorem through_of_not_refusal {sql : String} (h : refusal? failing? sql = none)
    (rest : List String) : through failing? (sql :: rest) = sql :: through failing? rest := by
  rw [through, h]
  rfl

/-- Where nothing fails, all is gone through. -/
theorem through_eq_self {sqls : List String} (h : firstRefusal? failing? sqls = none) :
    through failing? sqls = sqls := by
  induction sqls with
  | nil => rfl
  | cons sql rest ih =>
    have all := List.findSome?_eq_none_iff.mp h
    rw [through_of_not_refusal (all sql List.mem_cons_self), ih]
    exact List.findSome?_eq_none_iff.mpr fun x hx => all x (List.mem_cons_of_mem _ hx)

theorem follows_executeAll (hledger : s.ledger? = some rows) (sqls : List String) :
    ∃ s', s.executeAll sqls = (endingOf (firstRefusal? s.failing? sqls), s') ∧
      s.Follows (through s.failing? sqls) (some rows) 0 s' := by
  induction sqls generalizing s with
  | nil => exact ⟨s, rfl, (List.append_nil _).symm, hledger, rfl, rfl, rfl⟩
  | cons sql rest ih =>
    have done := execute_of_ledger hledger sql
    have noted := s.follows_record "SQL" sql
    rw [hledger] at noted
    cases hsql : refusal? s.failing? sql with
    | some e =>
      rw [hsql] at done
      refine ⟨_, ?_, through_of_refusal hsql rest ▸ noted⟩
      rw [executeAll, done, firstRefusal?, List.findSome?_cons, hsql]
      rfl
    | none =>
      rw [hsql] at done
      obtain ⟨s', hrest, hs'⟩ := ih noted.ledger
      rw [noted.failing] at hrest hs'
      refine ⟨s', ?_, through_of_not_refusal hsql rest ▸ noted.trans hs'⟩
      rw [executeAll, done, firstRefusal?, List.findSome?_cons, hsql]
      exact hrest

theorem leaves_batch (hledger : s.ledger? = some rows) (sqls : List String) :
    (Strict.batch sqls).run.Leaves clock s (endingOf (firstRefusal? s.failing? sqls))
      (through s.failing? sqls) (some rows) 0 := by
  obtain ⟨s', hall, hs'⟩ := follows_executeAll hledger sqls
  cases hfirst : firstRefusal? s.failing? sqls with
  | none =>
    rw [hfirst] at hall
    refine Leaves.batch ?_ hs'
    rw [batch, hall]
    rfl
  | some e =>
    rw [hfirst] at hall
    refine Leaves.batch ?_ (hs'.withLedger (some rows))
    rw [batch, hall, hledger]
    rfl

theorem leaves_runStatements (hledger : s.ledger? = some rows) (sqls : List String) :
    (sqls.forM Routine.runStatement).run.Leaves clock s
      (endingOf (firstRefusal? s.failing? sqls)) (through s.failing? sqls) (some rows) 0 := by
  induction sqls generalizing s with
  | nil => exact Leaves.done _ hledger
  | cons sql rest ih =>
    have ran : (Routine.runStatement sql).run.Leaves clock s (endingOf (refusal? s.failing? sql))
        [sql] (some rows) 0 := by
      refine Leaves.tell_bind _ fun s' hs' => ?_
      have done := execute_of_ledger (hs'.ledger.trans hledger) sql
      have noted := s'.follows_record "SQL" sql
      rw [hs'.ledger, hledger] at noted
      rw [hs'.failing] at done
      cases hsql : refusal? s.failing? sql <;> rw [hsql] at done
      · exact (Leaves.execute done noted).discard
      · exact (Leaves.execute done noted).discard
    change (Routine.runStatement sql >>= fun _ => rest.forM Routine.runStatement).run.Leaves
      _ _ _ _ _ _
    cases hsql : refusal? s.failing? sql with
    | some e =>
      rw [hsql] at ran
      rw [through_of_refusal hsql, firstRefusal?, List.findSome?_cons, hsql]
      exact ran.bind_error _
    | none =>
      rw [hsql] at ran
      rw [through_of_not_refusal hsql, firstRefusal?, List.findSome?_cons, hsql]
      refine Leaves.bind_ok (m := 0) (n := 0) ran fun s' hs' => ?_
      have went := ih (s := s') hs'.ledger
      rwa [hs'.failing] at went

/-- Behind statements that all go well the next are gone through. -/
theorem through_append {sqls : List String} (h : firstRefusal? failing? sqls = none)
    (more : List String) : through failing? (sqls ++ more) = sqls ++ through failing? more := by
  induction sqls with
  | nil => rfl
  | cons sql rest ih =>
    have all := List.findSome?_eq_none_iff.mp h
    rw [List.cons_append, through_of_not_refusal (all sql List.mem_cons_self), ih]
    · rfl
    · exact List.findSome?_eq_none_iff.mpr fun x hx => all x (List.mem_cons_of_mem _ hx)

/-- Behind a statement that fails nothing is gone through. -/
theorem through_append_of_refusal {sqls : List String} {e : DatabaseError}
    (h : firstRefusal? failing? sqls = some e) (more : List String) :
    through failing? (sqls ++ more) = through failing? sqls := by
  induction sqls with
  | nil => cases h
  | cons sql rest ih =>
    rw [firstRefusal?, List.findSome?_cons] at h
    cases hsql : refusal? failing? sql with
    | some e' => rw [List.cons_append, through_of_refusal hsql, through_of_refusal hsql]
    | none =>
      rw [hsql] at h
      rw [List.cons_append, through_of_not_refusal hsql, through_of_not_refusal hsql, ih h]

end DryRun

/-! ## Routines -/

namespace Routine

variable (clock : Nat → Instant) {s : DryRun} {rows : List LedgerRow}

/-- What a routine leaves in the log when none of its statements fails. -/
def lines : Routine → List String
  | .statements [] => []
  | .statements sqls => "BEGIN" :: (sqls ++ ["COMMIT"])
  | .batches groups => groups.flatten

/-- What a routine leaves in the log when one of its statements fails. -/
def linesThrough (failing? : Option String) : Routine → List String
  | .statements sqls => "BEGIN" :: (DryRun.through failing? sqls ++ ["ROLLBACK"])
  | .batches groups => DryRun.through failing? groups.flatten

theorem leaves_runBatch (hledger : s.ledger? = some rows) (sqls : List String) :
    (runBatch sqls).run.Leaves clock s (DryRun.endingOf (DryRun.firstRefusal? s.failing? sqls))
      (DryRun.through s.failing? sqls) (some rows) 0 := by
  refine Leaves.tell_bind _ fun s' hs' => ?_
  rw [← hs'.failing]
  exact DryRun.leaves_batch clock (hs'.ledger.trans hledger) sqls

theorem leaves_runBatches (hledger : s.ledger? = some rows) (groups : List (List String)) :
    ((groups.filter fun g => !g.isEmpty).forM runBatch).run.Leaves clock s
      (DryRun.endingOf (DryRun.firstRefusal? s.failing? groups.flatten))
      (DryRun.through s.failing? groups.flatten) (some rows) 0 := by
  induction groups generalizing s with
  | nil => exact Leaves.done _ hledger
  | cons group rest ih =>
    cases group with
    | nil => exact ih hledger
    | cons sql more =>
      have ran := leaves_runBatch clock hledger (sql :: more)
      change (runBatch (sql :: more) >>=
        fun _ => (rest.filter fun g => !g.isEmpty).forM runBatch).run.Leaves _ _ _ _ _ _
      rw [List.flatten_cons, DryRun.firstRefusal?, List.findSome?_append]
      cases hgroup : DryRun.firstRefusal? s.failing? (sql :: more) with
      | some e =>
        rw [hgroup] at ran
        rw [DryRun.through_append_of_refusal hgroup, ← DryRun.firstRefusal?, hgroup]
        exact ran.bind_error _
      | none =>
        rw [hgroup] at ran
        rw [DryRun.through_append hgroup, ← DryRun.firstRefusal?, hgroup]
        rw [DryRun.through_eq_self hgroup] at ran
        refine Leaves.bind_ok (m := 0) (n := 0) ran fun s' hs' => ?_
        have went := ih (s := s') hs'.ledger
        rwa [hs'.failing] at went

/-- **A routine either leaves all its statements in the log, or those up to the first that fails; it
leaves the ledger as it was.** -/
theorem leaves_run (hledger : s.ledger? = some rows) (r : Routine) :
    match DryRun.firstRefusal? s.failing? r.flat with
    | none => r.run.run.Leaves clock s (.ok ()) r.lines (some rows) 0
    | some e => r.run.run.Leaves clock s (.error e) (r.linesThrough s.failing?) (some rows) 0 := by
  cases r with
  | statements sqls =>
    cases sqls with
    | nil => exact Leaves.done _ hledger
    | cons sql more =>
      have begun : (s.note "BEGIN").ledger? = some rows := hledger
      have work := DryRun.leaves_runStatements clock begun (sql :: more)
      change match DryRun.firstRefusal? s.failing? (sql :: more) with
        | none => _
        | some e => _
      cases hfirst : DryRun.firstRefusal? s.failing? (sql :: more) with
      | none =>
        rw [show (s.note "BEGIN").failing? = s.failing? from rfl, hfirst,
          DryRun.through_eq_self hfirst] at work
        exact Leaves.transaction work
      | some e =>
        rw [show (s.note "BEGIN").failing? = s.failing? from rfl, hfirst] at work
        rw [← hledger]
        exact Leaves.transaction_error work
  | batches groups =>
    have ran := leaves_runBatches clock hledger groups
    change match DryRun.firstRefusal? s.failing? groups.flatten with
      | none => _
      | some e => _
    cases hfirst : DryRun.firstRefusal? s.failing? groups.flatten with
    | none =>
      rw [hfirst, DryRun.through_eq_self hfirst] at ran
      exact ran
    | some e =>
      rw [hfirst] at ran
      exact ran

end Routine

/-! ## One migration after the other -/

/-- What comes of a file when it is its turn. -/
inductive Turn where
  /-- The format is one that is not run. -/
  | passedOver
  /-- The file holds no migration that can be read. -/
  | unreadable (e : MigrationError)
  /-- A statement of the routine has failed. -/
  | failed (lines : List String) (cause : DatabaseError)
  /-- The routine is done, but it could not be noted. -/
  | unrecorded (lines : List String) (cause : DatabaseError)
  | applied (lines : List String)

namespace Turn

/-- What a turn leaves in the log. -/
def lines : Turn → List String
  | passedOver | unreadable _ => []
  | failed lines _ | unrecorded lines _ | applied lines => lines

/-- Why no further file has its turn. -/
def stop? (name : String) : Turn → Option MigrationError
  | passedOver | applied _ => none
  | unreadable e => some e
  | failed _ cause | unrecorded _ cause => some (.notApplied name cause)

/-- Whether the ledger lists the migration from then on. -/
def isApplied : Turn → Bool
  | applied _ => true
  | _ => false

/-- How often the clock is read. -/
def readings : Turn → Nat
  | unrecorded _ _ | applied _ => 1
  | _ => 0

end Turn

/-- What comes of a migration that was read, when it is its turn: its statements go before its note
in the ledger. -/
def Migration.turn (m : Migration) (d : Dialect) (failing? : Option String) : Turn :=
  let up := (m.routines d).up
  match DryRun.firstRefusal? failing? up.flat with
  | some e => .failed (up.linesThrough failing?) e
  | none =>
    let lines := up.lines ++ [Ledger.insertSql d]
    if failing?.any (hasPart (Ledger.insertSql d) ·) then
      .unrecorded lines (DryRun.injected (Ledger.insertSql d))
    else .applied lines

/-- What comes of a file when it is its turn. -/
def Files.turn (fs : Files) (d : Dialect) (failing? : Option String) (path : String) : Turn :=
  match fs.readMigration path with
  | .error (.unsupportedFormat _ _) => .passedOver
  | .error e => .unreadable e
  | .ok m => m.turn d failing?

/-- Files that have their turns one after the other, up to the first that stops. -/
structure Course where
  fs : Files
  dialect : Dialect
  /-- The text that lets a statement fail. -/
  failing? : Option String

namespace Course

variable (c : Course)

/-- What comes of a file. -/
def turn (file : MigrationFile) : Turn :=
  c.fs.turn c.dialect c.failing? file.path

/-- Why no file has its turn behind a file. -/
def stop? (file : MigrationFile) : Option MigrationError :=
  (c.turn file).stop? file.name

/-- The files before the first that stops. -/
def before (files : List MigrationFile) : List MigrationFile :=
  files.takeWhile fun file => (c.stop? file).isNone

/-- The files that have a turn: those before the first that stops, and that one. -/
def reached (files : List MigrationFile) : List MigrationFile :=
  c.before files ++ (files.find? fun file => (c.stop? file).isSome).toList

/-- The names of the migrations that are applied. -/
def names (files : List MigrationFile) : List String :=
  ((c.before files).filter fun file => (c.turn file).isApplied).map (·.name)

/-- What the files leave in the log. -/
def lines (files : List MigrationFile) : List String :=
  (c.reached files).flatMap fun file => (c.turn file).lines

/-- How it ends: with the names of what was applied, or with the error of the first that stops. -/
def ending (files : List MigrationFile) : Stored (List String) :=
  match files.findSome? c.stop? with
  | none => .ok (c.names files)
  | some e => .error e

/-- How often the clock is read. -/
def readings (files : List MigrationFile) : Nat :=
  ((c.reached files).map fun file => (c.turn file).readings).sum

/-- The rows that are added to the ledger, when the clock was read so often before. -/
def rows (clock : Nat → Instant) (start : Nat) (files : List MigrationFile) : List LedgerRow :=
  (c.names files).mapIdx fun i name => ⟨name, c.dialect.tag, clock (start + i)⟩

variable {c : Course} {clock : Nat → Instant} {start : Nat}

/-! ### From the first file on -/

theorem before_cons (file : MigrationFile) (rest : List MigrationFile) :
    c.before (file :: rest) = if (c.stop? file).isNone then file :: c.before rest else [] :=
  List.takeWhile_cons

theorem reached_of_stop {file : MigrationFile} {e : MigrationError} (h : c.stop? file = some e)
    (rest : List MigrationFile) : c.reached (file :: rest) = [file] := by
  rw [reached, before_cons, h, List.find?_cons_of_pos (by rw [h]; rfl)]
  rfl

theorem reached_of_not_stop {file : MigrationFile} (h : c.stop? file = none)
    (rest : List MigrationFile) : c.reached (file :: rest) = file :: c.reached rest := by
  rw [reached, before_cons, h, List.find?_cons_of_neg (by rw [h]; exact Bool.false_ne_true)]
  rfl

theorem names_of_stop {file : MigrationFile} {e : MigrationError} (h : c.stop? file = some e)
    (rest : List MigrationFile) : c.names (file :: rest) = [] := by
  rw [names, before_cons, h]
  rfl

theorem names_of_not_stop {file : MigrationFile} (h : c.stop? file = none)
    (rest : List MigrationFile) :
    c.names (file :: rest) =
      if (c.turn file).isApplied then file.name :: c.names rest else c.names rest := by
  rw [names, before_cons, h]
  change List.map _ (List.filter _ (file :: c.before rest)) = _
  rw [List.filter_cons]
  split <;> rfl

theorem lines_of_stop {file : MigrationFile} {e : MigrationError} (h : c.stop? file = some e)
    (rest : List MigrationFile) : c.lines (file :: rest) = (c.turn file).lines := by
  rw [lines, reached_of_stop h, List.flatMap_singleton]

theorem lines_of_not_stop {file : MigrationFile} (h : c.stop? file = none)
    (rest : List MigrationFile) :
    c.lines (file :: rest) = (c.turn file).lines ++ c.lines rest := by
  rw [lines, reached_of_not_stop h, List.flatMap_cons]
  rfl

theorem readings_of_stop {file : MigrationFile} {e : MigrationError} (h : c.stop? file = some e)
    (rest : List MigrationFile) : c.readings (file :: rest) = (c.turn file).readings := by
  rw [readings, reached_of_stop h, List.map_singleton, List.sum_singleton]

theorem readings_of_not_stop {file : MigrationFile} (h : c.stop? file = none)
    (rest : List MigrationFile) :
    c.readings (file :: rest) = (c.turn file).readings + c.readings rest := by
  rw [readings, reached_of_not_stop h, List.map_cons, List.sum_cons]
  rfl

theorem ending_of_stop {file : MigrationFile} {e : MigrationError} (h : c.stop? file = some e)
    (rest : List MigrationFile) : c.ending (file :: rest) = .error e := by
  rw [ending, List.findSome?_cons, h]

theorem ending_of_passed {file : MigrationFile} (h : c.stop? file = none)
    (notApplied : (c.turn file).isApplied = false) (rest : List MigrationFile) :
    c.ending (file :: rest) = c.ending rest := by
  rw [ending, ending, List.findSome?_cons, h, names_of_not_stop h, notApplied]
  rfl

theorem ending_of_applied {file : MigrationFile} (h : c.stop? file = none)
    (applied : (c.turn file).isApplied = true) (rest : List MigrationFile) :
    c.ending (file :: rest) = (c.ending rest).map (file.name :: ·) := by
  rw [ending, ending, List.findSome?_cons, h, names_of_not_stop h, if_pos applied]
  change (match rest.findSome? c.stop? with | none => _ | some e => _) = _
  cases rest.findSome? c.stop? <;> rfl

theorem rows_of_stop {file : MigrationFile} {e : MigrationError} (h : c.stop? file = some e)
    (rest : List MigrationFile) : c.rows clock start (file :: rest) = [] := by
  rw [rows, names_of_stop h]
  rfl

theorem rows_of_passed {file : MigrationFile} (h : c.stop? file = none)
    (notApplied : (c.turn file).isApplied = false) (rest : List MigrationFile) :
    c.rows clock start (file :: rest) = c.rows clock start rest := by
  rw [rows, names_of_not_stop h, notApplied]
  rfl

/-- The rows of the files behind one that is applied are those of a clock that was read once
more. -/
theorem rows_of_applied {file : MigrationFile} (h : c.stop? file = none)
    (applied : (c.turn file).isApplied = true) (rest : List MigrationFile) :
    c.rows clock start (file :: rest) =
      ⟨file.name, c.dialect.tag, clock start⟩ :: c.rows clock (start + 1) rest := by
  rw [rows, names_of_not_stop h, if_pos applied, List.mapIdx_cons, rows]
  simp only [Nat.add_zero, Nat.add_assoc, Nat.add_comm 1]

end Course

/-! ### The run -/

namespace Turn

/-- How the session of the turn of a file ends. -/
def answer (name : String) (t : Turn) : Stored Unit :=
  match t.stop? name with
  | none => .ok ()
  | some e => .error e

theorem isApplied_of_stop {t : Turn} {name : String} {e : MigrationError}
    (h : t.stop? name = some e) : t.isApplied = false := by
  cases t with
  | applied _ => cases h
  | _ => rfl

theorem readings_of_isApplied {t : Turn} (h : t.isApplied = true) : t.readings = 1 := by
  cases t with
  | applied _ => rfl
  | _ => cases h

end Turn

namespace Migration

section

variable {m : Migration} {d : Dialect} {failing? : Option String}

theorem turn_of_refusal {e : DatabaseError}
    (h : DryRun.firstRefusal? failing? (m.routines d).up.flat = some e) :
    m.turn d failing? = .failed ((m.routines d).up.linesThrough failing?) e := by
  rw [turn, h]

theorem turn_of_unrecorded (h : DryRun.firstRefusal? failing? (m.routines d).up.flat = none)
    (fails : failing?.any (hasPart (Ledger.insertSql d) ·) = true) :
    m.turn d failing? = .unrecorded ((m.routines d).up.lines ++ [Ledger.insertSql d])
      (DryRun.injected (Ledger.insertSql d)) := by
  rw [turn, h]
  exact if_pos fails

theorem turn_of_recorded (h : DryRun.firstRefusal? failing? (m.routines d).up.flat = none)
    (goes : failing?.any (hasPart (Ledger.insertSql d) ·) = false) :
    m.turn d failing? = .applied ((m.routines d).up.lines ++ [Ledger.insertSql d]) := by
  rw [turn, h]
  exact if_neg (Bool.not_eq_true _ ▸ goes)

end

/-- A migration that was read is run, whatever comes of it. -/
theorem turn_cases (m : Migration) (d : Dialect) (failing? : Option String) :
    (∃ lines cause, m.turn d failing? = .failed lines cause) ∨
      (∃ lines cause, m.turn d failing? = .unrecorded lines cause) ∨
      ∃ lines, m.turn d failing? = .applied lines := by
  unfold turn
  dsimp only
  split
  · exact .inl ⟨_, _, rfl⟩
  · split
    · exact .inr (.inl ⟨_, _, rfl⟩)
    · exact .inr (.inr ⟨_, rfl⟩)

variable (clock : Nat → Instant) {s : DryRun} {rows : List LedgerRow} {d : Dialect}

/-- **A migration is noted exactly if all its statements have gone well**, and then with the time at
which the clock is read. -/
theorem leaves_apply (m : Migration) {name : String} (hledger : s.ledger? = some rows)
    (new : rows.any (·.isFor name d.tag) = false) :
    ((m.apply d name).wrap (.notApplied name)).run.Leaves clock s
      ((m.turn d s.failing?).answer name) (m.turn d s.failing?).lines
      (some (if (m.turn d s.failing?).isApplied then rows ++ [⟨name, d.tag, clock s.readings⟩]
        else rows))
      (m.turn d s.failing?).readings := by
  have ran := (m.routines d).up.leaves_run clock hledger
  cases hfirst : DryRun.firstRefusal? s.failing? (m.routines d).up.flat with
  | some e =>
    rw [hfirst] at ran
    rw [turn_of_refusal hfirst]
    exact (ran.bind_error fun _ => Ledger.recordApplied d name).wrap
      (MigrationError.notApplied name)
  | none =>
    rw [hfirst] at ran
    cases hfails : s.fails (Ledger.insertSql d) with
    | true =>
      rw [turn_of_unrecorded hfirst hfails]
      have noted : (m.apply d name).run.Leaves clock s
          (.error (DryRun.injected (Ledger.insertSql d)))
          ((m.routines d).up.lines ++ [Ledger.insertSql d]) (some rows) (0 + 1) := by
        refine Leaves.bind_ok ran fun s' hs' => ?_
        have went := Ledger.leaves_recordApplied_failed clock name (s := s') (d := d)
          (by rwa [DryRun.fails, hs'.failing])
        rwa [hs'.ledger] at went
      exact noted.wrap (MigrationError.notApplied name)
    | false =>
      rw [turn_of_recorded hfirst hfails]
      have noted : (m.apply d name).run.Leaves clock s (.ok ())
          ((m.routines d).up.lines ++ [Ledger.insertSql d])
          (some (rows ++ [⟨name, d.tag, clock s.readings⟩])) (0 + 1) := by
        refine Leaves.bind_ok ran fun s' hs' => ?_
        have went := Ledger.leaves_recordApplied clock hs'.ledger
          (by rwa [DryRun.fails, hs'.failing]) new
        rwa [hs'.readings] at went
      exact noted.wrap (MigrationError.notApplied name)

end Migration

theorem Files.turn_of_readMigration {fs : Files} {path : String} {m : Migration}
    (h : fs.readMigration path = .ok m) (d : Dialect) (failing? : Option String) :
    fs.turn d failing? path = m.turn d failing? := by
  rw [turn, h]

/-- What comes of a file hangs on what is read from it. -/
theorem Files.turn_cases (fs : Files) (d : Dialect) (failing? : Option String) (path : String) :
    (∃ place format, fs.readMigration path = .error (.unsupportedFormat place format) ∧
      fs.turn d failing? path = .passedOver) ∨
      (∃ e, fs.readMigration path = .error e ∧
        (∀ place format, e ≠ .unsupportedFormat place format) ∧
        fs.turn d failing? path = .unreadable e) ∨
      ∃ m, fs.readMigration path = .ok m ∧ fs.turn d failing? path = m.turn d failing? := by
  unfold turn
  cases hread : fs.readMigration path with
  | ok m => exact .inr (.inr ⟨m, rfl, rfl⟩)
  | error e =>
    cases e with
    | unsupportedFormat place format => exact .inl ⟨place, format, rfl, rfl⟩
    | _ => exact .inr (.inl ⟨_, rfl, nofun, rfl⟩)

namespace Project

variable (clock : Nat → Instant) {s : DryRun} {rows : List LedgerRow} {fs : Files} {d : Dialect}

/-- A row of another name is in no one's way. -/
theorem not_any_isFor_append {name other dialect : String} (time : Instant)
    (h : rows.any (·.isFor other dialect) = false) (differ : name ≠ other) :
    (rows ++ [(⟨name, dialect, time⟩ : LedgerRow)]).any (·.isFor other dialect) = false := by
  rw [List.any_append, h, Bool.false_or, List.any_cons, List.any_nil, Bool.or_false,
    LedgerRow.isFor, beq_eq_false_iff_ne.mpr differ, Bool.false_and]

/-- **Files have their turns one after the other.** The ledger keeps its rows and gets one for each
migration that is applied. -/
theorem leaves_applyAll {files : List MigrationFile} (hledger : s.ledger? = some rows)
    (distinct : (files.map (·.name)).Nodup)
    (new : ∀ file ∈ files, rows.any (·.isFor file.name d.tag) = false) :
    let c : Course := ⟨fs, d, s.failing?⟩
    (applyAll fs d files).run.Leaves clock s (c.ending files) (c.lines files)
      (some (rows ++ c.rows clock s.readings files)) (c.readings files) := by
  intro c
  induction files generalizing s rows with
  | nil =>
    have none_added : rows ++ c.rows clock s.readings [] = rows := List.append_nil rows
    rw [none_added]
    exact Leaves.done _ hledger
  | cons file rest ih =>
    obtain ⟨hfile, hrest⟩ := List.nodup_cons.mp distinct
    have newRest : ∀ other ∈ rest, rows.any (·.isFor other.name d.tag) = false :=
      fun other hother => new other (List.mem_cons_of_mem _ hother)
    rw [applyAll]
    obtain ⟨path, format, hread, hturn⟩ | ⟨e, hread, hformat, hturn⟩ | ⟨m, hread, hturn⟩ :=
      fs.turn_cases d s.failing? file.path
    · have passed : c.turn file = .passedOver := hturn
      have goesOn : c.stop? file = none := by rw [Course.stop?, passed]; rfl
      have notApplied : (c.turn file).isApplied = false := by rw [passed]; rfl
      rw [hread, Course.ending_of_passed goesOn notApplied, Course.lines_of_not_stop goesOn,
        Course.readings_of_not_stop goesOn, Course.rows_of_passed goesOn notApplied, passed]
      refine Leaves.tell_bind _ fun s' hs' => ?_
      have went := ih (s := s') (hs'.ledger.trans hledger) hrest newRest
      rw [hs'.failing, hs'.readings] at went
      simp only [Turn.lines, Turn.readings, List.nil_append, Nat.zero_add]
      exact went
    · have unreadable : c.turn file = .unreadable e := hturn
      have stop : c.stop? file = some e := by rw [Course.stop?, unreadable]; rfl
      rw [hread, Course.ending_of_stop stop, Course.lines_of_stop stop,
        Course.rows_of_stop stop, Course.readings_of_stop stop, unreadable, List.append_nil]
      cases e with
      | unsupportedFormat path format => exact absurd rfl (hformat path format)
      | _ => exact Leaves.done _ hledger
    · have turn_eq : c.turn file = m.turn d s.failing? := hturn
      rw [hread]
      refine Leaves.tell_bind _ fun s' hs' => ?_
      have ran := m.leaves_apply clock (hs'.ledger.trans hledger)
        (new file List.mem_cons_self)
      rw [hs'.failing, hs'.readings, Nat.add_zero, ← turn_eq, Turn.answer] at ran
      cases stop : (c.turn file).stop? file.name with
      | some e =>
        rw [stop, Turn.isApplied_of_stop stop] at ran
        rw [Course.ending_of_stop stop, Course.lines_of_stop stop, Course.rows_of_stop stop,
          Course.readings_of_stop stop, List.append_nil]
        exact ran.bind_error _
      | none =>
        have applied : (c.turn file).isApplied = true := by
          obtain ⟨_, _, h⟩ | ⟨_, _, h⟩ | ⟨_, h⟩ := m.turn_cases d s.failing? <;>
          · rw [turn_eq, h] at stop ⊢
            first | rfl | cases stop
        rw [stop, if_pos applied] at ran
        rw [Course.ending_of_applied stop applied, Course.lines_of_not_stop stop,
          Course.rows_of_applied stop applied, Course.readings_of_not_stop stop, List.append_cons]
        refine Leaves.bind_ok ran fun s'' hs'' => ?_
        have newer : ∀ other ∈ rest, _ := fun other hother =>
          not_any_isFor_append (clock s.readings) (newRest other hother) fun h =>
            hfile (List.mem_map.mpr ⟨other, hother, h.symm⟩)
        have went := ih (s := s'') hs''.ledger hrest newer
        rw [hs''.failing, hs''.readings, hs'.failing, hs'.readings, Nat.add_zero,
          Turn.readings_of_isApplied applied] at went
        exact went.bind_pure _

/-! ### The migrations that are pending -/

/-- What is found in the directory of a project does not hang on the session. -/
theorem leaves_search (p : Project) (fs : Files) (s : DryRun) :
    (p.search fs).run.Leaves clock s (p.discover fs) [] s.ledger? 0 := by
  have found (s' : DryRun) (h : s'.ledger? = s.ledger?) :
      (p.discover fs).toSession.run.Leaves clock s' (p.discover fs) [] s.ledger? 0 :=
    Leaves.done _ h
  unfold search
  rcases fs.contains p.directory with _ | _ | _
  · exact found s rfl
  · exact Leaves.tell_bind _ fun s' hs' => found s' hs'.ledger
  · exact found s rfl

theorem mem_rowsFor {ledger? : Option (List LedgerRow)} {r : LedgerRow} :
    r ∈ Ledger.rowsFor d ledger? ↔ r ∈ ledger?.getD [] ∧ r.dialect = d.tag :=
  (@List.mem_mergeSort _ LedgerRow.upTo _ _).trans
    (List.mem_filter.trans (and_congr_right fun _ => decide_eq_true_iff))

theorem contains_namesFor (d : Dialect) (ledger? : Option (List LedgerRow)) (name : String) :
    (Ledger.namesFor d ledger?).contains name = (ledger?.getD []).any (·.isFor name d.tag) := by
  rw [Bool.eq_iff_iff, List.contains_iff_mem, Ledger.namesFor, List.mem_map, List.any_eq_true]
  constructor
  · rintro ⟨r, hr, rfl⟩
    obtain ⟨hrow, hdialect⟩ := mem_rowsFor.mp hr
    exact ⟨r, hrow, by rw [LedgerRow.isFor, hdialect, beq_self_eq_true, beq_self_eq_true]; rfl⟩
  · rintro ⟨r, hrow, hr⟩
    rw [LedgerRow.isFor, Bool.and_eq_true, beq_iff_eq, beq_iff_eq] at hr
    exact ⟨r, mem_rowsFor.mpr ⟨hrow, hr.2⟩, hr.1⟩

/-- The files among those found that the ledger does not list. -/
def unlisted (d : Dialect) (rows : List LedgerRow) (found : List MigrationFile) :
    List MigrationFile :=
  found.filter fun file => !rows.any (·.isFor file.name d.tag)

theorem leaves_pending (p : Project) (fs : Files) (s : DryRun) :
    (p.pending fs d).run.Leaves clock s
      ((p.discover fs).map (unlisted d (s.ledger?.getD []))) [Ledger.selectSql d] s.ledger? 0 := by
  have listed := Ledger.leaves_appliedNames (d := d) clock s
  refine Leaves.bind_ok (n := 0) listed fun s' hs' => ?_
  have found := (p.leaves_search clock fs s').bind_pure (unlisted d (s.ledger?.getD []))
  rw [hs'.ledger] at found
  simp only [contains_namesFor]
  exact found

/-- The files that are pending have their turns, and there may be none. -/
theorem leaves_applyAll_told (fs : Files) {files : List MigrationFile}
    (hledger : s.ledger? = some rows) (distinct : (files.map (·.name)).Nodup)
    (new : ∀ file ∈ files, rows.any (·.isFor file.name d.tag) = false)
    (none_told : Message) (told : List String → Message) :
    let c : Course := ⟨fs, d, s.failing?⟩
    (if files.isEmpty then do
      Fallible.tell none_told
      pure []
    else do
      let names ← applyAll fs d files
      Fallible.tell (told names)
      pure names : MigrationSession (List String)).run.Leaves clock s (c.ending files)
        (c.lines files) (some (rows ++ c.rows clock s.readings files)) (c.readings files) := by
  intro c
  cases files with
  | nil =>
    have none_added : rows ++ c.rows clock s.readings [] = rows := List.append_nil rows
    rw [none_added]
    exact Leaves.tell_bind _ fun s' hs' => Leaves.done _ (hs'.ledger.trans hledger)
  | cons file rest => exact (leaves_applyAll clock hledger distinct new).then_tell told

theorem leaves_applyPending_uncreated (p : Project) (fs : Files)
    (h : s.fails (Ledger.createSql d) = true) :
    (p.applyPending fs d).run.Leaves clock s
      (.error (.ledgerNotCreated (DryRun.injected (Ledger.createSql d)))) [Ledger.createSql d]
      s.ledger? 0 :=
  Leaves.bind_error (Ledger.leaves_ensure_failed clock h) _

theorem leaves_applyPending_unread {p : Project} {e : MigrationError}
    (created : s.fails (Ledger.createSql d) = false) (h : p.discover fs = .error e) :
    (p.applyPending fs d).run.Leaves clock s (.error e) [Ledger.createSql d, Ledger.selectSql d]
      (some (s.ledger?.getD [])) 0 := by
  have ensured := Ledger.leaves_ensure clock created
  refine Leaves.bind_ok (n := 0) ensured fun s' hs' => ?_
  have looked := p.leaves_pending clock (d := d) fs s'
  rw [h, hs'.ledger] at looked
  exact looked.bind_error _

theorem leaves_applyPending {p : Project} {found : List MigrationFile}
    (created : s.fails (Ledger.createSql d) = false) (h : p.discover fs = .ok found) :
    let c : Course := ⟨fs, d, s.failing?⟩
    let pending := unlisted d (s.ledger?.getD []) found
    (p.applyPending fs d).run.Leaves clock s (c.ending pending)
      ([Ledger.createSql d, Ledger.selectSql d] ++ c.lines pending)
      (some (s.ledger?.getD [] ++ c.rows clock s.readings pending)) (c.readings pending) := by
  intro c pending
  have distinct : (pending.map (·.name)).Nodup :=
    (nodup_discover h).sublist (List.filter_sublist.map _)
  have new (file) (hfile : file ∈ pending) :
      (s.ledger?.getD []).any (·.isFor file.name d.tag) = false :=
    Bool.not_eq_true' _ ▸ (List.mem_filter.mp hfile).2
  have went : (p.applyPending fs d).run.Leaves clock s (c.ending pending)
      ([Ledger.createSql d] ++ ([Ledger.selectSql d] ++ c.lines pending))
      (some (s.ledger?.getD [] ++ c.rows clock s.readings pending))
      (0 + (0 + c.readings pending)) := by
    refine Leaves.bind_ok (Ledger.leaves_ensure clock created) fun s' hs' => ?_
    have looked := p.leaves_pending clock (d := d) fs s'
    rw [h, hs'.ledger] at looked
    refine Leaves.bind_ok looked fun s'' hs'' => ?_
    have applied := leaves_applyAll_told clock fs hs''.ledger distinct new
      (.info "No pending migrations" [("dialect", d.tag)])
      fun names => .info "Applied migrations"
        [("dialect", d.tag), ("count", toString names.length)]
    rw [hs''.failing, hs''.readings, hs'.failing, hs'.readings] at applied
    exact applied
  rw [Nat.zero_add, Nat.zero_add] at went
  exact went

/-- **Applying what is pending, whatever comes of it.** A ledger that cannot be created ends it, and
so does a directory that cannot be read. Else the migrations in the directory that the ledger does
not list for the dialect have their turns in the order of their names, up to the first that stops:
the ledger keeps its rows and gets one for each that is applied, and the log has the statements of
each, with its note in the ledger, before those of the next. -/
theorem applyPending_outcome (p : Project) (fs : Files) (d : Dialect) (clock : Nat → Instant)
    (s : DryRun) :
    let session := (p.applyPending fs d).run
    let rows := s.ledger?.getD []
    let c : Course := ⟨fs, d, s.failing?⟩
    match s.fails (Ledger.createSql d), p.discover fs with
    | true, _ =>
      session.Leaves clock s (.error (.ledgerNotCreated (DryRun.injected (Ledger.createSql d))))
        [Ledger.createSql d] s.ledger? 0
    | false, .error e =>
      session.Leaves clock s (.error e) [Ledger.createSql d, Ledger.selectSql d] (some rows) 0
    | false, .ok found =>
      p.Lists fs found ∧
        let pending := unlisted d rows found
        session.Leaves clock s (c.ending pending)
          ([Ledger.createSql d, Ledger.selectSql d] ++ c.lines pending)
          (some (rows ++ c.rows clock s.readings pending)) (c.readings pending) := by
  intro session rows c
  cases created : s.fails (Ledger.createSql d) with
  | true => exact leaves_applyPending_uncreated clock p fs created
  | false =>
    cases hfound : p.discover fs with
    | error e => exact leaves_applyPending_unread clock created hfound
    | ok found => exact ⟨lists_discover hfound, leaves_applyPending clock created hfound⟩

end Project

/-! ### A run -/

namespace Shop

open Project

/-- A clock that is a year later at each reading. -/
def yearly (n : Nat) : Instant :=
  ⟨⟨2025 + n, 1, 1, by simp [daysInMonth]⟩, 0, 0, Instant.valid_midnight⟩

/-- A migration that runs a statement in PostgreSQL. -/
def running (sql : String) : Migration :=
  ⟨Migration.currentFormat, "step", ⟨"1", "1", []⟩, ⟨"1", "1", []⟩,
    ⟨.statements [sql], .statements []⟩, ⟨.batches [], .batches []⟩, []⟩

/-- A directory in which a migration that runs a statement comes before another. -/
def twoSteps : Files :=
  let entry (sql : String) : FileEntry := .file ((running sql).toText ++ "\n")
  ((Files.empty.put ["migrations"] .directory).put ["migrations", "1.json"]
    (entry "CREATE TABLE orders (id BIGINT)")).put ["migrations", "2_items.json"]
      (entry "CREATE TABLE items (id BIGINT)")

def step (name : String) : MigrationFile :=
  ⟨name, (within "migrations").pathOf name⟩

/-- The turns of these files while statements with some text fail. -/
def stepping (failing? : Option String) : Course :=
  ⟨twoSteps, .postgres, failing?⟩

theorem find_twoSteps : twoSteps.find "migrations" = .ok (["migrations"], some .directory) :=
  find_migrations rfl

theorem discover_twoSteps :
    (within "migrations").discover twoSteps = .ok [step "1", step "2_items"] := by
  have listed : twoSteps.filesIn "migrations" = .ok ["1.json", "2_items.json"] :=
    Files.filesIn_eq_ok_iff.mpr ⟨_, find_twoSteps, rfl⟩
  refine discover_eq_ok_iff.mpr ⟨_, .inr ⟨Files.contains_of_filesIn listed, listed⟩, ?_⟩
  exact (List.mergeSort_of_pairwise (by decide)).symm

theorem turn_step {name sql : String} (slashless : '/' ∉ name.toList)
    (usable : Files.Usable "migrations" ["migrations"] (name ++ ".json"))
    (held : twoSteps.entry? ["migrations", name ++ ".json"] =
      some (.file ((running sql).toText ++ "\n"))) (failing? : Option String) :
    (stepping failing?).turn (step name) = (running sql).turn .postgres failing? := by
  have holds : twoSteps.readMigration (step name).path = .ok (running sql) :=
    Files.readMigration_of_read (read_migrations find_twoSteps slashless usable held)
      (Migration.ofText_line nofun) rfl
  exact Files.turn_of_readMigration holds .postgres failing?

theorem turn_orders (failing? : Option String) :
    (stepping failing?).turn (step "1") =
      (running "CREATE TABLE orders (id BIGINT)").turn .postgres failing? :=
  turn_step (by decide) ⟨rfl, rfl⟩ rfl failing?

theorem turn_items (failing? : Option String) :
    (stepping failing?).turn (step "2_items") =
      (running "CREATE TABLE items (id BIGINT)").turn .postgres failing? :=
  turn_step (by decide) ⟨rfl, rfl⟩ rfl failing?

/-- Statements about items fail: the second file stops. -/
theorem stepping_refused :
    let c := stepping (some "items")
    let files := [step "1", step "2_items"]
    c.ending files =
        .error (.notApplied "2_items" (DryRun.injected "CREATE TABLE items (id BIGINT)")) ∧
      c.lines files = ["BEGIN", "CREATE TABLE orders (id BIGINT)", "COMMIT",
        Ledger.insertSql .postgres, "BEGIN", "CREATE TABLE items (id BIGINT)", "ROLLBACK"] ∧
      c.names files = ["1"] ∧ c.readings files = 1 := by
  intro c files
  have orders : c.turn (step "1") = .applied
      ["BEGIN", "CREATE TABLE orders (id BIGINT)", "COMMIT", Ledger.insertSql .postgres] :=
    (turn_orders _).trans (Migration.turn_of_recorded (by decide +kernel) (by decide +kernel))
  have items : c.turn (step "2_items") = .failed
      ["BEGIN", "CREATE TABLE items (id BIGINT)", "ROLLBACK"]
      (DryRun.injected "CREATE TABLE items (id BIGINT)") :=
    (turn_items _).trans (Migration.turn_of_refusal (by decide +kernel))
  have goes : c.stop? (step "1") = none := by rw [Course.stop?, orders]; rfl
  have stops : c.stop? (step "2_items") =
      some (.notApplied "2_items" (DryRun.injected "CREATE TABLE items (id BIGINT)")) := by
    rw [Course.stop?, items]
    rfl
  refine ⟨?_, ?_, ?_, ?_⟩
  · rw [Course.ending_of_applied goes (by rw [orders]; rfl), Course.ending_of_stop stops]
    rfl
  · rw [Course.lines_of_not_stop goes, Course.lines_of_stop stops, orders, items]
    rfl
  · rw [Course.names_of_not_stop goes, Course.names_of_stop stops, orders]
    rfl
  · rw [Course.readings_of_not_stop goes, Course.readings_of_stop stops, orders, items]
    rfl

/-- Nothing fails: the second file is applied. -/
theorem stepping_on :
    let c := stepping none
    c.ending [step "2_items"] = .ok ["2_items"] ∧
      c.lines [step "2_items"] =
        ["BEGIN", "CREATE TABLE items (id BIGINT)", "COMMIT", Ledger.insertSql .postgres] ∧
      c.names [step "2_items"] = ["2_items"] ∧ c.readings [step "2_items"] = 1 := by
  intro c
  have items : c.turn (step "2_items") = .applied
      ["BEGIN", "CREATE TABLE items (id BIGINT)", "COMMIT", Ledger.insertSql .postgres] :=
    (turn_items _).trans (Migration.turn_of_recorded (by decide +kernel) rfl)
  have goes : c.stop? (step "2_items") = none := by rw [Course.stop?, items]; rfl
  refine ⟨?_, ?_, ?_, ?_⟩
  · rw [Course.ending_of_applied goes (by rw [items]; rfl)]
    rfl
  · rw [Course.lines_of_not_stop goes, items]
    rfl
  · rw [Course.names_of_not_stop goes, items]
    rfl
  · rw [Course.readings_of_not_stop goes, items]
    rfl

/-- Before anything has been sent, with statements about items to fail. -/
def refusing : DryRun :=
  { DryRun.start with failing? := some "items" }

theorem not_fails_createSql_items : refusing.fails (Ledger.createSql .postgres) = false := by
  decide +kernel

/-- The second of two migrations is refused and rolled back, while the first stays in the ledger.
When nothing fails any more, the second is applied and nothing else. -/
theorem applyPending_outcome_twoSteps :
    let session := ((within "migrations").applyPending twoSteps .postgres).run
    ∃ s, session.rehearse yearly refusing =
        (.error (.notApplied "2_items" (DryRun.injected "CREATE TABLE items (id BIGINT)")), s) ∧
      refusing.Follows
        [Ledger.createSql .postgres, Ledger.selectSql .postgres,
          "BEGIN", "CREATE TABLE orders (id BIGINT)", "COMMIT", Ledger.insertSql .postgres,
          "BEGIN", "CREATE TABLE items (id BIGINT)", "ROLLBACK"]
        (some [⟨"1", "postgres", yearly 0⟩]) 1 s ∧
      session.Leaves yearly { s with failing? := none } (.ok ["2_items"])
        [Ledger.createSql .postgres, Ledger.selectSql .postgres,
          "BEGIN", "CREATE TABLE items (id BIGINT)", "COMMIT", Ledger.insertSql .postgres]
        (some [⟨"1", "postgres", yearly 0⟩, ⟨"2_items", "postgres", yearly 1⟩]) 1 := by
  intro session
  -- at a state that is not given yet, so that nothing looks for the text within the statements
  have applies (s : DryRun) (failing? : Option String) (rows : List LedgerRow) (start : Nat)
      (created : s.fails (Ledger.createSql .postgres) = false) (failing : s.failing? = failing?)
      (listed : s.ledger?.getD [] = rows) (readings : s.readings = start) :
      let c := stepping failing?
      let pending := unlisted .postgres rows [step "1", step "2_items"]
      session.Leaves yearly s (c.ending pending)
        ([Ledger.createSql .postgres, Ledger.selectSql .postgres] ++ c.lines pending)
        (some (rows ++ c.rows yearly start pending)) (c.readings pending) := by
    have outcome := applyPending_outcome (within "migrations") twoSteps .postgres yearly s
    rw [created, discover_twoSteps] at outcome
    subst failing listed readings
    exact outcome.2
  obtain ⟨ending, lines, names, readings⟩ := stepping_refused
  have both : unlisted .postgres [] [step "1", step "2_items"] = [step "1", step "2_items"] :=
    List.filter_eq_self.mpr fun _ _ => rfl
  have first := applies refusing (some "items") [] 0 not_fails_createSql_items rfl rfl rfl
  simp only [both, ending, lines, Course.rows, names, readings] at first
  obtain ⟨s, ran, follows⟩ := first
  obtain ⟨ending, lines, names, readings⟩ := stepping_on
  have items_left : unlisted .postgres [⟨"1", "postgres", yearly 0⟩] [step "1", step "2_items"] =
      [step "2_items"] := rfl
  have second := applies { s with failing? := none } none [⟨"1", "postgres", yearly 0⟩] 1 rfl rfl
    (by rw [follows.ledger]; rfl) follows.readings
  simp only [items_left, ending, lines, Course.rows, names, readings] at second
  exact ⟨s, ran, follows, second⟩

end Shop

end SchemaEvolution
