import SchemaEvolution.Proofs.DryRunScript

/-!
# Migrations that could not be applied

A migration is applied in two steps: its routine is run, in a transaction of its own if it is one of
statements, and then a row of the ledger is written. Either step can fail, and the first is over
when the second begins. So when a statement of the routine was refused, nothing of the routine is
committed; when the row was refused, all of it is. The ledger lists the migration in neither case,
and the next run begins with its statements again (`Project.applyPending_notApplied`).

What is committed is read from the marks in the log. A statement that has the text of a mark counts
as one there, and so it may for a database.
-/

namespace SchemaEvolution

/-! ## Transactions in a log -/

namespace DryRun

/-- The marks among the lines of a log. -/
def marks (lines : List String) : List String :=
  lines.filter (transactionMarks.contains ·)

/-- A line of a log with these lines before it and those behind it lies in a transaction that was
committed: the last mark before it begins one, and the first behind it commits. -/
def Committed (before behind : List String) : Prop :=
  (marks before).getLast? = some "BEGIN" ∧ (marks behind).head? = some "COMMIT"

instance (before behind : List String) : Decidable (Committed before behind) :=
  inferInstanceAs (Decidable (_ ∧ _))

theorem marks_append (l l' : List String) : marks (l ++ l') = marks l ++ marks l' :=
  List.filter_append ..

theorem marks_eq_nil {lines : List String} (h : ∀ sql ∈ lines, sql ∉ transactionMarks) :
    marks lines = [] :=
  List.filter_eq_nil_iff.mpr fun sql hsql hmark => h sql hsql (List.contains_iff_mem.mp hmark)

theorem through_subset (failing? : Option String) (sqls : List String) :
    through failing? sqls ⊆ sqls := by
  induction sqls with
  | nil => exact List.Subset.refl _
  | cons sql rest ih =>
    rw [through]
    refine List.cons_subset_cons _ ?_
    split
    · exact List.nil_subset _
    · exact ih

end DryRun

namespace Routine

/-- A mark of the transaction of a routine, if it has one. -/
def mark (m : String) : Routine → List String
  | .statements (_ :: _) => [m]
  | _ => []

/-- What a routine leaves in the log behind its statements, with the row of the ledger that is
written when none of them is refused. -/
def closing (r : Routine) (d : Dialect) (failing? : Option String) : List String :=
  match DryRun.firstRefusal? failing? r.flat with
  | some _ => r.mark "ROLLBACK"
  | none => r.mark "COMMIT" ++ [Ledger.insertSql d]

/-- Whether a routine is run in a transaction. -/
def inTransaction : Routine → Bool
  | .statements _ => true
  | .batches _ => false

theorem closing_of_refusal {r : Routine} {failing? : Option String} {e : DatabaseError}
    (h : DryRun.firstRefusal? failing? r.flat = some e) (d : Dialect) :
    r.closing d failing? = r.mark "ROLLBACK" := by
  rw [closing, h]

theorem closing_of_no_refusal {r : Routine} {failing? : Option String}
    (h : DryRun.firstRefusal? failing? r.flat = none) (d : Dialect) :
    r.closing d failing? = r.mark "COMMIT" ++ [Ledger.insertSql d] := by
  rw [closing, h]

theorem lines_eq (r : Routine) : r.lines = r.mark "BEGIN" ++ r.flat ++ r.mark "COMMIT" := by
  cases r with
  | statements sqls => cases sqls <;> rfl
  | batches groups => exact (List.append_nil _).symm

theorem linesThrough_eq {r : Routine} {failing? : Option String} {e : DatabaseError}
    (h : DryRun.firstRefusal? failing? r.flat = some e) :
    r.linesThrough failing? =
      r.mark "BEGIN" ++ DryRun.through failing? r.flat ++ r.mark "ROLLBACK" := by
  cases r with
  | statements sqls =>
    cases sqls with
    | nil => cases h
    | cons sql rest => rfl
  | batches groups => exact (List.append_nil _).symm

end Routine

/-- Whatever comes of a migration that was read, its turn leaves the statements of its routine in
the log, up to the first that is refused. -/
theorem Migration.lines_turn (m : Migration) (d : Dialect) (failing? : Option String) :
    (m.turn d failing?).lines =
      (m.routines d).up.mark "BEGIN" ++ DryRun.through failing? (m.routines d).up.flat ++
        (m.routines d).up.closing d failing? := by
  unfold turn
  dsimp only
  split
  · rename_i e refused
    rw [Turn.lines, Routine.linesThrough_eq refused, Routine.closing_of_refusal refused]
  · rename_i done
    rw [DryRun.through_eq_self done, Routine.closing_of_no_refusal done]
    split <;> rw [Turn.lines, Routine.lines_eq, List.append_assoc]

/-- **What a routine did is committed exactly if none of its statements was refused.** A routine of
batches is in no transaction of the log. -/
theorem Routine.committed_iff {r : Routine} {d : Dialect} {failing? : Option String}
    (unmarked : ∀ sql ∈ r.flat, sql ∉ DryRun.transactionMarks) (earlier : List String)
    {first rest : List String} {sql : String}
    (sent : DryRun.through failing? r.flat = first ++ sql :: rest) :
    DryRun.Committed (earlier ++ r.mark "BEGIN" ++ first) (rest ++ r.closing d failing?) ↔
      r.inTransaction = true ∧ DryRun.firstRefusal? failing? r.flat = none := by
  have within : first ++ sql :: rest ⊆ r.flat := sent ▸ DryRun.through_subset failing? r.flat
  have marks_first : DryRun.marks first = [] :=
    DryRun.marks_eq_nil fun x hx => unmarked x (within (List.mem_append_left _ hx))
  have marks_rest : DryRun.marks rest = [] :=
    DryRun.marks_eq_nil fun x hx =>
      unmarked x (within (List.mem_append_right _ (List.mem_cons_of_mem _ hx)))
  have note : DryRun.marks [Ledger.insertSql d] = [] := by cases d <;> decide
  rw [DryRun.Committed, DryRun.marks_append, DryRun.marks_append, DryRun.marks_append, marks_first,
    marks_rest, List.append_nil, List.nil_append]
  cases r with
  | statements sqls =>
    cases sqls with
    | nil => exact absurd sent.symm (List.append_ne_nil_of_right_ne_nil _ (List.cons_ne_nil _ _))
    | cons x more =>
      have begun : (DryRun.marks earlier ++ DryRun.marks ["BEGIN"]).getLast? = some "BEGIN" :=
        List.getLast?_concat ..
      cases refused : DryRun.firstRefusal? failing? (statements (x :: more)).flat with
      | some e =>
        rw [closing_of_refusal refused]
        have rolledBack : (DryRun.marks ["ROLLBACK"]).head? ≠ some "COMMIT" := by decide
        exact ⟨fun h => absurd h.2 rolledBack, fun h => nomatch h.2⟩
      | none =>
        rw [closing_of_no_refusal refused]
        exact ⟨fun _ => ⟨rfl, rfl⟩, fun _ => ⟨begun, rfl⟩⟩
  | batches groups =>
    have nothing : DryRun.marks ((batches groups).closing d failing?) = [] := by
      unfold closing
      split
      · rfl
      · exact note
    rw [nothing]
    constructor
    · rintro ⟨-, commits⟩
      cases commits
    · rintro ⟨transaction, -⟩
      cases transaction

/-! ## The migration that stops a course -/

/-- What is read from files fails for reasons of files. -/
theorem Files.readMigration_ne_notApplied {fs : Files} {path name : String}
    {cause : DatabaseError} : fs.readMigration path ≠ .error (.notApplied name cause) := by
  intro h
  unfold readMigration at h
  cases hread : fs.read path with
  | error e => rw [hread] at h; cases h
  | ok text =>
    rw [hread] at h
    cases hm : Migration.ofText text with
    | error e =>
      simp only [Stored.ofFiles, Stored.ofText, Except.mapError, bind, Except.bind, hm] at h
      cases h
    | ok m =>
      simp only [Stored.ofFiles, Stored.ofText, Except.mapError, bind, Except.bind, hm] at h
      split at h <;> cases h

theorem Project.discover_ne_notApplied {p : Project} {fs : Files} {name : String}
    {cause : DatabaseError} : p.discover fs ≠ .error (.notApplied name cause) := by
  intro h
  unfold discover Stored.ofFiles Except.mapError at h
  split at h <;> cases h

/-- A migration that could not be applied was read, and either a statement of its routine or the row
of the ledger was refused. -/
theorem Files.exists_of_stop {fs : Files} {d : Dialect} {failing? : Option String}
    {path name name' : String} {cause : DatabaseError}
    (h : (fs.turn d failing? path).stop? name = some (.notApplied name' cause)) :
    ∃ m, fs.readMigration path = .ok m ∧ name = name' ∧
      cause = (DryRun.firstRefusal? failing? (m.routines d).up.flat).getD
        (DryRun.injected (Ledger.insertSql d)) := by
  obtain ⟨_, _, -, hturn⟩ | ⟨e, hread, -, hturn⟩ | ⟨m, hread, hturn⟩ :=
    fs.turn_cases d failing? path
  · rw [hturn] at h
    cases h
  · rw [hturn] at h
    cases h
    exact absurd hread readMigration_ne_notApplied
  · refine ⟨m, hread, ?_⟩
    rw [hturn] at h
    unfold Migration.turn at h
    dsimp only at h
    split at h
    · rename_i refused
      cases h
      exact ⟨rfl, by rw [refused]; rfl⟩
    · rename_i done
      split at h <;> cases h
      exact ⟨rfl, by rw [done]; rfl⟩

namespace Course

variable {c : Course} {goes rest : List MigrationFile} {file : MigrationFile}

/-- Up to the first file that stops, the files leave what they leave in the log one after the
other, and those that are applied come into the ledger. -/
theorem of_stop {e : MigrationError} (before : ∀ f ∈ goes, c.stop? f = none)
    (stop : c.stop? file = some e) :
    c.lines (goes ++ file :: rest) =
        goes.flatMap (fun f => (c.turn f).lines) ++ (c.turn file).lines ∧
      c.names (goes ++ file :: rest) =
        (goes.filter fun f => (c.turn f).isApplied).map (·.name) := by
  induction goes with
  | nil => exact ⟨lines_of_stop stop rest, names_of_stop stop rest⟩
  | cons f goes ih =>
    obtain ⟨hf, hgoes⟩ := List.forall_mem_cons.mp before
    obtain ⟨lines, names⟩ := ih hgoes
    constructor
    · rw [List.cons_append, lines_of_not_stop hf, lines, List.flatMap_cons, List.append_assoc]
    · rw [List.cons_append, names_of_not_stop hf, names, List.filter_cons]
      split <;> rfl

/-- Files that are passed over leave nothing in the log. -/
theorem lines_of_passed (passed : ∀ f ∈ goes, c.turn f = .passedOver) (file : MigrationFile)
    (rest : List MigrationFile) :
    ∃ later, c.lines (goes ++ file :: rest) = (c.turn file).lines ++ later := by
  induction goes with
  | nil =>
    cases stop : c.stop? file with
    | some e => exact ⟨[], by rw [List.nil_append, lines_of_stop stop, List.append_nil]⟩
    | none => exact ⟨_, lines_of_not_stop stop rest⟩
  | cons f goes ih =>
    obtain ⟨hf, hgoes⟩ := List.forall_mem_cons.mp passed
    obtain ⟨later, lines⟩ := ih hgoes
    have goesOn : c.stop? f = none := by rw [stop?, hf]; rfl
    exact ⟨later, by rw [List.cons_append, lines_of_not_stop goesOn, lines, hf]; rfl⟩

/-- A file that neither stops nor is applied is passed over, whatever lets statements fail. -/
theorem passedOver_of_not_applied {file : MigrationFile} (goesOn : c.stop? file = none)
    (notApplied : (c.turn file).isApplied = false) (failing? : Option String) :
    (Course.mk c.fs c.dialect failing?).turn file = .passedOver := by
  obtain ⟨_, _, hread, hturn⟩ | ⟨e, -, -, hturn⟩ | ⟨m, -, hturn⟩ :=
    c.fs.turn_cases c.dialect c.failing? file.path
  · rw [turn, Files.turn, hread]
  · rw [stop?, turn, hturn] at goesOn
    cases goesOn
  · rw [stop?] at goesOn
    rw [turn, hturn] at goesOn notApplied
    obtain ⟨_, _, h⟩ | ⟨_, _, h⟩ | ⟨_, h⟩ := m.turn_cases c.dialect c.failing? <;>
    · rw [h] at goesOn notApplied
      first | cases goesOn; done | cases notApplied

/-- The rows that are added are those of the migrations that are applied. -/
theorem any_isFor_rows {clock : Nat → Instant} {start : Nat} {files : List MigrationFile}
    {name : String} :
    (c.rows clock start files).any (·.isFor name c.dialect.tag) = true ↔ name ∈ c.names files := by
  rw [rows, List.any_eq_true]
  simp only [List.mem_mapIdx, LedgerRow.isFor, Bool.and_eq_true, beq_iff_eq]
  constructor
  · rintro ⟨_, ⟨i, hi, rfl⟩, rfl, -⟩
    exact List.getElem_mem hi
  · intro h
    obtain ⟨i, hi, rfl⟩ := List.mem_iff_getElem.mp h
    exact ⟨_, ⟨i, hi, rfl⟩, rfl, rfl⟩

/-- Once a course has stopped, the files that are still pending are those that were passed over, the
one that stopped, and those behind it. -/
theorem unlisted_of_stop {e : MigrationError} {rows : List LedgerRow} {found : List MigrationFile}
    (pending : Project.unlisted c.dialect rows found = goes ++ file :: rest)
    (distinct : (found.map (·.name)).Nodup) (before : ∀ f ∈ goes, c.stop? f = none)
    (stop : c.stop? file = some e) (clock : Nat → Instant) (start : Nat) :
    Project.unlisted c.dialect (rows ++ c.rows clock start (goes ++ file :: rest)) found =
      (goes.filter fun f => !(c.turn f).isApplied) ++ file :: rest := by
  have apart : ((goes ++ file :: rest).map (·.name)).Nodup := by
    rw [← pending]
    exact distinct.sublist (List.filter_sublist.map _)
  have names : c.names (goes ++ file :: rest) =
      (goes.filter fun f => (c.turn f).isApplied).map (·.name) := (of_stop before stop).2
  rw [List.map_append, List.nodup_append'] at apart
  obtain ⟨goes_distinct, -, disjoint⟩ := apart
  have further :
      Project.unlisted c.dialect (rows ++ c.rows clock start (goes ++ file :: rest)) found =
      (goes ++ file :: rest).filter fun f =>
        !(c.rows clock start (goes ++ file :: rest)).any (·.isFor f.name c.dialect.tag) := by
    rw [← pending, Project.unlisted, Project.unlisted, List.filter_filter]
    refine List.filter_congr fun f _ => ?_
    rw [List.any_append, Bool.not_or, Bool.and_comm]
  rw [further, List.filter_append]
  congr 1
  · refine List.filter_congr fun f hf => ?_
    rw [Bool.not_inj_iff, Bool.eq_iff_iff, any_isFor_rows, names]
    constructor
    · intro h
      obtain ⟨g, hg, same⟩ := List.mem_map.mp h
      obtain ⟨hg, applied⟩ := List.mem_filter.mp hg
      exact List.inj_on_of_nodup_map goes_distinct hg hf same ▸ applied
    · exact fun applied => List.mem_map_of_mem (List.mem_filter.mpr ⟨hf, applied⟩)
  · refine List.filter_eq_self.mpr fun f hf => ?_
    rw [Bool.not_eq_true', ← Bool.not_eq_true, any_isFor_rows, names]
    exact fun h => disjoint ((List.filter_sublist.map _).subset h) (List.mem_map_of_mem hf)

end Course

namespace Project

/-- What a migration leaves behind that could not be applied. -/
structure Halts (p : Project) (fs : Files) (d : Dialect) (name : String) (up : Routine)
    (cause : DatabaseError) (s s' : DryRun) : Prop where
  /-- Either a statement of its routine was refused, or the row of the ledger. -/
  cause : cause = (DryRun.firstRefusal? s.failing? up.flat).getD
    (DryRun.injected (Ledger.insertSql d))
  unlisted : (s'.ledger?.getD []).any (·.isFor name d.tag) = false
  /-- The log ends with its statements and what stands behind them, and these are committed exactly
  if none of them was refused. -/
  sent : ∃ earlier, s.log <+: earlier ∧
    s'.log = earlier ++ up.mark "BEGIN" ++ DryRun.through s.failing? up.flat ++
      up.closing d s.failing? ∧
    ((∀ sql ∈ up.flat, sql ∉ DryRun.transactionMarks) → ∀ first sql rest,
      DryRun.through s.failing? up.flat = first ++ sql :: rest →
      (DryRun.Committed (earlier ++ up.mark "BEGIN" ++ first) (rest ++ up.closing d s.failing?) ↔
        up.inTransaction = true ∧ DryRun.firstRefusal? s.failing? up.flat = none))
  /-- The next run sends its statements again, before those of any other migration. -/
  again : ∀ (clock : Nat → Instant) (t : DryRun), t.ledger? = s'.ledger? →
    t.fails (Ledger.createSql d) = false →
    ∃ later, ((p.applyPending fs d).run.rehearse clock t).2.log =
      t.log ++ [Ledger.createSql d, Ledger.selectSql d] ++ up.mark "BEGIN" ++
        DryRun.through t.failing? up.flat ++ later

/-- What a run leaves that comes to an error of a migration: it has come to the first file that
stops, among those that are pending. -/
theorem exists_of_notApplied {p : Project} {fs : Files} {d : Dialect} {clock : Nat → Instant}
    {s s' : DryRun} {name : String} {cause : DatabaseError}
    (h : (p.applyPending fs d).run.rehearse clock s = (.error (.notApplied name cause), s')) :
    let c : Course := ⟨fs, d, s.failing?⟩
    ∃ found goes file rest, p.discover fs = .ok found ∧
      unlisted d (s.ledger?.getD []) found = goes ++ file :: rest ∧
      (∀ f ∈ goes, c.stop? f = none) ∧ c.stop? file = some (.notApplied name cause) ∧
      s.Follows ([Ledger.createSql d, Ledger.selectSql d] ++ c.lines (goes ++ file :: rest))
        (some (s.ledger?.getD [] ++ c.rows clock s.readings (goes ++ file :: rest)))
        (c.readings (goes ++ file :: rest)) s' := by
  intro c
  cases created : s.fails (Ledger.createSql d) with
  | true =>
    obtain ⟨_, ran, -⟩ := p.leaves_applyPending_uncreated clock fs created
    rw [h] at ran
    cases ran
  | false =>
    cases hfound : p.discover fs with
    | error e =>
      obtain ⟨_, ran, -⟩ := leaves_applyPending_unread clock created hfound
      rw [h] at ran
      cases ran
      exact absurd hfound discover_ne_notApplied
    | ok found =>
      obtain ⟨_, ran, follows⟩ := leaves_applyPending clock created hfound
      rw [h] at ran
      obtain ⟨ending, rfl⟩ := Prod.mk.inj ran
      have stops : (unlisted d (s.ledger?.getD []) found).findSome? c.stop? =
          some (.notApplied name cause) := by
        unfold Course.ending at ending
        split at ending
        · cases ending
        · rename_i e he
          cases ending
          exact he
      obtain ⟨goes, file, rest, pending, stop, before⟩ := List.findSome?_eq_some_iff.mp stops
      exact ⟨found, goes, file, rest, rfl, pending, before, stop, pending ▸ follows⟩

/-- **What is left when a migration could not be applied.** -/
theorem applyPending_notApplied {p : Project} {fs : Files} {d : Dialect} {clock : Nat → Instant}
    {s s' : DryRun} {name : String} {cause : DatabaseError}
    (h : (p.applyPending fs d).run.rehearse clock s = (.error (.notApplied name cause), s')) :
    ∃ m, fs.readMigration (p.pathOf name) = .ok m ∧
      p.Halts fs d name (m.routines d).up cause s s' := by
  obtain ⟨found, goes, file, rest, hfound, pending, before, stop, follows⟩ := exists_of_notApplied h
  obtain ⟨m, hread, rfl, hcause⟩ := Files.exists_of_stop stop
  have listed : file ∈ found := by
    have : file ∈ unlisted d (s.ledger?.getD []) found := by
      rw [pending]
      exact List.mem_append_right _ List.mem_cons_self
    exact (List.mem_filter.mp this).1
  have path : file.path = p.pathOf file.name :=
    (((lists_discover hfound).mem_iff file).mp listed).2.1
  have left := Course.unlisted_of_stop pending (nodup_discover hfound) before stop clock s.readings
  have turn_eq (failing? : Option String) :
      (Course.mk fs d failing?).turn file = m.turn d failing? :=
    Files.turn_of_readMigration hread d failing?
  refine ⟨m, path ▸ hread, hcause, ?_, ?_, ?_⟩
  · have waits : file ∈ unlisted d (s'.ledger?.getD []) found := by
      rw [follows.ledger, Option.getD_some, left]
      exact List.mem_append_right _ List.mem_cons_self
    exact Bool.not_eq_true' _ ▸ (List.mem_filter.mp waits).2
  · refine ⟨s.log ++ ([Ledger.createSql d, Ledger.selectSql d] ++
      goes.flatMap fun f => ((Course.mk fs d s.failing?).turn f).lines),
      List.prefix_append .., ?_, ?_⟩
    · rw [follows.log, (Course.of_stop before stop).1, turn_eq, m.lines_turn]
      simp only [List.append_assoc]
    · exact fun unmarked first sql rest sent => Routine.committed_iff unmarked _ sent
  · intro clock' t hledger created
    obtain ⟨t', ran, follows'⟩ := leaves_applyPending clock' created hfound
    have passed : ∀ f ∈ goes.filter fun f => !((Course.mk fs d s.failing?).turn f).isApplied,
        (Course.mk fs d t.failing?).turn f = .passedOver := by
      intro f hf
      obtain ⟨hf, notApplied⟩ := List.mem_filter.mp hf
      exact Course.passedOver_of_not_applied (before f hf) (Bool.not_eq_true' _ ▸ notApplied) _
    obtain ⟨later, lines⟩ := Course.lines_of_passed passed file rest
    refine ⟨(m.routines d).up.closing d t.failing? ++ later, ?_⟩
    rw [ran, follows'.log, hledger, follows.ledger, Option.getD_some, left, lines, turn_eq,
      m.lines_turn]
    simp only [List.append_assoc]

end Project

namespace Shop

open Project

/-- The goods, made by these statements. -/
def stockingBy (sqls : List String) : Migration :=
  { stocking with postgres := ⟨.statements sqls, .statements []⟩ }

/-- A directory with the migration of the goods. -/
def shipment (sqls : List String) : Files :=
  (Files.empty.put ["migrations"] .directory).put ["migrations", "20250101000000_goods.json"]
    (.file ((stockingBy sqls).toText ++ "\n"))

def shipped : MigrationFile :=
  ⟨"20250101000000_goods", (within "migrations").pathOf "20250101000000_goods"⟩

theorem find_shipment (sqls : List String) :
    (shipment sqls).find "migrations" = .ok (["migrations"], some .directory) :=
  find_migrations rfl

theorem discover_shipment (sqls : List String) :
    (within "migrations").discover (shipment sqls) = .ok [shipped] := by
  have listed : (shipment sqls).filesIn "migrations" = .ok ["20250101000000_goods.json"] :=
    Files.filesIn_eq_ok_iff.mpr ⟨_, find_shipment sqls, rfl⟩
  refine discover_eq_ok_iff.mpr ⟨_, .inr ⟨Files.contains_of_filesIn listed, listed⟩, ?_⟩
  exact (List.mergeSort_singleton shipped).symm

theorem readMigration_shipment (sqls : List String) :
    (shipment sqls).readMigration shipped.path = .ok (stockingBy sqls) := by
  have storable : ∀ v ∈ stocking.literals, v.Storable := by decide
  exact Files.readMigration_of_read
    (read_migrations (find_shipment sqls) (by decide) ⟨rfl, rfl⟩ rfl)
    (Migration.ofText_line storable) rfl

/-- A dry run that has not begun and lets statements with this text fail. -/
def failingAt (part : String) : DryRun :=
  { DryRun.start with failing? := some part }

/-- The day on which all is applied. -/
def shippingDay : Nat → Instant := fun _ => stockDay

/-- The migration of the goods is the only one, and the run ends with what comes of it. -/
theorem rehearse_shipment (sqls : List String) (part : String) (cause : DatabaseError)
    (created : (failingAt part).fails (Ledger.createSql .postgres) = false)
    (stop : ((stockingBy sqls).turn .postgres (some part)).stop? shipped.name =
      some (.notApplied shipped.name cause)) :
    ∃ s', ((within "migrations").applyPending (shipment sqls) .postgres).run.rehearse shippingDay
        (failingAt part) = (.error (.notApplied shipped.name cause), s') ∧
      s'.log = Ledger.createSql .postgres :: Ledger.selectSql .postgres ::
        ((stockingBy sqls).turn .postgres (some part)).lines := by
  let c : Course := ⟨shipment sqls, .postgres, some part⟩
  have turn_eq : c.turn shipped = (stockingBy sqls).turn .postgres (some part) :=
    Files.turn_of_readMigration (readMigration_shipment sqls) .postgres _
  have stops : c.stop? shipped = some (.notApplied shipped.name cause) := by
    rw [Course.stop?, turn_eq, stop]
  have ending : c.ending [shipped] = .error (.notApplied shipped.name cause) :=
    Course.ending_of_stop stops []
  obtain ⟨s', ran, follows⟩ := leaves_applyPending shippingDay created (discover_shipment sqls)
  refine ⟨s', ran.trans (congrArg (·, s') ending), ?_⟩
  rw [← turn_eq, ← Course.lines_of_stop stops []]
  exact follows.log

theorem not_fails_createSql_notes :
    (failingAt "notes").fails (Ledger.createSql .postgres) = false := by
  decide +kernel

/-- The second statement is refused, so the first is rolled back, and the next run sends it
again. -/
theorem applyPending_notApplied_shipment :
    let fs := shipment ["CREATE TABLE goods ()", "CREATE TABLE notes ()"]
    let cause := DryRun.injected "CREATE TABLE notes ()"
    ∃ s', ((within "migrations").applyPending fs .postgres).run.rehearse shippingDay
        (failingAt "notes") = (.error (.notApplied shipped.name cause), s') ∧
      ∃ m, fs.readMigration shipped.path = .ok m ∧
        (within "migrations").Halts fs .postgres shipped.name (m.routines .postgres).up cause
          (failingAt "notes") s' := by
  intro fs cause
  obtain ⟨s', ran, -⟩ := rehearse_shipment ["CREATE TABLE goods ()", "CREATE TABLE notes ()"]
    "notes" cause not_fails_createSql_notes rfl
  exact ⟨s', ran, applyPending_notApplied ran⟩

/-- **Statements that are committed although their migration could not be applied.** The row of the
ledger is refused when the transaction is over; and a routine may have a statement that commits. -/
theorem committed_shipment :
    (∃ s', ((within "migrations").applyPending (shipment ["CREATE TABLE goods ()"])
        .postgres).run.rehearse shippingDay (failingAt "INSERT") =
          (.error (.notApplied shipped.name (DryRun.injected (Ledger.insertSql .postgres))), s') ∧
      ∃ before behind, s'.log = before ++ "CREATE TABLE goods ()" :: behind ∧
        DryRun.Committed before behind) ∧
    ∃ s', ((within "migrations").applyPending (shipment ["CREATE TABLE goods ()", "COMMIT",
        "CREATE TABLE notes ()"]) .postgres).run.rehearse shippingDay (failingAt "notes") =
          (.error (.notApplied shipped.name (DryRun.injected "CREATE TABLE notes ()")), s') ∧
      ∃ before behind, s'.log = before ++ "CREATE TABLE goods ()" :: behind ∧
        DryRun.Committed before behind := by
  constructor
  · obtain ⟨s', ran, log⟩ := rehearse_shipment ["CREATE TABLE goods ()"] "INSERT"
      (DryRun.injected (Ledger.insertSql .postgres)) (by decide +kernel) (by decide +kernel)
    exact ⟨s', ran, [Ledger.createSql .postgres, Ledger.selectSql .postgres, "BEGIN"],
      ["COMMIT", Ledger.insertSql .postgres], log, by decide⟩
  · obtain ⟨s', ran, log⟩ := rehearse_shipment ["CREATE TABLE goods ()", "COMMIT",
      "CREATE TABLE notes ()"] "notes" (DryRun.injected "CREATE TABLE notes ()")
      not_fails_createSql_notes rfl
    exact ⟨s', ran, [Ledger.createSql .postgres, Ledger.selectSql .postgres, "BEGIN"],
      ["COMMIT", "CREATE TABLE notes ()", "ROLLBACK"], log, by decide⟩

end Shop

end SchemaEvolution
