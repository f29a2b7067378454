import SchemaEvolution.Cli.Run
import SchemaEvolution.Proofs.StatusReport

/-!
# What a dry run prints

A dry run of applying migrations prints the statements that apply them, file by file in the order of
names and each as the migration has it, as long as none of them could be taken for a statement about
the ledger or for the mark of a transaction (`Cli.respond_dryRun_latest`). These two are what the
log of the dry run has besides, so they are all that must not be printed
(`Routine.filter_lines`, `Course.filter_lines`). If some file holds no migration that can be read,
no statement is printed.
-/

namespace SchemaEvolution

open Session (Fallible Leaves)

/-! ## Statements and the lines about them -/

/-- A statement that does not name the ledger and is no mark of a transaction. -/
structure Unledgered (sql : String) : Prop where
  unnamed : ¬ Ledger.table.toList <:+: sql.toList
  unmarked : sql ∉ DryRun.transactionMarks

namespace Unledgered

variable {sql : String}

theorem hasPart_eq (h : Unledgered sql) : hasPart sql Ledger.table = false := by
  rw [← Bool.not_eq_true, hasPart, occursIn_iff]
  exact h.unnamed

theorem isSchemaStatement (h : Unledgered sql) : DryRun.isSchemaStatement sql = true := by
  rw [DryRun.isSchemaStatement, h.hasPart_eq, List.contains_eq_mem, decide_eq_false h.unmarked]
  rfl

/-- Where nothing is to fail, a statement that does not name the ledger goes well. -/
theorem not_refused (h : Unledgered sql) : DryRun.refusal? none sql = none := by
  rw [DryRun.refusal?, DryRun.ledgerRefusal?, h.hasPart_eq]
  rfl

end Unledgered

theorem not_isSchemaStatement {sql : String} (h : hasPart sql Ledger.table = true) :
    DryRun.isSchemaStatement sql = false := by
  rw [DryRun.isSchemaStatement, h]
  rfl

/-- Of what a routine leaves in the log its own statements are about anything but the ledger. -/
theorem Routine.filter_lines (r : Routine) (h : ∀ sql ∈ r.flat, Unledgered sql) :
    r.lines.filter DryRun.isSchemaStatement = r.flat := by
  have kept : r.flat.filter DryRun.isSchemaStatement = r.flat :=
    List.filter_eq_self.mpr fun sql hsql => (h sql hsql).isSchemaStatement
  cases r with
  | statements sqls =>
    cases sqls with
    | nil => rfl
    | cons sql rest =>
      have first : ["BEGIN"].filter DryRun.isSchemaStatement = [] := by decide
      have last : ["COMMIT"].filter DryRun.isSchemaStatement = [] := by decide
      change (["BEGIN"] ++ ((sql :: rest) ++ ["COMMIT"])).filter _ = _
      rw [List.filter_append, List.filter_append, first, last, List.append_nil, List.nil_append]
      exact kept
  | batches groups => exact kept

/-! ## The migrations of files -/

namespace Files

/-- The migration that a file holds, in whatever format; none if there is none that can be read. -/
def migrationAt? (fs : Files) (path : String) : Option Migration :=
  match fs.read path with
  | .ok text => (Migration.ofText text).toOption
  | .error _ => none

/-- The statements that apply the migration of a file; none if it has a format that is not run. -/
def upStatementsAt (fs : Files) (d : Dialect) (path : String) : List String :=
  match fs.migrationAt? path with
  | some m => if m.isSupported then (m.routines d).up.flat else []
  | none => []

variable {fs : Files} {path : String} {m : Migration}

theorem readMigration_of_some (h : fs.migrationAt? path = some m) :
    fs.readMigration path =
      if m.isSupported then .ok m else .error (.unsupportedFormat path m.format) := by
  rw [migrationAt?] at h
  rw [readMigration]
  rcases hread : fs.read path with e | text
  · rw [hread] at h
    cases h
  · rw [hread] at h
    dsimp only at h
    rcases htext : Migration.ofText text with fault | m'
    · rw [htext] at h
      cases h
    · rw [htext] at h
      cases h
      change (Stored.ofText path (Migration.ofText text) >>= _) = _
      rw [htext]
      rfl

theorem readMigration_of_none (h : fs.migrationAt? path = none) :
    ∃ e, fs.readMigration path = .error e ∧
      ∀ place format, e ≠ .unsupportedFormat place format := by
  rw [migrationAt?] at h
  rw [readMigration]
  rcases hread : fs.read path with e | text
  · exact ⟨.files e, rfl, fun _ _ same => by cases same⟩
  · rw [hread] at h
    dsimp only at h
    rcases htext : Migration.ofText text with fault | m
    · refine ⟨.unreadable path fault, ?_, fun _ _ same => by cases same⟩
      change (Stored.ofText path (Migration.ofText text) >>= _) = _
      rw [htext]
      rfl
    · rw [htext] at h
      cases h

end Files

/-! ## Turns -/

/-- A migration whose statements do not name the ledger is applied. -/
theorem Migration.turn_of_unledgered {m : Migration} {d : Dialect}
    (h : ∀ sql ∈ (m.routines d).up.flat, Unledgered sql) :
    m.turn d none = .applied ((m.routines d).up.lines ++ [Ledger.insertSql d]) := by
  have well : DryRun.firstRefusal? none (m.routines d).up.flat = none :=
    List.findSome?_eq_none_iff.mpr fun sql hsql => (h sql hsql).not_refused
  exact turn_of_recorded well rfl

namespace Course

variable {c : Course} {file : MigrationFile} {files : List MigrationFile}

/-- A file that can be read, with statements that do not name the ledger, leaves them in the log and
stops nothing. -/
theorem turn_of_unledgered (clean : c.failing? = none)
    (parsed : (c.fs.migrationAt? file.path).isSome = true)
    (plain : ∀ sql ∈ c.fs.upStatementsAt c.dialect file.path, Unledgered sql) :
    c.stop? file = none ∧ (c.turn file).lines.filter DryRun.isSchemaStatement =
      c.fs.upStatementsAt c.dialect file.path := by
  obtain ⟨m, hm⟩ := Option.isSome_iff_exists.mp parsed
  have read := Files.readMigration_of_some hm
  rw [Files.upStatementsAt, hm] at plain ⊢
  dsimp only at plain ⊢
  rw [stop?, turn, Files.turn, read, clean]
  cases supported : m.isSupported with
  | false => exact ⟨rfl, rfl⟩
  | true =>
    rw [supported, if_pos rfl] at plain
    rw [if_pos rfl, if_pos rfl]
    dsimp only
    rw [Migration.turn_of_unledgered plain]
    refine ⟨rfl, ?_⟩
    have noted := not_isSchemaStatement (Ledger.hasPart_insertSql c.dialect)
    rw [Turn.lines, List.filter_append, Routine.filter_lines _ plain,
      List.filter_cons_of_neg (by simp [noted]), List.filter_nil, List.append_nil]

/-- Where no file stops the others, each has its turn. -/
theorem of_not_stop (h : ∀ file ∈ files, c.stop? file = none) :
    c.ending files = .ok (c.names files) ∧
      c.lines files = files.flatMap fun file => (c.turn file).lines := by
  constructor
  · rw [ending, List.findSome?_eq_none_iff.mpr h]
  · induction files with
    | nil => rfl
    | cons file rest ih =>
      rw [lines_of_not_stop (h file List.mem_cons_self), List.flatMap_cons,
        ih fun other hother => h other (List.mem_cons_of_mem _ hother)]

/-- **The statements about anything but the ledger are those of the files**, one after the other. -/
theorem filter_lines (clean : c.failing? = none)
    (parsed : ∀ file ∈ files, (c.fs.migrationAt? file.path).isSome = true)
    (plain : ∀ file ∈ files, ∀ sql ∈ c.fs.upStatementsAt c.dialect file.path, Unledgered sql) :
    c.ending files = .ok (c.names files) ∧
      (c.lines files).filter DryRun.isSchemaStatement =
        files.flatMap fun file => c.fs.upStatementsAt c.dialect file.path := by
  have turns (file) (hfile : file ∈ files) :=
    turn_of_unledgered clean (parsed file hfile) (plain file hfile)
  obtain ⟨ending, lines⟩ := of_not_stop fun file hfile => (turns file hfile).1
  refine ⟨ending, ?_⟩
  rw [lines, List.filter_flatMap]
  exact List.flatMap_congr fun file hfile => (turns file hfile).2

/-- A file that holds no migration that can be read ends the run, unless it has ended before. -/
theorem ending_of_unparsed (hfile : file ∈ files) (unparsed : c.fs.migrationAt? file.path = none) :
    ∃ e, c.ending files = .error e := by
  have stops : (files.findSome? c.stop?).isSome = true := by
    obtain ⟨e, read, format⟩ := Files.readMigration_of_none unparsed
    refine List.findSome?_isSome_iff.mpr ⟨file, hfile, ?_⟩
    rw [stop?, turn, Files.turn, read]
    cases e with
    | unsupportedFormat place format' => exact absurd rfl (format place format')
    | _ => rfl
  obtain ⟨e, he⟩ := Option.isSome_iff_exists.mp stops
  exact ⟨e, by rw [ending, he]⟩

end Course

/-! ## The command -/

theorem Session.Leaves.forM_tell {ε α : Type} (clock : Nat → Instant) (s : DryRun)
    (message : α → Message) (l : List α) :
    (l.forM fun a => Fallible.tell (message a) : Fallible ε Unit).run.Leaves clock s (.ok ()) []
      s.ledger? 0 := by
  induction l generalizing s with
  | nil => exact Leaves.done _ rfl
  | cons a rest ih =>
    change (Fallible.tell (message a) >>= fun _ => rest.forM fun a => Fallible.tell (message a) :
      Fallible ε Unit).run.Leaves _ _ _ _ _ _
    refine Leaves.tell_bind _ fun s' hs' => ?_
    rw [← hs'.ledger]
    exact ih s'

namespace Cli

variable {fs : Files} {p : Project} {d : Dialect} {now : Instant}

/-- A dry run begins with an empty ledger, so all that is found is pending. -/
theorem leaves_latest (clock : Nat → Instant) (p : Project) (fs : Files) (d : Dialect) :
    match p.discover fs with
    | .error e =>
      (targetSession fs p d .latest).run.Leaves clock .start (.error e)
        [Ledger.createSql d, Ledger.selectSql d] (some []) 0
    | .ok found =>
      let c : Course := ⟨fs, d, none⟩
      (targetSession fs p d .latest).run.Leaves clock .start ((c.ending found).map fun _ => "")
        ([Ledger.createSql d, Ledger.selectSql d] ++ c.lines found)
        (some (c.rows clock 0 found)) (c.readings found) := by
  have created : DryRun.start.fails (Ledger.createSql d) = false := rfl
  cases hfound : p.discover fs with
  | error e => exact (Project.leaves_applyPending_unread clock created hfound).bind_error _
  | ok found =>
    dsimp only
    have applies := Project.leaves_applyPending clock created hfound
    have pending : Project.unlisted d (DryRun.start.ledger?.getD []) found = found :=
      List.filter_eq_self.mpr fun _ _ => rfl
    dsimp only at applies
    rw [pending] at applies
    change (p.applyPending fs d >>= _).run.Leaves _ _ _ _ _ _
    cases hending : (Course.mk fs d none).ending found with
    | error e =>
      have failed : Leaves clock _ _ _ _ _ _ := hending ▸ applies
      exact failed.bind_error _
    | ok names =>
      have done : Leaves clock _ _ _ _ _ _ := hending ▸ applies
      refine Leaves.bind_quiet done fun s' hs' => ?_
      have told : (names.forM _ : Fallible MigrationError Unit).run.Leaves clock s' _ _ _ _ :=
        Leaves.forM_tell clock s' (fun name => .info "Applied" [("name", name)]) names
      rw [hs'.ledger] at told
      exact told.bind_pure fun _ => ""

/-- A dry run prints what its session comes to, and the statements it leaves in the log about
anything but the ledger. -/
theorem dryRunText_of_leaves {action : TargetAction} {result : Except MigrationError String}
    {lines : List String} {ledger? : Option (List LedgerRow)} {readings : Nat}
    (h : (targetSession fs p d action).run.Leaves (fun _ => now) .start result lines ledger?
      readings) :
    dryRunText fs p d action now =
      (result.map fun text => text ++ String.join
        ((lines.filter DryRun.isSchemaStatement).map (· ++ ";\n"))).mapError .migration := by
  obtain ⟨after, came, follows⟩ := h
  have sent : after.schemaStatements = lines.filter DryRun.isSchemaStatement := by
    rw [DryRun.schemaStatements, follows.log]
    rfl
  have ended (sql : String) : line (sql ++ ";") = sql ++ ";\n" := by
    rw [line, String.append_assoc]
    rfl
  rw [dryRunText, rehearsal, came]
  dsimp only
  rw [sent]
  cases result with
  | error e => rfl
  | ok text => simp only [ended, Except.map, Except.mapError]

/-- The statements that apply the migrations of files, each with its end. -/
def upScript (fs : Files) (d : Dialect) (files : List MigrationFile) : String :=
  String.join ((files.flatMap fun file => fs.upStatementsAt d file.path).map (· ++ ";\n"))

variable {found : List MigrationFile}

theorem dryRunText_latest_of_unfound {e : MigrationError} (h : p.discover fs = .error e) :
    dryRunText fs p d .latest now = .error (.migration e) := by
  have leaves := leaves_latest (fun _ => now) p fs d
  rw [h] at leaves
  exact dryRunText_of_leaves leaves

/-- Where all migrations can be read and have plain statements, the dry run prints these. -/
theorem dryRunText_latest (h : p.discover fs = .ok found)
    (parsed : ∀ file ∈ found, (fs.migrationAt? file.path).isSome = true)
    (plain : ∀ file ∈ found, ∀ sql ∈ fs.upStatementsAt d file.path, Unledgered sql) :
    dryRunText fs p d .latest now = .ok (upScript fs d found) := by
  have leaves := leaves_latest (fun _ => now) p fs d
  rw [h] at leaves
  obtain ⟨ending, lines⟩ := (Course.mk fs d none).filter_lines rfl parsed plain
  dsimp only at leaves ending lines
  have created := not_isSchemaStatement (Ledger.hasPart_createSql d)
  have selected := not_isSchemaStatement (Ledger.hasPart_selectSql d)
  rw [dryRunText_of_leaves leaves, ending, List.filter_append, lines,
    List.filter_cons_of_neg (by simp [created]), List.filter_cons_of_neg (by simp [selected]),
    List.filter_nil, List.nil_append]
  simp only [Except.map, Except.mapError, String.empty_append]
  rfl

/-- Where a migration cannot be read, the dry run prints no statement. -/
theorem dryRunText_latest_of_unparsed (h : p.discover fs = .ok found)
    {file : MigrationFile} (hfile : file ∈ found) (unparsed : fs.migrationAt? file.path = none) :
    ∃ e, dryRunText fs p d .latest now = .error (.migration e) := by
  have leaves := leaves_latest (fun _ => now) p fs d
  rw [h] at leaves
  obtain ⟨e, ending⟩ := Course.ending_of_unparsed (c := ⟨fs, d, none⟩) hfile unparsed
  dsimp only at leaves
  rw [ending] at leaves
  exact ⟨e, dryRunText_of_leaves leaves⟩

section

variable {env : Environment} {args : List String} {i : Invocation} {action : TargetAction}
  {t : Target}

theorem run_of_dry (asked : i.command = .migrate action t) (dry : t.dryRun = true) (fs : Files)
    (now : Instant) : i.run fs now = dryRun fs i.project t.dialect action now := by
  rw [Invocation.run, asked]
  exact if_pos dry

/-- A dry run that comes to a text prints it behind what is told. -/
theorem respond_of_printed (read : Invocation.read env args = .ok i)
    (asked : i.command = .migrate action t) (dry : t.dryRun = true) {text : String}
    (h : dryRunText fs i.project t.dialect action now = .ok text) :
    respond env args fs now =
      ⟨0, Message.lines i.verbose env.wantsColors (i.run fs now).messages ++ text, none, fs⟩ := by
  have ran := run_of_dry asked dry fs now
  rw [dryRun, h] at ran
  rw [respond, read]
  dsimp only
  rw [ran]
  rfl

/-- A dry run that fails prints what is told, and nothing else. -/
theorem respond_of_failed (read : Invocation.read env args = .ok i)
    (asked : i.command = .migrate action t) (dry : t.dryRun = true) {failure : Failure}
    (h : dryRunText fs i.project t.dialect action now = .error failure) :
    respond env args fs now =
      ⟨1, Message.lines i.verbose env.wantsColors (i.run fs now).messages, some failure, fs⟩ := by
  have ran := run_of_dry asked dry fs now
  rw [dryRun, h] at ran
  rw [respond, read]
  dsimp only
  rw [ran, Outcome.of, String.append_empty]
  rfl

/-- **What a dry run of applying migrations prints.** All is printed behind what is told, and no
file is left changed. -/
theorem respond_dryRun_latest (read : Invocation.read env args = .ok i)
    (asked : i.command = .migrate .latest t) (dry : t.dryRun = true) (fs : Files) (now : Instant) :
    let told := Message.lines i.verbose env.wantsColors (i.run fs now).messages
    match i.project.discover fs with
    | .error e => respond env args fs now = ⟨1, told, some (.migration e), fs⟩
    | .ok found => i.project.Lists fs found ∧
      ((∀ file ∈ found, (fs.migrationAt? file.path).isSome = true) →
        (∀ file ∈ found, ∀ sql ∈ fs.upStatementsAt t.dialect file.path, Unledgered sql) →
          respond env args fs now = ⟨0, told ++ upScript fs t.dialect found, none, fs⟩) ∧
      ((∃ file ∈ found, fs.migrationAt? file.path = none) →
        ∃ e, respond env args fs now = ⟨1, told, some (.migration e), fs⟩) := by
  intro told
  cases hfound : i.project.discover fs with
  | error e => exact respond_of_failed read asked dry (dryRunText_latest_of_unfound hfound)
  | ok found =>
    refine ⟨Project.lists_discover hfound, fun parsed plain => ?_, ?_⟩
    · exact respond_of_printed read asked dry (dryRunText_latest hfound parsed plain)
    · rintro ⟨file, hfile, unparsed⟩
      obtain ⟨e, failed⟩ := dryRunText_latest_of_unparsed hfound hfile unparsed
      exact ⟨e, respond_of_failed read asked dry failed⟩

end

end Cli

namespace Shop

open Project

/-- The goods, and behind them a migration in a format that is not run. -/
def delivery : Files :=
  ⟨[(["migrations"], .directory),
    (["migrations", "20250102000000_later.json"],
      .file ({ stocking with format := "later" }.toText ++ "\n")),
    (["migrations", "20250101000000_goods.json"], .file (stocking.toText ++ "\n"))], by decide⟩

def delivered : List MigrationFile :=
  ["20250101000000_goods", "20250102000000_later"].map fun name =>
    ⟨name, (within "migrations").pathOf name⟩

theorem find_delivery : delivery.find "migrations" = .ok (["migrations"], some .directory) :=
  find_migrations (by decide)

theorem discover_delivery : (within "migrations").discover delivery = .ok delivered := by
  have listed : delivery.filesIn "migrations" =
      .ok ["20250102000000_later.json", "20250101000000_goods.json"] :=
    Files.filesIn_eq_ok_iff.mpr ⟨_, find_delivery, by decide⟩
  refine discover_eq_ok_iff.mpr ⟨_, .inr ⟨Files.contains_of_filesIn listed, listed⟩, ?_⟩
  exact (mergeSort_name_eq MigrationFile.name (List.Perm.swap _ _ []) (by decide)).symm

theorem migrationAt_migrations {fs : Files} {name text : String}
    (there : fs.find "migrations" = .ok (["migrations"], some .directory))
    (slashless : '/' ∉ name.toList)
    (usable : Files.Usable "migrations" ["migrations"] (name ++ ".json"))
    (held : fs.entry? ["migrations", name ++ ".json"] = some (.file text)) :
    fs.migrationAt? ((within "migrations").pathOf name) = (Migration.ofText text).toOption := by
  rw [Files.migrationAt?, read_migrations there slashless usable held]

theorem migrationAt_goods :
    delivery.migrationAt? ((within "migrations").pathOf "20250101000000_goods") =
      some stocking := by
  rw [migrationAt_migrations find_delivery (by decide) ⟨rfl, rfl⟩ rfl,
    Migration.ofText_line (by decide)]
  rfl

theorem migrationAt_later :
    delivery.migrationAt? ((within "migrations").pathOf "20250102000000_later") =
      some { stocking with format := "later" } := by
  rw [migrationAt_migrations find_delivery (by decide) ⟨rfl, rfl⟩ rfl,
    Migration.ofText_line (by decide)]
  rfl

theorem upStatementsAt_goods :
    delivery.upStatementsAt .spanner ((within "migrations").pathOf "20250101000000_goods") =
      ["CREATE TABLE goods () PRIMARY KEY ()"] := by
  rw [Files.upStatementsAt, migrationAt_goods]
  rfl

theorem upStatementsAt_later :
    delivery.upStatementsAt .spanner ((within "migrations").pathOf "20250102000000_later") =
      [] := by
  rw [Files.upStatementsAt, migrationAt_later]
  rfl

/-- A dry run for Spanner, with nothing in the environment. -/
def rehearsed : Cli.Invocation :=
  ⟨within "migrations", false,
    .migrate .latest ⟨.spanner, none, true, Cli.Environment.database []⟩⟩

def rehearsing : List String :=
  ["migrate", "latest", "--dry-run", "--dialect", "spanner"]

theorem read_rehearsing : Cli.Invocation.read [] rehearsing = .ok rehearsed := by
  have read : (Cli.Invocation.read [] rehearsing).toOption = some rehearsed := by decide +kernel
  cases h : Cli.Invocation.read [] rehearsing with
  | error e => rw [h] at read; cases read
  | ok i => rw [h] at read; exact congrArg _ (Option.some.inj read)

theorem upScript_delivered :
    Cli.upScript delivery .spanner delivered = "CREATE TABLE goods () PRIMARY KEY ();\n" := by
  simp only [Cli.upScript, delivered, List.map_cons, List.map_nil, List.flatMap_cons,
    List.flatMap_nil, upStatementsAt_goods, upStatementsAt_later]
  decide

/-- Of the delivery, the statement that makes the goods is printed. Of the shelf, where the files of
migrations are empty, none is. -/
theorem respond_rehearsing :
    let told (fs : Files) : String := Message.lines rehearsed.verbose
      (Cli.Environment.wantsColors []) (rehearsed.run fs stockDay).messages
    Cli.respond [] rehearsing delivery stockDay =
        ⟨0, told delivery ++ "CREATE TABLE goods () PRIMARY KEY ();\n", none, delivery⟩ ∧
      ∃ e, Cli.respond [] rehearsing shelf stockDay =
        ⟨1, told shelf, some (.migration e), shelf⟩ := by
  intro told
  have answer (fs : Files) := Cli.respond_dryRun_latest read_rehearsing rfl rfl fs stockDay
  constructor
  · have delivers := answer delivery
    rw [show rehearsed.project.discover delivery = .ok delivered from discover_delivery] at delivers
    rw [← upScript_delivered]
    refine delivers.2.1 ?_ ?_
    · simp [delivered, migrationAt_goods, migrationAt_later]
    · have plain : Unledgered "CREATE TABLE goods () PRIMARY KEY ()" := ⟨by decide, by decide⟩
      simpa [delivered, upStatementsAt_goods, upStatementsAt_later] using plain
  · have shelves := answer shelf
    rw [show rehearsed.project.discover shelf = _ from discover_shelf] at shelves
    have slashless : '/' ∉ "20250101000000_a".toList := by decide
    have empty : shelf.migrationAt? ((within "migrations").pathOf "20250101000000_a") = none :=
      migrationAt_migrations find_shelf slashless ⟨rfl, rfl⟩ rfl
    exact shelves.2.2 ⟨_, List.mem_cons_self, empty⟩

end Shop

end SchemaEvolution
