import SchemaEvolution.Proofs.DialectsApart
import SchemaEvolution.Proofs.MigrationChain
import SchemaEvolution.Proofs.Transactions

/-!
# What the status says

The status of a project pairs the files in its directory with the rows of the ledger: every name
that has a file or a row comes once, in the order of names, with the time of its row and whether
there is a file (`Project.Reports`). So what is pending, and what is applied, can be read off the
status (`Project.status_agrees`).

The files are gone through in their order, and what the ledger says of one is taken out of the list
of what is applied; what is left at the end has no file. As no name comes twice in either list,
nothing else is taken out (`Project.mergeStatus_eq`, by induction on the files).
-/

namespace SchemaEvolution

/-! ## Taking out -/

section

variable {α : Type} {name : α → String} {l : List α}

/-- Where no two things have one name, the first of a name is the only one. -/
theorem eraseP_eq_filter (distinct : (l.map name).Nodup) (key : String) :
    l.eraseP (name · == key) = l.filter (!name · == key) := by
  induction l with
  | nil => rfl
  | cons a rest ih =>
    rw [List.map_cons, List.nodup_cons] at distinct
    by_cases same : name a = key
    · have others : ∀ b ∈ rest, name b ≠ key := fun b hb h =>
        distinct.1 (List.mem_map.mpr ⟨b, hb, h.trans same.symm⟩)
      rw [List.eraseP_cons_of_pos (by simpa using same),
        List.filter_cons_of_neg (by simpa using same)]
      exact (List.filter_eq_self.mpr fun b hb => by simpa using others b hb).symm
    · rw [List.eraseP_cons_of_neg (by simpa using same),
        List.filter_cons_of_pos (by simpa using same), ih distinct.2]

/-- What is found under a name is what has this name. -/
theorem map_find?_eq_some_iff {β : Type} (distinct : (l.map name).Nodup) (key : String) (f : α → β)
    (b : β) : (l.find? (name · == key)).map f = some b ↔ ∃ a ∈ l, name a = key ∧ f a = b := by
  rw [Option.map_eq_some_iff]
  constructor
  · rintro ⟨a, found, rfl⟩
    exact ⟨a, List.mem_of_find?_eq_some found, by simpa using List.find?_some found, rfl⟩
  · rintro ⟨a, ha, rfl, rfl⟩
    have some_found : (l.find? (name · == name a)).isSome := by
      rw [List.find?_isSome]
      exact ⟨a, ha, by simp⟩
    obtain ⟨a', found⟩ := Option.isSome_iff_exists.mp some_found
    have same : name a' = name a := by simpa using List.find?_some found
    have equal : a' = a :=
      List.inj_on_of_nodup_map distinct (List.mem_of_find?_eq_some found) ha same
    exact ⟨a', found, congrArg f equal⟩

end

namespace Ledger

variable {d : Dialect} {ledger? : Option (List LedgerRow)} {name : String}

theorem any_isFor_iff {rows : List LedgerRow} :
    rows.any (·.isFor name d.tag) = true ↔ ∃ time, (⟨name, d.tag, time⟩ : LedgerRow) ∈ rows := by
  rw [List.any_eq_true]
  constructor
  · rintro ⟨⟨_, _, time⟩, hr, named⟩
    rw [LedgerRow.isFor, Bool.and_eq_true, beq_iff_eq, beq_iff_eq] at named
    obtain ⟨rfl, rfl⟩ := named
    exact ⟨time, hr⟩
  · rintro ⟨time, hr⟩
    exact ⟨_, hr, by simp [LedgerRow.isFor]⟩

/-- What the ledger says of a name is in one of its rows. -/
theorem exists_migrationOf_iff {time : Instant} :
    (∃ m ∈ (rowsFor d ledger?).map (migrationOf d), m.name = name ∧ m.appliedAt = time) ↔
      (⟨name, d.tag, time⟩ : LedgerRow) ∈ ledger?.getD [] := by
  constructor
  · rintro ⟨m, hm, rfl, rfl⟩
    obtain ⟨⟨_, _, _⟩, hr, rfl⟩ := List.mem_map.mp hm
    obtain ⟨hrow, rfl⟩ := Project.mem_rowsFor.mp hr
    exact hrow
  · intro hrow
    exact ⟨_, List.mem_map_of_mem (Project.mem_rowsFor.mpr ⟨hrow, rfl⟩), rfl, rfl⟩

theorem mem_namesFor :
    name ∈ namesFor d ledger? ↔ ∃ time, (⟨name, d.tag, time⟩ : LedgerRow) ∈ ledger?.getD [] := by
  rw [← List.contains_iff_mem, Project.contains_namesFor, any_isFor_iff]

/-- No migration is listed twice for a dialect. -/
theorem nodup_namesFor (unique : DryRun.KeysUnique ledger?) (d : Dialect) :
    (namesFor d ledger?).Nodup := by
  have keys : ((rowsFor d ledger?).map LedgerRow.key).Nodup :=
    ((DryRun.perm_select rfl).map _).nodup_iff.mpr
      (List.Nodup.sublist (List.filter_sublist.map _) unique)
  rw [namesFor, List.Nodup, List.pairwise_map]
  refine (List.pairwise_map.mp keys).imp_of_mem fun ha hb apart same => apart ?_
  rw [LedgerRow.key, LedgerRow.key, same, (Project.mem_rowsFor.mp ha).2,
    (Project.mem_rowsFor.mp hb).2]

end Ledger

namespace Project

variable {p : Project} {fs : Files} {d : Dialect} {ledger? : Option (List LedgerRow)}

/-! ## Pairing -/

/-- What the status says of a file. -/
def fileStatus (applied : List AppliedMigration) (file : MigrationFile) : MigrationStatus :=
  ⟨file.name, (applied.find? (·.name == file.name)).map (·.appliedAt), true⟩

/-- **Files are paired with what is applied under their names**, and what else is applied comes
behind. -/
theorem mergeStatus_eq {files : List MigrationFile} {applied : List AppliedMigration}
    (distinct : (files.map (·.name)).Nodup) (unique : (applied.map (·.name)).Nodup) :
    mergeStatus files applied = files.map (fileStatus applied) ++
      (applied.filter fun m => !(files.map (·.name)).contains m.name).map fun m =>
        ⟨m.name, some m.appliedAt, false⟩ := by
  induction files generalizing applied with
  | nil => simp [mergeStatus]
  | cons file rest ih =>
    rw [List.map_cons, List.nodup_cons] at distinct
    have kept := unique.sublist
      ((List.filter_sublist (p := fun m => !m.name == file.name)).map AppliedMigration.name)
    have rest_files : rest.map (fileStatus (applied.filter fun m => !m.name == file.name)) =
        rest.map (fileStatus applied) := by
      refine List.map_congr_left fun other hother => ?_
      have apart : other.name ≠ file.name := fun h =>
        distinct.1 (List.mem_map.mpr ⟨other, hother, h⟩)
      rw [fileStatus, List.find?_filter, fileStatus]
      congr 2
      refine congrArg (applied.find? ·) (funext fun m => ?_)
      by_cases h : m.name = other.name
      · simp [h, apart]
      · simp [h]
    have left_over : (applied.filter fun m => !m.name == file.name).filter
        (fun m => !(rest.map (·.name)).contains m.name) =
        applied.filter fun m => !((file :: rest).map (·.name)).contains m.name := by
      rw [List.filter_filter]
      refine List.filter_congr fun m _ => ?_
      rw [List.map_cons, List.contains_cons, Bool.not_or, Bool.and_comm]
    rw [mergeStatus, eraseP_eq_filter unique, ih distinct.2 kept, rest_files, left_over]
    rfl

theorem mem_mergeStatus {files : List MigrationFile} {applied : List AppliedMigration}
    (distinct : (files.map (·.name)).Nodup) (unique : (applied.map (·.name)).Nodup)
    {x : MigrationStatus} :
    x ∈ mergeStatus files applied ↔ (∃ file ∈ files, fileStatus applied file = x) ∨
      ∃ m ∈ applied, m.name ∉ files.map (·.name) ∧ ⟨m.name, some m.appliedAt, false⟩ = x := by
  simp only [mergeStatus_eq distinct unique, List.mem_append, List.mem_map, List.mem_filter,
    Bool.not_eq_true', List.contains_eq_mem, decide_eq_false_iff_not, and_assoc]

theorem nodup_mergeStatus {files : List MigrationFile} {applied : List AppliedMigration}
    (distinct : (files.map (·.name)).Nodup) (unique : (applied.map (·.name)).Nodup) :
    ((mergeStatus files applied).map (·.name)).Nodup := by
  rw [mergeStatus_eq distinct unique, List.map_append, List.map_map, List.map_map,
    List.nodup_append]
  refine ⟨distinct, unique.sublist (List.filter_sublist.map _), ?_⟩
  rintro name hname _ hother rfl
  obtain ⟨m, hm, rfl⟩ := List.mem_map.mp hother
  have left_over := (List.mem_filter.mp hm).2
  rw [Bool.not_eq_true', List.contains_eq_mem, decide_eq_false_iff_not] at left_over
  exact left_over hname

section

variable {files : List MigrationFile} {applied : List AppliedMigration}
  (distinct : (files.map (·.name)).Nodup) (unique : (applied.map (·.name)).Nodup)

include distinct unique

theorem mem_names_mergeStatus {name : String} :
    name ∈ (mergeStatus files applied).map (·.name) ↔
      name ∈ files.map (·.name) ∨ name ∈ applied.map (·.name) := by
  rw [List.mem_map]
  simp only [mem_mergeStatus distinct unique]
  constructor
  · rintro ⟨_, ⟨file, hfile, rfl⟩ | ⟨m, hm, -, rfl⟩, rfl⟩
    · exact .inl (List.mem_map_of_mem hfile)
    · exact .inr (List.mem_map_of_mem hm)
  · intro h
    by_cases hname : name ∈ files.map (·.name)
    · obtain ⟨file, hfile, rfl⟩ := List.mem_map.mp hname
      exact ⟨_, .inl ⟨file, hfile, rfl⟩, rfl⟩
    · obtain ⟨m, hm, rfl⟩ := List.mem_map.mp (h.resolve_left hname)
      exact ⟨_, .inr ⟨m, hm, hname, rfl⟩, rfl⟩

theorem onDisk_iff_of_mem_mergeStatus {x : MigrationStatus} (hx : x ∈ mergeStatus files applied) :
    x.onDisk = true ↔ x.name ∈ files.map (·.name) := by
  rcases (mem_mergeStatus distinct unique).mp hx with ⟨file, hfile, rfl⟩ | ⟨m, -, fileless, rfl⟩
  · exact iff_of_true rfl (List.mem_map_of_mem hfile)
  · exact iff_of_false Bool.false_ne_true fileless

theorem appliedAt?_iff_of_mem_mergeStatus {x : MigrationStatus}
    (hx : x ∈ mergeStatus files applied) (time : Instant) :
    x.appliedAt? = some time ↔ ∃ m ∈ applied, m.name = x.name ∧ m.appliedAt = time := by
  rcases (mem_mergeStatus distinct unique).mp hx with ⟨file, -, rfl⟩ | ⟨m, hm, -, rfl⟩
  · exact map_find?_eq_some_iff unique _ _ _
  · rw [Option.some_inj]
    constructor
    · rintro rfl
      exact ⟨m, hm, rfl, rfl⟩
    · rintro ⟨m', hm', same, rfl⟩
      rw [List.inj_on_of_nodup_map unique hm' hm same]

end

/-! ## The report -/

/-- A migration of this name has a file in the directory of a project. -/
def HasFile (p : Project) (fs : Files) (name : String) : Prop :=
  MigrationName.isStamped name.toList = true ∧
    ∃ files, fs.filesIn p.directory = .ok files ∧ name ++ ".json" ∈ files

/-- These are the migrations that have a file or a row of the dialect, in the order of their names,
each once and with what is known of it. -/
structure Reports (p : Project) (fs : Files) (d : Dialect) (rows : List LedgerRow)
    (statuses : List MigrationStatus) : Prop where
  sorted : (statuses.map (·.name)).Pairwise (· < ·)
  mem_iff : ∀ name, name ∈ statuses.map (·.name) ↔
    p.HasFile fs name ∨ ∃ time, (⟨name, d.tag, time⟩ : LedgerRow) ∈ rows
  onDisk_iff : ∀ x ∈ statuses, x.onDisk = true ↔ p.HasFile fs x.name
  appliedAt_iff : ∀ x ∈ statuses, ∀ time,
    x.appliedAt? = some time ↔ (⟨x.name, d.tag, time⟩ : LedgerRow) ∈ rows

theorem mem_names_of_lists {found : List MigrationFile} (lists : p.Lists fs found) {name : String} :
    name ∈ found.map (·.name) ↔ p.HasFile fs name := by
  rw [List.mem_map]
  constructor
  · rintro ⟨file, hfile, rfl⟩
    obtain ⟨stamped, _, there⟩ := (lists.mem_iff file).mp hfile
    exact ⟨stamped, there⟩
  · rintro ⟨stamped, there⟩
    exact ⟨⟨name, p.pathOf name⟩, (lists.mem_iff _).mpr ⟨stamped, rfl, there⟩, rfl⟩

/-- **The status reports what has a file and what has a row.** -/
theorem reports_mergeStatus {found : List MigrationFile} (lists : p.Lists fs found)
    (unique : DryRun.KeysUnique ledger?) :
    p.Reports fs d (ledger?.getD [])
      ((mergeStatus found ((Ledger.rowsFor d ledger?).map (Ledger.migrationOf d))).mergeSort
        fun a b => a.name ≤ b.name) := by
  generalize happlied : (Ledger.rowsFor d ledger?).map (Ledger.migrationOf d) = applied
  have distinct : (found.map (·.name)).Nodup := lists.sorted.imp ne_of_lt
  have names : applied.map (·.name) = Ledger.namesFor d ledger? := by
    rw [← happlied, List.map_map]
    rfl
  have single : (applied.map (·.name)).Nodup := names ▸ Ledger.nodup_namesFor unique d
  refine ⟨pairwise_lt_mergeSort MigrationStatus.name (nodup_mergeStatus distinct single),
    fun name => ?_, fun x hx => ?_, fun x hx time => ?_⟩
  · rw [((List.mergeSort_perm _ _).map _).mem_iff, mem_names_mergeStatus distinct single, names,
      mem_names_of_lists lists, Ledger.mem_namesFor]
  · rw [onDisk_iff_of_mem_mergeStatus distinct single (List.mem_mergeSort.mp hx),
      mem_names_of_lists lists]
  · rw [appliedAt?_iff_of_mem_mergeStatus distinct single (List.mem_mergeSort.mp hx), ← happlied,
      Ledger.exists_migrationOf_iff]

namespace Reports

variable {statuses : List MigrationStatus} {rows : List LedgerRow}

theorem appliedAt?_isSome_iff (h : p.Reports fs d rows statuses) {x : MigrationStatus}
    (hx : x ∈ statuses) :
    x.appliedAt?.isSome = true ↔ ∃ time, (⟨x.name, d.tag, time⟩ : LedgerRow) ∈ rows := by
  rw [Option.isSome_iff_exists]
  exact exists_congr fun time => h.appliedAt_iff x hx time

/-- What is pending is what has a file and no row, in the order of the report. -/
theorem unlisted_eq (h : p.Reports fs d rows statuses) {found : List MigrationFile}
    (lists : p.Lists fs found) :
    unlisted d rows found = (statuses.filter fun x => x.onDisk && x.appliedAt?.isNone).map
      fun x => ⟨x.name, p.pathOf x.name⟩ := by
  have unlisted_sorted : ((unlisted d rows found).map (·.name)).Pairwise (· < ·) :=
    lists.sorted.sublist (List.filter_sublist.map _)
  have reported_sorted : (((statuses.filter fun x => x.onDisk && x.appliedAt?.isNone).map
      fun x => (⟨x.name, p.pathOf x.name⟩ : MigrationFile)).map (·.name)).Pairwise (· < ·) := by
    rw [List.map_map]
    exact h.sorted.sublist (List.filter_sublist.map _)
  refine MigrationFile.eq_of_mem_iff unlisted_sorted reported_sorted fun file => ?_
  have unapplied {x : MigrationStatus} (hx : x ∈ statuses) :
      x.appliedAt?.isNone = true ↔ rows.any (·.isFor x.name d.tag) = false := by
    rw [← Bool.not_eq_true, Ledger.any_isFor_iff, ← h.appliedAt?_isSome_iff hx]
    simp
  simp only [unlisted, List.mem_filter, List.mem_map, Bool.not_eq_true', Bool.and_eq_true]
  constructor
  · rintro ⟨hfile, new⟩
    obtain ⟨stamped, path, there⟩ := (lists.mem_iff file).mp hfile
    obtain ⟨x, hx, named⟩ := List.mem_map.mp ((h.mem_iff file.name).mpr (.inl ⟨stamped, there⟩))
    rw [← named] at stamped there new path
    refine ⟨x, ⟨hx, (h.onDisk_iff x hx).mpr ⟨stamped, there⟩, (unapplied hx).mpr new⟩, ?_⟩
    rw [← path, named]
  · rintro ⟨x, ⟨hx, onDisk, new⟩, rfl⟩
    obtain ⟨stamped, there⟩ := (h.onDisk_iff x hx).mp onDisk
    exact ⟨(lists.mem_iff _).mpr ⟨stamped, rfl, there⟩, (unapplied hx).mp new⟩

/-- What is applied is what has a row. -/
theorem perm_namesFor (h : p.Reports fs d (ledger?.getD []) statuses)
    (unique : DryRun.KeysUnique ledger?) :
    ((statuses.filter (·.appliedAt?.isSome)).map (·.name)).Perm (Ledger.namesFor d ledger?) := by
  have nodup : ((statuses.filter (·.appliedAt?.isSome)).map (·.name)).Nodup :=
    (h.sorted.imp ne_of_lt).sublist (List.filter_sublist.map _)
  refine (List.perm_ext_iff_of_nodup nodup (Ledger.nodup_namesFor unique d)).mpr fun name => ?_
  rw [Ledger.mem_namesFor, List.mem_map]
  constructor
  · rintro ⟨x, hx, rfl⟩
    obtain ⟨hx, applied⟩ := List.mem_filter.mp hx
    exact (h.appliedAt?_isSome_iff hx).mp applied
  · intro listed
    obtain ⟨x, hx, rfl⟩ := List.mem_map.mp ((h.mem_iff name).mpr (.inr listed))
    exact ⟨x, List.mem_filter.mpr ⟨hx, (h.appliedAt?_isSome_iff hx).mpr listed⟩, rfl⟩

end Reports

/-- **The status, what is pending and what is applied agree.** -/
theorem status_agrees (p : Project) (fs : Files) (d : Dialect) (clock : Nat → Instant) {s : DryRun}
    (unique : DryRun.KeysUnique s.ledger?) :
    match p.discover fs with
    | .error e =>
      (p.status fs d).run.Leaves clock s (.error e) [Ledger.selectSql d] s.ledger? 0 ∧
        (p.pending fs d).run.Leaves clock s (.error e) [Ledger.selectSql d] s.ledger? 0
    | .ok _ => ∃ statuses pending applied,
      (p.status fs d).run.Leaves clock s (.ok statuses) [Ledger.selectSql d] s.ledger? 0 ∧
        (p.pending fs d).run.Leaves clock s (.ok pending) [Ledger.selectSql d] s.ledger? 0 ∧
        (Ledger.appliedNames d).run.Leaves clock s (.ok applied) [Ledger.selectSql d] s.ledger? 0 ∧
        p.Reports fs d (s.ledger?.getD []) statuses ∧
        pending = (statuses.filter fun x => x.onDisk && x.appliedAt?.isNone).map
          (fun x => ⟨x.name, p.pathOf x.name⟩) ∧
        ((statuses.filter (·.appliedAt?.isSome)).map (·.name)).Perm applied := by
  have status := p.leaves_status clock fs d s
  have pending := p.leaves_pending clock (d := d) fs s
  cases hfound : p.discover fs with
  | error e =>
    rw [hfound] at status pending
    exact ⟨status, pending⟩
  | ok found =>
    rw [hfound] at status pending
    have lists := lists_discover hfound
    have reports := reports_mergeStatus (d := d) lists unique
    exact ⟨_, _, _, status, pending, Ledger.leaves_appliedNames clock s, reports,
      reports.unlisted_eq lists, reports.perm_namesFor unique⟩

end Project

namespace Shop

open Project

/-- Two migrations and a note. -/
def shelf : Files :=
  ⟨[(["migrations"], .directory), (["migrations", "20250102000000_b.json"], .file ""),
    (["migrations", "20250101000000_a.json"], .file ""),
    (["migrations", "notes.txt"], .file "to do")], by decide⟩

def stockDay : Instant :=
  ⟨⟨2025, 1, 3, by decide⟩, 0, 0, Instant.valid_midnight⟩

/-- A ledger that lists one of the migrations on the shelf and one that is gone, and the other for
Spanner alone. -/
def shelved : DryRun :=
  { DryRun.start with ledger? := some [⟨"20250101000000_a", "postgres", stockDay⟩,
    ⟨"20250102000000_b", "spanner", stockDay⟩, ⟨"20240101000000_gone", "postgres", stockDay⟩] }

theorem find_shelf : shelf.find "migrations" = .ok (["migrations"], some .directory) :=
  find_migrations (by decide)

/-- A migration on the shelf. -/
def onShelf (name : String) : MigrationFile :=
  ⟨name, (within "migrations").pathOf name⟩

theorem discover_shelf : (within "migrations").discover shelf =
    .ok [onShelf "20250101000000_a", onShelf "20250102000000_b"] := by
  have listed : shelf.filesIn "migrations" =
      .ok ["20250102000000_b.json", "20250101000000_a.json", "notes.txt"] :=
    Files.filesIn_eq_ok_iff.mpr ⟨_, find_shelf, rfl⟩
  refine discover_eq_ok_iff.mpr ⟨_, .inr ⟨Files.contains_of_filesIn listed, listed⟩, ?_⟩
  exact (mergeSort_name_eq MigrationFile.name (List.Perm.swap _ _ []) (by decide)).symm

/-- The times are equal, so the names decide. -/
theorem rowsFor_shelved : Ledger.rowsFor .postgres shelved.ledger? =
    [⟨"20240101000000_gone", "postgres", stockDay⟩,
      ⟨"20250101000000_a", "postgres", stockDay⟩] :=
  @mergeSort_eq_of_perm _ LedgerRow.upTo (fun _ _ _ => LedgerRow.upTo_trans) LedgerRow.upTo_total
    _ _ (List.Perm.swap _ _ []) (by decide)

/-- What is known of the migrations on the shelf: one is gone, one has its file, and one waits. -/
theorem status_agrees_shelf :
    let clock : Nat → Instant := fun _ => stockDay
    let statuses : List MigrationStatus := [⟨"20240101000000_gone", some stockDay, false⟩,
      ⟨"20250101000000_a", some stockDay, true⟩, ⟨"20250102000000_b", none, true⟩]
    let pending := [onShelf "20250102000000_b"]
    let applied := ["20240101000000_gone", "20250101000000_a"]
    DryRun.KeysUnique shelved.ledger? ∧
      ((within "migrations").status shelf .postgres).run.Leaves clock shelved (.ok statuses)
        [Ledger.selectSql .postgres] shelved.ledger? 0 ∧
      ((within "migrations").pending shelf .postgres).run.Leaves clock shelved (.ok pending)
        [Ledger.selectSql .postgres] shelved.ledger? 0 ∧
      (Ledger.appliedNames .postgres).run.Leaves clock shelved (.ok applied)
        [Ledger.selectSql .postgres] shelved.ledger? 0 ∧
      (within "migrations").Reports shelf .postgres (shelved.ledger?.getD []) statuses ∧
      pending = (statuses.filter fun x => x.onDisk && x.appliedAt?.isNone).map
        (fun x => ⟨x.name, (within "migrations").pathOf x.name⟩) ∧
      ((statuses.filter (·.appliedAt?.isSome)).map (·.name)).Perm applied := by
  intro clock statuses pending applied
  have unique : DryRun.KeysUnique shelved.ledger? := by
    rw [DryRun.KeysUnique]
    decide
  have status := (within "migrations").leaves_status clock shelf .postgres shelved
  have listed := Ledger.leaves_appliedNames (d := .postgres) clock shelved
  rw [discover_shelf, rowsFor_shelved] at status
  rw [Ledger.namesFor, rowsFor_shelved] at listed
  have sorted : (mergeStatus [onShelf "20250101000000_a", onShelf "20250102000000_b"]
      (List.map (Ledger.migrationOf .postgres) [⟨"20240101000000_gone", "postgres", stockDay⟩,
        ⟨"20250101000000_a", "postgres", stockDay⟩])).mergeSort (fun a b => a.name ≤ b.name) =
      statuses := mergeSort_name_eq MigrationStatus.name (by decide) (by decide)
  have agrees := status_agrees (within "migrations") shelf .postgres clock unique
  rw [discover_shelf] at agrees
  obtain ⟨statuses', pending', applied', reported, waits, names, reports, waiting, same⟩ := agrees
  obtain rfl : statuses' = statuses := (Except.ok.inj (reported.unique status)).trans sorted
  obtain rfl : applied' = applied := Except.ok.inj (names.unique listed)
  obtain rfl : pending' = pending := waiting
  exact ⟨unique, reported, waits, names, reports, rfl, same⟩

end Shop

end SchemaEvolution
