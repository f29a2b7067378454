import SchemaEvolution.Project.Create
import SchemaEvolution.Proofs.Directories

/-!
# Making one migration

Work on files is described by what it ends with and the files it leaves (`FileWork.Ends`); what it
tells is left open. In a directory that is there, a migration that is made gets a file of its own
and the schema becomes the baseline (`Project.ends_make_some`), unless a path is too long. Nothing
changes where there is nothing to do or no migration can be made.
-/

namespace SchemaEvolution

/-- A migration that is asked for at some time: to a schema, under a name that the user gives. -/
structure MigrationRequest where
  name : String
  schema : Schema
  time : Instant

namespace MigrationRequest

/-- The name of the migration, with its stamp. -/
def fullName (r : MigrationRequest) : String :=
  MigrationName.stamped r.time r.name

/-- The name of the file of the migration. -/
def fileName (r : MigrationRequest) : String :=
  r.fullName ++ ".json"

end MigrationRequest

namespace FileWork

variable {α β : Type} {fs fs' fs'' : Files}

/-- What work on files ends with and the files that it leaves, whatever is told of it. -/
def Ends (work : FileWork α) (fs : Files) (result : Except MigrationError α) (fs' : Files) : Prop :=
  ∀ told, ∃ told', work.run.run ⟨fs, told⟩ = (result, ⟨fs', told'⟩)

theorem Ends.perform {work : FileWork α} {result : Except MigrationError α}
    (h : work.Ends fs result fs') :
    (work.perform fs).1 = result ∧ (work.perform fs).2.files = fs' := by
  obtain ⟨told, h⟩ := h []
  rw [FileWork.perform, h]
  exact ⟨rfl, rfl⟩

theorem ends_pure (a : α) : (pure a : FileWork α).Ends fs (.ok a) fs :=
  fun told => ⟨told, rfl⟩

/-- Work that goes well goes on with what follows. -/
theorem Ends.bind {work : FileWork α} {a : α} (h : work.Ends fs (.ok a) fs')
    {next : α → FileWork β} {result : Except MigrationError β}
    (k : (next a).Ends fs' result fs'') : (work >>= next).Ends fs result fs'' := by
  intro told
  obtain ⟨told', h⟩ := h told
  obtain ⟨told'', k⟩ := k told'
  refine ⟨told'', ?_⟩
  rw [ExceptT.run_bind, StateT.run_bind, h]
  exact k

/-- Work that fails ends there. -/
theorem Ends.bind_error {work : FileWork α} {e : MigrationError} (h : work.Ends fs (.error e) fs')
    (next : α → FileWork β) : (work >>= next).Ends fs (.error e) fs' := by
  intro told
  obtain ⟨told', h⟩ := h told
  refine ⟨told', ?_⟩
  rw [ExceptT.run_bind, StateT.run_bind, h]
  rfl

theorem ends_tell (messages : List Message) : (tell messages).Ends fs (.ok ()) fs :=
  fun told => ⟨told ++ messages, rfl⟩

theorem ends_look (fs : Files) (f : Files → Stored α) : (look f).Ends fs (f fs) fs := by
  intro told
  refine ⟨told, ?_⟩
  have looked : (look f).run.run ⟨fs, told⟩ = (look fun _ => f fs).run.run ⟨fs, told⟩ := rfl
  rw [looked]
  cases f fs <;> rfl

theorem run_change (f : Files → Except FileError Files) (w : Workplace) :
    (change f).run.run w =
      match f w.files with
      | .ok files => (.ok (), { w with files })
      | .error e => (.error (.files e), w) := by
  change (match f w.files with
    | .ok files => modify fun w => { w with files }
    | .error e => throw (.files e) : FileWork Unit).run.run w = _
  cases f w.files <;> rfl

theorem ends_change {f : Files → Except FileError Files} (h : f fs = .ok fs') :
    (change f).Ends fs (.ok ()) fs' := fun told => ⟨told, by rw [run_change, h]⟩

theorem ends_change_error {f : Files → Except FileError Files} {e : FileError}
    (h : f fs = .error e) : (change f).Ends fs (.error (.files e)) fs :=
  fun told => ⟨told, by rw [run_change, h]⟩

theorem ends_make (fs : Files) (f : Files → Except FileError Unit × Files) :
    (make f).Ends fs ((f fs).1.mapError .files) (f fs).2 := by
  intro told
  refine ⟨told, ?_⟩
  have made : (make f).run.run ⟨fs, told⟩ = (make fun _ => f fs).run.run ⟨fs, told⟩ := rfl
  rw [made]
  rcases f fs with ⟨e | _, files⟩ <;> rfl

/-- What is told may depend on the files. -/
theorem Ends.get {next : Workplace → FileWork α} {result : Except MigrationError α}
    (h : ∀ told, (next ⟨fs, told⟩).Ends fs result fs') : (get >>= next).Ends fs result fs' :=
  fun told => h told told

end FileWork

namespace Project

open FileWork

/-- Makes the migration that is asked for. -/
def make (p : Project) (r : MigrationRequest) : FileWork Creation :=
  p.create r.name r.schema r.time

variable {fs : Files} {place : Place} {directory : String} {r : MigrationRequest} {m : Migration}

/-! ## Where nothing is made -/

theorem ends_make_error (p : Project) {e : MigrationError}
    (h : p.draft r.name r.schema fs = .error e) : (p.make r).Ends fs (.error e) fs := by
  refine .get fun told => (ends_tell _).bind (Ends.bind_error ?_ _)
  rw [← h]
  exact ends_look _ _

theorem ends_make_none (p : Project) (h : p.draft r.name r.schema fs = .ok none) :
    (p.make r).Ends fs (.ok .noChanges) fs := by
  have drafted : (look (p.draft r.name r.schema)).Ends fs (.ok none) fs := h ▸ ends_look _ _
  exact .get fun told => (ends_tell _).bind (drafted.bind ((ends_tell _).bind (ends_pure _)))

/-! ## Where a migration is made -/

theorem plain_baselineName : Path.Plain baselineName := by
  refine ⟨?_, ?_, ?_, ?_⟩ <;> decide

/-- No path is too long for the file of a migration to be written beside the baseline. -/
structure Reaches (directory : String) (place : Place) (file : String) : Prop where
  migration : Files.Usable directory place file
  baseline : Files.Usable directory place baselineName
  way : Files.checkPath (Path.parent (within directory).baseline) = .ok ()

section

variable {file : String} (plain : Path.Plain file)
  (there : fs.find directory = .ok (place, some .directory))

include there

include plain in
theorem ends_store (usable : Files.Usable directory place file)
    (free : fs.entry? (place ++ [file]) = none) :
    ((within directory).store m (Path.join directory file)).Ends fs (.ok ())
      (fs.put (place ++ [file]) (.file (m.toText ++ "\n"))) := by
  have made := ends_make fs (·.makeDirectories directory)
  rw [Files.makeDirectories_of_find there] at made
  have looked := ends_look fs fun fs => Stored.ofFiles (fs.contains (Path.join directory file))
  rw [(Files.contains_join_iff plain there).mpr ⟨usable, rfl⟩, free] at looked
  have written : fs.write (Path.join directory file) (m.toText ++ "\n") =
      .ok (fs.put (place ++ [file]) (.file (m.toText ++ "\n"))) :=
    (Files.write_join_iff plain there).mpr ⟨usable, by rw [free]; exact nofun, rfl⟩
  exact made.bind (looked.bind ((ends_change written).bind (ends_tell _)))

/-- A schema that is saved becomes the baseline. -/
theorem ends_saveBaseline (usable : Files.Usable directory place baselineName)
    (way : Files.checkPath (Path.parent (within directory).baseline) = .ok ())
    (free : fs.entry? (place ++ [baselineName]) ≠ some .directory) (s : Schema) :
    (saveBaseline (within directory).baseline s).Ends fs (.ok ())
      (fs.put (place ++ [baselineName]) (.file (s.toText ++ "\n"))) := by
  have made := ends_make fs (·.makeWayTo (within directory).baseline)
  rw [within, Files.makeWayTo_join plain_baselineName there] at made
  rw [within] at way
  rw [way] at made
  have written : fs.write (within directory).baseline (s.toText ++ "\n") =
      .ok (fs.put (place ++ [baselineName]) (.file (s.toText ++ "\n"))) :=
    (Files.write_join_iff plain_baselineName there).mpr ⟨usable, free, rfl⟩
  exact made.bind ((ends_change written).bind (ends_tell _))

include plain in
/-- A path that is too long is a failure of files. -/
theorem ends_store_error (unusable : ¬ Files.Usable directory place file) :
    ∃ e, ((within directory).store m (Path.join directory file)).Ends fs (.error (.files e))
      fs := by
  have made := ends_make fs (·.makeDirectories directory)
  rw [Files.makeDirectories_of_find there] at made
  have looked := ends_look fs fun fs =>
    Stored.ofFiles (fs.contains (Path.join directory file))
  rcases hcontains : fs.contains (Path.join directory file) with e | b
  · rw [hcontains] at looked
    exact ⟨e, made.bind (looked.bind_error _)⟩
  · exact absurd ((Files.contains_join_iff plain there).mp hcontains).1 unusable

theorem ends_saveBaseline_error {s : Schema} (h : ¬ (Files.Usable directory place baselineName ∧
    Files.checkPath (Path.parent (within directory).baseline) = .ok ())) :
    ∃ e, (saveBaseline (within directory).baseline s).Ends fs (.error (.files e)) fs := by
  have made := ends_make fs (·.makeWayTo (within directory).baseline)
  rw [within, Files.makeWayTo_join plain_baselineName there] at made
  rw [within] at h ⊢
  rcases hway : Files.checkPath (Path.parent (Path.join directory baselineName)) with e | _
  · rw [hway] at made
    exact ⟨e, made.bind_error _⟩
  · rw [hway] at made
    rcases hwrite : fs.write (Path.join directory baselineName) (s.toText ++ "\n") with e | fs'
    · exact ⟨e, made.bind ((ends_change_error hwrite).bind_error _)⟩
    · have usable := ((Files.write_join_iff plain_baselineName there).mp hwrite).1
      exact absurd ⟨usable, hway⟩ h

end

/-- There is room for the file of a migration in a directory: nothing has its name, and the baseline
is no directory. -/
structure HasRoom (directory : String) (place : Place) (fs : Files) (file : String) : Prop where
  there : fs.find directory = .ok (place, some .directory)
  plain : Path.Plain file
  differ : file ≠ baselineName
  free : fs.entry? (place ++ [file]) = none
  replaceable : fs.entry? (place ++ [baselineName]) ≠ some .directory

/-- The files when a migration has been made: it has a file of its own, and the schema is the
baseline. -/
def withMade (fs : Files) (place : Place) (r : MigrationRequest) (m : Migration) : Files :=
  (fs.put (place ++ [r.fileName]) (.file (m.toText ++ "\n"))).put (place ++ [baselineName])
    (.file (r.schema.toText ++ "\n"))

theorem mem_entries_withMade {e : Place × FileEntry} (h : e ∈ (withMade fs place r m).entries) :
    e ∈ fs.entries ∨ e = (place ++ [r.fileName], .file (m.toText ++ "\n")) ∨
      e = (place ++ [baselineName], .file (r.schema.toText ++ "\n")) := by
  rcases Files.mem_entries_put.mp h with ⟨-, h⟩ | rfl
  · exact (Files.mem_entries_put.mp h).imp And.right .inl
  · exact .inr (.inr rfl)

namespace HasRoom

section

variable {file : String} (room : HasRoom directory place fs file) (text : String)

include room

theorem free_directory : fs.entry? (place ++ [file]) ≠ some .directory := by
  rw [room.free]
  exact nofun

theorem find_put :
    (fs.put (place ++ [file]) (.file text)).find directory = .ok (place, some .directory) :=
  Files.find_put room.there room.free_directory text

theorem replaceable_put :
    Files.entry? (fs.put (place ++ [file]) (.file text)) (place ++ [baselineName]) ≠
      some .directory := by
  rw [Files.entry?_put_of_ne plain_baselineName room.differ.symm]
  exact room.replaceable

end

variable (room : HasRoom directory place fs r.fileName)

include room

theorem find_withMade : (withMade fs place r m).find directory = .ok (place, some .directory) :=
  Files.find_put (room.find_put _) (room.replaceable_put _) _

theorem read_baseline (usable : Files.Usable directory place baselineName) :
    (withMade fs place r m).read (within directory).baseline = .ok (r.schema.toText ++ "\n") :=
  Files.read_put_self plain_baselineName (room.find_put _) usable (room.replaceable_put _)

theorem read_own (usable : Files.Usable directory place r.fileName) :
    (withMade fs place r m).read ((within directory).pathOf r.fullName) =
      .ok (m.toText ++ "\n") := by
  have unbased : place ++ [baselineName] ≠ place ++ [r.fileName] := by simpa using room.differ.symm
  have written : (fs.put (place ++ [r.fileName]) (.file (m.toText ++ "\n"))).read
      (Path.join directory r.fileName) = .ok (m.toText ++ "\n") :=
    Files.read_put_self room.plain room.there usable room.free_directory
  exact Files.read_put_of_ne room.plain (room.find_put _) unbased (room.replaceable_put _) _ written

/-- Any other file than the two that are written is as it was. -/
theorem read_other {name text : String} (plain : Path.Plain name) (other : name ≠ baselineName)
    (h : fs.read (Path.join directory name) = .ok text) :
    (withMade fs place r m).read (Path.join directory name) = .ok text := by
  have unbased : place ++ [baselineName] ≠ place ++ [name] := by simpa using other.symm
  have old : place ++ [r.fileName] ≠ place ++ [name] := by
    intro same
    have entry := ((Files.read_join_iff plain room.there).mp h).2
    rw [← same, room.free] at entry
    cases entry
  have kept := Files.read_put_of_ne plain room.there old room.free_directory (m.toText ++ "\n") h
  exact Files.read_put_of_ne plain (room.find_put _) unbased (room.replaceable_put _) _ kept

end HasRoom

/-- **A migration that is made gets a file of its own, and the schema becomes the baseline.** -/
theorem ends_make_some (room : HasRoom directory place fs r.fileName)
    (reaches : Reaches directory place r.fileName)
    (drafted : (within directory).draft r.name r.schema fs = .ok (some m)) :
    ((within directory).make r).Ends fs
      (.ok (.created ((within directory).pathOf r.fullName) m.up.actions.length
        m.diagnostics.length)) (withMade fs place r m) := by
  have looked : (look ((within directory).draft r.name r.schema)).Ends fs (.ok (some m)) fs :=
    drafted ▸ ends_look _ _
  have stored := ends_store (m := m) room.plain room.there reaches.migration room.free
  have saved := ends_saveBaseline (room.find_put (m.toText ++ "\n")) reaches.baseline reaches.way
    (room.replaceable_put _) r.schema
  exact .get fun told => (ends_tell _).bind (looked.bind
    ((ends_tell _).bind (stored.bind (saved.bind (ends_pure _)))))

/-- Where a path is too long a failure of files ends the work. -/
theorem ends_make_unreached (room : HasRoom directory place fs r.fileName)
    (unreached : ¬ Reaches directory place r.fileName)
    (drafted : (within directory).draft r.name r.schema fs = .ok (some m)) :
    ∃ e fs', ((within directory).make r).Ends fs (.error (.files e)) fs' := by
  have looked : (look ((within directory).draft r.name r.schema)).Ends fs (.ok (some m)) fs :=
    drafted ▸ ends_look _ _
  by_cases usable : Files.Usable directory place r.fileName
  · have stored := ends_store (m := m) room.plain room.there usable room.free
    obtain ⟨e, saved⟩ := ends_saveBaseline_error (s := r.schema)
      (room.find_put (m.toText ++ "\n")) fun h => unreached ⟨usable, h.1, h.2⟩
    exact ⟨e, _, .get fun told => (ends_tell _).bind (looked.bind
      ((ends_tell _).bind (stored.bind (saved.bind_error _))))⟩
  · obtain ⟨e, stored⟩ := ends_store_error (m := m) room.plain room.there usable
    exact ⟨e, _, .get fun told => (ends_tell _).bind (looked.bind
      ((ends_tell _).bind (stored.bind_error _)))⟩

end Project

end SchemaEvolution
