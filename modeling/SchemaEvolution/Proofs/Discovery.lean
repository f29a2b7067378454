import Mathlib.Data.List.Sort
import Mathlib.Data.String.Basic
import SchemaEvolution.Project.Stored

/-!
# The migrations in a directory

What is found in the directory of a project are its files whose names are those of migrations: each
of them once, and in the order of names (`Project.Lists`, `Project.lists_discover`). That no name
comes twice follows from files having places of their own.
-/

namespace SchemaEvolution

/-! ## Sorting -/

section

variable {α : Type}

/-- What is in a strict order is what comes of sorting the same things. -/
theorem mergeSort_eq_of_perm {le : α → α → Bool}
    (trans : ∀ a b c, le a b = true → le b c = true → le a c = true)
    (total : ∀ a b, (le a b || le b a) = true) {l sorted : List α} (perm : l.Perm sorted)
    (strict : sorted.Pairwise fun a b => le a b = true ∧ le b a = false) :
    l.mergeSort le = sorted := by
  have antisymm : ∀ ⦃a⦄, a ∈ sorted → ∀ ⦃b⦄, b ∈ sorted →
      le a b = true → le b a = true → a = b := by
    refine List.Pairwise.forall_of_forall_of_flip (fun _ _ _ _ => rfl) (strict.imp ?_)
      (strict.imp ?_)
    · intro a b differ _ hba
      rw [differ.2] at hba
      cases hba
    · intro a b differ hba _
      rw [differ.2] at hba
      cases hba
  have sorts := (List.mergeSort_perm l le).trans perm
  refine sorts.eq_of_pairwise (fun a b ha hb => antisymm (sorts.mem_iff.mp ha) hb)
    (List.pairwise_mergeSort trans total l) (strict.imp And.left)

variable (name : α → String)

theorem upToName_trans (a b c : α) (hab : decide (name a ≤ name b) = true)
    (hbc : decide (name b ≤ name c) = true) : decide (name a ≤ name c) = true :=
  decide_eq_true (le_trans (of_decide_eq_true hab) (of_decide_eq_true hbc))

theorem upToName_total (a b : α) :
    (decide (name a ≤ name b) || decide (name b ≤ name a)) = true := by
  simpa using le_total (name a) (name b)

/-- What is in the order of its names is what comes of sorting the same things by name. -/
theorem mergeSort_name_eq {l sorted : List α} (perm : l.Perm sorted)
    (ascending : (sorted.map name).Pairwise (· < ·)) :
    l.mergeSort (fun a b => name a ≤ name b) = sorted :=
  mergeSort_eq_of_perm (upToName_trans name) (upToName_total name) perm <|
    (List.pairwise_map.mp ascending).imp fun h =>
      ⟨decide_eq_true h.le, decide_eq_false h.not_ge⟩

/-- Things of which no two have one name are sorted by their names in one way. -/
theorem pairwise_lt_mergeSort {l : List α} (distinct : (l.map name).Nodup) :
    ((l.mergeSort fun a b => name a ≤ name b).map name).Pairwise (· < ·) := by
  have sorted := List.pairwise_mergeSort (upToName_trans name) (upToName_total name) l
  have ordered : (l.mergeSort fun a b => name a ≤ name b).Pairwise fun a b => name a ≤ name b :=
    sorted.imp of_decide_eq_true
  have apart := (List.mergeSort_perm l fun a b => name a ≤ name b).symm.pairwise
    (List.pairwise_map.mp distinct) fun h => h.symm
  rw [List.pairwise_map]
  exact (ordered.and apart).imp fun h => lt_of_le_of_ne h.1 h.2

end

/-- The order of names leaves files no choice. -/
theorem MigrationFile.eq_of_mem_iff {l l' : List MigrationFile}
    (sorted : (l.map (·.name)).Pairwise (· < ·)) (sorted' : (l'.map (·.name)).Pairwise (· < ·))
    (same : ∀ file, file ∈ l ↔ file ∈ l') : l = l' := by
  have : Std.Irrefl fun a b : MigrationFile => a.name < b.name := ⟨fun a => lt_irrefl a.name⟩
  have : Std.Antisymm fun a b : MigrationFile => a.name < b.name :=
    ⟨fun _ _ hab hba => absurd hba (lt_asymm hab)⟩
  exact (List.pairwise_map.mp sorted).eq_of_mem_iff (List.pairwise_map.mp sorted') same

/-! ## What is found -/

theorem withoutEnding?_eq_some_iff {text ending kept : String} :
    withoutEnding? text ending = some kept ↔ text = kept ++ ending := by
  unfold withoutEnding?
  dsimp only
  constructor
  · intro h
    split at h
    next hend =>
      cases h
      rw [← String.toList_inj, String.toList_append, String.toList_ofList]
      exact (List.take_append_drop _ _).symm.trans (congrArg _ hend)
    next => cases h
  · rintro rfl
    rw [String.toList_append, List.length_append, Nat.add_sub_cancel, List.drop_left,
      if_pos rfl, List.take_left, String.ofList_toList]

theorem MigrationName.ofFileName?_eq_some_iff {file name : String} :
    ofFileName? file = some name ↔ file = name ++ ".json" ∧ isStamped name.toList = true := by
  rw [ofFileName?, Option.filter_eq_some_iff, withoutEnding?_eq_some_iff]

namespace Files

theorem nameIn?_eq_some_iff {directory place : Place} {name : String} :
    nameIn? directory place = some name ↔ place = directory ++ [name] := by
  unfold nameIn?
  constructor
  · intro h
    split at h
    next last hlast =>
      split at h
      next hplace =>
        cases h
        exact hplace
      next => cases h
    next => cases h
  · rintro rfl
    rw [List.getLast?_concat]
    exact if_pos rfl

variable {fs : Files} {path : String} {names : List String}

/-- The files in a directory are those that stand in it themselves. -/
theorem filesIn_eq_ok_iff :
    fs.filesIn path = .ok names ↔
      ∃ place, fs.find path = .ok (place, some .directory) ∧
        names = fs.entries.filterMap fun e =>
          match e.2 with
          | .file _ => nameIn? place e.1
          | .directory => none := by
  rw [filesIn]
  rcases fs.find path with e | ⟨place, found⟩
  · exact ⟨nofun, fun ⟨_, h, _⟩ => nomatch h⟩
  · rcases found with _ | _ | _
    · exact ⟨nofun, fun ⟨_, h, _⟩ => nomatch h⟩
    · constructor
      · intro h
        cases h
        exact ⟨place, rfl, rfl⟩
      · rintro ⟨_, h, rfl⟩
        cases h
        rfl
    · exact ⟨nofun, fun ⟨_, h, _⟩ => nomatch h⟩

theorem mem_filesIn {place : Place} (hfind : fs.find path = .ok (place, some .directory))
    (h : fs.filesIn path = .ok names) {name : String} :
    name ∈ names ↔ ∃ text, (place ++ [name], .file text) ∈ fs.entries := by
  obtain ⟨place', hfind', rfl⟩ := filesIn_eq_ok_iff.mp h
  rw [hfind] at hfind'
  cases hfind'
  rw [List.mem_filterMap]
  constructor
  · rintro ⟨⟨there, entry⟩, he, hname⟩
    rcases entry with _ | text
    · cases hname
    · rw [← nameIn?_eq_some_iff.mp hname]
      exact ⟨text, he⟩
  · rintro ⟨text, he⟩
    exact ⟨_, he, nameIn?_eq_some_iff.mpr rfl⟩

/-- No file is listed twice. -/
theorem nodup_filesIn (h : fs.filesIn path = .ok names) : names.Nodup := by
  obtain ⟨place, -, rfl⟩ := filesIn_eq_ok_iff.mp h
  refine (List.pairwise_map.mp fs.distinct).filterMap _
    fun e e' differ name hname name' hname' => ?_
  rintro rfl
  rcases e with ⟨there, _ | _⟩
  · cases hname
  · rcases e' with ⟨there', _ | _⟩
    · cases hname'
    · exact differ ((nameIn?_eq_some_iff.mp hname).trans (nameIn?_eq_some_iff.mp hname').symm)

/-- Where a directory is, its files can be listed. -/
theorem exists_filesIn {place : Place} (hfind : fs.find path = .ok (place, some .directory)) :
    ∃ names, fs.filesIn path = .ok names := by
  rw [filesIn, hfind]
  exact ⟨_, rfl⟩

/-- Where files are listed there is a directory. -/
theorem contains_of_filesIn (h : fs.filesIn path = .ok names) : fs.contains path = .ok true := by
  obtain ⟨place, hfind, -⟩ := filesIn_eq_ok_iff.mp h
  rw [contains, hfind]
  rfl

end Files

namespace Project

variable {p : Project} {fs : Files} {found : List MigrationFile}

/-- What is found are the migrations among the files in the directory, if there is one. -/
theorem discover_eq_ok_iff :
    p.discover fs = .ok found ↔
      ∃ files, (fs.contains p.directory = .ok false ∧ files = [] ∨
          fs.contains p.directory = .ok true ∧ fs.filesIn p.directory = .ok files) ∧
        found = (files.filterMap fun file => (MigrationName.ofFileName? file).map fun name =>
          (⟨name, Path.join p.directory file⟩ : MigrationFile)).mergeSort
            fun a b => a.name ≤ b.name := by
  unfold discover Stored.ofFiles
  rcases fs.contains p.directory with e | _ | _
  · constructor
    · exact nofun
    · rintro ⟨files, ⟨h, -⟩ | ⟨h, -⟩, -⟩ <;> cases h
  · constructor
    · intro h
      cases h
      exact ⟨[], .inl ⟨rfl, rfl⟩, List.mergeSort_nil.symm⟩
    · rintro ⟨files, ⟨-, rfl⟩ | ⟨h, -⟩, rfl⟩
      · rw [List.filterMap_nil, List.mergeSort_nil]
        rfl
      · cases h
  · rcases fs.filesIn p.directory with e | files
    · constructor
      · exact nofun
      · rintro ⟨files, ⟨h, -⟩ | ⟨-, h⟩, -⟩ <;> cases h
    · constructor
      · intro h
        cases h
        exact ⟨files, .inr ⟨rfl, rfl⟩, rfl⟩
      · rintro ⟨files', ⟨h, -⟩ | ⟨-, h⟩, rfl⟩
        · cases h
        · cases h
          rfl

/-- Where the directory of a project is, it is known what is found there. -/
theorem exists_discover {place : Place}
    (hfind : fs.find p.directory = .ok (place, some .directory)) :
    ∃ found, p.discover fs = .ok found := by
  obtain ⟨files, listed⟩ := Files.exists_filesIn hfind
  have there := Files.contains_of_filesIn listed
  exact ⟨_, discover_eq_ok_iff.mpr ⟨files, .inr ⟨there, listed⟩, rfl⟩⟩

/-- **What is found are the files in the directory that have a migration's name**, each under that
name. -/
theorem mem_discover (h : p.discover fs = .ok found) {file : MigrationFile} :
    file ∈ found ↔ MigrationName.isStamped file.name.toList = true ∧
      file.path = p.pathOf file.name ∧
      ∃ files, fs.filesIn p.directory = .ok files ∧ file.name ++ ".json" ∈ files := by
  obtain ⟨files, hfiles, rfl⟩ := discover_eq_ok_iff.mp h
  have listed (name : String) : name ∈ files ↔
      ∃ files, fs.filesIn p.directory = .ok files ∧ name ∈ files := by
    obtain ⟨missing, rfl⟩ | ⟨-, hfiles⟩ := hfiles
    · constructor
      · exact nofun
      · rintro ⟨_, hlist, -⟩
        rw [Files.contains_of_filesIn hlist] at missing
        cases missing
    · exact ⟨fun hname => ⟨files, hfiles, hname⟩, fun ⟨_, hlist, hname⟩ => by
        rw [hfiles] at hlist
        cases hlist
        exact hname⟩
  rw [List.mem_mergeSort, List.mem_filterMap]
  constructor
  · rintro ⟨name, hname, hfile⟩
    obtain ⟨stem, hstem, rfl⟩ := Option.map_eq_some_iff.mp hfile
    obtain ⟨rfl, stamped⟩ := MigrationName.ofFileName?_eq_some_iff.mp hstem
    exact ⟨stamped, rfl, (listed _).mp hname⟩
  · rintro ⟨stamped, path, hname⟩
    refine ⟨_, (listed _).mpr hname, ?_⟩
    rw [MigrationName.ofFileName?_eq_some_iff.mpr ⟨rfl, stamped⟩]
    exact congrArg some (congrArg (MigrationFile.mk file.name) path.symm)

/-- **What is found is in the order of names, and no name is found twice.** -/
theorem sorted_discover (h : p.discover fs = .ok found) :
    (found.map (·.name)).Pairwise (· < ·) := by
  obtain ⟨files, hfiles, rfl⟩ := discover_eq_ok_iff.mp h
  have files_nodup : files.Nodup := by
    obtain ⟨-, rfl⟩ | ⟨-, hfiles⟩ := hfiles
    · exact .nil
    · exact Files.nodup_filesIn hfiles
  generalize hunsorted : (files.filterMap fun file =>
    (MigrationName.ofFileName? file).map fun name =>
      (⟨name, Path.join p.directory file⟩ : MigrationFile)) = unsorted
  refine pairwise_lt_mergeSort MigrationFile.name (List.pairwise_map.mpr ?_)
  rw [← hunsorted]
  refine List.Pairwise.filterMap _ (fun file file' hne a ha b hb hname => hne ?_) files_nodup
  obtain ⟨name, hfile, rfl⟩ := Option.map_eq_some_iff.mp ha
  obtain ⟨name', hfile', rfl⟩ := Option.map_eq_some_iff.mp hb
  obtain rfl : name = name' := hname
  rw [(MigrationName.ofFileName?_eq_some_iff.mp hfile).1,
    (MigrationName.ofFileName?_eq_some_iff.mp hfile').1]

/-- These are the migrations in the directory of a project, in the order of their names. -/
structure Lists (p : Project) (fs : Files) (found : List MigrationFile) : Prop where
  sorted : (found.map (·.name)).Pairwise (· < ·)
  mem_iff : ∀ file, file ∈ found ↔ MigrationName.isStamped file.name.toList = true ∧
    file.path = p.pathOf file.name ∧
    ∃ files, fs.filesIn p.directory = .ok files ∧ file.name ++ ".json" ∈ files

theorem lists_discover (h : p.discover fs = .ok found) : p.Lists fs found :=
  ⟨sorted_discover h, fun _ => mem_discover h⟩

/-- A name leads to one file. -/
theorem nodup_discover (h : p.discover fs = .ok found) : (found.map (·.name)).Nodup :=
  (sorted_discover h).imp ne_of_lt

end Project

end SchemaEvolution
