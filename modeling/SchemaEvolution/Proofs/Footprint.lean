import SchemaEvolution.Proofs.MigrationChain

/-!
# What making a migration touches

Whatever files there are, making a migration leaves all of them alone but the baseline, and that it
replaces only when the migration has got a file of its own, where nothing was before
(`Project.footprint_make`). Besides, directories may come where nothing was, on the way to the two
files. Where nothing is to be made, or none can be, the files are the same afterwards.
-/

namespace SchemaEvolution

namespace Files

variable {fs mid left : Files} {place other start : Place} {path text : String}
  {names : List String}

/-! ## Changes -/

/-- The places that names lead through, one after the other. -/
def way (start : Place) : List String → List Place
  | [] => []
  | name :: rest =>
    if name = ".." then way start.up rest
    else (start ++ [name]) :: way (start ++ [name]) rest

/-- Files differ at most in what stands at the places that were written, and in directories that
have come on a way, where nothing was. -/
def ChangedOnly (fs left : Files) (written way : List Place) : Prop :=
  ∀ place ∉ written, left.entry? place = fs.entry? place ∨
    place ∈ way ∧ fs.entry? place = none ∧ left.entry? place = some .directory

namespace ChangedOnly

variable {written written' passed passed' : List Place}

theorem refl : fs.ChangedOnly fs written passed :=
  fun _ _ => .inl rfl

theorem mono (h : fs.ChangedOnly left written passed) (hw : written ⊆ written')
    (hp : passed ⊆ passed') : fs.ChangedOnly left written' passed' := by
  intro place unwritten
  exact (h place fun hplace => unwritten (hw hplace)).imp_right fun ⟨on, new⟩ => ⟨hp on, new⟩

theorem trans (first : fs.ChangedOnly mid written passed)
    (second : mid.ChangedOnly left written' passed') :
    fs.ChangedOnly left (written ++ written') (passed ++ passed') := by
  intro place unwritten
  rw [List.mem_append, not_or] at unwritten
  rcases first place unwritten.1 with same | ⟨on, new, made⟩
  · rcases second place unwritten.2 with same' | ⟨on, new, made⟩
    · exact .inl (same'.trans same)
    · exact .inr ⟨List.mem_append_right _ on, same.symm.trans new, made⟩
  · rcases second place unwritten.2 with same' | ⟨_, new', _⟩
    · exact .inr ⟨List.mem_append_left _ on, new, same'.trans made⟩
    · rw [made] at new'
      cases new'

/-- What is there stays, unless it is written over. -/
theorem entry?_eq (h : fs.ChangedOnly left written passed) (unwritten : place ∉ written)
    {entry : FileEntry} (there : fs.entry? place = some entry) :
    left.entry? place = some entry := by
  rcases h place unwritten with same | ⟨_, new, _⟩
  · rw [same, there]
  · rw [there] at new
    cases new

/-- Where nothing is written, what is not there afterwards was not there before. -/
theorem entry?_eq_none (h : fs.ChangedOnly left [] passed) (none : left.entry? place = none) :
    fs.entry? place = Option.none := by
  rcases h place List.not_mem_nil with same | ⟨_, new, _⟩
  · rw [← same, none]
  · exact new

theorem keepsDirectories (h : fs.ChangedOnly left written passed)
    (free : ∀ place ∈ written, fs.entry? place ≠ some .directory) : fs.KeepsDirectories left :=
  fun place there => h.entry?_eq (fun hplace => free place hplace there) there

end ChangedOnly

theorem entry?_put_self {entry : FileEntry} (free : fs.entry? place ≠ some .directory) :
    Files.entry? (fs.put place entry) place = some entry := by
  have away : place.isAround = false := by
    rw [← Bool.not_eq_true]
    exact fun around => free (if_pos around)
  rw [entry?_put away, if_pos rfl]

theorem changedOnly_put (fs : Files) (place : Place) (entry : FileEntry) :
    fs.ChangedOnly (fs.put place entry) [place] [] := by
  intro other unwritten
  refine .inl ?_
  by_cases around : other.isAround = true
  · rw [ entry?, entry?, if_pos around, if_pos around]
  · rw [entry?_put (Bool.eq_false_of_not_eq_true around),
      if_neg fun same => unwritten (List.mem_singleton.mpr same)]

/-- A directory that is put where nothing was. -/
theorem changedOnly_put_directory (new : fs.entry? place = none) :
    fs.ChangedOnly (fs.put place .directory) [] [place] := by
  intro other _
  by_cases same : other = place
  · subst same
    exact .inr ⟨List.mem_singleton_self _, new, entry?_put_self (by rw [new]; exact nofun)⟩
  · exact .inl <| (changedOnly_put fs place .directory other (by simpa using same)).resolve_right
      fun h => nomatch h.1

/-! ## Making directories -/

theorem child_eq {name : String} (h : child start name = .ok place) : place = start ++ [name] := by
  rw [child] at h
  split at h <;> cases h
  rfl

theorem way_subset_append (start : Place) (names behind : List String) :
    way start names ⊆ way start (names ++ behind) := by
  induction names generalizing start with
  | nil => exact List.nil_subset _
  | cons name rest ih =>
    rw [List.cons_append, way, way]
    split
    · exact ih _
    · exact List.cons_subset_cons _ (ih _)

theorem changedOnly_enterMaking (fs : Files) (made : Bool) (start : Place) (names : List String) :
    fs.ChangedOnly (fs.enterMaking made start names).2 [] (way start names) := by
  fun_induction enterMaking fs made start names with
  | case1 => exact .refl
  | case2 fs made start rest ih =>
    rw [way, if_pos rfl]
    exact ih
  | case3 => exact .refl
  | case4 fs made start name rest down next hnext there ih =>
    rw [way, if_neg down, ← child_eq hnext]
    exact ih.mono (List.Subset.refl _) (List.subset_cons_self _ _)
  | case5 => exact .refl
  | case6 fs made start name rest down next hnext new ih =>
    rw [way, if_neg down, ← child_eq hnext]
    exact (changedOnly_put_directory new).trans ih

/-- Where all directories on a way are made or there, the way can be gone. -/
theorem enter_of_enterMaking {made : Bool}
    (h : fs.enterMaking made start names = (.ok (), left)) :
    ∃ place, left.enter start names = .ok place := by
  fun_induction enterMaking fs made start names with
  | case1 => exact ⟨_, rfl⟩
  | case2 fs made start rest ih =>
    obtain ⟨place, entered⟩ := ih h
    exact ⟨place, enter_cons_eq_ok_iff.mpr (.inl ⟨rfl, entered⟩)⟩
  | case3 => cases h
  | case4 fs made start name rest down next hnext there ih =>
    obtain ⟨place, entered⟩ := ih h
    have changed := changedOnly_enterMaking fs made next rest
    rw [h] at changed
    have kept := changed.entry?_eq List.not_mem_nil there
    exact ⟨place, enter_cons_eq_ok_iff.mpr (.inr ⟨down, next, hnext, kept, entered⟩)⟩
  | case5 => cases h
  | case6 fs made start name rest down next hnext new ih =>
    obtain ⟨place, entered⟩ := ih h
    have changed := changedOnly_enterMaking (fs.put next .directory) true next rest
    rw [h] at changed
    have entered' : Files.entry? (fs.put next .directory) next = some .directory :=
      entry?_put_self (by rw [new]; exact nofun)
    have kept := changed.entry?_eq List.not_mem_nil entered'
    exact ⟨place, enter_cons_eq_ok_iff.mpr (.inr ⟨down, next, hnext, kept, entered⟩)⟩

theorem changedOnly_makeDirectories (fs : Files) (path : String) :
    fs.ChangedOnly (fs.makeDirectories path).2 [] (way [] (Path.names path)) := by
  have before := changedOnly_enterMaking fs false [] (Path.names path).dropLast
  have shorter : way [] (Path.names path).dropLast ⊆ way [] (Path.names path) := by
    rcases List.eq_nil_or_concat (Path.names path) with unnamed | ⟨before, last, named⟩
    · rw [unnamed]
      exact List.Subset.refl _
    · rw [named, List.concat_eq_append, List.dropLast_concat]
      exact way_subset_append _ _ _
  rw [makeDirectories]
  split
  · exact .refl
  · split
    · split
      · rcases h : fs.enterMaking false [] (Path.names path).dropLast with ⟨e | _, mid⟩ <;>
        · rw [h] at before
          exact before.mono (List.Subset.refl _) shorter
      · exact .refl
    · exact changedOnly_enterMaking _ _ _ _

/-- A directory that has been made is there. -/
theorem enter_of_makeDirectories (h : fs.makeDirectories path = (.ok (), left)) :
    ∃ place, left.enter [] (Path.names path) = .ok place := by
  have entered {r : Except FileError Place} (hr : r.map (fun _ => ()) = .ok ()) :
      ∃ place, r = .ok place := by
    obtain ⟨place, hplace, _⟩ := map_eq_ok.mp hr
    exact ⟨place, hplace⟩
  rw [makeDirectories] at h
  split at h
  · cases h
  · split at h
    · split at h
      · rcases hmade : fs.enterMaking false [] (Path.names path).dropLast with ⟨e | _, mid⟩
        · rw [hmade] at h
          cases h
        · rw [hmade] at h
          obtain ⟨result, rfl⟩ := Prod.mk.inj h
          exact entered result
      · obtain ⟨result, rfl⟩ := Prod.mk.inj h
        exact entered result
    · exact enter_of_enterMaking h

theorem changedOnly_makeWayTo (fs : Files) (path : String) :
    fs.ChangedOnly (fs.makeWayTo path).2 [] (way [] (Path.names path).dropLast) := by
  rw [makeWayTo]
  split
  · exact .refl
  · exact changedOnly_enterMaking _ _ _ _

/-! ## Writing -/

/-- A text stands in a file, which alone was written, and not in place of a directory. -/
structure Wrote (fs left : Files) (path text : String) (place : Place) : Prop where
  located : fs.locate path = .ok place
  free : fs.entry? place ≠ some .directory
  slashless : Path.endsInSlash path = false
  entry : left.entry? place = some (.file text)
  others : fs.ChangedOnly left [place] []

theorem Wrote.keepsDirectories (h : fs.Wrote left path text place) : fs.KeepsDirectories left :=
  h.others.keepsDirectories fun _ hplace => List.mem_singleton.mp hplace ▸ h.free

theorem Wrote.located_left (h : fs.Wrote left path text place) : left.locate path = .ok place :=
  locate_of_keepsDirectories h.keepsDirectories h.located

theorem find_of_file (located : fs.locate path = .ok place)
    (entry : fs.entry? place = some (.file text)) :
    fs.find path = if Path.endsInSlash path then .error .notDirectory
      else .ok (place, some (.file text)) := by
  rw [find, located]
  simp only [bind, Except.bind, entry]
  rfl

/-- A file is read where it stands. -/
theorem read_of_file (located : fs.locate path = .ok place)
    (slashless : Path.endsInSlash path = false) (entry : fs.entry? place = some (.file text)) :
    fs.read path = .ok text := by
  rw [read, find_of_file located entry, slashless]
  rfl

theorem Wrote.read (h : fs.Wrote left path text place) : left.read path = .ok text :=
  read_of_file h.located_left h.slashless h.entry

theorem exists_wrote (h : fs.write path text = .ok left) :
    ∃ place, fs.Wrote left path text place := by
  rw [write] at h
  split at h
  · obtain ⟨_, _, h⟩ := bind_eq_ok.mp h
    obtain ⟨_, _, h⟩ := bind_eq_ok.mp h
    cases h
  · obtain ⟨place, located, h⟩ := bind_eq_ok.mp h
    split at h
    · cases h
    · next taken =>
      cases h
      rw [Bool.or_eq_true, decide_eq_true_eq, not_or, Bool.not_eq_true] at taken
      exact ⟨place, located, taken.2, taken.1, entry?_put_self taken.2, changedOnly_put _ _ _⟩

/-- Nothing is there if a path leads somewhere and there is nothing at it. -/
theorem entry?_of_not_contains (located : fs.locate path = .ok place)
    (h : fs.contains path = .ok false) : fs.entry? place = none := by
  rcases hentry : fs.entry? place with _ | _ | text
  · rfl
  · rw [contains, find_directory_iff.mpr ⟨located, hentry⟩] at h
    cases h
  · rw [contains, find_of_file located hentry] at h
    split at h
    · next _ found hfound =>
      split at hfound
      · cases hfound
      · cases hfound
        cases h
    · next hfound => split at hfound <;> cases hfound
    · cases h

end Files

namespace FileWork

variable {fs : Files} {path : String}

theorem ends_throw {α : Type} (e : MigrationError) : (throw e : FileWork α).Ends fs (.error e) fs :=
  fun told => ⟨told, rfl⟩

/-- What comes of saving a baseline: it is written, or files have failed. -/
inductive Saving (fs : Files) (path : String) (s : Schema) :
    Except MigrationError Unit → Files → Prop
  | saved {left : Files} {base : Place}
    (free : fs.entry? base ≠ some .directory)
    (located : left.locate path = .ok base)
    (read : left.read path = .ok (s.toText ++ "\n"))
    (others : fs.ChangedOnly left [base] (Files.way [] (Path.names path).dropLast)) :
    Saving fs path s (.ok ()) left
  | failed {e : FileError} {left : Files}
    (others : fs.ChangedOnly left [] (Files.way [] (Path.names path).dropLast)) :
    Saving fs path s (.error (.files e)) left

theorem exists_ends_saveBaseline (fs : Files) (path : String) (s : Schema) :
    ∃ result left, (saveBaseline path s).Ends fs result left ∧ Saving fs path s result left := by
  have made := ends_make fs (·.makeWayTo path)
  have before := fs.changedOnly_makeWayTo path
  rcases hmake : fs.makeWayTo path with ⟨e | _, mid⟩
  · rw [hmake] at made before
    exact ⟨_, mid, made.bind_error _, .failed before⟩
  · rw [hmake] at made before
    rcases hwrite : mid.write path (s.toText ++ "\n") with e | left
    · exact ⟨_, mid, made.bind ((ends_change_error hwrite).bind_error _), .failed before⟩
    · obtain ⟨base, wrote⟩ := Files.exists_wrote hwrite
      have others := before.trans wrote.others
      rw [List.append_nil] at others
      refine ⟨_, left, made.bind ((ends_change hwrite).bind (ends_tell _)), .saved ?_
        wrote.located_left wrote.read others⟩
      exact fun there => wrote.free (before.entry?_eq List.not_mem_nil there)

end FileWork

namespace Project

open FileWork

variable {p : Project} {fs left : Files} {r : MigrationRequest} {m : Migration} {file : String}

/-! ## The file of the migration -/

/-- What comes of storing a migration: it has got a file of its own in the directory, the file is
taken, or files have failed. Directories may have come. -/
inductive Storing (p : Project) (fs : Files) (m : Migration) (file : String) :
    Except MigrationError Unit → Files → Prop
  | stored {left : Files} {place : Place}
    (inside : left.enter [] (Path.names p.directory) = .ok place)
    (new : fs.entry? (place ++ [file]) = none)
    (located : left.locate (Path.join p.directory file) = .ok (place ++ [file]))
    (entry : left.entry? (place ++ [file]) = some (.file (m.toText ++ "\n")))
    (others : fs.ChangedOnly left [place ++ [file]] (Files.way [] (Path.names p.directory))) :
    Storing p fs m file (.ok ()) left
  | taken {left : Files}
    (others : fs.ChangedOnly left [] (Files.way [] (Path.names p.directory))) :
    Storing p fs m file (.error (.fileTaken (Path.join p.directory file))) left
  | failed {e : FileError} {left : Files}
    (others : fs.ChangedOnly left [] (Files.way [] (Path.names p.directory))) :
    Storing p fs m file (.error (.files e)) left

theorem exists_ends_store (p : Project) (fs : Files) (m : Migration) (plain : Path.Plain file) :
    ∃ result left, (p.store m (Path.join p.directory file)).Ends fs result left ∧
      Storing p fs m file result left := by
  have made := ends_make fs (·.makeDirectories p.directory)
  have before := fs.changedOnly_makeDirectories p.directory
  rcases hmake : fs.makeDirectories p.directory with ⟨e | _, mid⟩
  · rw [hmake] at made before
    exact ⟨_, mid, made.bind_error _, .failed before⟩
  rw [hmake] at made before
  have looked := ends_look mid fun fs => Stored.ofFiles (fs.contains (Path.join p.directory file))
  rcases hcontains : mid.contains (Path.join p.directory file) with e | taken
  · rw [hcontains] at looked
    exact ⟨_, mid, made.bind (looked.bind_error _), .failed before⟩
  rw [hcontains] at looked
  cases taken with
  | true => exact ⟨_, mid, made.bind (looked.bind ((ends_throw _).bind_error _)), .taken before⟩
  | false =>
    rcases hwrite : mid.write (Path.join p.directory file) (m.toText ++ "\n") with e | left
    · exact ⟨_, mid, made.bind (looked.bind ((ends_change_error hwrite).bind_error _)),
        .failed before⟩
    · obtain ⟨place, entered⟩ := Files.enter_of_makeDirectories hmake
      obtain ⟨own, wrote⟩ := Files.exists_wrote hwrite
      obtain ⟨-, rfl⟩ := (Files.locate_join_eq_ok_iff plain entered).mp wrote.located
      have new := before.entry?_eq_none (Files.entry?_of_not_contains wrote.located hcontains)
      have others := before.trans wrote.others
      rw [List.append_nil] at others
      refine ⟨_, left, made.bind (looked.bind ((ends_change hwrite).bind (ends_tell _))), ?_⟩
      exact .stored (Files.enter_of_keepsDirectories wrote.keepsDirectories entered) new
        wrote.located_left wrote.entry others

/-! ## All of it -/

/-- What stands in files when a migration has been made: two files have been written, that of the
migration, which is new, in the directory, and the baseline. -/
structure Made (p : Project) (fs left : Files) (r : MigrationRequest) (place base : Place) :
    Prop where
  inside : left.enter [] (Path.names p.directory) = .ok place
  new : fs.entry? (place ++ [r.fileName]) = none
  based : left.locate p.baseline = .ok base
  others : fs.ChangedOnly left [place ++ [r.fileName], base]
    (Files.way [] (Path.names p.directory) ++ Files.way [] (Path.names p.baseline).dropLast)
  /-- The baseline might be kept under the name of the new migration. -/
  migration : base ≠ place ++ [r.fileName] → ∃ m, p.draft r.name r.schema fs = .ok (some m) ∧
    left.read (p.pathOf r.fullName) = .ok (m.toText ++ "\n")
  baseline : (∀ v ∈ r.schema.literals, v.Restorable) →
    r.schema.toJson.depth ≤ JsonAccess.maxLevels → left.readBaseline p.baseline = .ok r.schema

/-- What making a migration does to files, by what it ends with. -/
structure Footprint (p : Project) (fs : Files) (r : MigrationRequest)
    (result : Except MigrationError Creation) (left : Files) : Prop where
  noChanges : result = .ok .noChanges → left = fs
  invalidName : ∀ name, result = .error (.invalidName name) → left = fs
  refused : ∀ reason, result = .error (.refused reason) → left = fs
  /-- A name that may not be given is not, and a baseline that cannot be read ends the work. -/
  undrafted : ∀ e, (MigrationName.isValid r.name = false ∧ e = .invalidName r.name ∨
    MigrationName.isValid r.name = true ∧ fs.readBaseline p.baseline = .error e) →
      result = .error e ∧ left = fs
  unreadable : ∀ path fault, result = .error (.unreadable path fault) → left = fs
  taken : ∀ path, result = .error (.fileTaken path) →
    fs.ChangedOnly left [] (Files.way [] (Path.names p.directory))
  created : ∀ path actions remarks, result = .ok (.created path actions remarks) →
    path = p.pathOf r.fullName ∧ ∃ place base, p.Made fs left r place base
  /-- However it ends, no file is lost or written over but the baseline, and that at the end. -/
  kept : ∀ place text, fs.entry? place = some (.file text) →
    left.entry? place = some (.file text) ∨
      (∃ creation, result = .ok creation) ∧ left.locate p.baseline = .ok place

namespace Footprint

variable {result : Except MigrationError Creation}

/-- Whoever cannot give a name, or read the baseline, has nothing to make. -/
theorem draft_eq_error {e : MigrationError}
    (h : MigrationName.isValid r.name = false ∧ e = .invalidName r.name ∨
      MigrationName.isValid r.name = true ∧ fs.readBaseline p.baseline = .error e) :
    p.draft r.name r.schema fs = .error e := by
  rcases h with ⟨invalid, rfl⟩ | ⟨valid, unread⟩
  · rw [draft, invalid]
    rfl
  · rw [draft, valid, unread]
    rfl

/-- Where nothing is made, files are left as they are. -/
theorem of_unchanged (drafted : ∀ e, p.draft r.name r.schema fs = .error e → result = .error e)
    (uncreated : ∀ path actions remarks, result ≠ .ok (.created path actions remarks)) :
    p.Footprint fs r result fs where
  noChanges _ := rfl
  invalidName _ _ := rfl
  refused _ _ := rfl
  undrafted e h := ⟨drafted e (draft_eq_error h), rfl⟩
  unreadable _ _ _ := rfl
  taken _ _ := .refl
  created path actions remarks h := absurd h (uncreated path actions remarks)
  kept _ _ h := .inl h

/-- Where there is something to make, the baseline has been read. -/
theorem not_undrafted {e : MigrationError} (drafted : p.draft r.name r.schema fs = .ok (some m)) :
    ¬ (MigrationName.isValid r.name = false ∧ e = .invalidName r.name ∨
      MigrationName.isValid r.name = true ∧ fs.readBaseline p.baseline = .error e) := by
  intro h
  rw [draft_eq_error h] at drafted
  cases drafted

theorem of_taken {path : String} (drafted : p.draft r.name r.schema fs = .ok (some m))
    (others : fs.ChangedOnly left [] (Files.way [] (Path.names p.directory))) :
    p.Footprint fs r (.error (.fileTaken path)) left where
  noChanges := nofun
  invalidName := nofun
  refused := nofun
  undrafted _ h := absurd h (not_undrafted drafted)
  unreadable := nofun
  taken _ _ := others
  created := nofun
  kept _ _ h := .inl (others.entry?_eq List.not_mem_nil h)

/-- A failure of files leaves at most new files behind. -/
theorem of_failed {e : FileError} {written passed : List Place}
    (drafted : p.draft r.name r.schema fs = .ok (some m))
    (others : fs.ChangedOnly left written passed)
    (new : ∀ place ∈ written, fs.entry? place = none) :
    p.Footprint fs r (.error (.files e)) left where
  noChanges := nofun
  invalidName := nofun
  refused := nofun
  undrafted _ h := absurd h (not_undrafted drafted)
  unreadable := nofun
  taken := nofun
  created := nofun
  kept place text h := by
    refine .inl (others.entry?_eq (fun hplace => ?_) h)
    rw [new place hplace] at h
    cases h

theorem of_made {place base : Place} {actions remarks : Nat}
    (drafted : p.draft r.name r.schema fs = .ok (some m)) (made : p.Made fs left r place base) :
    p.Footprint fs r (.ok (.created (p.pathOf r.fullName) actions remarks)) left where
  noChanges := nofun
  invalidName := nofun
  refused := nofun
  undrafted _ h := absurd h (not_undrafted drafted)
  unreadable := nofun
  taken := nofun
  created _ _ _ h :=
    ⟨(Creation.created.inj (Except.ok.inj h)).1.symm, place, base, made⟩
  kept other text h := by
    by_cases same : other = base
    · exact .inr ⟨⟨_, rfl⟩, same ▸ made.based⟩
    · refine .inl (made.others.entry?_eq (fun written => ?_) h)
      rcases List.mem_cons.mp written with rfl | written
      · rw [made.new] at h
        cases h
      · exact same (List.mem_singleton.mp written)

end Footprint

theorem valid_of_draft (drafted : p.draft r.name r.schema fs = .ok (some m)) :
    MigrationName.isValid r.name = true := by
  rw [← Bool.not_eq_false]
  exact fun invalid => Footprint.not_undrafted drafted (.inl ⟨invalid, rfl⟩)

/-- A migration that is stored, and then its schema as the baseline, has been made. -/
theorem exists_made {mid : Files} (drafted : p.draft r.name r.schema fs = .ok (some m))
    (stored : Storing p fs m r.fileName (.ok ()) mid)
    (saved : Saving mid p.baseline r.schema (.ok ()) left) :
    ∃ place base, p.Made fs left r place base := by
  obtain ⟨inside, new, located, entry, before⟩ := stored
  rename_i place
  obtain ⟨free, based, read, after⟩ := saved
  rename_i base
  have keeps : mid.KeepsDirectories left :=
    after.keepsDirectories fun _ hplace => List.mem_singleton.mp hplace ▸ free
  refine ⟨place, base, Files.enter_of_keepsDirectories keeps inside, new, based,
    before.trans after, fun apart => ⟨m, drafted, ?_⟩, fun literals shallow =>
      Files.readBaseline_of_read read (Schema.ofText_line literals shallow)⟩
  have plain : Path.Plain r.fileName := MigrationRequest.plain_fileName (valid_of_draft drafted)
  exact Files.read_of_file (Files.locate_of_keepsDirectories keeps located)
    (Path.endsInSlash_join plain _)
    (after.entry?_eq (fun same => apart (List.mem_singleton.mp same).symm) entry)

/-- **Making a migration touches nothing that it should not.** -/
theorem footprint_make (p : Project) (fs : Files) (r : MigrationRequest) :
    p.Footprint fs r ((p.make r).perform fs).1 ((p.make r).perform fs).2.files := by
  suffices h : ∃ result left, (p.make r).Ends fs result left ∧ p.Footprint fs r result left by
    obtain ⟨result, left, ends, footprint⟩ := h
    rw [ends.perform.1, ends.perform.2]
    exact footprint
  rcases drafted : p.draft r.name r.schema fs with e | _ | m
  · refine ⟨_, fs, ends_make_error p drafted, .of_unchanged (fun e' h => ?_) nofun⟩
    rw [drafted] at h
    cases h
    rfl
  · refine ⟨_, fs, ends_make_none p drafted, .of_unchanged (fun e h => ?_) nofun⟩
    rw [drafted] at h
    cases h
  have looked : (look (p.draft r.name r.schema)).Ends fs (.ok (some m)) fs :=
    drafted ▸ ends_look _ _
  obtain ⟨stored, mid, storing, hstored⟩ :=
    p.exists_ends_store fs m (MigrationRequest.plain_fileName (valid_of_draft drafted))
  cases hstored with
  | taken others =>
    exact ⟨_, mid, .get fun told => (ends_tell _).bind (looked.bind ((ends_tell _).bind
      (storing.bind_error _))), .of_taken drafted others⟩
  | failed others =>
    exact ⟨_, mid, .get fun told => (ends_tell _).bind (looked.bind ((ends_tell _).bind
      (storing.bind_error _))), .of_failed drafted others nofun⟩
  | stored inside new located entry others =>
    obtain ⟨saved, left, saving, hsaved⟩ := exists_ends_saveBaseline mid p.baseline r.schema
    cases hsaved with
    | failed after =>
      refine ⟨_, left, .get fun told => (ends_tell _).bind (looked.bind ((ends_tell _).bind
        (storing.bind (saving.bind_error _)))), .of_failed drafted (others.trans after) ?_⟩
      simpa using new
    | saved free based read after =>
      obtain ⟨place, base, made⟩ := exists_made drafted
        (.stored inside new located entry others) (.saved free based read after)
      exact ⟨_, left, .get fun told => (ends_tell _).bind (looked.bind ((ends_tell _).bind
        (storing.bind (saving.bind (ends_pure _))))), .of_made drafted made⟩

end Project

namespace Shop

open Project

/-- The goods, asked for in spring. -/
def ordering : MigrationRequest :=
  ⟨"goods", goods, ⟨2025, 3, 1, by decide⟩, 0, 0, Instant.valid_midnight⟩

theorem fileName_ordering : ordering.fileName = "20250301000000_goods.json" := by
  decide

/-- One table is to be made, and there is nothing to remark. -/
theorem exists_between_goods : ∃ m, Migration.between? "goods" .empty goods = .ok (some m) ∧
    m.up.actions.length = 1 ∧ m.diagnostics.length = 0 :=
  ⟨_, rfl, rfl, rfl⟩

theorem entries_withMade_ordering (m : Migration) :
    (withMade folder ["migrations"] ordering m).entries = [(["migrations"], .directory),
      (["migrations", "20250301000000_goods.json"], .file (m.toText ++ "\n")),
      (["migrations", "schema.snapshot.json"], .file (goods.toText ++ "\n"))] := by
  rw [withMade, fileName_ordering]
  rfl

/-- Two files come into the folder: the migration of the goods, and the baseline, which is read as
their schema. -/
theorem footprint_make_ordering :
    let made := ((within "migrations").make ordering).perform folder
    ∃ m, Migration.between? "goods" .empty goods = .ok (some m) ∧
      made.1 = .ok (.created "migrations/20250301000000_goods.json" 1 0) ∧
      made.2.files.entries = [(["migrations"], .directory),
        (["migrations", "20250301000000_goods.json"], .file (m.toText ++ "\n")),
        (["migrations", "schema.snapshot.json"], .file (goods.toText ++ "\n"))] ∧
      (within "migrations").Made folder made.2.files ordering ["migrations"]
        ["migrations", "schema.snapshot.json"] ∧
      made.2.files.readBaseline (within "migrations").baseline = .ok goods := by
  have named : ordering.Named := ⟨by decide, by decide, by decide⟩
  obtain ⟨m, hm, actions, remarks⟩ := exists_between_goods
  have made := (ends_make_folder named ⟨rfl, rfl⟩ hm).perform
  have footprint := footprint_make (within "migrations") folder ordering
  rw [made.1, made.2] at footprint
  obtain ⟨-, place, base, two⟩ := footprint.created _ _ _ rfl
  have there := (hasRoom_folder named).find_withMade (m := m)
  obtain ⟨-, -, entered⟩ := Files.enter_of_find there
  obtain rfl : place = ["migrations"] := Except.ok.inj (two.inside.symm.trans entered)
  obtain ⟨-, rfl⟩ := (Files.locate_join_eq_ok_iff plain_baselineName entered).mp two.based
  have path : (within "migrations").pathOf ordering.fullName =
      "migrations/20250301000000_goods.json" := by decide
  refine ⟨m, hm, ?_, ?_, ?_, ?_⟩
  · rw [made.1, path, actions, remarks]
  · rw [made.2, entries_withMade_ordering]
  · rw [made.2]
    exact two
  · rw [made.2]
    exact two.baseline (by decide) (by decide)

/-- A migration to a schema that documents do not restore is made, but the baseline that it leaves
is not read as the schema. -/
theorem readBaseline_make_announced :
    (MigrationName.isValid announcement.name = true ∧ (∀ v ∈ announced.literals, v.Whole) ∧
      announced.toJson.depth ≤ JsonAccess.maxLevels ∧
      ¬ ((within "migrations").pathOf announcement.fullName).toList <+:
        (within "migrations").baseline.toList) ∧
    ∃ path actions remarks,
      (((within "migrations").make announcement).perform folder).1 =
        .ok (.created path actions remarks) ∧
      (((within "migrations").make announcement).perform folder).2.files.readBaseline
        (within "migrations").baseline ≠ .ok announced := by
  have named : announcement.Named := ⟨by decide, by decide, by decide⟩
  obtain ⟨m, hm⟩ : ∃ m, Migration.between? "a" .empty announced = .ok (some m) := ⟨_, rfl⟩
  have made := (ends_make_folder named ⟨rfl, rfl⟩ hm).perform
  refine ⟨⟨by decide, by decide, by decide, by decide⟩, _, _, _, made.1, ?_⟩
  rw [made.2]
  exact readBaseline_announced ((hasRoom_folder named).read_baseline usable_baselineName)

end Shop

end SchemaEvolution
