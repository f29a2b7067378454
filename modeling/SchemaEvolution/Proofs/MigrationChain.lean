import Mathlib.Data.List.Sort
import SchemaEvolution.Proofs.DocumentDepth
import SchemaEvolution.Proofs.Making
import SchemaEvolution.Proofs.Minimal
import SchemaEvolution.Proofs.PatchChain
import SchemaEvolution.Proofs.PatchLiterals
import SchemaEvolution.Proofs.Stamps

/-!
# Migrations form a chain

Migrations that are made one after the other, each from the baseline that the one before has left,
lead from the empty schema to the last baseline, when they are found and read again
(`Project.makeEach_unbroken`).
-/

namespace SchemaEvolution

namespace MigrationRequest

/-- The name that the user gives may be given, and the year has four digits. -/
structure Named (r : MigrationRequest) : Prop where
  valid : MigrationName.isValid r.name = true
  year : r.time.FourDigits

/-- What is asked for can be written and read again: the schema holds everything under its own name,
and nothing literally but what can be part of a file. -/
structure Sound (r : MigrationRequest) : Prop extends r.Named where
  keyed : r.schema.WellKeyed
  literals : ∀ v ∈ r.schema.literals, v.Storable

variable {r r' : MigrationRequest}

/-- A file that has the name of a migration can stand in a directory. -/
theorem plain_fileName (valid : MigrationName.isValid r.name = true) : Path.Plain r.fileName := by
  refine Path.plain_json fun slash => ?_
  rw [fullName, MigrationName.stamped] at slash
  simp only [String.toList_append, List.mem_append] at slash
  rcases slash with (stamp | underscore) | name
  · exact absurd (r.time.isDigit_or_sign_of_mem_stamp stamp) (by decide)
  · exact absurd underscore (by decide)
  · rw [MigrationName.isValid, Bool.and_eq_true, List.all_eq_true] at valid
    exact absurd (valid.2 _ name) (by decide)

theorem Named.isStamped_fullName (h : r.Named) :
    MigrationName.isStamped r.fullName.toList = true :=
  MigrationName.isStamped_stamped h.year

/-- The file of a migration is not that of the baseline. -/
theorem Named.fileName_ne_baselineName (h : r.Named) : r.fileName ≠ Project.baselineName := by
  intro same
  have stamped := MigrationName.ofFileName?_eq_some_iff.mpr ⟨same.symm, h.isStamped_fullName⟩
  have unstamped : MigrationName.ofFileName? Project.baselineName = none := by decide
  rw [unstamped] at stamped
  cases stamped

theorem fullName_lt_fullName (h : r.Named) (h' : r'.Named) (before : r.time.Precedes r'.time) :
    r.fullName < r'.fullName :=
  MigrationName.stamped_lt_stamped h.year h'.year before

theorem fileName_ne_fileName (h : r.Named) (h' : r'.Named) (before : r.time.Precedes r'.time) :
    r.fileName ≠ r'.fileName := fun same =>
  absurd (fullName_lt_fullName h h' before) (by
    rw [String.append_left_inj _ |>.mp same]
    exact lt_irrefl _)

end MigrationRequest

/-! ## What the files hold -/

namespace Project

open FileWork

/-- The schema that the last of some migrations leads to; the empty one if there are none. -/
def lastSchema (made : List MigrationRequest) : Schema :=
  (made.map (·.schema)).getLastD .empty

/-- The files of a project hold the migrations that have been made, and nothing else but the
baseline, which is the schema of the last one. -/
structure Holds (directory : String) (place : Place) (fs : Files) (made : List MigrationRequest) :
    Prop where
  sound : ∀ r ∈ made, r.Sound
  apart : made.Pairwise fun a b => a.time.Precedes b.time
  there : fs.find directory = .ok (place, some .directory)
  entries : ∀ name entry, (place ++ [name], entry) ∈ fs.entries →
    entry ≠ .directory ∧ (name = baselineName ∨ ∃ r ∈ made, name = r.fileName)
  baseline : fs.readBaseline (within directory).baseline = .ok (lastSchema made)
  migrations : List.Forall₂
    (fun r patch => ∃ m, fs.readMigration ((within directory).pathOf r.fullName) = .ok m ∧
      m.up = patch)
    made (SchemaPatch.chain .empty (made.map (·.schema)))

variable {directory : String} {place : Place} {fs : Files} {made : List MigrationRequest}
  {r : MigrationRequest}

theorem lastSchema_concat (made : List MigrationRequest) (r : MigrationRequest) :
    lastSchema (made ++ [r]) = r.schema := by
  simp [lastSchema]

theorem lastSchema_cases (made : List MigrationRequest) :
    lastSchema made = .empty ∨ ∃ r ∈ made, lastSchema made = r.schema := by
  rcases List.eq_nil_or_concat made with rfl | ⟨before, r, rfl⟩
  · exact .inl rfl
  · rw [List.concat_eq_append, lastSchema_concat]
    exact .inr ⟨r, by simp, rfl⟩

/-- What all schemas have, and the empty one, the last one has. -/
theorem lastSchema_induct {p : Schema → Prop} (empty : p .empty) (all : ∀ r ∈ made, p r.schema) :
    p (lastSchema made) := by
  rcases lastSchema_cases made with h | ⟨r, hr, h⟩
  · rwa [h]
  · rw [h]
    exact all r hr

theorem Holds.keyed (h : Holds directory place fs made) : (lastSchema made).WellKeyed :=
  lastSchema_induct Schema.WellKeyed.empty fun r hr => (h.sound r hr).keyed

/-- What has no file has no entry. -/
theorem Holds.entry?_eq_none (h : Holds directory place fs made) {name : String}
    (plain : Path.Plain name) (other : name ≠ baselineName)
    (unmade : ∀ d ∈ made, name ≠ d.fileName) : fs.entry? (place ++ [name]) = none := by
  refine Option.eq_none_iff_forall_ne_some.mpr fun entry hentry => ?_
  have held := (Files.entry?_eq_some_iff (Files.isAround_append plain)).mp hentry
  rcases (h.entries name entry held).2 with same | ⟨d, hd, same⟩
  · exact other same
  · exact unmade d hd same

theorem Holds.baseline_replaceable (h : Holds directory place fs made) :
    fs.entry? (place ++ [baselineName]) ≠ some .directory := by
  intro hentry
  have held := (Files.entry?_eq_some_iff (Files.isAround_append plain_baselineName)).mp hentry
  exact (h.entries _ _ held).1 rfl

/-! ## Making one more -/

theorem draft_of_holds (h : Holds directory place fs made)
    (named : MigrationName.isValid r.name = true) :
    (within directory).draft r.name r.schema fs =
      (Migration.between? r.name (lastSchema made) r.schema).mapError .refused := by
  rw [draft, named, h.baseline]
  rfl

/-- What comes of making one more migration: a failure of files where a path is too long, a refusal
or nothing to do, which change nothing, or one more migration that the files hold. -/
inductive Outcome (directory : String) (place : Place) (fs : Files) (made : List MigrationRequest)
    (r : MigrationRequest) : Except MigrationError Creation → Files → Prop
  | unreached {e : FileError} {fs' : Files} (path : ¬ Reaches directory place r.fileName) :
    Outcome directory place fs made r (.error (.files e)) fs'
  | refused {reason : Unsupported}
    (drafted : Migration.between? r.name (lastSchema made) r.schema = .error reason) :
    Outcome directory place fs made r (.error (.refused reason)) fs
  | noChanges (drafted : Migration.between? r.name (lastSchema made) r.schema = .ok none) :
    Outcome directory place fs made r (.ok .noChanges) fs
  | created {m : Migration} {actions remarks : Nat} {fs' : Files}
    (drafted : Migration.between? r.name (lastSchema made) r.schema = .ok (some m))
    (holds : Holds directory place fs' (made ++ [r])) :
    Outcome directory place fs made r
      (.ok (.created ((within directory).pathOf r.fullName) actions remarks)) fs'

/-- There is room for a migration that is asked for later than those that the files hold. -/
theorem Holds.hasRoom (h : Holds directory place fs made) (named : r.Named)
    (later : ∀ d ∈ made, d.time.Precedes r.time) : HasRoom directory place fs r.fileName where
  there := h.there
  plain := MigrationRequest.plain_fileName named.valid
  differ := named.fileName_ne_baselineName
  free := h.entry?_eq_none (MigrationRequest.plain_fileName named.valid)
    named.fileName_ne_baselineName fun d hd =>
      (MigrationRequest.fileName_ne_fileName (h.sound d hd).toNamed named (later d hd)).symm
  replaceable := h.baseline_replaceable

/-- The migration to be made next holds nothing literally but what can be part of a file. -/
theorem Holds.storable (h : Holds directory place fs made) (hr : r.Sound) {m : Migration}
    (drafted : Migration.between? r.name (lastSchema made) r.schema = .ok (some m)) :
    ∀ v ∈ m.literals, v.Storable := by
  have held : ∀ v ∈ (lastSchema made).literals, v.Storable :=
    lastSchema_induct (p := fun s => ∀ v ∈ s.literals, v.Storable) nofun
      fun d hd => (h.sound d hd).literals
  intro v hv
  have origin := Migration.literals_of_between? h.keyed hr.keyed drafted hv
  exact (List.mem_append.mp origin).elim (held v) (hr.literals v)

/-- The migrations before are read as they were, when one more has been made. -/
theorem Holds.migrations_withMade (h : Holds directory place fs made)
    (room : HasRoom directory place fs r.fileName) (m : Migration) :
    List.Forall₂
      (fun d patch => ∃ n, (withMade fs place r m).readMigration
        ((within directory).pathOf d.fullName) = .ok n ∧ n.up = patch)
      made (SchemaPatch.chain .empty (made.map (·.schema))) := by
  refine (List.forall₂_and_left _ _ |>.mpr ⟨h.sound, h.migrations⟩).imp ?_
  rintro d patch ⟨hd, n, hn, rfl⟩
  obtain ⟨text, hread⟩ := Files.read_of_readMigration hn
  have kept : (withMade fs place r m).read ((within directory).pathOf d.fullName) = .ok text :=
    room.read_other (MigrationRequest.plain_fileName hd.valid) hd.fileName_ne_baselineName hread
  exact ⟨n, (Files.readMigration_congr (kept.trans hread.symm)).trans hn, rfl⟩

/-- **One more migration that is made is held with the others.** -/
theorem Holds.concat (h : Holds directory place fs made) (hr : r.Sound)
    (later : ∀ d ∈ made, d.time.Precedes r.time) (reaches : Reaches directory place r.fileName)
    {m : Migration}
    (drafted : Migration.between? r.name (lastSchema made) r.schema = .ok (some m)) :
    Holds directory place (withMade fs place r m) (made ++ [r]) := by
  have room := h.hasRoom hr.toNamed later
  obtain ⟨format, up, -⟩ := Migration.of_between?_eq_some drafted
  refine
    { sound := List.forall_mem_append.mpr ⟨h.sound, List.forall_mem_singleton.mpr hr⟩
      apart := List.pairwise_append.mpr ⟨h.apart, List.pairwise_singleton _ _, ?apart⟩
      there := room.find_withMade
      entries := ?entries
      baseline := ?baseline
      migrations := ?migrations }
  case apart =>
    intro d hd r' hr'
    exact List.mem_singleton.mp hr' ▸ later d hd
  case entries =>
    intro name entry hentry
    rcases mem_entries_withMade hentry with old | own | baseline
    · obtain ⟨file, named | ⟨d, hd, named⟩⟩ := h.entries name entry old
      · exact ⟨file, .inl named⟩
      · exact ⟨file, .inr ⟨d, List.mem_append_left _ hd, named⟩⟩
    · obtain ⟨hname, rfl⟩ := Prod.mk.inj own
      exact ⟨nofun, .inr ⟨r, by simp, by simpa using hname⟩⟩
    · obtain ⟨hname, rfl⟩ := Prod.mk.inj baseline
      exact ⟨nofun, .inl (by simpa using hname)⟩
  case baseline =>
    rw [lastSchema_concat]
    exact Files.readBaseline_of_read (room.read_baseline reaches.baseline)
      (Schema.ofText_line_of_storable hr.literals)
  case migrations =>
    rw [List.map_append, List.map_singleton, SchemaPatch.chain_concat]
    have read := Files.readMigration_of_read (room.read_own reaches.migration)
      (Migration.ofText_line (h.storable hr drafted)) format
    exact List.rel_append (h.migrations_withMade room m) (.cons ⟨m, read, up⟩ .nil)

/-- **What comes of making one more migration.** -/
theorem Holds.make (h : Holds directory place fs made) (hr : r.Sound)
    (later : ∀ d ∈ made, d.time.Precedes r.time) :
    ∃ result fs', ((within directory).make r).Ends fs result fs' ∧
      Outcome directory place fs made r result fs' := by
  have drafted := draft_of_holds h hr.valid
  rcases hbetween : Migration.between? r.name (lastSchema made) r.schema with reason | _ | m
  · rw [hbetween] at drafted
    exact ⟨_, _, ends_make_error _ drafted, .refused hbetween⟩
  · rw [hbetween] at drafted
    exact ⟨_, _, ends_make_none _ drafted, .noChanges hbetween⟩
  · rw [hbetween] at drafted
    have room := h.hasRoom hr.toNamed later
    by_cases reaches : Reaches directory place r.fileName
    · exact ⟨_, _, ends_make_some room reaches drafted,
        .created hbetween (h.concat hr later reaches hbetween)⟩
    · obtain ⟨e, fs', ends⟩ := ends_make_unreached room reaches drafted
      exact ⟨_, fs', ends, .unreached reaches⟩

/-! ## Making many -/

/-- Makes the migrations that are asked for, one after the other and whatever becomes of them. -/
def makeEach (p : Project) (fs : Files) :
    List MigrationRequest → List (MigrationRequest × Except MigrationError Creation) × Files
  | [] => ([], fs)
  | r :: rest =>
    let made := (p.make r).perform fs
    let others := p.makeEach made.2.files rest
    ((r, made.1) :: others.1, others.2)

/-- Those that were made of the migrations that were asked for. -/
def madeOf (results : List (MigrationRequest × Except MigrationError Creation)) :
    List MigrationRequest :=
  results.filterMap fun
    | (r, .ok (.created _ _ _)) => some r
    | _ => none

theorem makeEach_cons (p : Project) {fs fs' : Files} {result : Except MigrationError Creation}
    (h : (p.make r).Ends fs result fs') (rest : List MigrationRequest) :
    p.makeEach fs (r :: rest) =
      ((r, result) :: (p.makeEach fs' rest).1, (p.makeEach fs' rest).2) := by
  obtain ⟨hresult, hfiles⟩ := h.perform
  simp only [makeEach, hresult, hfiles]

/-- There is a result for everything that is asked for. -/
theorem map_fst_makeEach (p : Project) (fs : Files) (requests : List MigrationRequest) :
    (p.makeEach fs requests).1.map Prod.fst = requests := by
  induction requests generalizing fs with
  | nil => rfl
  | cons r rest ih => rw [makeEach, List.map_cons, ih]

/-- What was the last of some results was the first of them, if it was the only one, or the last of
the others. -/
theorem eq_or_getLast?_of_cons {α : Type} {x y : α} {rest : List α}
    (h : (x :: rest).getLast? = some y) : rest = [] ∧ x = y ∨ rest.getLast? = some y := by
  rcases List.eq_nil_or_concat rest with rfl | ⟨before, last, rfl⟩
  · exact .inl ⟨rfl, Option.some.inj h⟩
  · right
    rw [List.concat_eq_append, ← List.cons_append, List.getLast?_concat] at h
    rwa [List.concat_eq_append, List.getLast?_concat]

/-- The migrations to be made, from a baseline on, of those that are asked for: one to each schema
for which there is something to do and every database has statements. -/
def toMake : Schema → List MigrationRequest → List MigrationRequest
  | _, [] => []
  | baseline, r :: rest =>
    match Migration.between? r.name baseline r.schema with
    | .ok (some _) => r :: toMake r.schema rest
    | _ => toMake baseline rest

/-- What was asked for was made, in the file of its name, or there was nothing to do, or some
database has no statements for it. -/
def Regular (p : Project) (x : MigrationRequest × Except MigrationError Creation) : Prop :=
  (∃ actions remarks, x.2 = .ok (.created (p.pathOf x.1.fullName) actions remarks)) ∨
    x.2 = .ok .noChanges ∨ ∃ reason, x.2 = .error (.refused reason)

/-- What comes of a series of calls, from files that hold migrations: those that are made are the
ones to be made, they are held with the others, and when the last call was not refused, its schema
is the one that they lead to. -/
structure Series (directory : String) (place : Place) (made requests : List MigrationRequest)
    (results : List (MigrationRequest × Except MigrationError Creation)) (left : Files) : Prop where
  regular : ∀ x ∈ results, (within directory).Regular x
  which : madeOf results = toMake (lastSchema made) requests
  holds : Holds directory place left (made ++ madeOf results)
  last : ∀ r creation, results.getLast? = some (r, .ok creation) →
    (lastSchema (made ++ madeOf results)).Matches r.schema

theorem Holds.series_nil (h : Holds directory place fs made) :
    Series directory place made [] [] fs where
  regular := nofun
  which := rfl
  holds := (List.append_nil made).symm ▸ h
  last := nofun

section

variable {rest : List MigrationRequest}
  {results : List (MigrationRequest × Except MigrationError Creation)}
  {result : Except MigrationError Creation} {left : Files}

/-- A call before the others for which nothing is made. -/
theorem Series.cons_unmade (c : Series directory place made rest results left)
    (regular : (within directory).Regular (r, result))
    (unmade : madeOf ((r, result) :: results) = madeOf results)
    (skipped : toMake (lastSchema made) (r :: rest) = toMake (lastSchema made) rest)
    (matching : ∀ creation, result = .ok creation → (lastSchema made).Matches r.schema) :
    Series directory place made (r :: rest) ((r, result) :: results) left where
  regular := List.forall_mem_cons.mpr ⟨regular, c.regular⟩
  which := by rw [unmade, skipped, c.which]
  holds := unmade ▸ c.holds
  last r' creation hlast := by
    rw [unmade]
    rcases eq_or_getLast?_of_cons hlast with ⟨rfl, same⟩ | hlast
    · obtain ⟨rfl, rfl⟩ := Prod.mk.inj same
      exact (List.append_nil made).symm ▸ matching creation rfl
    · exact c.last r' creation hlast

/-- A call before the others by which a migration is made. -/
theorem Series.cons_made (c : Series directory place (made ++ [r]) rest results left)
    {m : Migration}
    (drafted : Migration.between? r.name (lastSchema made) r.schema = .ok (some m))
    (actions remarks : Nat) :
    Series directory place made (r :: rest)
      ((r, .ok (.created ((within directory).pathOf r.fullName) actions remarks)) :: results)
      left := by
  have added (path : String) :
      made ++ madeOf ((r, .ok (.created path actions remarks)) :: results) =
        made ++ [r] ++ madeOf results := (List.append_assoc made [r] _).symm
  refine ⟨List.forall_mem_cons.mpr ⟨.inl ⟨_, _, rfl⟩, c.regular⟩, ?which,
    added _ ▸ c.holds, ?last⟩
  case which =>
    rw [toMake, drafted]
    exact congrArg (r :: ·) (c.which.trans (by rw [lastSchema_concat]))
  case last =>
    intro r' creation hlast
    rw [added]
    rcases eq_or_getLast?_of_cons hlast with ⟨rfl, same⟩ | hlast
    · obtain ⟨rfl, -⟩ := Prod.mk.inj same
      have led : lastSchema (made ++ [r] ++ madeOf []) = r.schema := by
        rw [madeOf, List.filterMap_nil, List.append_nil, lastSchema_concat]
      exact led.symm ▸ Schema.matches_equivalence.refl _
    · exact c.last r' creation hlast

end

/-- **Files that hold migrations hold them with those that are made next**, as long as no path is
too long. -/
theorem Holds.makeEach (h : Holds directory place fs made) {requests : List MigrationRequest}
    (sound : ∀ r ∈ requests, r.Sound)
    (apart : requests.Pairwise fun a b => a.time.Precedes b.time)
    (later : ∀ d ∈ made, ∀ r ∈ requests, d.time.Precedes r.time)
    (works : ∀ x ∈ ((within directory).makeEach fs requests).1,
      Reaches directory place x.1.fileName ∨ ∀ e, x.2 ≠ .error (.files e)) :
    Series directory place made requests ((within directory).makeEach fs requests).1
      ((within directory).makeEach fs requests).2 := by
  induction requests generalizing fs made with
  | nil => exact h.series_nil
  | cons r rest ih =>
    have ⟨hr, rest_sound⟩ := List.forall_mem_cons.mp sound
    have ⟨before, rest_apart⟩ := List.pairwise_cons.mp apart
    have rest_later : ∀ d ∈ made, ∀ r ∈ rest, d.time.Precedes r.time := fun d hd r' hr' =>
      later d hd r' (List.mem_cons_of_mem _ hr')
    obtain ⟨result, fs', ends, outcome⟩ := h.make hr fun d hd => later d hd r List.mem_cons_self
    rw [makeEach_cons _ ends] at works ⊢
    have ⟨worked, rest_works⟩ := List.forall_mem_cons.mp works
    cases outcome with
    | unreached path =>
      -- this call would have ended with a failure of files
      exact absurd rfl ((worked.resolve_left path) _)
    | refused drafted =>
      have series := ih h rest_sound rest_apart rest_later rest_works
      exact series.cons_unmade (.inr (.inr ⟨_, rfl⟩)) rfl (by rw [toMake, drafted]) nofun
    | noChanges drafted =>
      have series := ih h rest_sound rest_apart rest_later rest_works
      have nothing := (Migration.between?_eq_none_iff.mp drafted).1
      exact series.cons_unmade (.inr (.inl rfl)) rfl (by rw [toMake, drafted])
        fun _ _ => (SchemaPatch.isEmpty_iff_matches h.keyed hr.keyed).mp nothing
    | created drafted holds =>
      have next_later : ∀ d ∈ made ++ [r], ∀ r ∈ rest, d.time.Precedes r.time :=
        List.forall_mem_append.mpr ⟨rest_later, List.forall_mem_singleton.mpr before⟩
      exact (ih holds rest_sound rest_apart next_later rest_works).cons_made drafted _ _

/-- No failure of files ends any of the calls where no path is too long. -/
theorem Holds.makeEach_works (h : Holds directory place fs made) {requests : List MigrationRequest}
    (sound : ∀ r ∈ requests, r.Sound)
    (apart : requests.Pairwise fun a b => a.time.Precedes b.time)
    (later : ∀ d ∈ made, ∀ r ∈ requests, d.time.Precedes r.time)
    (reaches : ∀ r ∈ requests, Reaches directory place r.fileName) :
    ∀ x ∈ ((within directory).makeEach fs requests).1, ∀ e, x.2 ≠ .error (.files e) := by
  have series := h.makeEach sound apart later fun x hx => .inl (reaches x.1 (by
    rw [← map_fst_makeEach (within directory) fs requests]
    exact List.mem_map_of_mem hx))
  intro x hx e same
  rcases series.regular x hx with ⟨_, _, regular⟩ | regular | ⟨_, regular⟩ <;>
  · rw [same] at regular
    cases regular

/-! ## Finding and reading them again -/

/-- What is read in turn, each as it should be, is read. -/
theorem mapM_eq_ok_of_forall₂ {ε α β γ : Type} {f : α → Except ε β} {g : β → γ} {as : List α}
    {cs : List γ} (h : List.Forall₂ (fun a c => ∃ b, f a = .ok b ∧ g b = c) as cs) :
    ∃ bs, as.mapM f = .ok bs ∧ bs.map g = cs := by
  induction h with
  | nil => exact ⟨[], rfl, rfl⟩
  | cons first _ ih =>
    obtain ⟨b, hb, rfl⟩ := first
    obtain ⟨bs, hbs, rfl⟩ := ih
    refine ⟨b :: bs, ?_, rfl⟩
    rw [List.mapM_cons, hb, hbs]
    rfl

theorem exists_of_forall₂ {α β : Type} {R : α → β → Prop} {as : List α} {bs : List β}
    (h : List.Forall₂ R as bs) {a : α} (ha : a ∈ as) : ∃ b, R a b := by
  induction h with
  | nil => cases ha
  | cons first _ ih =>
    rcases List.mem_cons.mp ha with rfl | ha
    · exact ⟨_, first⟩
    · exact ih ha

/-- Each migration that files hold has its file there. -/
theorem Holds.exists_file (h : Holds directory place fs made) (hr : r ∈ made) :
    ∃ text, (place ++ [r.fileName], .file text) ∈ fs.entries := by
  have plain := MigrationRequest.plain_fileName (h.sound r hr).valid
  obtain ⟨_, m, hm, -⟩ := exists_of_forall₂ h.migrations hr
  obtain ⟨text, hread⟩ := Files.read_of_readMigration hm
  have there := ((Files.read_join_iff plain h.there).mp hread).2
  exact ⟨text, (Files.entry?_eq_some_iff (Files.isAround_append plain)).mp there⟩

/-- The files in the directory that have a migration's name are those of the migrations. -/
theorem Holds.mem_discover_iff (h : Holds directory place fs made) {found : List MigrationFile}
    (hfound : (within directory).discover fs = .ok found) (file : MigrationFile) :
    file ∈ found ↔
      file ∈ made.map fun r => ⟨r.fullName, (within directory).pathOf r.fullName⟩ := by
  obtain ⟨files, listed⟩ := Files.exists_filesIn h.there
  rw [mem_discover hfound, List.mem_map]
  constructor
  · rintro ⟨stamped, hpath, files', listed', hname⟩
    obtain ⟨text, hentry⟩ := (Files.mem_filesIn h.there listed').mp hname
    rcases (h.entries _ _ hentry).2 with same | ⟨r, hr, same⟩
    · have unstamped : MigrationName.ofFileName? baselineName = none := by decide
      rw [MigrationName.ofFileName?_eq_some_iff.mpr ⟨same.symm, stamped⟩] at unstamped
      cases unstamped
    · have hfull : r.fullName = file.name := (String.append_left_inj _).mp same.symm
      refine ⟨r, hr, ?_⟩
      rw [hfull, ← hpath]
  · rintro ⟨r, hr, rfl⟩
    have hname : r.fileName ∈ files := (Files.mem_filesIn h.there listed).mpr (h.exists_file hr)
    dsimp only
    exact ⟨(h.sound r hr).isStamped_fullName, rfl, files, listed, hname⟩

/-- **The migrations that files hold are found in the order in which they were made.** -/
theorem Holds.discover (h : Holds directory place fs made) :
    (within directory).discover fs =
      .ok (made.map fun r => ⟨r.fullName, (within directory).pathOf r.fullName⟩) := by
  obtain ⟨found, hfound⟩ := exists_discover (p := within directory) h.there
  have sorted : ((made.map fun r => (⟨r.fullName, (within directory).pathOf r.fullName⟩ :
      MigrationFile)).map (·.name)).Pairwise (· < ·) := by
    rw [List.map_map, List.pairwise_map]
    exact h.apart.imp_of_mem fun ha hb before =>
      MigrationRequest.fullName_lt_fullName (h.sound _ ha).toNamed (h.sound _ hb).toNamed before
  rw [hfound, MigrationFile.eq_of_mem_iff (sorted_discover hfound) sorted
    (h.mem_discover_iff hfound)]

/-- The migrations of a project lead from the empty schema to its baseline: those that were made are
found, in this order, each is the one from the schema of the one before to its own, and carried out
one after the other they give a schema that matches the baseline. -/
structure Unbroken (p : Project) (fs : Files) (made : List MigrationRequest) : Prop where
  found : p.discover fs = .ok (made.map fun r => ⟨r.fullName, p.pathOf r.fullName⟩)
  loaded : ∃ migrations, (made.mapM fun r => fs.readMigration (p.pathOf r.fullName)) =
      .ok migrations ∧
    migrations.map (·.up) = SchemaPatch.chain .empty (made.map (·.schema)) ∧
    (SchemaPatch.replayAll .empty (migrations.map (·.up))).Matches (lastSchema made)
  baseline : fs.readBaseline p.baseline = .ok (lastSchema made)

theorem Holds.unbroken (h : Holds directory place fs made) :
    (within directory).Unbroken fs made := by
  obtain ⟨migrations, loaded, ups⟩ := mapM_eq_ok_of_forall₂ h.migrations
  refine ⟨h.discover, ⟨migrations, loaded, ups, ?_⟩, h.baseline⟩
  rw [ups]
  exact SchemaPatch.replayAll_chain (Schema.matches_equivalence.refl _) Schema.WellKeyed.empty
    (List.forall_mem_map.mpr fun r hr => (h.sound r hr).keyed)

/-- A schema that matches the last one calls for no more migrations, under no name and at no
time. -/
theorem Holds.ends_again (h : Holds directory place fs made)
    (named : MigrationName.isValid r.name = true) (keyed : r.schema.WellKeyed)
    (matching : (lastSchema made).Matches r.schema) :
    ((within directory).make r).Ends fs (.ok .noChanges) fs := by
  have forth := (SchemaPatch.isEmpty_iff_matches h.keyed keyed).mpr matching
  have back := (SchemaPatch.isEmpty_iff_matches keyed h.keyed).mpr
    (Schema.matches_equivalence.symm matching)
  have drafted := draft_of_holds h named
  rw [Migration.between?_eq_none_iff.mpr ⟨forth, back⟩] at drafted
  exact ends_make_none _ drafted

/-- Before anything is made, a directory with nothing in it holds nothing. -/
theorem holds_nil (there : fs.find directory = .ok (place, some .directory))
    (vacant : ∀ name entry, (place ++ [name], entry) ∉ fs.entries)
    (unbased : fs.read (within directory).baseline = .error .notFound) :
    Holds directory place fs [] where
  sound := nofun
  apart := .nil
  there := there
  entries name entry h := absurd h (vacant name entry)
  baseline := by
    rw [Files.readBaseline, unbased]
    rfl
  migrations := .nil

/-- **Migrations that are made in an empty directory form an unbroken chain.** Each is asked for in
a later second than the one before, and no failure of files ends any of the calls. Then whatever is
asked for is made, or there is nothing to do, or some database has no statements for it; those that
are made are found in their order and read again, each leads from the schema of the one before to
its own, and the last schema is the baseline. When what has just been asked for, and not refused, is
asked for again, there is nothing to do. -/
theorem makeEach_unbroken {left : Files} {requests : List MigrationRequest}
    {results : List (MigrationRequest × Except MigrationError Creation)}
    (there : fs.find directory = .ok (place, some .directory))
    (vacant : ∀ name entry, (place ++ [name], entry) ∉ fs.entries)
    (unbased : fs.read (within directory).baseline = .error .notFound)
    (sound : ∀ r ∈ requests, r.Sound)
    (apart : requests.Pairwise fun a b => a.time.Precedes b.time)
    (run : (within directory).makeEach fs requests = (results, left))
    (works : ∀ x ∈ results, ∀ e, x.2 ≠ .error (.files e)) :
    results.map Prod.fst = requests ∧ (∀ x ∈ results, (within directory).Regular x) ∧
      madeOf results = toMake .empty requests ∧
      (within directory).Unbroken left (madeOf results) ∧
      ∀ r creation, results.getLast? = some (r, .ok creation) → ∀ name time,
        MigrationName.isValid name = true →
          (((within directory).make ⟨name, r.schema, time⟩).perform left).1 = .ok .noChanges ∧
          (((within directory).make ⟨name, r.schema, time⟩).perform left).2.files = left := by
  have asked : results.map Prod.fst = requests := by
    rw [← map_fst_makeEach (within directory) fs requests, run]
  have series := (holds_nil there vacant unbased).makeEach sound apart nofun fun x hx => .inr (by
    rw [run] at hx
    exact works x hx)
  rw [run] at series
  have holds := series.holds
  rw [List.nil_append] at holds
  refine ⟨asked, series.regular, series.which, holds.unbroken, ?_⟩
  intro r creation hlast name time named
  have hr : r ∈ requests := asked ▸ List.mem_map_of_mem (List.mem_of_getLast? hlast)
  have again := holds.ends_again (r := ⟨name, r.schema, time⟩) named (sound r hr).keyed
    (series.last r creation hlast)
  exact again.perform

end Project

namespace Shop

open Project

/-- A directory for migrations, with nothing in it. -/
def folder : Files :=
  ⟨[(["migrations"], .directory)], by decide⟩

theorem find_folder : folder.find "migrations" = .ok (["migrations"], some .directory) :=
  find_migrations (by decide)

theorem folder_vacant (name : String) (entry : FileEntry) :
    (["migrations"] ++ [name], entry) ∉ folder.entries := by
  intro h
  cases List.mem_singleton.mp h

theorem usable_baselineName : Files.Usable "migrations" ["migrations"] baselineName :=
  ⟨rfl, rfl⟩

theorem folder_unbased : folder.read (within "migrations").baseline = .error .notFound := by
  have nothing := (Files.find_join_eq_ok_iff plain_baselineName find_folder).mpr
    ⟨usable_baselineName, rfl, rfl⟩
  rw [Files.read, within, nothing]
  rfl

theorem reaches_of_usable {file : String} (usable : Files.Usable "migrations" ["migrations"] file) :
    Reaches "migrations" ["migrations"] file := by
  refine ⟨usable, usable_baselineName, ?_⟩
  rw [Path.parent, Path.parts_eq]
  rfl

theorem hasRoom_folder {r : MigrationRequest} (named : r.Named) :
    HasRoom "migrations" ["migrations"] folder r.fileName :=
  (holds_nil find_folder folder_vacant folder_unbased).hasRoom named nofun

/-- The first migration is made in the folder if the databases have statements for it. -/
theorem ends_make_folder {r : MigrationRequest} {m : Migration} (named : r.Named)
    (usable : Files.Usable "migrations" ["migrations"] r.fileName)
    (drafted : Migration.between? r.name .empty r.schema = .ok (some m)) :
    ((within "migrations").make r).Ends folder
      (.ok (.created ((within "migrations").pathOf r.fullName) m.up.actions.length
        m.diagnostics.length)) (withMade folder ["migrations"] r m) := by
  refine ends_make_some (hasRoom_folder named) (reaches_of_usable usable) ?_
  rw [draft_of_holds (holds_nil find_folder folder_vacant folder_unbased) named.valid]
  exact congrArg (Except.mapError _) drafted

/-- Carts in the last second of a year, orders in the second after it, and the same once more. -/
def opening : List MigrationRequest :=
  [⟨"carts", before, ⟨2024, 12, 31, by decide⟩, 86399, 999999999, by decide⟩,
    ⟨"orders", after, ⟨2025, 1, 1, by decide⟩, 0, 0, Instant.valid_midnight⟩,
    ⟨"again", after, ⟨2025, 1, 1, by decide⟩, 1, 0, by decide⟩]

/-- Two migrations are made, and none for the last that is asked for. -/
theorem makeEach_unbroken_opening :
    folder.find "migrations" = .ok (["migrations"], some .directory) ∧
      (∀ name entry, (["migrations"] ++ [name], entry) ∉ folder.entries) ∧
      folder.read (within "migrations").baseline = .error .notFound ∧
      (∀ r ∈ opening, r.Sound) ∧ (opening.Pairwise fun a b => a.time.Precedes b.time) ∧
      (∀ x ∈ ((within "migrations").makeEach folder opening).1, ∀ e, x.2 ≠ .error (.files e)) ∧
      madeOf ((within "migrations").makeEach folder opening).1 = opening.take 2 ∧
      (within "migrations").Unbroken ((within "migrations").makeEach folder opening).2
        (opening.take 2) := by
  have sound : ∀ r ∈ opening, r.Sound := by
    simp only [opening, List.forall_mem_cons, List.not_mem_nil, false_imp_iff, implies_true,
      and_true]
    exact ⟨⟨⟨by decide, by decide, by decide⟩, wellKeyed_before, by decide⟩,
      ⟨⟨by decide, by decide, by decide⟩, wellKeyed_after, by decide⟩,
      ⟨⟨by decide, by decide, by decide⟩, wellKeyed_after, by decide⟩⟩
  have apart : opening.Pairwise fun a b => a.time.Precedes b.time := by decide
  have reaches : ∀ r ∈ opening, Reaches "migrations" ["migrations"] r.fileName := by
    simp only [opening, List.forall_mem_cons, List.not_mem_nil, false_imp_iff, implies_true,
      and_true]
    exact ⟨reaches_of_usable ⟨rfl, rfl⟩, reaches_of_usable ⟨rfl, rfl⟩,
      reaches_of_usable ⟨rfl, rfl⟩⟩
  have works := (holds_nil find_folder folder_vacant folder_unbased).makeEach_works sound apart
    (List.forall_mem_nil _) reaches
  have run := (Prod.eta ((within "migrations").makeEach folder opening)).symm
  obtain ⟨-, -, which, unbroken, -⟩ :=
    makeEach_unbroken find_folder folder_vacant folder_unbased sound apart run works
  have made : toMake .empty opening = opening.take 2 := rfl
  rw [made] at which
  exact ⟨find_folder, folder_vacant, folder_unbased, sound, apart, works, which, which ▸ unbroken⟩

/-- A schema whose default names an embedded text first. -/
def announcement : MigrationRequest :=
  ⟨"a", announced, ⟨2025, 1, 1, by decide⟩, 0, 0, Instant.valid_midnight⟩

theorem readBaseline_announced {fs : Files} {path : String}
    (h : fs.read path = .ok (announced.toText ++ "\n")) : fs.readBaseline path ≠ .ok announced := by
  rw [Files.readBaseline, h, Schema.toText]
  dsimp only
  rw [Schema.ofText, JsonReader.readText_line whole_announced, reader_announced]
  intro h
  cases h

/-- A migration to a schema that documents do not restore is made as well, but its baseline is not
read again. -/
theorem not_unbroken_announced :
    (folder.find "migrations" = .ok (["migrations"], some .directory) ∧
      (∀ name entry, (["migrations"] ++ [name], entry) ∉ folder.entries) ∧
      folder.read (within "migrations").baseline = .error .notFound) ∧
      (announcement.Named ∧ announced.WellKeyed ∧
        ∀ v ∈ announced.literals, v.Whole ∧ v.depth ≤ 100) ∧
      madeOf ((within "migrations").makeEach folder [announcement]).1 = [announcement] ∧
      ((within "migrations").makeEach folder [announcement]).2.readBaseline
        (within "migrations").baseline ≠ .ok announced := by
  have named : announcement.Named := ⟨by decide, by decide, by decide⟩
  have keyed : announced.WellKeyed :=
    Schema.WellKeyed.empty.withTable ((Table.WellKeyed.empty _).withColumn _)
  obtain ⟨m, hm⟩ : ∃ m, Migration.between? "a" .empty announced = .ok (some m) := ⟨_, rfl⟩
  rw [makeEach_cons (within "migrations") (ends_make_folder named ⟨rfl, rfl⟩ hm) []]
  exact ⟨⟨find_folder, folder_vacant, folder_unbased⟩, ⟨named, keyed, by decide⟩, rfl,
    readBaseline_announced ((hasRoom_folder named).read_baseline usable_baselineName)⟩

end Shop

end SchemaEvolution
