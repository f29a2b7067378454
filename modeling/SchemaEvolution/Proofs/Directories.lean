import Mathlib.Data.String.Basic
import SchemaEvolution.Proofs.Compiling
import SchemaEvolution.Proofs.Discovery

/-!
# Files in a directory

What is done to a file under the path of a directory and its own name is done at the place that has
that name in the place of the directory (`Files.locate_join`). So a directory is a map from names to
what stands there: a file that is written is read again, and the others stay as they were
(`Files.read_join_iff`, `Files.find_put`).

Only names that a directory can have for a file are meant (`Path.Plain`): those with a slash in them
lead elsewhere, and a dot or two are no names.
-/

namespace SchemaEvolution

/-! ## Paths -/

namespace Path

/-- A name that a thing in a directory can have. -/
structure Plain (name : String) : Prop where
  slashless : '/' ∉ name.toList
  nonempty : name ≠ ""
  not_dot : name ≠ "."
  not_dots : name ≠ ".."

variable {directory name : String}

theorem parts_eq (path : String) :
    parts path = (path.toList.splitOnP (· == '/')).map String.ofList :=
  String.splitToList_of_valid ..

theorem names_empty : names "" = [] := by
  rw [names, parts_eq]
  decide

/-- A name with the ending of a file that holds a document is that of a thing in a directory, unless
there is a slash in it. -/
theorem plain_json (slashless : '/' ∉ name.toList) : Plain (name ++ ".json") := by
  have long : 5 ≤ (name ++ ".json").toList.length := by
    rw [String.toList_append, List.length_append]
    exact Nat.le_add_left ..
  have other (text : String) (short : text.toList.length < 5) : name ++ ".json" ≠ text := by
    rintro h
    rw [h] at long
    omega
  refine ⟨?_, other _ (by decide), other _ (by decide), other _ (by decide)⟩
  rw [String.toList_append, List.mem_append, not_or]
  exact ⟨slashless, by decide⟩

theorem Plain.splitOnP (plain : Plain name) :
    name.toList.splitOnP (· == '/') = [name.toList] :=
  List.splitOnP_eq_singleton fun _ hc => beq_eq_false_iff_ne.mpr fun h => plain.slashless (h ▸ hc)

theorem Plain.isAbsolute (plain : Plain name) : isAbsolute name = false := by
  rw [Path.isAbsolute, beq_eq_false_iff_ne]
  exact fun h => plain.slashless (List.mem_of_mem_head? h)

/-- The empty path is that of the working directory as far as names in it go. -/
theorem join_empty (plain : Plain name) : join "" name = name := by
  have none : "".isEmpty = true := rfl
  rw [join, plain.isAbsolute, none, Bool.true_or, if_neg Bool.false_ne_true, if_pos rfl,
    String.empty_append]

/-- A path in a directory has the parts of the directory, but for an empty last one, and one
more. -/
theorem parts_join (plain : Plain name) (directory : String) :
    ∃ before, parts (join directory name) = before ++ [name] ∧
      (parts directory = before ∨ parts directory = before ++ [""]) := by
  by_cases empty : directory = ""
  · refine ⟨[], ?_, .inr ?_⟩
    · rw [empty, join_empty plain, parts_eq, plain.splitOnP, List.map_singleton,
        String.ofList_toList, List.nil_append]
    · rw [empty, parts_eq]
      decide
  have nonempty : directory.isEmpty = false := by
    rwa [← Bool.not_eq_true, String.isEmpty_iff]
  simp only [join, plain.isAbsolute, nonempty, Bool.false_or, Bool.false_eq_true, if_false,
    parts_eq]
  split
  next slash =>
    obtain ⟨start, hstart⟩ : ∃ start, directory.toList = start ++ ['/'] :=
      List.getLast?_eq_some_iff.mp (beq_iff_eq.mp slash)
    refine ⟨(start.splitOnP (· == '/')).map String.ofList, ?_, .inr ?_⟩
    · rw [String.toList_append, hstart, List.append_assoc, List.singleton_append,
        List.splitOnP_append_cons _ _ rfl, plain.splitOnP, List.map_append, List.map_singleton,
        String.ofList_toList]
    · rw [hstart, List.splitOnP_append_cons _ _ rfl, List.map_append]
      rfl
  next =>
    refine ⟨_, ?_, .inl rfl⟩
    have slash : "/".toList = ['/'] := rfl
    rw [String.toList_append, String.toList_append, slash, List.append_assoc,
      List.singleton_append, List.splitOnP_append_cons _ _ rfl, plain.splitOnP, List.map_append,
      List.map_singleton, String.ofList_toList]

theorem isAbsolute_join (plain : Plain name) (directory : String) :
    isAbsolute (join directory name) = isAbsolute directory := by
  by_cases empty : directory = ""
  · rw [empty, join_empty plain, plain.isAbsolute]
    rfl
  have nonempty : directory.toList ≠ [] := by
    rwa [ne_eq, String.toList_eq_nil_iff]
  have head (behind : List Char) : (directory.toList ++ behind).head? = directory.toList.head? :=
    List.head?_append_of_ne_nil _ nonempty
  rw [join, plain.isAbsolute, if_neg Bool.false_ne_true]
  split <;> simp only [isAbsolute, String.toList_append, List.append_assoc, head]

/-- The way to a thing in a directory is the way to the directory and the name of the thing. -/
theorem names_join (plain : Plain name) (directory : String) :
    names (join directory name) = names directory ++ [name] := by
  obtain ⟨before, joined, own⟩ := parts_join plain directory
  have kept : [name].filter (fun p => p ≠ "" ∧ p ≠ ".") = [name] := by
    simp [plain.nonempty, plain.not_dot]
  rw [names, names, isAbsolute_join plain directory, joined, List.filter_append, kept,
    ← List.append_assoc]
  rcases own with own | own
  · rw [own]
  · rw [own, List.filter_append]
    simp

theorem lastPart?_join (plain : Plain name) (directory : String) :
    lastPart? (join directory name) = some name := by
  obtain ⟨before, joined, -⟩ := parts_join plain directory
  rw [lastPart?, joined, List.filter_append]
  simp [plain.nonempty]

theorem endsInSlash_join (plain : Plain name) (directory : String) :
    endsInSlash (join directory name) = false := by
  obtain ⟨before, joined, -⟩ := parts_join plain directory
  rw [endsInSlash, joined, List.getLast?_concat, beq_eq_false_iff_ne]
  exact fun h => plain.nonempty (Option.some.inj h)

theorem endsInDot_join (plain : Plain name) (directory : String) :
    endsInDot (join directory name) = false := by
  rw [endsInDot, lastPart?_join plain directory, beq_eq_false_iff_ne]
  exact fun h => plain.not_dot (Option.some.inj h)

end Path

namespace Files

variable {fs fs' : Files} {place other : Place} {entry : FileEntry}
  {directory name text : String} {names : List String}

/-! ## What is where -/

theorem lookup_eq_some_iff :
    fs.entries.lookup place = some entry ↔ (place, entry) ∈ fs.entries := by
  rw [List.lookup_eq_some_iff]
  constructor
  · rintro ⟨before, behind, split, -⟩
    rw [split]
    exact List.mem_append_right _ List.mem_cons_self
  · intro h
    obtain ⟨before, behind, split⟩ := List.append_of_mem h
    refine ⟨before, behind, split, fun e he => bne_iff_ne.mpr fun same => ?_⟩
    have distinct := fs.distinct
    rw [split, List.map_append, List.map_cons, List.nodup_append] at distinct
    exact distinct.2.2 _ (List.mem_map_of_mem he) _ List.mem_cons_self same.symm

theorem entry?_eq_some_iff (away : place.isAround = false) :
    fs.entry? place = some entry ↔ (place, entry) ∈ fs.entries := by
  unfold entry?
  rw [away, if_neg Bool.false_ne_true, lookup_eq_some_iff]

theorem mem_entries_put {e : Place × FileEntry} :
    e ∈ (fs.put place entry).entries ↔ e.1 ≠ place ∧ e ∈ fs.entries ∨ e = (place, entry) := by
  simp only [put, eraseWhere, List.mem_append, List.mem_filter, List.mem_singleton,
    Bool.not_eq_true', beq_eq_false_iff_ne, and_comm]

/-- What is put at a place is there, and nothing else has changed. -/
theorem entry?_put (away : other.isAround = false) :
    Files.entry? (fs.put place entry) other =
      if other = place then some entry else fs.entry? other := by
  refine Option.ext fun found => ?_
  rw [entry?_eq_some_iff away, mem_entries_put]
  split
  next same =>
    subst same
    simp [eq_comm]
  next differ =>
    rw [entry?_eq_some_iff away]
    simp [differ]

/-- A place in a directory is none that is always there. -/
theorem isAround_append (plain : Path.Plain name) : (place ++ [name]).isAround = false := by
  rw [Place.isAround, Bool.or_eq_false_iff]
  constructor
  · rw [beq_eq_false_iff_ne]
    intro h
    have slash : name = "/" := by
      have last := congrArg List.getLast? h
      rw [List.getLast?_concat] at last
      exact Option.some.inj last
    exact plain.slashless (slash ▸ List.mem_singleton_self _)
  · rw [List.all_append, List.all_cons, beq_eq_false_iff_ne.mpr plain.not_dots, Bool.false_and,
      Bool.and_false]

theorem entry?_put_of_ne {new : String} (plain : Path.Plain name) (differ : name ≠ new) :
    Files.entry? (fs.put (place ++ [new]) entry) (place ++ [name]) =
      fs.entry? (place ++ [name]) := by
  rw [entry?_put (isAround_append plain), if_neg (by simpa using differ)]

/-! ## Ways -/

/-- Wherever there was a directory, there is one still. -/
def KeepsDirectories (fs fs' : Files) : Prop :=
  ∀ place, fs.entry? place = some .directory → fs'.entry? place = some .directory

/-- A file that is put where no directory is leaves all directories. -/
theorem keepsDirectories_put (h : fs.entry? place ≠ some .directory) :
    fs.KeepsDirectories (fs.put place (.file text)) := by
  intro other hother
  by_cases around : other.isAround
  · exact if_pos around
  · rw [entry?_put (Bool.eq_false_of_not_eq_true around), if_neg, hother]
    rintro rfl
    exact h hother

/-- A way leads up, or down to a directory that is there, and on from there. -/
theorem enter_cons_eq_ok_iff {start final : Place} {next : String} :
    fs.enter start (next :: names) = .ok final ↔
      next = ".." ∧ fs.enter start.up names = .ok final ∨
      next ≠ ".." ∧ ∃ place, child start next = .ok place ∧
        fs.entry? place = some .directory ∧ fs.enter place names = .ok final := by
  rw [enter]
  split
  next up => simp [up]
  next down =>
    rcases child start next with e | place
    · simp [down, bind, Except.bind]
    · rcases h : fs.entry? place with _ | _ | _ <;> simp [down, bind, Except.bind, h]

theorem enter_concat_of_enter {start middle final : Place} {last : String}
    (h : fs.enter start names = .ok middle) (hlast : fs.enter middle [last] = .ok final) :
    fs.enter start (names ++ [last]) = .ok final := by
  induction names generalizing start with
  | nil =>
    cases h
    exact hlast
  | cons next rest ih =>
    rw [List.cons_append, enter_cons_eq_ok_iff]
    rcases enter_cons_eq_ok_iff.mp h with ⟨up, rest⟩ | ⟨down, place, hplace, there, rest⟩
    · exact .inl ⟨up, ih rest⟩
    · exact .inr ⟨down, place, hplace, there, ih rest⟩

theorem enter_of_keepsDirectories (keeps : fs.KeepsDirectories fs') {start final : Place}
    (h : fs.enter start names = .ok final) : fs'.enter start names = .ok final := by
  induction names generalizing start with
  | nil => exact h
  | cons next rest ih =>
    rw [enter_cons_eq_ok_iff] at h ⊢
    rcases h with ⟨up, rest⟩ | ⟨down, place, hplace, there, rest⟩
    · exact .inl ⟨up, ih rest⟩
    · exact .inr ⟨down, place, hplace, keeps _ there, ih rest⟩

/-- No directory is made on a way that is there. -/
theorem enterMaking_of_enter {start final : Place} (made : Bool)
    (h : fs.enter start names = .ok final) : fs.enterMaking made start names = (.ok (), fs) := by
  induction names generalizing start with
  | nil => rfl
  | cons next rest ih =>
    rw [enterMaking]
    rcases enter_cons_eq_ok_iff.mp h with ⟨up, rest⟩ | ⟨down, place, hplace, there, rest⟩
    · rw [if_pos up]
      exact ih rest
    · rw [if_neg down, hplace]
      dsimp only
      rw [there]
      exact ih rest

/-! ## Directories -/

variable {path : String}

/-- A path without names leads to the working directory, unless it is empty. -/
theorem locate_of_unnamed (unnamed : Path.names path = []) :
    fs.locate path = .ok place ↔ checkPath path = .ok () ∧ path ≠ "" ∧ place = [] := by
  rw [locate, bind_eq_ok, unnamed, Unique.exists_iff]
  refine and_congr_right fun _ => ?_
  by_cases empty : path = "" <;> simp [empty]

/-- A path leads to its last name in the directory that the names before lead to, or, if it ends in
a dot, to the directory that they all lead to. -/
theorem locate_of_named {before : List String} {last : String}
    (named : Path.names path = before ++ [last]) :
    fs.locate path = .ok place ↔ checkPath path = .ok () ∧
      (Path.endsInDot path = true ∧ fs.enter [] (before ++ [last]) = .ok place ∨
        Path.endsInDot path = false ∧ ∃ directory, fs.enter [] before = .ok directory ∧
          (last = ".." ∧ place = directory.up ∨
            last ≠ ".." ∧ child directory last = .ok place)) := by
  rw [locate, bind_eq_ok, named, Unique.exists_iff]
  refine and_congr_right fun _ => ?_
  simp only [List.getLast?_concat, List.dropLast_concat]
  cases Path.endsInDot path with
  | true => simp
  | false =>
    rw [if_neg Bool.false_ne_true, bind_eq_ok]
    by_cases up : last = ".."
    · simp [up, eq_comm]
    · simp [up]

theorem find_directory_iff :
    fs.find path = .ok (place, some .directory) ↔
      fs.locate path = .ok place ∧ fs.entry? place = some .directory := by
  rw [find]
  rcases fs.locate path with e | place'
  · exact ⟨nofun, fun h => nomatch h.1⟩
  · simp only [bind, Except.bind]
    constructor
    · intro h
      split at h
      next => split at h <;> cases h
      next =>
        obtain ⟨rfl, found⟩ := Prod.mk.inj (Except.ok.inj h)
        exact ⟨rfl, found⟩
    · rintro ⟨located, there⟩
      cases located
      rw [there]
      rfl

/-- The way to a directory is one through directories. -/
theorem enter_of_find (there : fs.find path = .ok (place, some .directory)) :
    checkPath path = .ok () ∧ path ≠ "" ∧ fs.enter [] (Path.names path) = .ok place := by
  obtain ⟨located, there⟩ := find_directory_iff.mp there
  rcases List.eq_nil_or_concat (Path.names path) with unnamed | ⟨before, last, named⟩
  · obtain ⟨followed, nonempty, rfl⟩ := (locate_of_unnamed unnamed).mp located
    rw [unnamed]
    exact ⟨followed, nonempty, rfl⟩
  · rw [List.concat_eq_append] at named
    obtain ⟨followed, h⟩ := (locate_of_named named).mp located
    have nonempty : path ≠ "" := by
      rintro rfl
      rw [Path.names_empty] at named
      cases before <;> cases named
    rw [named]
    refine ⟨followed, nonempty, ?_⟩
    rcases h with ⟨-, h⟩ | ⟨-, directory, hdirectory, ⟨up, rfl⟩ | ⟨down, h⟩⟩
    · exact h
    · exact enter_concat_of_enter hdirectory (enter_cons_eq_ok_iff.mpr (.inl ⟨up, rfl⟩))
    · exact enter_concat_of_enter hdirectory
        (enter_cons_eq_ok_iff.mpr (.inr ⟨down, place, h, there, rfl⟩))

theorem locate_of_keepsDirectories (keeps : fs.KeepsDirectories fs')
    (h : fs.locate path = .ok place) : fs'.locate path = .ok place := by
  rcases List.eq_nil_or_concat (Path.names path) with unnamed | ⟨before, last, named⟩
  · exact (locate_of_unnamed unnamed).mpr ((locate_of_unnamed unnamed).mp h)
  · rw [List.concat_eq_append] at named
    rw [locate_of_named named] at h ⊢
    refine ⟨h.1, h.2.imp ?_ ?_⟩
    · exact And.imp_right (enter_of_keepsDirectories keeps)
    · rintro ⟨dot, directory, hdirectory, h⟩
      exact ⟨dot, directory, enter_of_keepsDirectories keeps hdirectory, h⟩

/-- A directory is found where it was, as long as directories are kept. -/
theorem find_of_keepsDirectories (keeps : fs.KeepsDirectories fs')
    (there : fs.find path = .ok (place, some .directory)) :
    fs'.find path = .ok (place, some .directory) := by
  rw [find_directory_iff] at there ⊢
  exact ⟨locate_of_keepsDirectories keeps there.1, keeps _ there.2⟩

/-- A directory is found where it was, when a file is put where no directory is. -/
theorem find_put (there : fs.find path = .ok (place, some .directory))
    (free : fs.entry? other ≠ some .directory) (text : String) :
    (fs.put other (.file text)).find path = .ok (place, some .directory) :=
  find_of_keepsDirectories (keepsDirectories_put free) there

/-! ## Names in a directory -/

section

variable (plain : Path.Plain name) (there : fs.find directory = .ok (place, some .directory))

/-- A name can be used in a directory: neither it nor its path is too long. -/
def Usable (directory : String) (place : Place) (name : String) : Prop :=
  checkPath (Path.join directory name) = .ok () ∧ child place name = .ok (place ++ [name])

include plain

/-- The way to a thing in a directory goes through the directory. -/
theorem locate_join (entered : fs.enter [] (Path.names directory) = .ok place) :
    fs.locate (Path.join directory name) =
      checkPath (Path.join directory name) >>= fun _ => child place name := by
  rw [locate, Path.names_join plain directory]
  refine congrArg (_ >>= ·) (funext fun _ => ?_)
  dsimp only
  rw [List.getLast?_concat, List.dropLast_concat, Path.endsInDot_join plain directory, entered]
  exact if_neg plain.not_dots

theorem locate_join_eq_ok_iff {other : Place}
    (entered : fs.enter [] (Path.names directory) = .ok place) :
    fs.locate (Path.join directory name) = .ok other ↔
      Usable directory place name ∧ other = place ++ [name] := by
  rw [locate_join plain entered, Usable]
  rcases checkPath (Path.join directory name) with e | _
  · exact ⟨nofun, fun h => nomatch h.1.1⟩
  · change child place name = _ ↔ _
    rw [child]
    split
    next => exact ⟨nofun, fun h => nomatch h.1.2⟩
    next =>
      exact ⟨fun h => ⟨⟨rfl, rfl⟩, (Except.ok.inj h).symm⟩, fun h => congrArg Except.ok h.2.symm⟩

theorem find_join :
    fs.find (Path.join directory name) =
      fs.locate (Path.join directory name) >>= fun p => .ok (p, fs.entry? p) := by
  rw [find, Path.endsInSlash_join plain directory]
  refine congrArg (_ >>= ·) (funext fun p => ?_)
  rcases fs.entry? p with _ | _ | _ <;> rfl

include there

theorem find_join_eq_ok_iff {other : Place} {found : Option FileEntry} :
    fs.find (Path.join directory name) = .ok (other, found) ↔
      Usable directory place name ∧ other = place ++ [name] ∧
        found = fs.entry? (place ++ [name]) := by
  rw [find_join plain, bind_eq_ok]
  constructor
  · rintro ⟨p, located, h⟩
    obtain ⟨usable, rfl⟩ := (locate_join_eq_ok_iff plain (enter_of_find there).2.2).mp located
    cases h
    exact ⟨usable, rfl, rfl⟩
  · rintro ⟨usable, rfl, rfl⟩
    exact ⟨_, (locate_join_eq_ok_iff plain (enter_of_find there).2.2).mpr ⟨usable, rfl⟩, rfl⟩

/-- **A file in a directory is read from its place there.** -/
theorem read_join_iff :
    fs.read (Path.join directory name) = .ok text ↔
      Usable directory place name ∧ fs.entry? (place ++ [name]) = some (.file text) := by
  rw [read, bind_eq_ok]
  constructor
  · rintro ⟨⟨other, found⟩, hfind, h⟩
    obtain ⟨usable, rfl, rfl⟩ := (find_join_eq_ok_iff plain there).mp hfind
    refine ⟨usable, ?_⟩
    rcases hentry : fs.entry? (place ++ [name]) with _ | _ | text'
    · rw [hentry] at h
      cases h
    · rw [hentry] at h
      cases h
    · rw [hentry] at h
      cases h
      rfl
  · rintro ⟨usable, hentry⟩
    refine ⟨_, (find_join_eq_ok_iff plain there).mpr ⟨usable, rfl, rfl⟩, ?_⟩
    rw [hentry]
    rfl

/-- A way that is there is not missed. -/
theorem find_join_ne_notFound : fs.find (Path.join directory name) ≠ .error .notFound := by
  rw [find_join plain, locate_join plain (enter_of_find there).2.2, checkPath, child]
  intro h
  split at h
  next => cases h
  next =>
    split at h
    next => cases h
    next =>
      change (if _ then _ else _) >>= _ = _ at h
      split at h <;> cases h

theorem contains_join_iff {b : Bool} :
    fs.contains (Path.join directory name) = .ok b ↔
      Usable directory place name ∧ b = (fs.entry? (place ++ [name])).isSome := by
  rw [contains]
  constructor
  · intro h
    rcases hfind : fs.find (Path.join directory name) with e | ⟨other, found⟩
    · rw [hfind] at h
      cases e with
      | notFound => exact absurd hfind (find_join_ne_notFound plain there)
      | _ => cases h
    · obtain ⟨usable, rfl, rfl⟩ := (find_join_eq_ok_iff plain there).mp hfind
      rw [hfind] at h
      exact ⟨usable, (Except.ok.inj h).symm⟩
  · rintro ⟨usable, rfl⟩
    rw [(find_join_eq_ok_iff plain there).mpr ⟨usable, rfl, rfl⟩]

/-- **A file that is written into a directory is put in its place there.** -/
theorem write_join_iff :
    fs.write (Path.join directory name) text = .ok fs' ↔
      Usable directory place name ∧ fs.entry? (place ++ [name]) ≠ some .directory ∧
        fs' = fs.put (place ++ [name]) (.file text) := by
  rw [write, Path.endsInSlash_join plain directory, Bool.false_and, if_neg Bool.false_ne_true,
    bind_eq_ok]
  simp only [Bool.false_or, decide_eq_true_eq]
  constructor
  · rintro ⟨other, located, h⟩
    obtain ⟨usable, rfl⟩ := (locate_join_eq_ok_iff plain (enter_of_find there).2.2).mp located
    split at h
    next => cases h
    next free => exact ⟨usable, free, (Except.ok.inj h).symm⟩
  · rintro ⟨usable, free, rfl⟩
    have located := (locate_join_eq_ok_iff plain (enter_of_find there).2.2).mpr ⟨usable, rfl⟩
    exact ⟨_, located, if_neg free⟩

/-- What was written is read. -/
theorem read_put_self (usable : Usable directory place name)
    (free : fs.entry? (place ++ [name]) ≠ some .directory) :
    (fs.put (place ++ [name]) (.file text)).read (Path.join directory name) = .ok text := by
  refine (read_join_iff plain (find_put there free text)).mpr ⟨usable, ?_⟩
  rw [entry?_put (isAround_append plain), if_pos rfl]

/-- What is written elsewhere leaves a file as it was. -/
theorem read_put_of_ne (differ : other ≠ place ++ [name])
    (free : fs.entry? other ≠ some .directory) (new : String)
    (h : fs.read (Path.join directory name) = .ok text) :
    (fs.put other (.file new)).read (Path.join directory name) = .ok text := by
  obtain ⟨usable, hentry⟩ := (read_join_iff plain there).mp h
  refine (read_join_iff plain (find_put there free new)).mpr ⟨usable, ?_⟩
  rw [entry?_put (isAround_append plain), if_neg differ.symm, hentry]

/-- The way to a thing in a directory that is there need not be made, but must not be too long. -/
theorem makeWayTo_join :
    fs.makeWayTo (Path.join directory name) =
      (checkPath (Path.parent (Path.join directory name)), fs) := by
  obtain ⟨-, -, entered⟩ := enter_of_find there
  rw [makeWayTo, Path.names_join plain directory, List.dropLast_concat,
    enterMaking_of_enter false entered]
  rcases checkPath (Path.parent (Path.join directory name)) with e | _ <;> rfl

omit plain in
/-- A directory that is there need not be made. -/
theorem makeDirectories_of_find : fs.makeDirectories directory = (.ok (), fs) := by
  obtain ⟨followed, -, entered⟩ := enter_of_find there
  rw [makeDirectories, followed]
  dsimp only
  rw [entered, enterMaking_of_enter false entered]
  split <;> rfl

end

/-! ## What files hold -/

theorem read_empty_ne_ok (path text : String) : empty.read path ≠ .ok text := by
  intro h
  obtain ⟨⟨place, found⟩, hfind, h⟩ := bind_eq_ok.mp h
  obtain ⟨place', -, hfind⟩ := bind_eq_ok.mp hfind
  by_cases around : place'.isAround = true
  · rw [show empty.entry? place' = some .directory from if_pos around] at hfind
    cases hfind
    cases h
  · rw [show empty.entry? place' = none from if_neg around] at hfind
    cases hfind
    cases h

theorem readMigration_of_read {text : String} {m : Migration} (h : fs.read path = .ok text)
    (hm : Migration.ofText text = .ok m) (supported : m.format = Migration.currentFormat) :
    fs.readMigration path = .ok m := by
  rw [readMigration, h]
  change (Stored.ofText path (Migration.ofText text) >>= _) = _
  rw [hm]
  exact if_pos (beq_iff_eq.mpr supported)

theorem read_of_readMigration {m : Migration} (h : fs.readMigration path = .ok m) :
    ∃ text, fs.read path = .ok text := by
  rw [readMigration] at h
  rcases hread : fs.read path with e | text
  · rw [hread] at h
    cases h
  · exact ⟨text, rfl⟩

theorem readMigration_congr (h : fs'.read path = fs.read path) :
    fs'.readMigration path = fs.readMigration path := by
  rw [readMigration, readMigration, h]

theorem readBaseline_of_read {text : String} {s : Schema} (h : fs.read path = .ok text)
    (hs : Schema.ofText text = .ok s) : fs.readBaseline path = .ok s := by
  rw [readBaseline, h]
  change Stored.ofText path (Schema.ofText text) = _
  rw [hs]
  rfl

end Files

namespace Shop

/-- A directory for migrations is found under its name. -/
theorem find_migrations {fs : Files} (there : fs.entry? ["migrations"] = some .directory) :
    fs.find "migrations" = .ok (["migrations"], some .directory) := by
  have names : Path.names "migrations" = [] ++ ["migrations"] := by
    rw [Path.names, Path.parts_eq]
    decide
  have named : Path.endsInDot "migrations" = false := by
    rw [Path.endsInDot, Path.lastPart?, Path.parts_eq]
    decide
  have located : fs.locate "migrations" = .ok ["migrations"] :=
    (Files.locate_of_named names).mpr ⟨rfl, .inr ⟨named, [], rfl, .inr ⟨by decide, rfl⟩⟩⟩
  exact Files.find_directory_iff.mpr ⟨located, there⟩

/-- A file is read from that directory under its name. -/
theorem read_migrations {fs : Files} {name text : String}
    (there : fs.find "migrations" = .ok (["migrations"], some .directory))
    (slashless : '/' ∉ name.toList)
    (usable : Files.Usable "migrations" ["migrations"] (name ++ ".json"))
    (held : fs.entry? ["migrations", name ++ ".json"] = some (.file text)) :
    fs.read ((Project.within "migrations").pathOf name) = .ok text :=
  (Files.read_join_iff (Path.plain_json slashless) there).mpr ⟨usable, held⟩

end Shop

end SchemaEvolution
