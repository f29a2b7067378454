import SchemaEvolution.Project.Apply
import SchemaEvolution.Proofs.StatusReport

/-!
# Names of migrations

A file holds a migration if its name is a migration's with the ending `.json`. What a migration can
be called is said by `MigrationName.Numbered`: one or more digits, and behind them nothing or an
underscore and any text at all, so also another `.json`. The name leads back to the file that it was
taken from, and that is the file which is read when the migration is reverted
(`Project.readApplied_of_discover`).

Digits are counted as characters, and as many bytes are then passed over. Since a digit is one byte,
what is looked at behind them begins with a whole character (`MigrationName.bySlicing?_eq`).

Names that are made are recognised, and they are in the order of the seconds in which they are made
(`MigrationName.recognised_exactly`).
-/

namespace SchemaEvolution

/-! ## Bytes -/

/-- The text behind the first bytes of a text. There is none where these end within a character. -/
def behindBytes? (text : String) (bytes : Nat) : Option String :=
  if h : (⟨bytes⟩ : String.Pos.Raw).IsValid text then
    some (text.sliceFrom (text.pos ⟨bytes⟩ h)).copy
  else none

theorem behindBytes?_append (a b : String) : behindBytes? (a ++ b) a.utf8ByteSize = some b := by
  have boundary : (⟨a.utf8ByteSize⟩ : String.Pos.Raw).IsValid (a ++ b) :=
    String.Pos.Raw.isValid_iff_exists_append.mpr ⟨a, b, rfl, rfl⟩
  rw [behindBytes?, dif_pos boundary]
  exact congrArg some (String.copy_sliceFrom_eq_iff_exists_splits.mpr ⟨a, rfl, rfl⟩)

theorem utf8ByteSize_of_digits {digits : List Char} (all : ∀ c ∈ digits, c.isDigit = true) :
    (String.ofList digits).utf8ByteSize = digits.length := by
  rw [String.utf8ByteSize_ofList]
  induction digits with
  | nil => rfl
  | cons c digits ih =>
    have ⟨digit, others⟩ := List.forall_mem_cons.mp all
    have single : c.utf8Size = 1 := by
      rw [Char.isDigit, Bool.and_eq_true, decide_eq_true_eq, decide_eq_true_eq] at digit
      exact Char.utf8Size_eq_one_iff.mpr (UInt32.le_trans digit.2 (by decide))
    rw [String.utf8Len_cons, ih others, single, List.length_cons]

namespace MigrationName

/-- The digits that a text begins with, and what stands behind them. -/
theorem digits_append_behind (text : String) :
    String.ofList (text.toList.takeWhile Char.isDigit) ++
      String.ofList (text.toList.dropWhile Char.isDigit) = text := by
  rw [← String.ofList_append, List.takeWhile_append_dropWhile, String.ofList_toList]

/-- As many bytes as a text begins with digits do not end within a character. -/
theorem behindBytes?_digits (text : String) :
    behindBytes? text (text.toList.takeWhile Char.isDigit).length =
      some (.ofList (text.toList.dropWhile Char.isDigit)) := by
  have behind := behindBytes?_append (.ofList (text.toList.takeWhile Char.isDigit))
    (.ofList (text.toList.dropWhile Char.isDigit))
  rwa [digits_append_behind, utf8ByteSize_of_digits fun c => List.mem_takeWhile_imp] at behind

/-! ## What is recognised -/

/-- A text is one or more ASCII digits, or these with an underscore and any text behind them. -/
def Numbered (text : String) : Prop :=
  ∃ digits : String, digits ≠ "" ∧ (∀ c ∈ digits.toList, c.isDigit = true) ∧
    (text = digits ∨ ∃ more, text = digits ++ "_" ++ more)

theorem isStamped_iff {text : String} : isStamped text.toList = true ↔ Numbered text := by
  constructor
  · intro h
    rw [isStamped, Bool.and_eq_true] at h
    obtain ⟨nonempty, behind⟩ := h
    have whole := digits_append_behind text
    refine ⟨.ofList (text.toList.takeWhile Char.isDigit), ?_, ?_, ?_⟩
    · intro empty
      rw [← String.toList_eq_nil_iff, String.toList_ofList] at empty
      rw [empty] at nonempty
      cases nonempty
    · rw [String.toList_ofList]
      exact fun c => List.mem_takeWhile_imp
    · cases hrest : text.toList.dropWhile Char.isDigit with
      | nil =>
        rw [hrest] at whole
        exact .inl (whole.symm.trans (String.append_empty ..))
      | cons c more =>
        rw [hrest] at behind whole
        obtain rfl : c = '_' := beq_iff_eq.mp behind
        have rest : String.ofList ('_' :: more) = "_" ++ .ofList more :=
          @String.ofList_append ['_'] more
        rw [rest, ← String.append_assoc] at whole
        exact .inr ⟨_, whole.symm⟩
  · rintro ⟨digits, nonempty, all, behind⟩
    have nonempty := mt String.toList_eq_nil_iff.mp nonempty
    obtain rfl | ⟨more, rfl⟩ := behind
    · rw [← List.append_nil text.toList]
      exact isStamped_append nonempty all (.inl rfl)
    · rw [String.append_assoc, String.toList_append]
      exact isStamped_append nonempty all (.inr ⟨more.toList, String.toList_append⟩)

theorem ofFileName?_eq_some_iff_numbered {file name : String} :
    ofFileName? file = some name ↔ file = name ++ ".json" ∧ Numbered name := by
  rw [ofFileName?_eq_some_iff, isStamped_iff]

/-- The name of the migration that a file holds, found by counting digits and passing over as many
bytes. There is no answer if these end within a character. -/
def bySlicing? (file : String) : Option (Option String) :=
  match withoutEnding? file ".json" with
  | none => some none
  | some stem =>
    let digits := (stem.toList.takeWhile Char.isDigit).length
    if digits = 0 then some none
    else (behindBytes? stem digits).map fun behind =>
      match behind.toList.head? with
      | none => some stem
      | some c => if c = '_' then some stem else none

/-- **To pass over as many bytes as there are digits is to pass over the digits.** -/
theorem bySlicing?_eq (file : String) : bySlicing? file = some (ofFileName? file) := by
  rw [bySlicing?, ofFileName?]
  cases withoutEnding? file ".json" with
  | none => rfl
  | some stem =>
    dsimp only
    rw [behindBytes?_digits, Option.map_some, String.toList_ofList, Option.filter_some, isStamped]
    cases stem.toList.takeWhile Char.isDigit with
    | nil => rfl
    | cons digit digits =>
      cases stem.toList.dropWhile Char.isDigit with
      | nil => rfl
      | cons c behind =>
        by_cases underscore : c = '_'
        · rw [underscore]
          rfl
        · simp [underscore]

end MigrationName

/-! ## Back to the file -/

theorem Files.read_of_contains_error {fs : Files} {path : String} {e : FileError}
    (h : fs.contains path = .error e) : fs.read path = .error e := by
  rw [contains] at h
  rw [read]
  rcases hfind : fs.find path with e' | found
  · rw [hfind] at h
    cases e' with
    | notFound => cases h
    | _ =>
      cases h
      rfl
  · rw [hfind] at h
    cases h

namespace Project

variable {p : Project} {fs : Files} {found : List MigrationFile} {file : MigrationFile}

/-- Unless there is nothing at the path of a migration, reverting it reads what is there. -/
theorem readApplied_eq {name : String} (h : fs.contains (p.pathOf name) ≠ .ok false) :
    p.readApplied fs name = fs.readMigration (p.pathOf name) := by
  rw [readApplied]
  cases there : fs.contains (p.pathOf name) with
  | error e =>
    rw [Files.readMigration, Files.read_of_contains_error there]
    rfl
  | ok b =>
    cases b with
    | false => exact absurd there h
    | true => rfl

/-- At the path of a migration that was found there is something. -/
theorem contains_of_discover (h : p.discover fs = .ok found) (hfile : file ∈ found)
    (slashless : '/' ∉ file.name.toList) : fs.contains (p.pathOf file.name) ≠ .ok false := by
  obtain ⟨-, -, names, listed, hname⟩ := (mem_discover h).mp hfile
  obtain ⟨place, there, -⟩ := Files.filesIn_eq_ok_iff.mp listed
  obtain ⟨text, entry⟩ := (Files.mem_filesIn there listed).mp hname
  have plain := Path.plain_json slashless
  intro missing
  obtain ⟨-, absent⟩ := (Files.contains_join_iff plain there).mp missing
  rw [(Files.entry?_eq_some_iff (Files.isAround_append plain)).mpr entry] at absent
  cases absent

/-- **A migration that was found is reverted from the file that it was found in.** -/
theorem readApplied_of_discover (h : p.discover fs = .ok found) (hfile : file ∈ found)
    (slashless : '/' ∉ file.name.toList) :
    p.readApplied fs file.name = fs.readMigration file.path := by
  rw [readApplied_eq (contains_of_discover h hfile slashless), ((mem_discover h).mp hfile).2.1]

end Project

namespace MigrationName

/-- **Exactly the names of migrations are recognised.** A file holds a migration if digits, or
digits with an underscore and any text behind them, stand before its ending. That name tells the
file, in which the migration is found and from which it is reverted; no name of a file has a slash
in it.
What is made at some time is recognised under the name that it was given, and the names of what is
made in different seconds are in the order of these, whatever the user has called it. -/
theorem recognised_exactly :
    (∀ file name, ofFileName? file = some name ↔ file = name ++ ".json" ∧ Numbered name) ∧
      (∀ file, bySlicing? file = some (ofFileName? file)) ∧
      (∀ file file' name, ofFileName? file = some name → ofFileName? file' = some name →
        file = file') ∧
      (∀ (p : Project) fs found, p.discover fs = .ok found → ∀ file ∈ found,
        file.path = p.pathOf file.name ∧
          ('/' ∉ file.name.toList → p.readApplied fs file.name = fs.readMigration file.path)) ∧
      (∀ time : Instant, time.FourDigits → ∀ name,
        ofFileName? (stamped time name ++ ".json") = some (stamped time name)) ∧
      ∀ a b : Instant, a.FourDigits → b.FourDigits → a.wholeSecond ≠ b.wholeSecond →
        ∀ name name', a < b ∧ stamped a name < stamped b name' ∨
          b < a ∧ stamped b name' < stamped a name := by
  refine ⟨fun _ _ => ofFileName?_eq_some_iff_numbered, bySlicing?_eq, ?_, ?_, ?_, ?_⟩
  · intro file file' name h h'
    rw [(ofFileName?_eq_some_iff.mp h).1, (ofFileName?_eq_some_iff.mp h').1]
  · intro p fs found h file hfile
    exact ⟨((Project.mem_discover h).mp hfile).2.1, Project.readApplied_of_discover h hfile⟩
  · intro time year name
    exact ofFileName?_eq_some_iff.mpr ⟨rfl, isStamped_stamped year⟩
  · intro a b ha hb differ name name'
    rcases Instant.precedes_or_precedes ha hb differ with before | after
    · exact .inl ⟨Instant.lt_of_precedes ha hb before, stamped_lt_stamped ha hb before⟩
    · exact .inr ⟨Instant.lt_of_precedes hb ha after, stamped_lt_stamped hb ha after⟩

end MigrationName

namespace Shop

open MigrationName

/-- Within the leap second at the end of a year. -/
def lastSecond : Instant :=
  ⟨⟨2016, 12, 31, by decide⟩, 86399, 1500000000, by decide⟩

/-- The first second of the year after. -/
def newYear : Instant :=
  ⟨⟨2017, 1, 1, by decide⟩, 0, 0, Instant.valid_midnight⟩

/-- A migration on the shelf is reverted from its file, and one that is made in a leap second stands
before one of the next year. -/
theorem recognised_exactly_shelf :
    let p := Project.within "migrations"
    let name := "20250101000000_a"
    (∃ found, p.discover shelf = .ok found ∧ ⟨name, p.pathOf name⟩ ∈ found ∧ '/' ∉ name.toList ∧
        p.readApplied shelf name = shelf.readMigration (p.pathOf name)) ∧
      (lastSecond.FourDigits ∧ newYear.FourDigits ∧ lastSecond.wholeSecond ≠ newYear.wholeSecond) ∧
      ofFileName? (stamped lastSecond "zeta" ++ ".json") = some (stamped lastSecond "zeta") ∧
      lastSecond < newYear ∧ stamped lastSecond "zeta" < stamped newYear "alpha" := by
  intro p name
  obtain ⟨-, -, -, reverted, made, ordered⟩ := recognised_exactly
  have year : lastSecond.FourDigits := by decide
  have year' : newYear.FourDigits := by decide
  have differ : lastSecond.wholeSecond ≠ newYear.wholeSecond :=
    Instant.wholeSecond_ne (by decide) (by decide) (.inl (by decide))
  have hfile : ⟨name, p.pathOf name⟩ ∈ [onShelf "20250101000000_a", onShelf "20250102000000_b"] :=
    List.mem_cons_self
  have slashless : '/' ∉ name.toList := by decide
  refine ⟨⟨_, discover_shelf, hfile, slashless,
    (reverted p _ _ discover_shelf _ hfile).2 slashless⟩, ⟨year, year', differ⟩, made _ year _, ?_⟩
  exact (ordered _ _ year year' differ "zeta" "alpha").resolve_right fun h => absurd h.1 (by decide)

end Shop

end SchemaEvolution
