import SchemaEvolution.Proofs.Applying

/-!
# The ledger as a stack

Rows of the ledger are read in the order of their times, and nothing says that they were added in
that order. When every reading of the clock shows a later time than the one before, they were:
calls that apply and revert the migrations of one dialect find in the ledger what they have recorded
and not reverted, in the order in which they have recorded it, and revert from the end
(`LedgerHistory.ledger_is_stack`). The directory and the text that lets statements fail may be
others for each call.

What holds between calls is `LedgerHistory.Kept`; each kind of call keeps it.
-/

namespace SchemaEvolution

open Session (Strict Fallible Leaves)

/-! ## Reverting in a dry run -/

namespace Migration

variable (clock : Nat → Instant) {s : DryRun} {rows : List LedgerRow} {d : Dialect}

/-- Why a migration cannot be reverted in a dry run with a ledger. -/
def revertRefusal? (m : Migration) (d : Dialect) (failing? : Option String) :
    Option DatabaseError :=
  match DryRun.firstRefusal? failing? (m.routines d).down.flat with
  | some e => some e
  | none =>
    if failing?.any (hasPart (Ledger.deleteSql d) ·) then
      some (DryRun.injected (Ledger.deleteSql d))
    else none

/-- What the reversal of a migration leaves in the log. -/
def revertLines (m : Migration) (d : Dialect) (failing? : Option String) : List String :=
  match DryRun.firstRefusal? failing? (m.routines d).down.flat with
  | some _ => (m.routines d).down.linesThrough failing?
  | none => (m.routines d).down.lines ++ [Ledger.deleteSql d]

/-- **The ledger loses the rows of a migration exactly if all went well with its reversal.** -/
theorem leaves_revert (m : Migration) (name : String) (hledger : s.ledger? = some rows) :
    (m.revert d name).run.Leaves clock s (DryRun.endingOf (m.revertRefusal? d s.failing?))
      (m.revertLines d s.failing?)
      (some (if (m.revertRefusal? d s.failing?).isSome then rows
        else rows.filter (!·.isFor name d.tag))) 0 := by
  have ran := (m.routines d).down.leaves_run clock hledger
  unfold revertRefusal? revertLines
  cases hfirst : DryRun.firstRefusal? s.failing? (m.routines d).down.flat with
  | some e =>
    rw [hfirst] at ran
    exact ran.bind_error fun _ => Ledger.recordReverted d name
  | none =>
    rw [hfirst] at ran
    change Leaves _ _ _ (DryRun.endingOf (if s.fails (Ledger.deleteSql d) then _ else _)) _
      (some (if (if s.fails (Ledger.deleteSql d) then _ else _ : Option _).isSome then _ else _)) _
    cases hfails : s.fails (Ledger.deleteSql d) with
    | true =>
      refine Leaves.bind_ok (m := 0) (n := 0) ran fun s' hs' => ?_
      have noted := Ledger.leaves_recordReverted_failed clock name (s := s') (d := d)
        (by rwa [DryRun.fails, hs'.failing])
      rwa [hs'.ledger] at noted
    | false =>
      exact Leaves.bind_ok (m := 0) (n := 0) ran fun s' hs' =>
        Ledger.leaves_recordReverted clock hs'.ledger (by rwa [DryRun.fails, hs'.failing])

end Migration

namespace Project

variable (clock : Nat → Instant) {s : DryRun} {d : Dialect}

/-- Nothing is reverted where nothing is listed. -/
theorem leaves_revertLast_none (p : Project) (fs : Files)
    (h : Ledger.namesFor d s.ledger? = []) :
    (p.revertLast fs d).run.Leaves clock s (.ok none) [Ledger.selectSql d] s.ledger? 0 := by
  have listed := Ledger.leaves_appliedNames (d := d) clock s
  refine Leaves.bind_ok (n := 0) listed fun s' hs' => ?_
  rw [h]
  exact Leaves.tell_bind _ fun s'' hs'' => Leaves.done _ (hs''.ledger.trans hs'.ledger)

theorem leaves_revertLast_unread {p : Project} {fs : Files} {name : String} {e : MigrationError}
    (last : (Ledger.namesFor d s.ledger?).getLast? = some name)
    (hread : p.readApplied fs name = .error e) :
    (p.revertLast fs d).run.Leaves clock s (.error e) [Ledger.selectSql d] s.ledger? 0 := by
  have listed := Ledger.leaves_appliedNames (d := d) clock s
  refine Leaves.bind_ok (n := 0) listed fun s' hs' => ?_
  rw [last]
  change ((p.readApplied fs name).toSession >>= _).run.Leaves _ _ _ _ _ _
  rw [hread]
  exact Leaves.done _ hs'.ledger

/-- What has no file cannot be read. -/
theorem exists_readApplied_empty (p : Project) (name : String) :
    ∃ e, p.readApplied Files.empty name = .error e := by
  cases h : p.readApplied Files.empty name with
  | error e => exact ⟨e, rfl⟩
  | ok m =>
    obtain ⟨there, -, h⟩ := bind_eq_ok.mp h
    cases there with
    | false => cases h
    | true =>
      obtain ⟨text, read⟩ := Files.read_of_readMigration h
      exact absurd read (Files.read_empty_ne_ok _ text)

/-- What is reverted is the last of what is listed. -/
theorem leaves_revertLast_read {p : Project} {fs : Files} {rows : List LedgerRow} {name : String}
    {m : Migration} (hledger : s.ledger? = some rows)
    (last : (Ledger.namesFor d s.ledger?).getLast? = some name)
    (hread : p.readApplied fs name = .ok m) :
    (p.revertLast fs d).run.Leaves clock s
      (((DryRun.endingOf (m.revertRefusal? d s.failing?)).mapError (.notReverted name)).map
        fun _ => some name)
      ([Ledger.selectSql d] ++ m.revertLines d s.failing?)
      (some (if (m.revertRefusal? d s.failing?).isSome then rows
        else rows.filter (!·.isFor name d.tag))) 0 := by
  refine Leaves.bind_ok (m := 0) (n := 0) (Ledger.leaves_appliedNames clock s) fun s' hs' => ?_
  rw [last]
  change ((p.readApplied fs name).toSession >>= _).run.Leaves _ _ _ _ _ _
  rw [hread]
  refine Leaves.tell_bind _ fun s'' hs'' => ?_
  have reverted := (m.leaves_revert clock (d := d) name
    ((hs''.ledger.trans hs'.ledger).trans hledger)).wrap (MigrationError.notReverted name)
  rw [hs''.failing, hs'.failing] at reverted
  exact reverted.bind_pure _

end Project

/-! ## Rows in the order of their times -/

namespace Course

variable (c : Course) (clock : Nat → Instant) (start : Nat) (files : List MigrationFile)

theorem names_rows : (c.rows clock start files).map (·.name) = c.names files := by
  refine List.ext_getElem (by rw [List.length_map, rows, List.length_mapIdx]) fun i hi hi' => ?_
  simp only [rows, List.getElem_map, List.getElem_mapIdx]

/-- The clock was read for each of the rows. -/
theorem length_names_le_readings : (c.names files).length ≤ c.readings files := by
  induction files with
  | nil => exact Nat.le_refl 0
  | cons file rest ih =>
    cases stop : c.stop? file with
    | some e =>
      rw [names_of_stop stop]
      exact Nat.zero_le _
    | none =>
      rw [names_of_not_stop stop, readings_of_not_stop stop]
      cases applied : (c.turn file).isApplied with
      | true =>
        rw [if_pos rfl, List.length_cons, Turn.readings_of_isApplied applied]
        omega
      | false =>
        rw [if_neg Bool.false_ne_true]
        omega

/-- Each row has a name of a file and the time of a reading. -/
theorem mem_rows {r : LedgerRow} (h : r ∈ c.rows clock start files) :
    r.dialect = c.dialect.tag ∧
      ∃ i, start ≤ i ∧ i < start + c.readings files ∧ r.appliedAt = clock i := by
  obtain ⟨i, hi, rfl⟩ := List.mem_mapIdx.mp h
  have := c.length_names_le_readings files
  exact ⟨rfl, start + i, Nat.le_add_right _ _, by omega, rfl⟩

theorem mem_names {name : String} (h : name ∈ c.names files) :
    ∃ file ∈ files, file.name = name := by
  obtain ⟨file, hfile, rfl⟩ := List.mem_map.mp h
  exact ⟨file, (List.takeWhile_sublist _).subset (List.mem_filter.mp hfile).1, rfl⟩

theorem nodup_names (h : (files.map (·.name)).Nodup) : (c.names files).Nodup :=
  h.sublist ((List.filter_sublist.trans (List.takeWhile_sublist _)).map _)

theorem names_of_ending {names : List String} (h : c.ending files = .ok names) :
    c.names files = names := by
  unfold ending at h
  split at h <;> cases h
  rfl

/-- Rows that are added one after the other have later and later times. -/
theorem times_rows (increasing : ∀ i j, i < j → clock i < clock j) :
    (c.rows clock start files).Pairwise fun a b => a.appliedAt < b.appliedAt := by
  rw [List.pairwise_iff_getElem]
  intro i j hi hj hij
  simp only [rows, List.getElem_mapIdx]
  exact increasing _ _ (Nat.add_lt_add_left hij start)

end Course

/-! ## Calls one after the other -/

/-- A call of a run: the migrations of a project are applied or the last is reverted, with the files
as they are by then, and the text that lets statements fail. -/
inductive LedgerCall where
  | apply (p : Project) (fs : Files) (failing? : Option String)
  | revert (p : Project) (fs : Files) (failing? : Option String)

/-- A dry run that calls go through, with the names that they have recorded and not reverted. -/
structure LedgerHistory where
  recorded : List String
  run : DryRun

namespace LedgerHistory

/-- Before the first call. -/
def start : LedgerHistory :=
  ⟨[], DryRun.start⟩

/-- The names that applying what is pending records. -/
def added (d : Dialect) (p : Project) (fs : Files) (failing? : Option String)
    (recorded : List String) : List String :=
  if failing?.any (hasPart (Ledger.createSql d) ·) then []
  else
    match p.discover fs with
    | .error _ => []
    | .ok found =>
      (⟨fs, d, failing?⟩ : Course).names (found.filter fun file => !recorded.contains file.name)

/-- What is recorded after an attempt to revert. -/
def kept (recorded : List String) : Stored (Option String) → List String
  | .ok (some _) => recorded.dropLast
  | .ok none | .error _ => recorded

variable (d : Dialect) (clock : Nat → Instant)

/-- What comes of applying what is pending. -/
def apply (h : LedgerHistory) (p : Project) (fs : Files) (failing? : Option String) :
    Stored (List String) × LedgerHistory :=
  let (result, s) := (p.applyPending fs d).run.rehearse clock { h.run with failing? }
  (result, ⟨h.recorded ++ added d p fs failing? h.recorded, s⟩)

/-- What comes of reverting the migration that was applied last. -/
def revert (h : LedgerHistory) (p : Project) (fs : Files) (failing? : Option String) :
    Stored (Option String) × LedgerHistory :=
  let (result, s) := (p.revertLast fs d).run.rehearse clock { h.run with failing? }
  (result, ⟨kept h.recorded result, s⟩)

/-- After a call. -/
def next (h : LedgerHistory) : LedgerCall → LedgerHistory
  | .apply p fs failing? => (h.apply d clock p fs failing?).2
  | .revert p fs failing? => (h.revert d clock p fs failing?).2

/-- After calls. -/
def after (calls : List LedgerCall) : LedgerHistory :=
  calls.foldl (next d clock) start

theorem after_concat (calls : List LedgerCall) (call : LedgerCall) :
    after d clock (calls ++ [call]) = next d clock (after d clock calls) call :=
  List.foldl_concat ..

/-- What holds between calls: the ledger has a row of the dialect for each name that is recorded, in
the order of times, and all those times are over. -/
structure Kept (h : LedgerHistory) : Prop where
  names : (h.run.ledger?.getD []).map (·.name) = h.recorded
  dialect : ∀ r ∈ h.run.ledger?.getD [], r.dialect = d.tag
  times : (h.run.ledger?.getD []).Pairwise fun a b => a.appliedAt < b.appliedAt
  past : ∀ r ∈ h.run.ledger?.getD [], ∀ i, h.run.readings ≤ i → r.appliedAt < clock i
  distinct : h.recorded.Nodup

theorem recorded_apply (h : LedgerHistory) (p : Project) (fs : Files) (failing? : Option String) :
    (h.apply d clock p fs failing?).2.recorded =
      h.recorded ++ added d p fs failing? h.recorded := by
  rw [apply]

theorem recorded_revert (h : LedgerHistory) (p : Project) (fs : Files)
    (failing? : Option String) :
    (h.revert d clock p fs failing?).2.recorded =
      kept h.recorded (h.revert d clock p fs failing?).1 := by
  rw [revert]

variable {d clock} {h : LedgerHistory}

theorem kept_start : Kept d clock start :=
  ⟨rfl, nofun, .nil, nofun, .nil⟩

/-- Rows in the order of their times are read in that order. -/
theorem Kept.rowsFor (hk : Kept d clock h) :
    Ledger.rowsFor d h.run.ledger? = h.run.ledger?.getD [] := by
  change ((h.run.ledger?.getD []).filter (·.dialect = d.tag)).mergeSort _ = _
  rw [List.filter_eq_self.mpr fun r hr => decide_eq_true (hk.dialect r hr)]
  refine List.mergeSort_of_pairwise (hk.times.imp fun h => ?_)
  rw [LedgerRow.upTo, Bool.or_eq_true]
  exact .inl (decide_eq_true h)

theorem Kept.namesFor (hk : Kept d clock h) : Ledger.namesFor d h.run.ledger? = h.recorded := by
  rw [Ledger.namesFor, hk.rowsFor, hk.names]

theorem Kept.any_isFor (hk : Kept d clock h) (name : String) :
    (h.run.ledger?.getD []).any (·.isFor name d.tag) = h.recorded.contains name := by
  rw [← Project.contains_namesFor, hk.namesFor]

/-- Whatever leaves the rows alone keeps what holds. -/
theorem Kept.of_follows (hk : Kept d clock h) {s : DryRun} {lines : List String} {n : Nat}
    {ledger? : Option (List LedgerRow)} {failing? : Option String}
    (follows : ({ h.run with failing? } : DryRun).Follows lines ledger? n s)
    (same : ledger?.getD [] = h.run.ledger?.getD []) :
    Kept d clock ⟨h.recorded, s⟩ := by
  have rows : s.ledger?.getD [] = h.run.ledger?.getD [] := by rw [follows.ledger, same]
  constructor
  · rw [rows, hk.names]
  · rw [rows]
    exact hk.dialect
  · rw [rows]
    exact hk.times
  · rw [rows]
    intro r hr i hi
    exact hk.past r hr i ((Nat.le_add_right _ _).trans (follows.readings ▸ hi))
  · exact hk.distinct

/-- Names of pending migrations that are applied are added to what is recorded. -/
theorem Kept.add (increasing : ∀ i j, i < j → clock i < clock j) (hk : Kept d clock h)
    {fs : Files} {failing? : Option String} {pending : List MigrationFile}
    (distinct : (pending.map (·.name)).Nodup)
    (new : ∀ file ∈ pending, h.recorded.contains file.name = false) {s : DryRun}
    {lines : List String} :
    let c : Course := ⟨fs, d, failing?⟩
    ({ h.run with failing? } : DryRun).Follows lines
      (some (h.run.ledger?.getD [] ++ c.rows clock h.run.readings pending)) (c.readings pending) s →
    Kept d clock ⟨h.recorded ++ c.names pending, s⟩ := by
  intro c follows
  have rows : s.ledger?.getD [] =
      h.run.ledger?.getD [] ++ c.rows clock h.run.readings pending := by rw [follows.ledger]; rfl
  have readings : s.readings = h.run.readings + c.readings pending := follows.readings
  constructor
  · rw [rows, List.map_append, hk.names, c.names_rows]
  · rw [rows]
    intro r hr
    obtain hr | hr := List.mem_append.mp hr
    · exact hk.dialect r hr
    · exact (c.mem_rows clock _ _ hr).1
  · rw [rows, List.pairwise_append]
    refine ⟨hk.times, c.times_rows clock _ _ increasing, fun r hr r' hr' => ?_⟩
    obtain ⟨-, i, hi, -, time⟩ := c.mem_rows clock _ _ hr'
    rw [time]
    exact hk.past r hr i hi
  · rw [rows]
    intro r hr i hi
    rw [readings] at hi
    obtain hr | hr := List.mem_append.mp hr
    · exact hk.past r hr i ((Nat.le_add_right _ _).trans hi)
    · obtain ⟨-, j, -, hj, time⟩ := c.mem_rows clock _ _ hr
      rw [time]
      exact increasing j i (hj.trans_le hi)
  · rw [List.nodup_append]
    refine ⟨hk.distinct, c.nodup_names _ distinct, fun name hname name' hname' same => ?_⟩
    obtain ⟨file, hfile, rfl⟩ := c.mem_names _ hname'
    have fresh := new file hfile
    rw [← same, List.contains_iff_mem.mpr hname] at fresh
    cases fresh

theorem added_of_fails {p : Project} {fs : Files} {failing? : Option String}
    (fails : failing?.any (hasPart (Ledger.createSql d) ·) = true) (recorded : List String) :
    added d p fs failing? recorded = [] :=
  if_pos fails

theorem added_of_error {p : Project} {fs : Files} {failing? : Option String} {e : MigrationError}
    (h : p.discover fs = .error e) (recorded : List String) :
    added d p fs failing? recorded = [] := by
  unfold added
  rw [h]
  exact ite_self _

theorem added_of_ok {p : Project} {fs : Files} {failing? : Option String}
    {found : List MigrationFile} (created : failing?.any (hasPart (Ledger.createSql d) ·) = false)
    (h : p.discover fs = .ok found) (recorded : List String) :
    added d p fs failing? recorded =
      (⟨fs, d, failing?⟩ : Course).names
        (found.filter fun file => !recorded.contains file.name) := by
  unfold added
  rw [created, h]
  rfl

/-- **Applying what is pending keeps what holds**, and names what it adds if it ends well. -/
theorem Kept.apply (increasing : ∀ i j, i < j → clock i < clock j) (hk : Kept d clock h)
    (p : Project) (fs : Files) (failing? : Option String) :
    Kept d clock (h.apply d clock p fs failing?).2 ∧
      ∀ names, (h.apply d clock p fs failing?).1 = .ok names →
        (h.apply d clock p fs failing?).2.recorded = h.recorded ++ names := by
  have apply_eq {result : Stored (List String)} {s : DryRun}
      (went : (p.applyPending fs d).run.rehearse clock { h.run with failing? } = (result, s)) :
      h.apply d clock p fs failing? =
        (result, ⟨h.recorded ++ added d p fs failing? h.recorded, s⟩) := by
    rw [LedgerHistory.apply, went]
  cases created : failing?.any (hasPart (Ledger.createSql d) ·) with
  | true =>
    obtain ⟨s, went, follows⟩ := p.leaves_applyPending_uncreated clock fs
      (s := { h.run with failing? }) created
    rw [apply_eq went, added_of_fails created, List.append_nil]
    exact ⟨hk.of_follows follows rfl, nofun⟩
  | false =>
    cases hfound : p.discover fs with
    | error e =>
      obtain ⟨s, went, follows⟩ := Project.leaves_applyPending_unread clock
        (s := { h.run with failing? }) created hfound
      rw [apply_eq went, added_of_error hfound, List.append_nil]
      exact ⟨hk.of_follows follows rfl, nofun⟩
    | ok found =>
      obtain ⟨s, went, follows⟩ := Project.leaves_applyPending clock
        (s := { h.run with failing? }) created hfound
      have pending : Project.unlisted d (h.run.ledger?.getD []) found =
          found.filter fun file => !h.recorded.contains file.name := by
        simp only [Project.unlisted, hk.any_isFor]
      change _ = (Course.ending _ (Project.unlisted d (h.run.ledger?.getD []) found), s) at went
      rw [pending] at went
      rw [apply_eq went, added_of_ok created hfound]
      refine ⟨hk.add increasing ?_ ?_ (pending ▸ follows), fun names hnames => ?_⟩
      · exact (Project.nodup_discover hfound).sublist (List.filter_sublist.map _)
      · exact fun file hfile => Bool.not_eq_true' _ ▸ (List.mem_filter.mp hfile).2
      · exact congrArg (h.recorded ++ ·) (Course.names_of_ending _ _ hnames)

/-- What the result of an attempt to revert says: whether there was nothing to revert, which row is
gone, or that none is. -/
structure Reverts (d : Dialect) (h h' : LedgerHistory) (result : Stored (Option String)) :
    Prop where
  none_iff : result = .ok none ↔ h.recorded = []
  last : ∀ name, result = .ok (some name) → h.recorded.getLast? = some name ∧
    ∃ rows time, h.run.ledger? = some (rows ++ [⟨name, d.tag, time⟩]) ∧ h'.run.ledger? = some rows
  unchanged : ∀ e, result = .error e → h'.run.ledger? = h.run.ledger?

/-- The last row of a ledger in the order of times, under the name that is recorded last. -/
theorem Kept.exists_last (hk : Kept d clock h) {name : String}
    (last : h.recorded.getLast? = some name) :
    ∃ rows time, h.run.ledger? = some (rows ++ [⟨name, d.tag, time⟩]) ∧
      h.recorded = rows.map (·.name) ++ [name] ∧
      (rows ++ [(⟨name, d.tag, time⟩ : LedgerRow)]).filter (!·.isFor name d.tag) = rows := by
  obtain ⟨init, hinit⟩ := List.getLast?_eq_some_iff.mp last
  have names := hk.names
  rw [hinit] at names
  obtain ⟨rows, tail, hrows, rfl, htail⟩ := List.map_eq_append_iff.mp names
  obtain ⟨⟨name', dialect, time⟩, rfl, rfl⟩ := List.map_eq_singleton_iff.mp htail
  obtain rfl : dialect = d.tag := hk.dialect ⟨_, dialect, time⟩ (by
    rw [hrows]
    exact List.mem_append_right _ List.mem_cons_self)
  refine ⟨rows, time, ?_, hinit, ?_⟩
  · cases hledger : h.run.ledger? with
    | none =>
      rw [hledger] at hrows
      exact absurd hrows.symm (List.append_ne_nil_of_right_ne_nil _ (List.cons_ne_nil _ _))
    | some all =>
      rw [hledger] at hrows
      exact congrArg some hrows
  · have distinct := hk.distinct
    rw [hinit, List.nodup_append] at distinct
    have others : rows.filter (!·.isFor name' d.tag) = rows :=
      List.filter_eq_self.mpr fun r hr => by
        have differ := distinct.2.2 r.name (List.mem_map_of_mem hr) name' List.mem_cons_self
        rw [LedgerRow.isFor, beq_eq_false_iff_ne.mpr differ]
        rfl
    rw [List.filter_append, others, List.filter_cons_of_neg, List.filter_nil, List.append_nil]
    rw [LedgerRow.isFor, beq_self_eq_true, beq_self_eq_true]
    exact Bool.false_ne_true

/-- What holds goes on to hold when the last row is gone. -/
theorem Kept.drop (hk : Kept d clock h) {rows : List LedgerRow} {name : String} {time : Instant}
    (hledger : h.run.ledger? = some (rows ++ [⟨name, d.tag, time⟩]))
    (recorded : h.recorded = rows.map (·.name) ++ [name]) {s : DryRun} {lines : List String}
    {n : Nat} {failing? : Option String}
    (follows : ({ h.run with failing? } : DryRun).Follows lines (some rows) n s) :
    Kept d clock ⟨h.recorded.dropLast, s⟩ := by
  have before : h.run.ledger?.getD [] = rows ++ [⟨name, d.tag, time⟩] := by rw [hledger]; rfl
  have now : s.ledger?.getD [] = rows := by rw [follows.ledger]; rfl
  have still {r : LedgerRow} (hr : r ∈ rows) : r ∈ h.run.ledger?.getD [] := by
    rw [before]
    exact List.mem_append_left _ hr
  have fewer : rows.Sublist (h.run.ledger?.getD []) := before ▸ List.sublist_append_left _ _
  constructor
  · rw [now, recorded, List.dropLast_concat]
  · rw [now]
    exact fun r hr => hk.dialect r (still hr)
  · rw [now]
    exact hk.times.sublist fewer
  · rw [now]
    intro r hr i hi
    exact hk.past r (still hr) i ((Nat.le_add_right _ _).trans (follows.readings ▸ hi))
  · exact hk.distinct.sublist (List.dropLast_sublist _)

/-- **An attempt to revert keeps what holds.** -/
theorem Kept.revert (hk : Kept d clock h) (p : Project) (fs : Files) (failing? : Option String) :
    Kept d clock (h.revert d clock p fs failing?).2 ∧
      h.Reverts d (h.revert d clock p fs failing?).2 (h.revert d clock p fs failing?).1 := by
  have revert_eq {result : Stored (Option String)} {s : DryRun}
      (went : (p.revertLast fs d).run.rehearse clock { h.run with failing? } = (result, s)) :
      h.revert d clock p fs failing? = (result, ⟨kept h.recorded result, s⟩) := by
    rw [LedgerHistory.revert, went]
  cases hrecorded : h.recorded.getLast? with
  | none =>
    have nothing := List.getLast?_eq_none_iff.mp hrecorded
    obtain ⟨s, went, follows⟩ := p.leaves_revertLast_none clock fs
      (s := { h.run with failing? }) (hk.namesFor.trans nothing)
    rw [revert_eq went]
    exact ⟨hk.of_follows follows rfl, ⟨fun _ => nothing, fun _ => rfl⟩, nofun, nofun⟩
  | some name =>
    have last : (Ledger.namesFor d h.run.ledger?).getLast? = some name := hk.namesFor ▸ hrecorded
    have something : h.recorded ≠ [] := fun nothing => by
      rw [nothing] at hrecorded
      cases hrecorded
    cases hread : p.readApplied fs name with
    | error e =>
      obtain ⟨s, went, follows⟩ := Project.leaves_revertLast_unread clock
        (s := { h.run with failing? }) last hread
      rw [revert_eq went]
      exact ⟨hk.of_follows follows rfl, ⟨nofun, fun nothing => absurd nothing something⟩, nofun,
        fun _ _ => follows.ledger⟩
    | ok m =>
      obtain ⟨rows, time, hledger, recorded, removed⟩ := hk.exists_last hrecorded
      obtain ⟨s, went, follows⟩ := Project.leaves_revertLast_read clock
        (s := { h.run with failing? }) hledger last hread
      cases refusal : m.revertRefusal? d failing? with
      | some e =>
        simp only [refusal] at went follows
        rw [revert_eq went]
        exact ⟨hk.of_follows follows (by rw [hledger]; rfl),
          ⟨nofun, fun nothing => absurd nothing something⟩, nofun,
          fun _ _ => follows.ledger.trans hledger.symm⟩
      | none =>
        simp only [refusal] at went follows
        rw [revert_eq went]
        rw [Option.isSome_none, if_neg Bool.false_ne_true, removed] at follows
        refine ⟨hk.drop hledger recorded follows, ⟨nofun, fun nothing => absurd nothing something⟩,
          fun name' same => ?_, nofun⟩
        cases same
        exact ⟨hrecorded, rows, time, hledger, follows.ledger⟩

/-- **What holds between calls holds after any calls.** -/
theorem kept_after (increasing : ∀ i j, i < j → clock i < clock j) (calls : List LedgerCall) :
    Kept d clock (after d clock calls) := by
  induction calls using List.reverseRecOn with
  | nil => exact kept_start
  | append_singleton calls call ih =>
    rw [after_concat]
    cases call with
    | apply p fs failing? => exact (ih.apply increasing p fs failing?).1
    | revert p fs failing? => exact (ih.revert p fs failing?).1

/-- **The ledger is a stack.** After any calls for a dialect the ledger lists what they have
recorded and not reverted, in the order in which it was recorded. What is reverted next is the last
of it, and a failure to revert leaves the ledger alone. -/
theorem ledger_is_stack (d : Dialect) (clock : Nat → Instant)
    (increasing : ∀ i j, i < j → clock i < clock j) (calls : List LedgerCall) :
    let h := after d clock calls
    (Ledger.appliedNames d).run.Leaves clock h.run (.ok h.recorded) [Ledger.selectSql d]
        h.run.ledger? 0 ∧
      (∀ p fs failing? names, (h.apply d clock p fs failing?).1 = .ok names →
        (h.apply d clock p fs failing?).2.recorded = h.recorded ++ names) ∧
      ∀ p fs failing?, h.Reverts d (h.revert d clock p fs failing?).2
        (h.revert d clock p fs failing?).1 := by
  have hk : Kept d clock (after d clock calls) := kept_after increasing calls
  generalize after d clock calls = h at hk
  refine ⟨?_, fun p fs failing? => (hk.apply increasing p fs failing?).2,
    fun p fs failing? => (hk.revert p fs failing?).2⟩
  rw [← hk.namesFor]
  exact Ledger.leaves_appliedNames clock h.run

/-! ### A run -/

open Shop

theorem yearly_increasing (i j : Nat) (h : i < j) : yearly i < yearly j :=
  List.Lex.rel (show (2025 + i : Int) < 2025 + j by omega)

/-- The second of two migrations fails at first, is applied later and cannot be reverted. -/
def interrupted : List LedgerCall :=
  [.apply (.within "migrations") twoSteps (some "items"),
    .apply (.within "migrations") twoSteps none,
    .revert (.within "migrations") Files.empty none]

/-- The first two calls record what they apply, and the last takes nothing away. -/
theorem recorded_interrupted :
    (after .postgres yearly interrupted).recorded = ["1", "2_items"] := by
  have holds := kept_after yearly_increasing (d := .postgres) (interrupted.take 2)
  simp only [after, interrupted, List.take, List.foldl, next] at holds ⊢
  generalize hfirst :
    (start.apply .postgres yearly (.within "migrations") twoSteps (some "items")).2 = first at *
  generalize hsecond :
    (first.apply .postgres yearly (.within "migrations") twoSteps none).2 = second at *
  have first_recorded : first.recorded = ["1"] := by
    have created : (some "items").any (hasPart (Ledger.createSql .postgres) ·) = false :=
      not_fails_createSql_items
    have both : [step "1", step "2_items"].filter
        (fun file => !([] : List String).contains file.name) = [step "1", step "2_items"] :=
      List.filter_eq_self.mpr fun _ _ => rfl
    rw [← hfirst, recorded_apply, start, List.nil_append, added_of_ok created discover_twoSteps,
      both]
    exact stepping_refused.2.2.1
  have second_recorded : second.recorded = ["1", "2_items"] := by
    rw [← hsecond, recorded_apply, first_recorded, added_of_ok rfl discover_twoSteps]
    exact congrArg (["1"] ++ ·) stepping_on.2.2.1
  have last : (Ledger.namesFor .postgres second.run.ledger?).getLast? = some "2_items" := by
    rw [holds.namesFor, second_recorded]
    rfl
  obtain ⟨e, unread⟩ := Project.exists_readApplied_empty (.within "migrations") "2_items"
  obtain ⟨s, went, -⟩ := Project.leaves_revertLast_unread yearly
    (s := { second.run with failing? := none }) last unread
  rw [recorded_revert, revert, went]
  exact second_recorded

/-- Both migrations are listed in the end, and the second is the next to be reverted. -/
theorem ledger_is_stack_interrupted :
    (∀ i j, i < j → yearly i < yearly j) ∧
      let h := after .postgres yearly interrupted
      h.recorded = ["1", "2_items"] ∧
        (Ledger.appliedNames .postgres).run.Leaves yearly h.run (.ok ["1", "2_items"])
          [Ledger.selectSql .postgres] h.run.ledger? 0 ∧
        ∀ p fs failing?, h.Reverts .postgres (h.revert .postgres yearly p fs failing?).2
          (h.revert .postgres yearly p fs failing?).1 := by
  obtain ⟨listed, -, reverts⟩ := ledger_is_stack .postgres yearly yearly_increasing interrupted
  rw [recorded_interrupted] at listed
  exact ⟨yearly_increasing, recorded_interrupted, listed, reverts⟩

end LedgerHistory

end SchemaEvolution
