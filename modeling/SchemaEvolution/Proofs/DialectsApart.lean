import SchemaEvolution.Proofs.LedgerStack

/-!
# Dialects do not meet in the ledger

Projects may apply their migrations for both dialects to one ledger. It is created once for both,
and both add rows to it, remove rows and read them; still each goes on as if the other were not
there (`DialectCall.performAll_apart`).

An operation for a dialect is confined to it (`Session.Confined`): what it ends with, and what the
dialect's rows come to, hangs on these rows alone, and all others stay. Whether there is a ledger
does not matter: it is created by whoever comes first, and one that is not there is read as one
without rows.
-/

namespace SchemaEvolution

open Session (Strict Fallible Leaves)

namespace Ledger

variable {d e : Dialect} {ledger? : Option (List LedgerRow)} {rows : List LedgerRow}

/-- The rows of a dialect, in the order in which they were added. -/
def rowsOf (d : Dialect) (ledger? : Option (List LedgerRow)) : List LedgerRow :=
  (ledger?.getD []).filter (·.dialect = d.tag)

theorem namesFor_eq (d : Dialect) (ledger? : Option (List LedgerRow)) :
    namesFor d ledger? = ((rowsOf d ledger?).mergeSort LedgerRow.upTo).map (·.name) :=
  rfl

theorem any_isFor_rowsOf (d : Dialect) (ledger? : Option (List LedgerRow)) (name : String) :
    (rowsOf d ledger?).any (·.isFor name d.tag) =
      (ledger?.getD []).any (·.isFor name d.tag) := by
  rw [rowsOf, List.any_filter]
  refine congrArg (List.any _) (funext fun r => ?_)
  by_cases h : r.dialect = d.tag
  · rw [decide_eq_true h, Bool.true_and]
  · rw [decide_eq_false h, Bool.false_and, LedgerRow.isFor, beq_false_of_ne h, Bool.and_false]

theorem rowsOf_of_same {ledger'? : Option (List LedgerRow)}
    (h : ledger'?.getD [] = ledger?.getD []) (d : Dialect) :
    rowsOf d ledger'? = rowsOf d ledger? := by
  rw [rowsOf, h, rowsOf]

/-- A ledger becomes another one that has these rows of a dialect, and else the same rows. -/
structure Becomes (d : Dialect) (before? : Option (List LedgerRow)) (own : List LedgerRow)
    (after? : Option (List LedgerRow)) : Prop where
  own : rowsOf d after? = own
  others : ∀ e, e ≠ d → rowsOf e after? = rowsOf e before?

theorem becomes_same {ledger'? : Option (List LedgerRow)}
    (h : ledger'?.getD [] = ledger?.getD []) : Becomes d ledger? (rowsOf d ledger?) ledger'? :=
  ⟨rowsOf_of_same h d, fun e _ => rowsOf_of_same h e⟩

theorem tag_ne (h : e ≠ d) : d.tag ≠ e.tag := by
  cases d with
  | postgres =>
    cases e with
    | postgres => exact absurd rfl h
    | spanner => decide
  | spanner =>
    cases e with
    | postgres => decide
    | spanner => exact absurd rfl h

/-- Rows of a dialect are added to its rows. -/
theorem becomes_append {new : List LedgerRow} (h : ∀ r ∈ new, r.dialect = d.tag) :
    Becomes d ledger? (rowsOf d ledger? ++ new) (some (ledger?.getD [] ++ new)) where
  own := by
    have all : new.filter (·.dialect = d.tag) = new :=
      List.filter_eq_self.mpr fun r hr => decide_eq_true (h r hr)
    rw [rowsOf, Option.getD_some, List.filter_append, all, rowsOf]
  others e he := by
    have none : new.filter (·.dialect = e.tag) = [] :=
      List.filter_eq_nil_iff.mpr fun r hr => by
        rw [h r hr, decide_eq_true_eq]
        exact tag_ne he
    rw [rowsOf, Option.getD_some, List.filter_append, none, List.append_nil, rowsOf]

/-- Rows of a dialect are removed from its rows. -/
theorem becomes_filter (name : String) :
    Becomes d (some rows) ((rowsOf d (some rows)).filter (!·.isFor name d.tag))
      (some (rows.filter (!·.isFor name d.tag))) where
  own := List.filter_comm ..
  others e he := by
    rw [rowsOf, Option.getD_some, List.filter_filter, rowsOf, Option.getD_some]
    refine List.filter_congr fun r _ => ?_
    by_cases h : r.dialect = e.tag
    · have other : r.isFor name d.tag = false := by
        rw [LedgerRow.isFor, h, beq_false_of_ne (tag_ne he).symm, Bool.and_false]
      rw [other, Bool.not_false, Bool.and_true]
    · rw [decide_eq_false h, Bool.false_and]

end Ledger

/-! ## Sessions that are confined to a dialect -/

namespace Session

variable {α β : Type} {d : Dialect} {times : Nat → Instant} {failing? : Option String}

/-- The clock of a session that begins when the clock was read so often, and reads these times. -/
def clockFrom (times : Nat → Instant) (readings : Nat) : Nat → Instant :=
  fun i => times (i - readings)

/-- A session is confined to a dialect: what it ends with, and what it makes of the rows of the
dialect, hangs on these rows, and it leaves all others as they are. -/
def Confined (d : Dialect) (times : Nat → Instant) (failing? : Option String) (p : Session α) :
    Prop :=
  ∀ own, ∃ result own', ∀ s : DryRun, s.failing? = failing? → Ledger.rowsOf d s.ledger? = own →
    ∃ lines ledger? n, p.Leaves (clockFrom times s.readings) s result lines ledger? n ∧
      Ledger.Becomes d s.ledger? own' ledger?

namespace Confined

theorem map {p : Session α} (h : p.Confined d times failing?) (f : α → β) :
    (f <$> p).Confined d times failing? := by
  intro own
  obtain ⟨result, own', h⟩ := h own
  refine ⟨f result, own', fun s hfailing hown => ?_⟩
  obtain ⟨lines, ledger?, n, leaves, becomes⟩ := h s hfailing hown
  exact ⟨lines, ledger?, n, leaves.bind_quiet fun s' hs' => Leaves.done _ hs'.ledger, becomes⟩

/-- A session that only reads the ledger, and of it the rows of a dialect. -/
theorem of_reading {p : Session α} (result : List LedgerRow → α) (lines : List String)
    (h : ∀ clock s, p.Leaves clock s (result (Ledger.rowsOf d s.ledger?)) lines s.ledger? 0) :
    p.Confined d times failing? := by
  intro own
  refine ⟨result own, own, fun s _ hown => ⟨lines, s.ledger?, 0, ?_, ?_⟩⟩
  · have reads := h (clockFrom times s.readings) s
    rwa [hown] at reads
  · have same : Ledger.Becomes d s.ledger? (Ledger.rowsOf d s.ledger?) s.ledger? :=
      Ledger.becomes_same rfl
    rwa [hown] at same

end Confined

end Session

open Session (Confined clockFrom)

variable {d : Dialect} {times : Nat → Instant} {failing? : Option String}

namespace Ledger

theorem confined_ensure (d : Dialect) (times : Nat → Instant) (failing? : Option String) :
    (ensure d).run.Confined d times failing? := by
  intro own
  cases created : failing?.any (hasPart (createSql d) ·) with
  | true =>
    refine ⟨.error (.ledgerNotCreated (DryRun.injected (createSql d))), own,
      fun s hfailing hown => ⟨_, _, _, leaves_ensure_failed _ ?_, ?_⟩⟩
    · rw [DryRun.fails, hfailing, created]
    · exact hown ▸ becomes_same rfl
  | false =>
    refine ⟨.ok (), own, fun s hfailing hown => ⟨_, _, _, leaves_ensure _ ?_, ?_⟩⟩
    · rw [DryRun.fails, hfailing, created]
    · exact hown ▸ becomes_same rfl

theorem confined_appliedNames (d : Dialect) (times : Nat → Instant) (failing? : Option String) :
    (appliedNames d).run.Confined d times failing? :=
  .of_reading (fun own => .ok ((own.mergeSort LedgerRow.upTo).map (·.name))) _
    fun clock s => leaves_appliedNames clock s

end Ledger

namespace Project

theorem unlisted_rowsOf (d : Dialect) (ledger? : Option (List LedgerRow))
    (found : List MigrationFile) :
    unlisted d (Ledger.rowsOf d ledger?) found = unlisted d (ledger?.getD []) found := by
  simp only [unlisted, Ledger.any_isFor_rowsOf]

theorem confined_pending (p : Project) (fs : Files) (d : Dialect) (times : Nat → Instant)
    (failing? : Option String) : (p.pending fs d).run.Confined d times failing? :=
  .of_reading (fun own => (p.discover fs).map (unlisted d own)) _ fun clock s => by
    have leaves := p.leaves_pending clock (d := d) fs s
    rwa [← funext (unlisted_rowsOf d s.ledger?)] at leaves

theorem leaves_status (clock : Nat → Instant) (p : Project) (fs : Files) (d : Dialect)
    (s : DryRun) :
    (p.status fs d).run.Leaves clock s
      ((p.discover fs).map fun files =>
        (mergeStatus files ((Ledger.rowsFor d s.ledger?).map (Ledger.migrationOf d))).mergeSort
          fun a b => a.name ≤ b.name)
      [Ledger.selectSql d] s.ledger? 0 := by
  refine Leaves.bind_ok (n := 0) (Ledger.leaves_applied clock s) fun s' hs' => ?_
  have found := (p.leaves_search clock fs s').bind_pure fun files =>
    (mergeStatus files ((Ledger.rowsFor d s.ledger?).map (Ledger.migrationOf d))).mergeSort
      fun a b => a.name ≤ b.name
  rw [hs'.ledger] at found
  exact found

theorem confined_status (p : Project) (fs : Files) (d : Dialect) (times : Nat → Instant)
    (failing? : Option String) : (p.status fs d).run.Confined d times failing? :=
  .of_reading (fun own => (p.discover fs).map fun files =>
      (mergeStatus files ((own.mergeSort LedgerRow.upTo).map (Ledger.migrationOf d))).mergeSort
        fun a b => a.name ≤ b.name)
    _ fun clock s => p.leaves_status clock fs d s

/-- The rows that are added have the times that are read from then on. -/
theorem rows_clockFrom (c : Course) (times : Nat → Instant) (start : Nat)
    (files : List MigrationFile) :
    c.rows (clockFrom times start) start files = c.rows times 0 files := by
  simp only [Course.rows, clockFrom, Nat.add_sub_cancel_left, Nat.zero_add]

theorem confined_applyPending (p : Project) (fs : Files) (d : Dialect) (times : Nat → Instant)
    (failing? : Option String) : (p.applyPending fs d).run.Confined d times failing? := by
  intro own
  cases created : failing?.any (hasPart (Ledger.createSql d) ·) with
  | true =>
    refine ⟨.error (.ledgerNotCreated (DryRun.injected (Ledger.createSql d))), own,
      fun s hfailing hown => ⟨_, _, _, leaves_applyPending_uncreated _ p fs ?_, ?_⟩⟩
    · rw [DryRun.fails, hfailing, created]
    · exact hown ▸ Ledger.becomes_same rfl
  | false =>
    have creates {s : DryRun} (hfailing : s.failing? = failing?) :
        s.fails (Ledger.createSql d) = false := by
      rw [DryRun.fails, hfailing, created]
    cases hfound : p.discover fs with
    | error e =>
      refine ⟨.error e, own, fun s hfailing hown =>
        ⟨_, _, _, leaves_applyPending_unread _ (creates hfailing) hfound, ?_⟩⟩
      exact hown ▸ Ledger.becomes_same rfl
    | ok found =>
      let c : Course := ⟨fs, d, failing?⟩
      let pending := unlisted d own found
      refine ⟨c.ending pending, own ++ c.rows times 0 pending, ?_⟩
      rintro s rfl rfl
      have applies := leaves_applyPending (clockFrom times s.readings) (creates rfl) hfound
      dsimp only at applies
      rw [← unlisted_rowsOf, rows_clockFrom] at applies
      refine ⟨_, _, _, applies, Ledger.becomes_append fun r hr => ?_⟩
      exact (c.mem_rows times 0 pending hr).1

/-- Where a name is listed there is a ledger. -/
theorem ledger_of_last {s : DryRun} {name : String}
    (last : (Ledger.namesFor d s.ledger?).getLast? = some name) :
    ∃ rows, s.ledger? = some rows := by
  cases hledger : s.ledger? with
  | none =>
    rw [hledger, Ledger.namesFor, Ledger.rowsFor_none] at last
    cases last
  | some rows => exact ⟨rows, rfl⟩

theorem confined_revertLast (p : Project) (fs : Files) (d : Dialect) (times : Nat → Instant)
    (failing? : Option String) : (p.revertLast fs d).run.Confined d times failing? := by
  intro own
  cases last : ((own.mergeSort LedgerRow.upTo).map (·.name)).getLast? with
  | none =>
    refine ⟨.ok none, own, fun s _ hown => ⟨_, _, _, leaves_revertLast_none _ p fs ?_, ?_⟩⟩
    · rw [Ledger.namesFor_eq, hown]
      exact List.getLast?_eq_none_iff.mp last
    · exact hown ▸ Ledger.becomes_same rfl
  | some name =>
    cases hread : p.readApplied fs name with
    | error e =>
      refine ⟨.error e, own, ?_⟩
      rintro s - rfl
      exact ⟨_, _, _, leaves_revertLast_unread _ last hread, Ledger.becomes_same rfl⟩
    | ok m =>
      refine ⟨((DryRun.endingOf (m.revertRefusal? d failing?)).mapError (.notReverted name)).map
          fun _ => some name,
        if (m.revertRefusal? d failing?).isSome then own
          else own.filter (!·.isFor name d.tag), ?_⟩
      rintro s rfl rfl
      obtain ⟨rows, hrows⟩ := ledger_of_last last
      refine ⟨_, _, _, leaves_revertLast_read _ hrows last hread, ?_⟩
      rw [hrows]
      cases (m.revertRefusal? d s.failing?).isSome with
      | true => exact Ledger.becomes_same rfl
      | false => exact Ledger.becomes_filter name

end Project

/-! ## Operations of both dialects -/

/-- What can be done with the migrations of a project. -/
inductive Operation where
  | ensureLedger | applyPending | revertLast | pending | appliedNames | status
deriving DecidableEq

/-- What an operation ends with. -/
inductive Outcome where
  | ensureLedger (result : Stored Unit)
  | applyPending (result : Stored (List String))
  | revertLast (result : Stored (Option String))
  | pending (result : Stored (List MigrationFile))
  | appliedNames (result : Stored (List String))
  | status (result : Stored (List MigrationStatus))

/-- The session of an operation. -/
def Operation.session (p : Project) (fs : Files) (d : Dialect) : Operation → Session Outcome
  | .ensureLedger => Outcome.ensureLedger <$> (Ledger.ensure d).run
  | .applyPending => Outcome.applyPending <$> (p.applyPending fs d).run
  | .revertLast => Outcome.revertLast <$> (p.revertLast fs d).run
  | .pending => Outcome.pending <$> (p.pending fs d).run
  | .appliedNames => Outcome.appliedNames <$> (Ledger.appliedNames d).run
  | .status => Outcome.status <$> (p.status fs d).run

theorem Operation.confined_session (p : Project) (fs : Files) (d : Dialect) (times : Nat → Instant)
    (failing? : Option String) (o : Operation) : (o.session p fs d).Confined d times failing? := by
  cases o with
  | ensureLedger => exact (Ledger.confined_ensure d times failing?).map _
  | applyPending => exact (p.confined_applyPending fs d times failing?).map _
  | revertLast => exact (p.confined_revertLast fs d times failing?).map _
  | pending => exact (p.confined_pending fs d times failing?).map _
  | appliedNames => exact (Ledger.confined_appliedNames d times failing?).map _
  | status => exact (p.confined_status fs d times failing?).map _

/-- An operation for a dialect, with the files as they are by then, the text that lets statements
fail, and the times that it reads from the clock. -/
structure DialectCall where
  dialect : Dialect
  operation : Operation
  project : Project
  fs : Files
  failing? : Option String
  times : Nat → Instant

namespace DialectCall

/-- What comes of a call. -/
def perform (c : DialectCall) (s : DryRun) : Outcome × DryRun :=
  (c.operation.session c.project c.fs c.dialect).rehearse (clockFrom c.times s.readings)
    { s with failing? := c.failing? }

/-- What comes of calls one after the other: what each ends with, beside its dialect. -/
def performAll : List DialectCall → DryRun → List (Dialect × Outcome) × DryRun
  | [], s => ([], s)
  | c :: rest, s =>
    let (outcome, s) := c.perform s
    let (outcomes, s) := performAll rest s
    ((c.dialect, outcome) :: outcomes, s)

variable {c : DialectCall} {s t : DryRun}

/-- The rows of a dialect decide what comes of a call for it. -/
theorem perform_eq (h : Ledger.rowsOf c.dialect s.ledger? = Ledger.rowsOf c.dialect t.ledger?) :
    (c.perform s).1 = (c.perform t).1 ∧
      Ledger.rowsOf c.dialect (c.perform s).2.ledger? =
        Ledger.rowsOf c.dialect (c.perform t).2.ledger? := by
  obtain ⟨result, own', confined⟩ := c.operation.confined_session c.project c.fs c.dialect c.times
    c.failing? (Ledger.rowsOf c.dialect t.ledger?)
  obtain ⟨_, _, _, ⟨s', hs, follows⟩, becomes⟩ := confined { s with failing? := c.failing? } rfl h
  obtain ⟨_, _, _, ⟨t', ht, follows'⟩, becomes'⟩ :=
    confined { t with failing? := c.failing? } rfl rfl
  have performs : c.perform s = (result, s') := hs
  have performs' : c.perform t = (result, t') := ht
  rw [performs, performs', follows.ledger, follows'.ledger, becomes.own, becomes'.own]
  exact ⟨rfl, rfl⟩

/-- A call for another dialect leaves the rows of a dialect as they are. -/
theorem rowsOf_perform {d : Dialect} (h : c.dialect ≠ d) (s : DryRun) :
    Ledger.rowsOf d (c.perform s).2.ledger? = Ledger.rowsOf d s.ledger? := by
  obtain ⟨result, own', confined⟩ := c.operation.confined_session c.project c.fs c.dialect c.times
    c.failing? (Ledger.rowsOf c.dialect s.ledger?)
  obtain ⟨_, _, _, ⟨s', hs, follows⟩, becomes⟩ := confined { s with failing? := c.failing? } rfl rfl
  have performs : c.perform s = (result, s') := hs
  rw [performs, follows.ledger]
  exact becomes.others d h.symm

/-- Two runs that agree on the rows of a dialect go on to do so, if the one is spared the calls for
the other dialect. -/
theorem performAll_filter (calls : List DialectCall) (d : Dialect)
    (h : Ledger.rowsOf d s.ledger? = Ledger.rowsOf d t.ledger?) :
    let both := performAll calls s
    let alone := performAll (calls.filter (·.dialect = d)) t
    both.1.filter (·.1 = d) = alone.1 ∧
      Ledger.rowsOf d both.2.ledger? = Ledger.rowsOf d alone.2.ledger? := by
  induction calls generalizing s t with
  | nil => exact ⟨rfl, h⟩
  | cons c rest ih =>
    by_cases own : c.dialect = d
    · subst own
      obtain ⟨outcome, rows⟩ := perform_eq h
      obtain ⟨outcomes, ended⟩ := ih rows
      rw [List.filter_cons_of_pos (by simp)]
      simp only [performAll]
      refine ⟨?_, ended⟩
      rw [List.filter_cons_of_pos (by simp), outcome, outcomes]
    · have rows : Ledger.rowsOf d (c.perform s).2.ledger? = Ledger.rowsOf d t.ledger? :=
        (rowsOf_perform own s).trans h
      obtain ⟨outcomes, ended⟩ := ih rows
      rw [List.filter_cons_of_neg (by simpa using own)]
      refine ⟨?_, ended⟩
      rw [← outcomes]
      exact List.filter_cons_of_neg (by simpa using own)

/-- **The dialects do not interfere.** Of all calls for both dialects, those for one end as if there
were no others, and leave the same rows of their dialect in the ledger. -/
theorem performAll_apart (calls : List DialectCall) (d : Dialect) :
    let both := performAll calls DryRun.start
    let alone := performAll (calls.filter (·.dialect = d)) DryRun.start
    both.1.filter (·.1 = d) = alone.1 ∧
      Ledger.rowsOf d both.2.ledger? = Ledger.rowsOf d alone.2.ledger? :=
  performAll_filter calls d rfl

end DialectCall

end SchemaEvolution
