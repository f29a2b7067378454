import Mathlib
import SchemaEvolution.Project.Basic

/-!
# The order of stamps

A stamp shows the fields of an instant from the year down to the second, each with as many digits as
it can take. So stamps are in the order of what they show (`Instant.stamp_lt_stamp`), and so are the
names of migrations that begin with them, whatever the user has called the migrations
(`MigrationName.stamped_lt_stamped`). Such a name is recognised for what it is
(`MigrationName.isStamped_stamped`).

What is shown is in the order of instants (`Instant.lt_of_precedes`), and differs wherever a clock
shows different seconds (`Instant.precedes_or_precedes`).
-/

namespace SchemaEvolution

/-- Of two lists of one length the lesser stays so, whatever is put behind them. -/
theorem append_lt_append_of_length_eq {α : Type} [LT α] {as bs : List α}
    (same : as.length = bs.length) (h : as < bs) (xs ys : List α) : as ++ xs < bs ++ ys := by
  induction as generalizing bs with
  | nil =>
    rw [List.eq_nil_of_length_eq_zero same.symm] at h
    exact absurd h (List.not_lt_nil [])
  | cons a as ih =>
    cases bs with
    | nil => cases same
    | cons b bs =>
      rw [List.cons_append, List.cons_append, List.cons_lt_cons_iff]
      rcases List.cons_lt_cons_iff.mp h with first | ⟨first, rest⟩
      · exact .inl first
      · exact .inr ⟨first, ih (Nat.succ.inj same) rest⟩

namespace Instant

/-! ## Numbers of fixed width -/

variable {width m n : Nat}

theorem length_toList_padded (fits : n < 10 ^ width) (wide : 0 < width) :
    (padded width n).toList.length = width := by
  have short := (Nat.length_toDigits_le_iff (by decide) wide).mpr fits
  rw [padded, String.toList_ofList, List.length_append, List.length_replicate]
  omega

theorem isDigit_of_mem_padded {c : Char} (h : c ∈ (padded width n).toList) : c.isDigit = true := by
  rw [padded, String.toList_ofList, List.mem_append] at h
  rcases h with h | h
  · rw [(List.mem_replicate.mp h).2]
    rfl
  · exact Nat.isDigit_of_mem_toDigits (by decide) (by decide) h

/-- The last digit of a number stands behind the others. -/
theorem toList_padded_succ (wide : 0 < width) :
    (padded (width + 1) n).toList = (padded width (n / 10)).toList ++ [Nat.digitChar (n % 10)] := by
  simp only [padded, String.toList_ofList]
  by_cases small : n < 10
  · rw [Nat.div_eq_of_lt small, Nat.mod_eq_of_lt small, Nat.toDigits_of_lt_base small,
      Nat.toDigits_of_lt_base (by decide), List.length_singleton, List.length_singleton,
      Nat.add_sub_cancel]
    have last : Nat.digitChar 0 = '0' := rfl
    rw [last, ← List.replicate_succ', Nat.sub_add_cancel wide]
  · have split := Nat.toDigits_append_toDigits (b := 10) (n := n / 10) (d := n % 10) (by decide)
      (by omega) (Nat.mod_lt _ (by decide))
    rw [Nat.div_add_mod, Nat.toDigits_of_lt_base (Nat.mod_lt _ (by decide))] at split
    rw [← split, List.length_append, List.length_singleton, Nat.add_sub_add_right,
      List.append_assoc]

theorem digitChar_lt_digitChar (h : m < n) (hn : n < 10) : Nat.digitChar m < Nat.digitChar n := by
  rw [Char.lt_def, UInt32.lt_iff_toNat_lt]
  change (Nat.digitChar m).toNat < (Nat.digitChar n).toNat
  rw [Nat.toNat_digitChar_of_lt_ten (by omega), Nat.toNat_digitChar_of_lt_ten hn]
  omega

/-- **Numbers of one width are in the order of their digits.** -/
theorem padded_lt_padded (h : m < n) (fits : n < 10 ^ width) (wide : 0 < width) :
    (padded width m).toList < (padded width n).toList := by
  induction width, wide using Nat.le_induction generalizing m n with
  | base =>
    have single (k : Nat) (hk : k < 10) : (padded 1 k).toList = [Nat.digitChar k] := by
      rw [padded, String.toList_ofList, Nat.toDigits_of_lt_base hk]
      rfl
    rw [single m (by omega), single n (by omega), List.cons_lt_cons_iff]
    exact .inl (digitChar_lt_digitChar h (by omega))
  | succ width wide ih =>
    rw [toList_padded_succ wide, toList_padded_succ wide]
    have shorter : n / 10 < 10 ^ width := by
      rw [pow_succ] at fits
      omega
    by_cases heads : m / 10 = n / 10
    · rw [heads]
      refine List.append_left_lt (List.cons_lt_cons_iff.mpr (.inl ?_))
      exact digitChar_lt_digitChar (by omega) (Nat.mod_lt _ (by decide))
    · have less : m / 10 < n / 10 := by omega
      refine append_lt_append_of_length_eq ?_ (ih less shorter) _ _
      rw [length_toList_padded (by omega) wide, length_toList_padded shorter wide]

/-! ## Fields of fixed width -/

/-- Numbers one after the other, each with its width. -/
def digits (fields : List (Nat × Nat)) : List Char :=
  fields.flatMap fun f => (padded f.1 f.2).toList

/-- Numbers that have no more digits than their widths. -/
def Fit (fields : List (Nat × Nat)) : Prop :=
  ∀ f ∈ fields, 0 < f.1 ∧ f.2 < 10 ^ f.1

/-- Fields of the same widths are in the order of their digits. -/
theorem digits_lt_digits {fields fields' : List (Nat × Nat)} (fit : Fit fields)
    (fit' : Fit fields') (widths : fields.map Prod.fst = fields'.map Prod.fst)
    (h : fields.map Prod.snd < fields'.map Prod.snd) : digits fields < digits fields' := by
  induction fields generalizing fields' with
  | nil =>
    rw [List.map_eq_nil_iff.mp widths.symm] at h
    exact absurd h (List.not_lt_nil [])
  | cons f fields ih =>
    obtain _ | ⟨f', fields'⟩ := fields'
    · cases widths
    obtain ⟨width, value⟩ := f
    obtain ⟨width', value'⟩ := f'
    obtain ⟨rfl, rest_widths⟩ := List.cons.inj widths
    have ⟨fits, rest_fit⟩ := List.forall_mem_cons.mp fit
    have ⟨fits', rest_fit'⟩ := List.forall_mem_cons.mp fit'
    rcases List.cons_lt_cons_iff.mp h with first | ⟨first, behind⟩
    · refine append_lt_append_of_length_eq ?_ (padded_lt_padded first fits'.2 fits.1) _ _
      rw [length_toList_padded fits.2 fits.1, length_toList_padded fits'.2 fits.1]
    · obtain rfl : value = value' := first
      exact List.append_left_lt (ih rest_fit rest_fit' rest_widths behind)

theorem length_digits {fields : List (Nat × Nat)} (fit : Fit fields) :
    (digits fields).length = (fields.map Prod.fst).sum := by
  induction fields with
  | nil => rfl
  | cons f fields ih =>
    have ⟨fits, fit⟩ := List.forall_mem_cons.mp fit
    rw [digits, List.flatMap_cons, List.length_append, length_toList_padded fits.2 fits.1,
      List.map_cons, List.sum_cons, ← ih fit, digits]

/-! ## Stamps -/

/-- A year that is written with four digits and nothing else. -/
def FourDigits (t : Instant) : Prop :=
  0 ≤ t.date.year ∧ t.date.year ≤ 9999

instance (t : Instant) : Decidable t.FourDigits :=
  inferInstanceAs (Decidable (_ ∧ _))

/-- What a stamp shows of an instant, from the year to the second, with the digits for each. -/
def shownFields (t : Instant) : List (Nat × Nat) :=
  [(4, t.date.year.toNat), (2, t.date.month), (2, t.date.day), (2, t.second / 3600),
    (2, t.second / 60 % 60), (2, t.secondOfMinute)]

/-- An instant is before another in whole seconds. A leap second counts as a second of its own. -/
def Precedes (a b : Instant) : Prop :=
  a.shownFields.map Prod.snd < b.shownFields.map Prod.snd

instance (a b : Instant) : Decidable (a.Precedes b) :=
  inferInstanceAs (Decidable (_ < _))

/-- The second that a clock shows at an instant, with its minute and its day. A leap second is the
sixtieth of its minute, if it ends one; within a minute it is shown as the second after it. -/
def wholeSecond (t : Instant) : Date × Nat × Nat :=
  (t.date, t.second / 60, t.secondOfMinute)

variable {a b t : Instant}

theorem fit_shownFields (year : t.FourDigits) : Fit t.shownFields := by
  obtain ⟨⟨y, month, day, valid⟩, second, nanosecond, bounds⟩ := t
  have days : daysInMonth y month ≤ 31 := by
    unfold daysInMonth
    split <;> (try split) <;> decide
  have := year.1
  have := year.2
  simp only [Fit, shownFields, secondOfMinute, List.forall_mem_cons, List.not_mem_nil,
    false_imp_iff, implies_true, and_true] at *
  omega

theorem toList_stamp (year : t.FourDigits) : t.stamp.toList = digits t.shownFields := by
  have written : yearText t.date.year = padded 4 t.date.year.toNat := if_pos year
  rw [stamp, fields, written]
  simp [digits, shownFields]

theorem length_stamp (year : t.FourDigits) : t.stamp.toList.length = 14 := by
  rw [toList_stamp year, length_digits (fit_shownFields year)]
  rfl

theorem isDigit_of_mem_stamp (year : t.FourDigits) {c : Char} (h : c ∈ t.stamp.toList) :
    c.isDigit = true := by
  rw [toList_stamp year, digits] at h
  obtain ⟨f, _, hc⟩ := List.mem_flatMap.mp h
  exact isDigit_of_mem_padded hc

/-- A stamp holds digits, and a sign in front of them if the year has not four. -/
theorem isDigit_or_sign_of_mem_stamp (t : Instant) {c : Char} (h : c ∈ t.stamp.toList) :
    c.isDigit = true ∨ c = '-' ∨ c = '+' := by
  have year (h : c ∈ (yearText t.date.year).toList) : c.isDigit = true ∨ c = '-' ∨ c = '+' := by
    rw [yearText] at h
    split at h
    · exact .inl (isDigit_of_mem_padded h)
    · rw [String.toList_append, List.mem_append] at h
      rcases h with sign | number
      · split at sign
        · exact .inr (.inl (List.mem_singleton.mp sign))
        · exact .inr (.inr (List.mem_singleton.mp sign))
      · exact .inl (isDigit_of_mem_padded number)
  simp only [stamp, fields, String.append_empty, String.toList_append, List.mem_append] at h
  rcases h with ((((h | h) | h) | h) | h) | h
  · exact year h
  all_goals exact .inl (isDigit_of_mem_padded h)

/-- Where leap seconds are the last ones of their minutes, other seconds of a day are shown as
others. -/
theorem wholeSecond_ne (ha : 1000000000 ≤ a.nanosecond → a.second % 60 = 59)
    (hb : 1000000000 ≤ b.nanosecond → b.second % 60 = 59)
    (h : a.date ≠ b.date ∨ a.second ≠ b.second) : a.wholeSecond ≠ b.wholeSecond := by
  intro same
  simp only [wholeSecond, secondOfMinute, Prod.mk.injEq] at same
  obtain ⟨date, rest⟩ := same
  have := a.valid
  have := b.valid
  have differ := h.resolve_left (not_not_intro date)
  omega

/-- Of instants that show different seconds, one is before the other. -/
theorem precedes_or_precedes (ha : a.FourDigits) (hb : b.FourDigits)
    (h : a.wholeSecond ≠ b.wholeSecond) : a.Precedes b ∨ b.Precedes a := by
  refine lt_or_gt_of_ne fun same => h ?_
  obtain ⟨⟨year, month, day, _⟩, second, nanosecond, _⟩ := a
  obtain ⟨⟨year', month', day', _⟩, second', nanosecond', _⟩ := b
  simp only [shownFields, FourDigits, wholeSecond, secondOfMinute, List.map_cons, List.map_nil,
    List.cons.injEq, Prod.mk.injEq, Date.mk.injEq, and_true] at same ha hb ⊢
  omega

/-- What is shown as before is before. -/
theorem lt_of_precedes (ha : a.FourDigits) (hb : b.FourDigits) (h : a.Precedes b) : a < b := by
  obtain ⟨⟨year, month, day, _⟩, second, nanosecond, _⟩ := a
  obtain ⟨⟨year', month', day', _⟩, second', nanosecond', _⟩ := b
  change List.map _ _ < _ at h
  change key _ < key _
  simp only [shownFields, key, FourDigits, secondOfMinute, List.map_cons, List.map_nil,
    List.cons_lt_cons_iff, List.not_lt_nil, and_false, or_false] at h ha hb ⊢
  omega

/-- **Stamps are in the order of the seconds that they show.** -/
theorem stamp_lt_stamp (ha : a.FourDigits) (hb : b.FourDigits) (h : a.Precedes b) :
    a.stamp.toList < b.stamp.toList := by
  rw [toList_stamp ha, toList_stamp hb]
  exact digits_lt_digits (fit_shownFields ha) (fit_shownFields hb) rfl h

end Instant

/-! ## Names -/

namespace MigrationName

variable {a b t : Instant} {name name' : String}

/-- Names that begin with stamps are in the order of these. -/
theorem stamped_lt_stamped (ha : a.FourDigits) (hb : b.FourDigits) (h : a.Precedes b) :
    stamped a name < stamped b name' := by
  rw [String.lt_iff_toList_lt, stamped, stamped]
  simp only [String.toList_append, List.append_assoc]
  refine append_lt_append_of_length_eq ?_ (Instant.stamp_lt_stamp ha hb h) _ _
  rw [Instant.length_stamp ha, Instant.length_stamp hb]

/-- Digits with nothing behind them, or an underscore and anything, have the form of a name. -/
theorem isStamped_append {digits rest : List Char} (nonempty : digits ≠ [])
    (all : ∀ c ∈ digits, c.isDigit = true) (behind : rest = [] ∨ ∃ more, rest = '_' :: more) :
    isStamped (digits ++ rest) = true := by
  rw [isStamped, List.takeWhile_append_of_pos all, List.dropWhile_append_of_pos all]
  obtain rfl | ⟨more, rfl⟩ := behind <;> simp [nonempty]

/-- A name that begins with a stamp is recognised as that of a migration. -/
theorem isStamped_stamped (year : t.FourDigits) : isStamped (stamped t name).toList = true := by
  have nonempty : t.stamp.toList ≠ [] := by
    intro h
    have := Instant.length_stamp year
    rw [h] at this
    cases this
  rw [stamped, String.append_assoc, String.toList_append]
  refine isStamped_append nonempty (fun c => Instant.isDigit_of_mem_stamp year)
    (.inr ⟨name.toList, ?_⟩)
  exact String.toList_append

end MigrationName

end SchemaEvolution
