import Mathlib.Algebra.Order.Ring.Nat
import Mathlib.Data.List.Sort
import SchoolRegistry.Time.Date

/-!
# Days and their texts

The text of a day has digits of a fixed width, the year first. So texts of days sort as the days
do (`Date.compare_eq_toText`), which is what lets a column hold days as texts.
-/

namespace SchoolRegistry

open Std

/-! ## Texts of a fixed width -/

namespace Text

/-- Of lists that begin with as many members each, the first parts decide. -/
theorem append_lt_append {α : Type} [LT α] {as bs cs ds : List α} (lt : as < bs)
    (same : as.length = bs.length) : as ++ cs < bs ++ ds := by
  induction as generalizing bs with
  | nil =>
    cases bs with
    | nil => exact absurd lt (List.not_lt_nil _)
    | cons b bs => exact absurd same (by simp)
  | cons a as ih =>
    cases bs with
    | nil => exact absurd same (by simp)
    | cons b bs =>
      rw [List.cons_append, List.cons_append, List.cons_lt_cons_iff]
      rcases List.cons_lt_cons_iff.mp lt with first | ⟨eq, rest⟩
      · exact .inl first
      · exact .inr ⟨eq, ih rest (by simpa using same)⟩

/-- A padded number has as many digits as places. -/
theorem length_paddedChars (width n : Nat) : (paddedChars width n).length = width := by
  induction width generalizing n with
  | zero => rfl
  | succ width ih => simp [paddedChars, ih]

/-- Digits ascend with what they stand for. -/
theorem digitChar_lt {m n : Nat} (lt : m % 10 < n % 10) : digitChar m < digitChar n := by
  have ascending : ∀ a < 10, ∀ b < 10, a < b →
      Char.ofNat ('0'.toNat + a) < Char.ofNat ('0'.toNat + b) := by decide
  exact ascending _ (Nat.mod_lt m (by decide)) _ (Nat.mod_lt n (by decide)) lt

/-- Digits of a fixed width sort as the numbers do. -/
theorem paddedChars_lt {width m n : Nat} (lt : m < n) (fits : n < 10 ^ width) :
    paddedChars width m < paddedChars width n := by
  induction width generalizing m n with
  | zero => omega
  | succ width ih =>
    rw [paddedChars, paddedChars]
    rcases Nat.lt_or_ge (m / 10) (n / 10) with front | back
    · refine append_lt_append (ih front ?_) ?_
      · rw [Nat.pow_succ] at fits
        omega
      · rw [length_paddedChars, length_paddedChars]
    · have front : m / 10 = n / 10 := by omega
      rw [front]
      refine List.append_left_lt (List.cons_lt_cons_iff.mpr (.inl (digitChar_lt ?_)))
      omega

end Text

namespace Date

/-! ## Order of days -/

/-- What the fields of a day can be. -/
theorem valid_iff (d : Date) : 1 ≤ d.year ∧ d.year ≤ 9999 ∧ 1 ≤ d.month ∧ d.month ≤ 12 ∧
    1 ≤ d.day ∧ d.day ≤ monthLength d.year d.month := by
  have := d.valid
  simpa [isCalendarDay, and_assoc] using this

/-- No month has more than thirty-one days. -/
theorem monthLength_le (year month : Nat) : monthLength year month ≤ 31 := by
  unfold monthLength
  split <;> try decide
  split <;> decide

/-- Later months have at least as many days before them. -/
theorem daysBeforeMonth_mono {year m n : Nat} (le : m ≤ n) :
    daysBeforeMonth year m ≤ daysBeforeMonth year n := by
  induction le with
  | refl => exact Nat.le_refl _
  | step _ ih => exact Nat.le_trans ih (Nat.le_add_right _ _)

/-- The days of the year up to a day. -/
theorem dayOfYear_le (d : Date) : daysBeforeMonth d.year d.month + d.day ≤
    daysBeforeMonth d.year (d.month + 1) :=
  Nat.add_le_add_left d.valid_iff.2.2.2.2.2 _

theorem daysBeforeYear_eq (year : Nat) : daysBeforeYear (year + 1) =
    year * 365 + year / 4 - year / 100 + year / 400 := rfl

/-- A year has three hundred and sixty-five days, and a leap year one more. -/
theorem daysBeforeMonth_thirteen (year : Nat) :
    daysBeforeMonth year 13 = if isLeapYear year then 366 else 365 := by
  have months : daysBeforeMonth year 13 = 337 + if isLeapYear year then 29 else 28 := by
    simp only [daysBeforeMonth, monthLength]
    omega
  rw [months]
  split <;> rfl

/-- The years before the next one have the days of the given year more. -/
theorem daysBeforeYear_succ {year : Nat} (h : 1 ≤ year) :
    daysBeforeYear year + daysBeforeMonth year 13 = daysBeforeYear (year + 1) := by
  obtain ⟨y, rfl⟩ : ∃ y, year = y + 1 := ⟨year - 1, by omega⟩
  have leap : isLeapYear (y + 1) = true ↔
      4 ∣ y + 1 ∧ (¬100 ∣ y + 1 ∨ 400 ∣ y + 1) := by
    simp [isLeapYear, Nat.dvd_iff_mod_eq_zero]
  have centuries : 100 ∣ y + 1 → 4 ∣ y + 1 := Nat.dvd_trans (by decide)
  have cycles : 400 ∣ y + 1 → 100 ∣ y + 1 := Nat.dvd_trans (by decide)
  have fewer : y / 100 ≤ y / 4 := Nat.div_le_div_left (by decide) (by decide)
  rw [daysBeforeMonth_thirteen, daysBeforeYear_eq, daysBeforeYear_eq, if_congr leap rfl rfl,
    Nat.succ_div, Nat.succ_div, Nat.succ_div]
  generalize y / 4 = fours at *
  generalize y / 100 = hundreds at *
  generalize y / 400 = cycles' at *
  by_cases four : 4 ∣ y + 1 <;> by_cases hundred : 100 ∣ y + 1 <;>
    by_cases cycle : 400 ∣ y + 1 <;> simp_all <;> omega

/-- Later years have at least as many days before them. -/
theorem daysBeforeYear_mono {m n : Nat} (le : m ≤ n) : daysBeforeYear m ≤ daysBeforeYear n := by
  induction le with
  | refl => exact Nat.le_refl _
  | @step n _ ih =>
    refine Nat.le_trans ih ?_
    cases n with
    | zero => decide
    | succ n => exact Nat.le_trans (Nat.le_add_right _ _) (daysBeforeYear_succ (by omega)).le

/-- Of two days the one in the earlier year, the earlier month or earlier in the month comes
first. -/
theorem ordinal_lt {a b : Date} (h : a.year < b.year ∨ a.year = b.year ∧
    (a.month < b.month ∨ a.month = b.month ∧ a.day < b.day)) : a.ordinal < b.ordinal := by
  unfold ordinal
  rcases h with earlier | ⟨year, earlier | ⟨month, earlier⟩⟩
  · have within := a.dayOfYear_le
    have year_end : daysBeforeMonth a.year (a.month + 1) ≤ daysBeforeMonth a.year 13 :=
      daysBeforeMonth_mono (Nat.succ_le_succ a.valid_iff.2.2.2.1)
    have next := daysBeforeYear_succ a.valid_iff.1
    have years : daysBeforeYear (a.year + 1) ≤ daysBeforeYear b.year := daysBeforeYear_mono earlier
    have first := b.valid_iff.2.2.2.2.1
    omega
  · have within := a.dayOfYear_le
    have months : daysBeforeMonth a.year (a.month + 1) ≤ daysBeforeMonth a.year b.month :=
      daysBeforeMonth_mono earlier
    have first := b.valid_iff.2.2.2.2.1
    rw [← year]
    omega
  · rw [year, month]
    omega

/-- Of two days one is before the other, unless they are the same. -/
theorem trichotomy (a b : Date) : (a.year < b.year ∨ a.year = b.year ∧
    (a.month < b.month ∨ a.month = b.month ∧ a.day < b.day)) ∨ a = b ∨
    (b.year < a.year ∨ b.year = a.year ∧
      (b.month < a.month ∨ b.month = a.month ∧ b.day < a.day)) := by
  by_cases same : a.year = b.year ∧ a.month = b.month ∧ a.day = b.day
  · refine .inr (.inl ?_)
    cases a
    cases b
    obtain ⟨rfl, rfl, rfl⟩ := same
    rfl
  · omega

/-! ## Order of texts -/

/-- Digits of the year, of the month and of the day, with strokes between them. -/
theorem toList_toText (d : Date) : d.toText.toList = Text.paddedChars 4 d.year ++ '-' ::
    (Text.paddedChars 2 d.month ++ '-' :: Text.paddedChars 2 d.day) := by
  simp [toText, Text.padded]

/-- The texts of days ascend as the days do. -/
theorem toText_lt {a b : Date} (h : a.year < b.year ∨ a.year = b.year ∧
    (a.month < b.month ∨ a.month = b.month ∧ a.day < b.day)) : a.toText < b.toText := by
  have year := b.valid_iff.2.1
  have month := b.valid_iff.2.2.2.1
  have day := Nat.le_trans b.valid_iff.2.2.2.2.2 (monthLength_le b.year b.month)
  have widths (w m n : Nat) : (Text.paddedChars w m).length = (Text.paddedChars w n).length := by
    rw [Text.length_paddedChars, Text.length_paddedChars]
  rw [String.lt_iff, toList_toText, toList_toText]
  rcases h with earlier | ⟨same, earlier | ⟨same', earlier⟩⟩
  · exact Text.append_lt_append (Text.paddedChars_lt earlier (by omega)) (widths ..)
  · rw [same]
    refine List.append_left_lt (List.cons_lt_cons_iff.mpr (.inr ⟨rfl, ?_⟩))
    exact Text.append_lt_append (Text.paddedChars_lt earlier (by omega)) (widths ..)
  · rw [same, same']
    refine List.append_left_lt (List.cons_lt_cons_iff.mpr (.inr ⟨rfl, ?_⟩))
    refine List.append_left_lt (List.cons_lt_cons_iff.mpr (.inr ⟨rfl, ?_⟩))
    exact Text.paddedChars_lt earlier (by omega)

/-- No two days share a text. -/
theorem toText_inj {a b : Date} (h : a.toText = b.toText) : a = b := by
  have apart {s t : String} (lt : s < t) : s ≠ t := fun eq => String.lt_irrefl t (eq ▸ lt)
  rcases trichotomy a b with earlier | same | later
  · exact absurd h (apart (toText_lt earlier))
  · exact same
  · exact absurd h.symm (apart (toText_lt later))

/-- Days are ordered as their texts are. -/
theorem compare_eq_toText (a b : Date) : a.compare b = Ord.compare a.toText b.toText := by
  have less {s t : String} (lt : s < t) : Ord.compare s t = .lt := compareOfLessAndEq_eq_lt.mpr lt
  have before {a b : Date} (h : a.ordinal < b.ordinal) : a.compare b = .lt := by
    unfold compare
    exact Nat.compare_eq_lt.mpr h
  rcases trichotomy a b with earlier | rfl | later
  · rw [before (ordinal_lt earlier), less (toText_lt earlier)]
  · unfold compare
    rw [ReflOrd.compare_self, ReflOrd.compare_self]
  · have days : a.compare b = (b.compare a).swap := by
      unfold compare
      exact OrientedOrd.eq_swap
    have texts : Ord.compare a.toText b.toText = (Ord.compare b.toText a.toText).swap :=
      OrientedOrd.eq_swap
    rw [days, texts, before (ordinal_lt later), less (toText_lt later)]

end Date

end SchoolRegistry
