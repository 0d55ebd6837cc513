import SchoolRegistry.Proofs.Time.DayText
import SchoolRegistry.Time.Moment

/-!
# Walls and their texts

A column of moments holds the day and the time that the wall shows, in digits of a fixed width and
the greater unit always first. So its texts sort as the walls do (`Wall.compare_eq_columnText`).
-/

namespace SchoolRegistry

open Std

/-! ## Times of day -/

namespace TimeOfDay

/-- One time comes before another in the first unit in which the two differ. -/
def Precedes (a b : TimeOfDay) : Prop :=
  a.hour < b.hour ∨ a.hour = b.hour ∧ (a.minute < b.minute ∨ a.minute = b.minute ∧
    (a.second < b.second ∨ a.second = b.second ∧ a.micro < b.micro))

/-- What the fields of a time of day can be. -/
theorem valid_iff (t : TimeOfDay) : t.hour < 24 ∧ t.minute < 60 ∧ t.second < 60 ∧
    t.micro < 1000000 := by
  have := t.valid
  simpa [isTimeOfDay, and_assoc] using this

/-- Of two times of day one precedes the other, unless they are the same. -/
theorem trichotomy (a b : TimeOfDay) : a.Precedes b ∨ a = b ∨ b.Precedes a := by
  unfold Precedes
  by_cases same : a.hour = b.hour ∧ a.minute = b.minute ∧ a.second = b.second ∧ a.micro = b.micro
  · refine .inr (.inl ?_)
    cases a
    cases b
    obtain ⟨rfl, rfl, rfl, rfl⟩ := same
    rfl
  · omega

/-- Times of day ascend by their microseconds. -/
theorem micros_lt {a b : TimeOfDay} (h : a.Precedes b) : a.micros < b.micros := by
  have later := a.valid_iff
  have := b.valid_iff
  unfold Precedes at h
  unfold micros
  omega

/-- A time of day has fewer microseconds than the day. -/
theorem micros_lt_day (t : TimeOfDay) : (t.micros : Int) < dayMicros := by
  have := t.valid_iff
  unfold micros dayMicros
  omega

/-- Two digits each of the hour, the minute and the second, then six of the fraction. -/
def columnChars (t : TimeOfDay) : List Char :=
  Text.paddedChars 2 t.hour ++ ':' :: (Text.paddedChars 2 t.minute ++ ':' ::
    (Text.paddedChars 2 t.second ++ '.' :: Text.paddedChars 6 t.micro))

/-- The texts of times of day ascend as the times do. -/
theorem columnChars_lt {a b : TimeOfDay} (h : a.Precedes b) : a.columnChars < b.columnChars := by
  obtain ⟨hour, minute, second, micro⟩ := b.valid_iff
  have widths (w m n : Nat) : (Text.paddedChars w m).length = (Text.paddedChars w n).length := by
    rw [Text.length_paddedChars, Text.length_paddedChars]
  unfold columnChars
  rcases h with earlier | ⟨same, earlier | ⟨same', earlier | ⟨same'', earlier⟩⟩⟩
  · exact Text.append_lt_append (Text.paddedChars_lt earlier (by omega)) (widths ..)
  · rw [same]
    refine List.append_left_lt (List.cons_lt_cons_iff.mpr (.inr ⟨rfl, ?_⟩))
    exact Text.append_lt_append (Text.paddedChars_lt earlier (by omega)) (widths ..)
  · rw [same, same']
    refine List.append_left_lt (List.cons_lt_cons_iff.mpr (.inr ⟨rfl, ?_⟩))
    refine List.append_left_lt (List.cons_lt_cons_iff.mpr (.inr ⟨rfl, ?_⟩))
    exact Text.append_lt_append (Text.paddedChars_lt earlier (by omega)) (widths ..)
  · rw [same, same', same'']
    refine List.append_left_lt (List.cons_lt_cons_iff.mpr (.inr ⟨rfl, ?_⟩))
    refine List.append_left_lt (List.cons_lt_cons_iff.mpr (.inr ⟨rfl, ?_⟩))
    refine List.append_left_lt (List.cons_lt_cons_iff.mpr (.inr ⟨rfl, ?_⟩))
    exact Text.paddedChars_lt earlier (by omega)

end TimeOfDay

/-! ## Walls -/

namespace Wall

/-- One wall shows an earlier day than another, or an earlier time of the same day. -/
def Precedes (a b : Wall) : Prop :=
  a.date.ordinal < b.date.ordinal ∧ a.date.toText < b.date.toText ∨
    a.date = b.date ∧ a.time.Precedes b.time

/-- Of two walls one precedes the other, unless they are the same. -/
theorem trichotomy (a b : Wall) : a.Precedes b ∨ a = b ∨ b.Precedes a := by
  rcases Date.trichotomy a.date b.date with earlier | same | later
  · exact .inl (.inl ⟨Date.ordinal_lt earlier, Date.toText_lt earlier⟩)
  · rcases TimeOfDay.trichotomy a.time b.time with earlier | same' | later
    · exact .inl (.inr ⟨same, earlier⟩)
    · refine .inr (.inl ?_)
      cases a
      cases b
      obtain rfl := same
      obtain rfl := same'
      rfl
    · exact .inr (.inr (.inr ⟨same.symm, later⟩))
  · exact .inr (.inr (.inl ⟨Date.ordinal_lt later, Date.toText_lt later⟩))

theorem micros_lt {a b : Wall} (h : a.Precedes b) : a.micros < b.micros := by
  have before_midnight := a.time.micros_lt_day
  unfold micros
  rcases h with ⟨earlier, -⟩ | ⟨same, earlier⟩
  · have first : (0 : Int) ≤ b.time.micros := Int.natCast_nonneg _
    unfold dayMicros at before_midnight ⊢
    omega
  · have := TimeOfDay.micros_lt earlier
    rw [same]
    omega

theorem toList_columnText (w : Wall) :
    w.columnText.toList = w.date.toText.toList ++ ' ' :: w.time.columnChars := by
  simp [columnText, TimeOfDay.columnChars, Text.padded]

/-- The texts of walls in a column ascend as the walls do. -/
theorem columnText_lt {a b : Wall} (h : a.Precedes b) : a.columnText < b.columnText := by
  have length (d : Date) : d.toText.toList.length = 10 := by
    rw [Date.toList_toText]
    simp [Text.length_paddedChars]
  rw [String.lt_iff, toList_columnText, toList_columnText]
  rcases h with ⟨-, earlier⟩ | ⟨same, earlier⟩
  · exact Text.append_lt_append (String.lt_iff.mp earlier) (by rw [length, length])
  · rw [same]
    refine List.append_left_lt (List.cons_lt_cons_iff.mpr (.inr ⟨rfl, ?_⟩))
    exact TimeOfDay.columnChars_lt earlier

/-- Walls are ordered as their texts are. -/
theorem compare_eq_columnText (a b : Wall) :
    Ord.compare a.micros b.micros = Ord.compare a.columnText b.columnText := by
  have numbers {a b : Wall} (h : a.Precedes b) : Ord.compare a.micros b.micros = .lt :=
    Int.compare_eq_lt.mpr (micros_lt h)
  have less {s t : String} (lt : s < t) : Ord.compare s t = .lt := compareOfLessAndEq_eq_lt.mpr lt
  have texts {a b : Wall} (h : a.Precedes b) : Ord.compare a.columnText b.columnText = .lt :=
    less (columnText_lt h)
  rcases trichotomy a b with earlier | rfl | later
  · rw [numbers earlier, texts earlier]
  · rw [ReflOrd.compare_self, ReflOrd.compare_self]
  · have swap : Ord.compare a.micros b.micros = (Ord.compare b.micros a.micros).swap :=
      OrientedOrd.eq_swap
    have swap' : Ord.compare a.columnText b.columnText =
        (Ord.compare b.columnText a.columnText).swap := OrientedOrd.eq_swap
    rw [swap, swap', numbers later, texts later]

/-- No two walls share a text. -/
theorem columnText_inj {a b : Wall} (h : a.columnText = b.columnText) : a = b := by
  have apart {s t : String} (lt : s < t) : s ≠ t := fun eq => String.lt_irrefl t (eq ▸ lt)
  rcases trichotomy a b with earlier | same | later
  · exact absurd h (apart (columnText_lt earlier))
  · exact same
  · exact absurd h.symm (apart (columnText_lt later))

end Wall

end SchoolRegistry
