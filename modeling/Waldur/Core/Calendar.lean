/-
# Calendar dates and timestamps

Dates (`DateField`, `datetime.date`) and timestamps (`DateTimeField`,
`datetime.datetime`) compare as Python compares them: by their components, most
significant first. Time zones are not modelled; a timestamp is a date and a time of
day in microseconds. The two helpers of `waldur_core.core.utils` that the marketplace
uses to find billing months are modelled here.
-/

import Mathlib.Tactic.Common

namespace Waldur

/-- `datetime.date`. -/
structure Date where
  year : Nat
  month : Nat
  day : Nat
  deriving DecidableEq, Repr

namespace Date

/-- Dates compare as the tuples `(year, month, day)`. -/
protected def le (a b : Date) : Prop :=
  a.year < b.year ∨ a.year = b.year ∧ (a.month < b.month ∨ a.month = b.month ∧ a.day ≤ b.day)

instance : LE Date := ⟨Date.le⟩

instance (a b : Date) : Decidable (a ≤ b) :=
  inferInstanceAs (Decidable (a.year < b.year ∨
    a.year = b.year ∧ (a.month < b.month ∨ a.month = b.month ∧ a.day ≤ b.day)))

theorem le_def {a b : Date} : a ≤ b ↔
    a.year < b.year ∨ a.year = b.year ∧ (a.month < b.month ∨ a.month = b.month ∧ a.day ≤ b.day) :=
  Iff.rfl

theorem le_refl (a : Date) : a ≤ a := by
  simp [le_def]

theorem le_total (a b : Date) : a ≤ b ∨ b ≤ a := by
  simp only [le_def]
  omega

theorem le_trans {a b c : Date} (hab : a ≤ b) (hbc : b ≤ c) : a ≤ c := by
  simp only [le_def] at *
  omega

theorem le_antisymm {a b : Date} (hab : a ≤ b) (hba : b ≤ a) : a = b := by
  obtain ⟨y, m, d⟩ := a
  obtain ⟨y', m', d'⟩ := b
  simp only [le_def, mk.injEq] at *
  omega

/-- Whether a year is a leap year of the Gregorian calendar (`calendar.isleap`). -/
def isLeap (year : Nat) : Bool :=
  year % 4 == 0 && (year % 100 != 0 || year % 400 == 0)

/-- The number of days of a month, as `calendar.monthrange(year, month)[1]` gives it. -/
def daysInMonth (year month : Nat) : Nat :=
  match month with
  | 2 => if isLeap year then 29 else 28
  | 4 | 6 | 9 | 11 => 30
  | _ => 31

end Date

/-- `datetime.datetime`: a date and a time of day in microseconds. -/
structure DateTime where
  date : Date
  time : Nat
  deriving DecidableEq, Repr

namespace DateTime

/-- Timestamps compare by date, then by time of day. -/
protected def le (a b : DateTime) : Prop :=
  a.date ≤ b.date ∧ (a.date = b.date → a.time ≤ b.time)

instance : LE DateTime := ⟨DateTime.le⟩

instance (a b : DateTime) : Decidable (a ≤ b) :=
  inferInstanceAs (Decidable (a.date ≤ b.date ∧ (a.date = b.date → a.time ≤ b.time)))

theorem le_refl (a : DateTime) : a ≤ a :=
  ⟨Date.le_refl _, fun _ => Nat.le_refl _⟩

theorem le_total (a b : DateTime) : a ≤ b ∨ b ≤ a := by
  by_cases hdate : a.date = b.date
  · rcases Nat.le_total a.time b.time with htime | htime
    · exact .inl ⟨hdate ▸ Date.le_refl _, fun _ => htime⟩
    · exact .inr ⟨hdate ▸ Date.le_refl _, fun _ => htime⟩
  · rcases Date.le_total a.date b.date with hle | hle
    · exact .inl ⟨hle, fun h => absurd h hdate⟩
    · exact .inr ⟨hle, fun h => absurd h.symm hdate⟩

theorem le_trans {a b c : DateTime} (hab : a ≤ b) (hbc : b ≤ c) : a ≤ c := by
  refine ⟨Date.le_trans hab.1 hbc.1, fun hac => ?_⟩
  have hba : b.date ≤ a.date := hac ▸ hbc.1
  have hab' : a.date = b.date := Date.le_antisymm hab.1 hba
  exact Nat.le_trans (hab.2 hab') (hbc.2 (hab'.symm.trans hac))

/-- The last microsecond of a day (`datetime.time.max`). -/
def endOfDay : Nat := 24 * 60 * 60 * 1000000 - 1

/-- Midnight at the start of a date, as Django reads a date where a timestamp is expected. -/
def ofDate (d : Date) : DateTime := ⟨d, 0⟩

end DateTime

/-- Modelled from the spec: `core_utils.month_start` is not in the source; it returns
midnight of the first day of the month of its argument. -/
def monthStart (t : DateTime) : DateTime := ⟨⟨t.date.year, t.date.month, 1⟩, 0⟩

/-- Modelled from the spec: `core_utils.month_end` is not in the source; it returns the
last microsecond of the last day of the month of its argument. -/
def monthEnd (d : Date) : DateTime :=
  ⟨⟨d.year, d.month, Date.daysInMonth d.year d.month⟩, DateTime.endOfDay⟩

/-- Two timestamps fall in the same calendar month. -/
def sameMonth (a b : DateTime) : Prop :=
  a.date.year = b.date.year ∧ a.date.month = b.date.month

instance (a b : DateTime) : Decidable (sameMonth a b) := inferInstanceAs (Decidable (_ ∧ _))

end Waldur
