set_option relaxedAutoImplicit false
set_option autoImplicit false

/-!
# Timestamps

A timestamp is a moment of Coordinated Universal Time, given by its calendar fields. A minute may
have a sixtieth second, so that leap seconds can be told from the second before. Years reach far
beyond the four digits of everyday use, into the past as well.

## Main definitions

* `Messenger.Timestamp`: the calendar fields of a moment.
* `Messenger.Timestamp.Valid`: the fields denote a moment that exists.
* `Messenger.Date.next`, `Messenger.Date.previous`: the days around a day.
* `Messenger.Timestamp.atOffset?`: the moment at which clocks of a given offset show given fields.
* `Messenger.Timestamp.ofSeconds`: the moment a number of seconds after the start of 1970.

## Main results

* `Messenger.Date.valid_next`, `Messenger.Date.valid_previous`: the days around a valid day are
  valid, but for the limits on years.

## Design

An offset is less than a day, so moving a time to another offset moves the date by at most one
day. No count of days since a fixed day is needed.
-/

namespace Messenger

/-- A day of the calendar. -/
structure Date where
  year : Int
  month : Nat
  day : Nat
  deriving DecidableEq, Repr, Inhabited

namespace Date

/-- The first year that a date can have. -/
def firstYear : Int := -262143

/-- The last year that a date can have. -/
def lastYear : Int := 262142

/-- Every fourth year is a leap year, save the full centuries that four hundred does not
divide. -/
def isLeapYear (year : Int) : Bool :=
  year % 4 = 0 && (year % 100 ≠ 0 || year % 400 = 0)

/-- How many days a month has. -/
def daysInMonth (year : Int) (month : Nat) : Nat :=
  if month = 2 then (if isLeapYear year then 29 else 28)
  else if month = 4 ∨ month = 6 ∨ month = 9 ∨ month = 11 then 30
  else 31

/-- The date exists. -/
def Valid (d : Date) : Prop :=
  firstYear ≤ d.year ∧ d.year ≤ lastYear ∧ 1 ≤ d.month ∧ d.month ≤ 12 ∧
    1 ≤ d.day ∧ d.day ≤ daysInMonth d.year d.month

instance (d : Date) : Decidable d.Valid :=
  inferInstanceAs (Decidable (_ ∧ _))

/-- The day after. -/
def next (d : Date) : Date :=
  if d.day < daysInMonth d.year d.month then { d with day := d.day + 1 }
  else if d.month < 12 then ⟨d.year, d.month + 1, 1⟩
  else ⟨d.year + 1, 1, 1⟩

/-- The day before. -/
def previous (d : Date) : Date :=
  if 1 < d.day then { d with day := d.day - 1 }
  else if 1 < d.month then ⟨d.year, d.month - 1, daysInMonth d.year (d.month - 1)⟩
  else ⟨d.year - 1, 12, 31⟩

/-- The day on which a time falls that is counted in minutes from the start of the day `d`, and
that is off by less than a day. -/
def ofMinutes (d : Date) (minutes : Int) : Date :=
  if minutes < 0 then d.previous else if minutes < 1440 then d else d.next

/-- Every month has at least one day. -/
theorem daysInMonth_pos (year : Int) (month : Nat) : 1 ≤ daysInMonth year month := by
  unfold daysInMonth
  split
  · split <;> decide
  · split <;> decide

/-- The day after a valid day is valid, unless it lies in a year beyond the last one.

**Proof sketch.** By the three cases of the calendar. Within a month the day goes up by one; at its
end the month does, or the year, and the first of a month exists in every month. -/
theorem valid_next {d : Date} (h : d.Valid) (hy : d.next.year ≤ lastYear) : d.next.Valid := by
  obtain ⟨h₁, h₂, h₃, h₄, h₅, h₆⟩ := h
  unfold next at hy ⊢
  split
  · next hd =>
    exact ⟨h₁, h₂, h₃, h₄, by simp, hd⟩
  · split
    · next hd hm =>
      exact ⟨h₁, h₂, by simp, hm, Nat.le_refl _, daysInMonth_pos _ _⟩
    · next hd hm =>
      simp only [hd, hm, if_false] at hy
      exact ⟨by show firstYear ≤ d.year + 1; omega, hy, Nat.le_refl 1, by simp, Nat.le_refl 1,
        daysInMonth_pos _ _⟩

/-- The day before a valid day is valid, unless it lies in a year before the first one.

**Proof sketch.** By three cases again: within a month, on the first of one, where the day before is
the last of the month before, and on New Year, where it is the last of December. -/
theorem valid_previous {d : Date} (h : d.Valid) (hy : firstYear ≤ d.previous.year) :
    d.previous.Valid := by
  obtain ⟨h₁, h₂, h₃, h₄, h₅, h₆⟩ := h
  unfold previous at hy ⊢
  split
  · next hd =>
    refine ⟨h₁, h₂, h₃, h₄, ?_, ?_⟩
    · show 1 ≤ d.day - 1; omega
    · show d.day - 1 ≤ daysInMonth d.year d.month; omega
  · split
    · next hd hm =>
      refine ⟨h₁, h₂, ?_, ?_, daysInMonth_pos _ _, Nat.le_refl _⟩
      · show 1 ≤ d.month - 1; omega
      · show d.month - 1 ≤ 12; omega
    · next hd hm =>
      simp only [hd, hm, if_false] at hy
      refine ⟨hy, ?_, by simp, Nat.le_refl 12, by simp, ?_⟩
      · show d.year - 1 ≤ lastYear; omega
      · show 31 ≤ daysInMonth (d.year - 1) 12; simp [daysInMonth]

/-- A day around a valid day is valid if its year is one that a date can have. -/
theorem valid_ofMinutes {d : Date} {minutes : Int} (h : d.Valid)
    (hy : firstYear ≤ (d.ofMinutes minutes).year ∧ (d.ofMinutes minutes).year ≤ lastYear) :
    (d.ofMinutes minutes).Valid := by
  unfold ofMinutes at hy ⊢
  split
  · next h₀ => rw [if_pos h₀] at hy; exact valid_previous h hy.1
  · next h₀ =>
    rw [if_neg h₀] at hy
    split
    · exact h
    · next h₁ => rw [if_neg h₁] at hy; exact valid_next h hy.2

end Date

/-- A moment of Coordinated Universal Time. -/
structure Timestamp where
  date : Date
  hour : Nat
  minute : Nat
  /-- Sixty in a leap second. -/
  second : Nat
  nano : Nat
  deriving DecidableEq, Repr, Inhabited

namespace Timestamp

/-- The fields denote a moment. -/
def Valid (t : Timestamp) : Prop :=
  t.date.Valid ∧ t.hour < 24 ∧ t.minute < 60 ∧ t.second ≤ 60 ∧ t.nano < 1000000000

instance (t : Timestamp) : Decidable t.Valid :=
  inferInstanceAs (Decidable (_ ∧ _))

/-- The moment at which clocks `offset` minutes ahead of Coordinated Universal Time show `t`, if
it lies in a year that a date can have. -/
def atOffset? (t : Timestamp) (offset : Int) : Option Timestamp :=
  let minutes : Int := (t.hour * 60 + t.minute : Nat) - offset
  let date := t.date.ofMinutes minutes
  let inDay := (minutes % 1440).toNat
  if Date.firstYear ≤ date.year ∧ date.year ≤ Date.lastYear then
    some { t with date := date, hour := inDay / 60, minute := inDay % 60 }
  else none

/-- The moment a number of seconds and billionths of a second after the start of the year 1970, leap
seconds aside. -/
def ofSeconds (seconds nano : Nat) : Timestamp :=
  { date := Nat.repeat Date.next (seconds / 86400) ⟨1970, 1, 1⟩
    hour := seconds / 3600 % 24
    minute := seconds / 60 % 60
    second := seconds % 60
    nano := nano }

/-- A moment seen from any offset is valid. -/
theorem valid_atOffset? {t u : Timestamp} {offset : Int} (h : t.Valid)
    (hu : t.atOffset? offset = some u) : u.Valid := by
  obtain ⟨hd, -, -, hs, hn⟩ := h
  unfold atOffset? at hu
  simp only [Option.ite_none_right_eq_some, Option.some.injEq] at hu
  obtain ⟨hy, rfl⟩ := hu
  refine ⟨Date.valid_ofMinutes hd hy, ?_, ?_, hs, hn⟩
  · show ((_ : Int) % 1440).toNat / 60 < 24
    omega
  · show ((_ : Int) % 1440).toNat % 60 < 60
    omega

end Timestamp

end Messenger
