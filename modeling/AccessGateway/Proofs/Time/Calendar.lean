import AccessGateway.Text.Split
import AccessGateway.Time.Calendar
import Mathlib

/-!
# The days of the calendar

Years have 365 or 366 days and months 28 to 31 (`Date.IsLeap`, `Date.monthLength`); what a date means is how many days
of those years and months lie before it (`Date.daysSinceEpoch`).  The arithmetic of dates, which starts its years in
March, agrees with that: a number of days becomes a date of the calendar (`Date.isValid_ofDays`), as many days lie
before it (`Date.toDays_ofDays`), and these are its days in the calendar (`Date.daysSinceEpoch_ofDays`).

So a reader who knows the calendar and the form of a written instant gets its microseconds back
(`Instant.decode?_render`).
-/

namespace AccessGateway

namespace Date

variable {year : Int} {month : Nat} {d : Date} {n : Int}

/-- Every fourth year is a leap year; of those that end a century, every fourth. -/
def IsLeap (year : Int) : Prop := 4 ∣ year ∧ (100 ∣ year → 400 ∣ year)

instance (year : Int) : Decidable (IsLeap year) := inferInstanceAs (Decidable (_ ∧ (_ → _)))

def leapDays (year : Int) : Nat := if IsLeap year then 1 else 0

def yearLength (year : Int) : Nat := 365 + leapDays year

def monthLength (year : Int) : Nat → Nat
  | 2 => 28 + leapDays year
  | 4 | 6 | 9 | 11 => 30
  | _ => 31

/-- The date is in the calendar. -/
structure IsValid (d : Date) : Prop where
  month_pos : 1 ≤ d.month
  month_le : d.month ≤ 12
  day_pos : 1 ≤ d.day
  day_le : d.day ≤ monthLength d.year d.month

instance (d : Date) : Decidable d.IsValid :=
  decidable_of_iff (1 ≤ d.month ∧ d.month ≤ 12 ∧ 1 ≤ d.day ∧ d.day ≤ monthLength d.year d.month)
    ⟨fun ⟨h₁, h₂, h₃, h₄⟩ => ⟨h₁, h₂, h₃, h₄⟩, fun h => ⟨h.1, h.2, h.3, h.4⟩⟩

/-- The days from the start of 1970 to the start of a year. -/
def daysBeforeYear (year : Nat) : Nat := ∑ y ∈ Finset.Ico 1970 year, yearLength y

/-- The days from the start of a year to the start of a month. -/
def daysBeforeMonth (year : Int) (month : Nat) : Nat := ∑ m ∈ Finset.Ico 1 month, monthLength year m

/-- The days from the start of 1970 to a date of that year or a later one. -/
def daysSinceEpoch (d : Date) : Nat :=
  daysBeforeYear d.year.toNat + daysBeforeMonth d.year d.month + (d.day - 1)

theorem monthLength_le (year : Int) (month : Nat) : monthLength year month ≤ 31 := by
  unfold monthLength leapDays
  split
  · split <;> omega
  all_goals omega

/-! ### Days of a year -/

theorem daysBeforeMonth_thirteen (year : Int) : daysBeforeMonth year 13 = yearLength year := by
  simp [daysBeforeMonth, Finset.sum_Ico_succ_top, monthLength, yearLength]
  omega

/-- From March on the months are alike in all years. -/
theorem daysBeforeMonth_eq (hlow : 3 ≤ month) (hhigh : month ≤ 12) :
    daysBeforeMonth year month = 59 + leapDays year + (153 * (month - 3) + 2) / 5 := by
  unfold daysBeforeMonth
  interval_cases month <;> simp [Finset.sum_Ico_succ_top, monthLength] <;> omega

/-- A date lies within its year. -/
theorem IsValid.lt_yearLength (h : d.IsValid) : daysBeforeMonth d.year d.month + (d.day - 1) < yearLength d.year := by
  calc daysBeforeMonth d.year d.month + (d.day - 1)
      < daysBeforeMonth d.year d.month + monthLength d.year d.month := by
        have := h.day_pos
        have := h.day_le
        omega
    _ = daysBeforeMonth d.year (d.month + 1) := (Finset.sum_Ico_succ_top h.month_pos _).symm
    _ ≤ daysBeforeMonth d.year 13 := by
        refine Finset.sum_le_sum_of_subset (Finset.Ico_subset_Ico_right ?_)
        have := h.month_le
        omega
    _ = yearLength d.year := daysBeforeMonth_thirteen d.year

/-! ### Years that start in March -/

/-- The days from the start of 1970 to the first of March of a year. -/
def march (year : Int) : Int := year * 365 + year / 4 - year / 100 + year / 400 - epochShift

theorem march_eq (year : Int) : march year = march (year - 1) + yearLength year := by
  unfold march yearLength leapDays
  by_cases h : IsLeap year
  · rw [if_pos h]
    unfold IsLeap at h
    omega
  · rw [if_neg h]
    unfold IsLeap at h
    omega

/-- The first of January is the day 306 of a year that starts in March. -/
theorem daysBeforeYear_eq {year : Nat} (h : 1970 ≤ year) : (daysBeforeYear year : Int) = march (year - 1) + 306 := by
  induction year, h using Nat.le_induction with
  | base => decide
  | succ year h ih =>
    have hpred : ((year + 1 : Nat) : Int) - 1 = year := by omega
    rw [daysBeforeYear, Finset.sum_Ico_succ_top h, ← daysBeforeYear, Nat.cast_add, ih, hpred, march_eq year]
    omega

theorem toDays_eq (h : d.IsValid) :
    d.toDays = march (d.year - 1) + 306 + (daysBeforeMonth d.year d.month + (d.day - 1) : Nat) := by
  have hday := h.day_pos
  have hpos := h.month_pos
  unfold toDays
  -- January and February belong to the year that started in the March before
  by_cases hm : d.month < 3
  · have hmonth : daysBeforeMonth d.year d.month = (153 * (d.month + 9) + 2) / 5 - 306 := by
      unfold daysBeforeMonth
      interval_cases d.month <;> simp [monthLength]
    rw [if_pos hm, if_pos hm, hmonth]
    dsimp only [march]
    omega
  · have hmarch := march_eq d.year
    rw [if_neg hm, if_neg hm, daysBeforeMonth_eq (by omega) h.month_le]
    dsimp only [march, yearLength] at hmarch ⊢
    omega

theorem toDays_eq_daysSinceEpoch (h : d.IsValid) (hyear : 1970 ≤ d.year) : d.toDays = d.daysSinceEpoch := by
  have hcast : ((d.year.toNat : Nat) : Int) = d.year := by omega
  have hstart : (daysBeforeYear d.year.toNat : Int) = march (d.year - 1) + 306 := by
    rw [daysBeforeYear_eq (by omega), hcast]
  rw [toDays_eq h, daysSinceEpoch, ← hstart]
  push_cast
  ring

/-! ### The date of a day -/

theorem toDays_ofCycle {cycle : Int} {y day : Nat} (hday : day ≤ 365) :
    (ofCycle cycle y day).toDays = march (cycle * 400 + y) + day := by
  have hm : (5 * day + 2) / 153 ≤ 11 := by omega
  unfold ofCycle toDays
  dsimp only
  split
  · dsimp only [march]
    rw [if_neg (by omega), if_neg (by omega)]
    omega
  · dsimp only [march]
    rw [if_pos (by omega), if_pos (by omega)]
    omega

theorem isValid_ofCycle {cycle : Int} {y day : Nat} (h : day < yearLength (cycle * 400 + y + 1)) :
    (ofCycle cycle y day).IsValid := by
  have hm : (5 * day + 2) / 153 ≤ 11 := by
    unfold yearLength leapDays at h
    split at h <;> omega
  unfold yearLength at h
  unfold ofCycle
  dsimp only
  generalize hmonth : (5 * day + 2) / 153 = m at *
  -- one case per month from March on, in which the day is the day of the year without a constant
  interval_cases m
  all_goals
    constructor
    all_goals
      simp only [monthLength, Nat.reduceMul, Nat.reduceAdd, Nat.reduceDiv, Nat.reduceLT, ↓reduceIte, Nat.reduceSub]
      omega

/-- A number of days in cycles, centuries, groups of four years, years and days.  A year has 365 days at most but for
the fourth of a group, which has one more, and of the last group of a century only if that ends the cycle. -/
theorem exists_ofCycle (n : Int) : ∃ (cycle : Int) (century fours y day : Nat),
    ofDays n = ofCycle cycle (century * 100 + fours * 4 + y) day ∧
    n + epochShift = cycle * 146097 + century * 36524 + fours * 1461 + y * 365 + day ∧
    century ≤ 3 ∧ fours ≤ 24 ∧ y ≤ 3 ∧ day ≤ 365 ∧ (day = 365 → y = 3 ∧ (fours = 24 → century = 3)) := by
  have hlt : ((n + epochShift) % 146097).toNat < 146097 := by omega
  have hn : n + epochShift = (n + epochShift) / 146097 * 146097 + ((n + epochShift) % 146097).toNat := by omega
  unfold ofDays
  dsimp only
  generalize ((n + epochShift) % 146097).toNat = dayOfCycle at hlt hn
  refine ⟨_, _, _, _, _, rfl, ?_⟩
  omega

theorem exists_march (n : Int) : ∃ (cycle : Int) (y day : Nat), ofDays n = ofCycle cycle y day ∧
    day < yearLength (cycle * 400 + y + 1) ∧ march (cycle * 400 + y) + day = n := by
  obtain ⟨cycle, century, fours, y, day, hdate, hn, hcentury, hfours, hy, hday, hlast⟩ := exists_ofCycle n
  refine ⟨cycle, _, day, hdate, ?_, ?_⟩
  · -- a day 365 is a leap day, which ends a year from March on in the leap year after it
    unfold yearLength leapDays
    split
    · omega
    · rename_i hleap
      unfold IsLeap at hleap
      omega
  · unfold march
    omega

/-- A number of days becomes a date of the calendar. -/
theorem isValid_ofDays (n : Int) : (ofDays n).IsValid := by
  obtain ⟨cycle, y, day, hdate, hday, -⟩ := exists_march n
  rw [hdate]
  exact isValid_ofCycle hday

/-- The date of a day lies that many days after the start of 1970. -/
theorem toDays_ofDays (n : Int) : (ofDays n).toDays = n := by
  obtain ⟨cycle, y, day, hdate, hday, hn⟩ := exists_march n
  have hle : day ≤ 365 := by
    unfold yearLength leapDays at hday
    split at hday <;> omega
  rw [hdate, toDays_ofCycle hle, hn]

/-- The date of a day lies in the year in which the day lies. -/
theorem march_year_ofDays (n : Int) :
    march ((ofDays n).year - 1) + 306 ≤ n ∧ n < march (ofDays n).year + 306 := by
  have hvalid := isValid_ofDays n
  have hdays := toDays_eq hvalid
  have hlt := hvalid.lt_yearLength
  have hnext := march_eq (ofDays n).year
  rw [toDays_ofDays] at hdays
  omega

theorem le_year_ofDays (h : 0 ≤ n) : 1970 ≤ (ofDays n).year := by
  have hbefore := (march_year_ofDays n).2
  unfold march epochShift at hbefore
  omega

theorem year_ofDays_lt {year : Nat} (hyear : 1970 ≤ year) (h : n < daysBeforeYear year) : (ofDays n).year < year := by
  -- a later year starts on a later day
  have hafter := (march_year_ofDays n).1
  rw [daysBeforeYear_eq hyear] at h
  unfold march at hafter h
  omega

/-- In the calendar, too, the date of a day lies that many days after the start of 1970. -/
theorem daysSinceEpoch_ofDays (h : 0 ≤ n) : ((ofDays n).daysSinceEpoch : Int) = n := by
  rw [← toDays_eq_daysSinceEpoch (isValid_ofDays n) (le_year_ofDays h), toDays_ofDays]

end Date

namespace Instant

variable {width n : Nat} {t : Instant}

/-! ### Fields of digits -/

theorem length_padded (hwidth : 0 < width) (hn : n < 10 ^ width) : (padded width n).length = width := by
  have hle : (Text.digits n).length ≤ width := Nat.toDigits_length 10 n width hwidth hn
  rw [padded, List.length_append, List.length_replicate]
  omega

/-- Zeros on the left change nothing. -/
theorem natural?_padded (width n : Nat) : Text.natural? (padded width n) = some n := by
  have hzeros (k : Nat) : Nat.ofDigitChars 10 (List.replicate k '0') 0 = 0 := by
    induction k with
    | zero => rfl
    | succ k ih => rw [List.replicate_succ, Nat.ofDigitChars_cons]; exact ih
  have hdigit : ∀ c ∈ padded width n, c.isDigit = true := by
    intro c hc
    rcases List.mem_append.1 hc with hc | hc
    · rw [List.eq_of_mem_replicate hc]
      decide
    · exact Text.isDigit_of_mem_digits hc
  have hne : padded width n ≠ [] := List.append_ne_nil_of_right_ne_nil _ (Text.digits_ne_nil n)
  rw [Text.natural?, if_pos ⟨hne, List.all_eq_true.2 hdigit⟩, padded, Nat.ofDigitChars_append, hzeros, Text.digits,
    Nat.ofDigitChars_ten_toDigits]

/-- A number of so many digits with a mark behind it, and what stands after the mark. -/
def field? (width : Nat) (mark cs : List Char) : Option (Nat × List Char) := do
  let n ← Text.natural? (cs.take width)
  let rest ← Text.strip? mark (cs.drop width)
  if (cs.take width).length = width then return (n, rest) else none

theorem field?_padded (mark rest : List Char) (hwidth : 0 < width) (hn : n < 10 ^ width) :
    field? width mark (padded width n ++ (mark ++ rest)) = some (n, rest) := by
  have hlength := length_padded hwidth hn
  rw [field?, List.take_left' hlength, List.drop_left' hlength, natural?_padded, Text.strip?_eq_some_iff.2 rfl, hlength]
  simp

end Instant

/-! ### Written instants -/

/-- Date and time of day in UTC. -/
structure DateTime where
  year : Nat
  month : Nat
  day : Nat
  hour : Nat
  minute : Nat
  second : Nat
  micros : Nat

namespace DateTime

open Instant (padded field? field?_padded)

variable {d : DateTime}

def date (d : DateTime) : Date := ⟨d.year, d.month, d.day⟩

/-- The date is in the calendar of the years 1970 to 9999, and the time is one of a day. -/
structure IsValid (d : DateTime) : Prop where
  year_le : 1970 ≤ d.year
  le_year : d.year ≤ 9999
  date : d.date.IsValid
  hour_lt : d.hour < 24
  minute_lt : d.minute < 60
  second_lt : d.second < 60
  micros_lt : d.micros < 1000000

/-- The microseconds since the start of 1970. -/
def sinceEpoch (d : DateTime) : Nat :=
  (((d.date.daysSinceEpoch * 24 + d.hour) * 60 + d.minute) * 60 + d.second) * 1000000 + d.micros

/-- The form of the written instants, with six places of a second. -/
def write (d : DateTime) : List Char :=
  padded 4 d.year ++ (['-'] ++ (padded 2 d.month ++ (['-'] ++ (padded 2 d.day ++ (['T'] ++
    (padded 2 d.hour ++ ([':'] ++ (padded 2 d.minute ++ ([':'] ++ (padded 2 d.second ++ (['.'] ++
      (padded 6 d.micros ++ (['+', '0', '0', '0', '0'] ++ [])))))))))))))

/-- Reads that form. -/
def read? (cs : List Char) : Option DateTime := do
  let (year, cs) ← field? 4 ['-'] cs
  let (month, cs) ← field? 2 ['-'] cs
  let (day, cs) ← field? 2 ['T'] cs
  let (hour, cs) ← field? 2 [':'] cs
  let (minute, cs) ← field? 2 [':'] cs
  let (second, cs) ← field? 2 ['.'] cs
  let (micros, cs) ← field? 6 ['+', '0', '0', '0', '0'] cs
  if cs.isEmpty then return ⟨year, month, day, hour, minute, second, micros⟩ else none

theorem read?_write (h : d.IsValid) : read? d.write = some d := by
  have hyear : d.year < 10 ^ 4 := by
    have := h.le_year
    omega
  have hmonth : d.month < 10 ^ 2 := by
    have := h.date.month_le
    dsimp only [date] at this
    omega
  have hday : d.day < 10 ^ 2 := by
    have := h.date.day_le.trans (Date.monthLength_le ..)
    dsimp only [date] at this
    omega
  have hhour : d.hour < 10 ^ 2 := h.hour_lt.trans (by decide)
  have hminute : d.minute < 10 ^ 2 := h.minute_lt.trans (by decide)
  have hsecond : d.second < 10 ^ 2 := h.second_lt.trans (by decide)
  have hmicros : d.micros < 10 ^ 6 := h.micros_lt
  simp only [read?, write, field?_padded _ _ (by decide : 0 < 4) hyear, field?_padded _ _ (by decide : 0 < 2) hmonth,
    field?_padded _ _ (by decide : 0 < 2) hday, field?_padded _ _ (by decide : 0 < 2) hhour,
    field?_padded _ _ (by decide : 0 < 2) hminute, field?_padded _ _ (by decide : 0 < 2) hsecond,
    field?_padded _ _ (by decide : 0 < 6) hmicros, Option.bind_eq_bind, Option.bind_some]
  rfl

end DateTime

namespace Instant

variable {t : Instant}

/-- The instant lies in the years 1970 to 9999. -/
structure IsFourDigit (t : Instant) : Prop where
  epoch_le : 0 ≤ t.seconds
  lt_end : t.seconds < Date.daysBeforeYear 10000 * 86400
  nanos_lt : t.nanos < 1000000000

/-- The date and time of day that are written. -/
def dateTime (t : Instant) : DateTime where
  year := (Date.ofDays (t.seconds / 86400)).year.toNat
  month := (Date.ofDays (t.seconds / 86400)).month
  day := (Date.ofDays (t.seconds / 86400)).day
  hour := (t.seconds % 86400).toNat / 3600
  minute := (t.seconds % 86400).toNat / 60 % 60
  second := (t.seconds % 86400).toNat % 60
  micros := t.nanos / 1000

theorem IsFourDigit.date_dateTime (h : t.IsFourDigit) : t.dateTime.date = Date.ofDays (t.seconds / 86400) := by
  have hepoch := h.epoch_le
  have hlow : 1970 ≤ (Date.ofDays (t.seconds / 86400)).year := Date.le_year_ofDays (by omega)
  have hyear : ((Date.ofDays (t.seconds / 86400)).year.toNat : Int) = (Date.ofDays (t.seconds / 86400)).year := by omega
  rw [DateTime.date, dateTime, hyear]

theorem IsFourDigit.isValid_dateTime (h : t.IsFourDigit) : t.dateTime.IsValid := by
  have hepoch := h.epoch_le
  have hend := h.lt_end
  have hnanos := h.nanos_lt
  have hlow : 1970 ≤ (Date.ofDays (t.seconds / 86400)).year := Date.le_year_ofDays (by omega)
  have hhigh : (Date.ofDays (t.seconds / 86400)).year < (10000 : Nat) := Date.year_ofDays_lt (by omega) (by omega)
  constructor
  case date =>
    rw [h.date_dateTime]
    exact Date.isValid_ofDays _
  all_goals
    dsimp only [dateTime]
    omega

theorem IsFourDigit.render_eq (h : t.IsFourDigit) : t.render.toList = t.dateTime.write := by
  have hlow := h.isValid_dateTime.year_le
  have hhigh := h.isValid_dateTime.le_year
  have hyear : writeYear (Date.ofDays (t.seconds / 86400)).year = padded 4 t.dateTime.year := by
    dsimp only [dateTime] at *
    rw [writeYear, if_pos (by omega)]
  rw [render, String.toList_ofList, writeSeconds, hyear]
  simp only [DateTime.write, dateTime, List.append_assoc, List.cons_append, List.nil_append, List.append_nil]

theorem IsFourDigit.sinceEpoch_dateTime (h : t.IsFourDigit) : t.dateTime.sinceEpoch = t.micros.toNat := by
  have hepoch := h.epoch_le
  have hdays : ((Date.ofDays (t.seconds / 86400)).daysSinceEpoch : Int) = t.seconds / 86400 :=
    Date.daysSinceEpoch_ofDays (by omega)
  rw [DateTime.sinceEpoch, h.date_dateTime]
  dsimp only [dateTime, micros]
  omega

/-- A written instant of the years 1970 to 9999 is read as a date and time of day that lies its whole microseconds after
the start of 1970. -/
theorem exists_read?_render (h : t.IsFourDigit) :
    ∃ d : DateTime, DateTime.read? t.render.toList = some d ∧ d.IsValid ∧ d.sinceEpoch = t.micros.toNat :=
  ⟨t.dateTime, by rw [h.render_eq, DateTime.read?_write h.isValid_dateTime], h.isValid_dateTime, h.sinceEpoch_dateTime⟩

end Instant

end AccessGateway
