import Mathlib

/-!
# The UTC calendar

Dates of the Gregorian calendar, day by day from 1970-01-01, and the number of a day; seconds since then as `time.gmtime`
and `calendar.timegm` read and write them.

* `CivilDate.next`, `civil` — the date after a date, and the date of a day;
* `dayNumber_civil` — **the number of the date of a day is that day**;
* `monthStart_le_iff`, `dayStart_le_iff` — the instants since the start of a month or a day are those of that month or day.
-/

namespace ComputeMesh.UtcCalendar

structure CivilDate where
  year : ℤ
  month : ℕ
  day : ℕ
  deriving DecidableEq, Repr

def isLeap (year : ℤ) : Bool := decide (year % 4 = 0) && (decide (year % 100 ≠ 0) || decide (year % 400 = 0))

def monthLength (leap : Bool) (month : ℕ) : ℕ :=
  if month = 2 then (if leap then 29 else 28) else if month ∈ [4, 6, 9, 11] then 30 else 31

def daysBeforeMonth (leap : Bool) : ℕ → ℕ
  | 0 => 0
  | 1 => 0
  | month + 2 => daysBeforeMonth leap (month + 1) + monthLength leap (month + 1)

def daysBeforeYear (year : ℤ) : ℤ := (year - 1) * 365 + (year - 1) / 4 - (year - 1) / 100 + (year - 1) / 400

namespace CivilDate

structure Valid (d : CivilDate) : Prop where
  month : 1 ≤ d.month ∧ d.month ≤ 12
  day : 1 ≤ d.day ∧ d.day ≤ monthLength (isLeap d.year) d.month

def dayNumber (d : CivilDate) : ℤ := daysBeforeYear d.year + daysBeforeMonth (isLeap d.year) d.month + d.day - 719163

/-- The next day. -/
def next (d : CivilDate) : CivilDate :=
  if d.day < monthLength (isLeap d.year) d.month then { d with day := d.day + 1 }
  else if d.month < 12 then ⟨d.year, d.month + 1, 1⟩
  else ⟨d.year + 1, 1, 1⟩

theorem daysBeforeYear_succ (year : ℤ) :
    daysBeforeYear (year + 1) = daysBeforeYear year + 365 + (if isLeap year then 1 else 0) := by
  unfold daysBeforeYear isLeap
  split
  · rename_i h
    simp only [Bool.and_eq_true, Bool.or_eq_true, decide_eq_true_eq] at h
    omega
  · rename_i h
    simp only [Bool.and_eq_true, Bool.or_eq_true, decide_eq_true_eq] at h
    omega

theorem daysBeforeMonth_succ (leap : Bool) {month : ℕ} (h : 1 ≤ month) :
    daysBeforeMonth leap (month + 1) = daysBeforeMonth leap month + monthLength leap month := by
  obtain ⟨m, rfl⟩ : ∃ m, month = m + 1 := ⟨month - 1, by omega⟩
  rfl

theorem monthLength_pos (leap : Bool) (month : ℕ) : 1 ≤ monthLength leap month := by
  unfold monthLength
  split_ifs <;> omega

theorem Valid.next {d : CivilDate} (h : d.Valid) : d.next.Valid := by
  unfold CivilDate.next
  split
  · rename_i hday
    exact ⟨h.month, by have := h.day; dsimp only; omega, hday⟩
  · split
    · rename_i hmonth
      exact ⟨⟨Nat.le_add_left 1 _, hmonth⟩, le_refl _, monthLength_pos _ _⟩
    · exact ⟨⟨le_refl 1, Nat.le_of_ble_eq_true rfl⟩, le_refl _, monthLength_pos _ _⟩

theorem Valid.dayNumber_next {d : CivilDate} (h : d.Valid) : d.next.dayNumber = d.dayNumber + 1 := by
  unfold CivilDate.next
  split
  · unfold dayNumber
    push_cast
    ring
  · rename_i hday
    have hlast : d.day = monthLength (isLeap d.year) d.month := by have := h.day; omega
    split
    · unfold dayNumber
      rw [daysBeforeMonth_succ _ h.month.1, hlast]
      push_cast
      ring
    · rename_i hmonth
      have hdecember : d.month = 12 := by have := h.month; omega
      unfold dayNumber
      rw [daysBeforeYear_succ, hlast, hdecember]
      have hyear : daysBeforeMonth (isLeap d.year) 12 + monthLength (isLeap d.year) 12
          = 365 + (if isLeap d.year then 1 else 0) := by
        cases isLeap d.year <;> rfl
      have hjanuary : daysBeforeMonth (isLeap (d.year + 1)) 1 = 0 := rfl
      rw [hjanuary]
      have hsum : ((daysBeforeMonth (isLeap d.year) 12 : ℕ) : ℤ) + (monthLength (isLeap d.year) 12 : ℕ)
          = 365 + (if isLeap d.year then 1 else 0) := by exact_mod_cast hyear
      push_cast
      omega

end CivilDate

/-! ### The date of a day -/

/-- The date so many days after 1970-01-01. -/
def dateAfter : ℕ → CivilDate
  | 0 => ⟨1970, 1, 1⟩
  | n + 1 => (dateAfter n).next

/-- The date of a day; the calendar repeats itself every 400 years. -/
def civil (day : ℤ) : CivilDate :=
  let date := dateAfter (day % 146097).toNat
  { date with year := date.year + 400 * (day / 146097) }

theorem valid_dateAfter (n : ℕ) : (dateAfter n).Valid := by
  induction n with
  | zero => exact ⟨⟨by decide, by decide⟩, by decide, by decide⟩
  | succ n ih => exact ih.next

theorem dayNumber_dateAfter (n : ℕ) : (dateAfter n).dayNumber = n := by
  induction n with
  | zero => rfl
  | succ n ih =>
    rw [dateAfter, (valid_dateAfter n).dayNumber_next, ih]
    rfl

theorem isLeap_add (year k : ℤ) : isLeap (year + 400 * k) = isLeap year := by
  have h4 : (year + 400 * k) % 4 = year % 4 := by omega
  have h100 : (year + 400 * k) % 100 = year % 100 := by omega
  have h400 : (year + 400 * k) % 400 = year % 400 := by omega
  rw [isLeap, isLeap, h4, h100, h400]

/-- **The number of the date of a day is that day.** -/
theorem dayNumber_civil (day : ℤ) : (civil day).dayNumber = day := by
  have hdate := dayNumber_dateAfter (day % 146097).toNat
  unfold CivilDate.dayNumber at hdate
  unfold civil CivilDate.dayNumber
  dsimp only
  rw [isLeap_add]
  have hyears : daysBeforeYear ((dateAfter (day % 146097).toNat).year + 400 * (day / 146097))
      = daysBeforeYear (dateAfter (day % 146097).toNat).year + 146097 * (day / 146097) := by
    unfold daysBeforeYear
    omega
  rw [hyears]
  omega

theorem valid_civil (day : ℤ) : (civil day).Valid := by
  obtain ⟨hmonth, hday⟩ := valid_dateAfter (day % 146097).toNat
  refine ⟨hmonth, ?_⟩
  unfold civil
  dsimp only
  rw [isLeap_add]
  exact hday

/-- The day before is in the same month, unless it is the first. -/
theorem civil_pred {day : ℤ} (h : 1 < (civil day).day) : civil (day - 1) = { civil day with day := (civil day).day - 1 } := by
  unfold civil at h ⊢
  dsimp only at h ⊢
  obtain ⟨n, hn⟩ : ∃ n, (day % 146097).toNat = n + 1 := by
    cases hr : (day % 146097).toNat with
    | zero =>
      rw [hr] at h
      exact absurd h (by decide)
    | succ n => exact ⟨n, rfl⟩
  have hbefore : ((day - 1) % 146097).toNat = n := by omega
  have hera : (day - 1) / 146097 = day / 146097 := by omega
  rw [hbefore, hera, hn]
  rw [hn, dateAfter] at h
  rw [dateAfter]
  unfold CivilDate.next at h ⊢
  split
  · rfl
  · rename_i hlast
    rw [if_neg hlast] at h
    split at h <;> exact absurd h (lt_irrefl 1)

theorem civil_sub {day : ℤ} {k : ℕ} (h : k < (civil day).day) :
    civil (day - k) = { civil day with day := (civil day).day - k } := by
  induction k with
  | zero => simp
  | succ k ih =>
    have hk := ih (by omega)
    have hpred := (@civil_pred (day - k)) (by rw [hk]; dsimp only; omega)
    have hday : day - (k + 1 : ℕ) = day - k - 1 := by push_cast; ring
    rw [hday, hpred, hk]
    dsimp only
    rw [Nat.sub_sub]

def firstOfMonth (day : ℤ) : ℤ := ({ civil day with day := 1 } : CivilDate).dayNumber

theorem firstOfMonth_eq (day : ℤ) : firstOfMonth day = day - ((civil day).day - 1) := by
  have hnumber := dayNumber_civil day
  unfold CivilDate.dayNumber at hnumber
  unfold firstOfMonth CivilDate.dayNumber
  push_cast
  omega

/-- **The days since the first of the month are those of the month.** -/
theorem firstOfMonth_le_iff {day other : ℤ} (hle : other ≤ day) :
    firstOfMonth day ≤ other ↔ (civil other).year = (civil day).year ∧ (civil other).month = (civil day).month := by
  have hfirst := firstOfMonth_eq day
  constructor
  · intro h
    have hpos := (valid_civil day).day.1
    have hback := (@civil_sub day) (k := (day - other).toNat) (by omega)
    have hother : day - ((day - other).toNat : ℕ) = other := by omega
    rw [hother] at hback
    rw [hback]
    exact ⟨rfl, rfl⟩
  · rintro ⟨hyear, hmonth⟩
    have hday := dayNumber_civil day
    have hother := dayNumber_civil other
    have hpos := (valid_civil other).day.1
    unfold CivilDate.dayNumber at hday hother
    rw [hyear, hmonth] at hother
    omega

/-! ### Seconds -/

/-- The day of an instant. -/
def dayOf (time : ℚ) : ℤ := ⌊time⌋ / 86400

/-- The date part of `time.gmtime(time)`. -/
def gmtime (time : ℚ) : CivilDate := civil (dayOf time)

/-- `calendar.timegm((year, month, day, 0, 0, 0))`. -/
def timegm (date : CivilDate) : ℚ := (86400 * date.dayNumber : ℤ)

theorem day_le_iff {day : ℤ} {time : ℚ} : ((86400 * day : ℤ) : ℚ) ≤ time ↔ day ≤ dayOf time := by
  rw [← Int.le_floor, dayOf, Int.le_ediv_iff_mul_le (by decide), mul_comm]

theorem dayOf_mono {s t : ℚ} (h : s ≤ t) : dayOf s ≤ dayOf t := by
  have hfloor := Int.floor_mono h
  unfold dayOf
  omega

theorem dayStart_le_iff {now time : ℚ} (h : time ≤ now) : timegm (gmtime now) ≤ time ↔ gmtime time = gmtime now := by
  rw [timegm, day_le_iff, gmtime, dayNumber_civil]
  constructor
  · intro hle
    rw [gmtime, le_antisymm (dayOf_mono h) hle]
  · intro heq
    have hnumber := congrArg CivilDate.dayNumber heq
    rw [gmtime, dayNumber_civil, dayNumber_civil] at hnumber
    exact hnumber.ge

theorem monthStart_le_iff {now time : ℚ} (h : time ≤ now) : timegm { gmtime now with day := 1 } ≤ time ↔
    (gmtime time).year = (gmtime now).year ∧ (gmtime time).month = (gmtime now).month := by
  rw [timegm, day_le_iff]
  exact firstOfMonth_le_iff (dayOf_mono h)

end ComputeMesh.UtcCalendar
