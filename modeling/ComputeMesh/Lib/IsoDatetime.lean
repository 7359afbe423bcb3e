import ComputeMesh.Lib.Datetime
import ComputeMesh.Lib.UtcCalendar

/-!
# ISO texts of UTC times

`isoformat` of a time in UTC with `Z` for its offset, and the order of such texts.  The fraction is left out where it is
zero, and `.` comes before `Z`: within one second, a time with a fraction has the smaller text.

* `digits`, `fields` — numbers of a fixed width, with what stands between them;
* `fields_append_lt_iff` — such texts are in the order of their numbers;
* `secondFields_lt_iff` — the numbers of a time down to its seconds are in the order of time;
* `zulu_lt_iff` — **the order of two texts.**
-/

namespace ComputeMesh.IsoDatetime

open ComputeMesh.UtcCalendar List Nat

/-! ### Lists of one length -/

theorem append_lt_append_iff {α : Type} [LT α] [Std.Irrefl (· < · : α → α → Prop)] {a a' b b' : List α}
    (hlen : a.length = a'.length) : a ++ b < a' ++ b' ↔ a < a' ∨ a = a' ∧ b < b' := by
  induction a generalizing a' with
  | nil =>
    obtain rfl : a' = [] := length_eq_zero_iff.mp hlen.symm
    exact ⟨fun h => .inr ⟨rfl, h⟩, fun h => h.elim nofun (·.2)⟩
  | cons x a ih =>
    obtain ⟨y, a', rfl⟩ : ∃ y l, a' = y :: l := exists_cons_of_length_eq_add_one hlen.symm
    rw [cons_append, cons_append, cons_lt_cons_iff, cons_lt_cons_iff,
      ih (succ.inj hlen), cons.injEq]
    tauto

/-! ### Numbers of a fixed width -/

/-- The last digits of a number. -/
def digits : ℕ → ℕ → List Char
  | 0, _ => []
  | width + 1, n => digits width (n / 10) ++ [Nat.digitChar (n % 10)]

theorem length_digits (width n : ℕ) : (digits width n).length = width := by
  induction width generalizing n with
  | zero => rfl
  | succ width ih => rw [digits, length_append, ih, length_singleton]

theorem digitChar_lt_iff {m n : ℕ} (hm : m < 10) (hn : n < 10) : Nat.digitChar m < Nat.digitChar n ↔ m < n := by
  have hall : ∀ m < 10, ∀ n < 10, (digitChar m < digitChar n ↔ m < n) := by decide
  exact hall m hm n hn

theorem digitChar_inj {m n : ℕ} (hm : m < 10) (hn : n < 10) (h : Nat.digitChar m = Nat.digitChar n) : m = n := by
  have hall : ∀ m < 10, ∀ n < 10, digitChar m = digitChar n → m = n := by decide
  exact hall m hm n hn h

theorem digits_inj {width m n : ℕ} (hm : m < 10 ^ width) (hn : n < 10 ^ width) (h : digits width m = digits width n) :
    m = n := by
  induction width generalizing m n with
  | zero =>
    rw [pow_zero, lt_one_iff] at hm hn
    rw [hm, hn]
  | succ width ih =>
    rw [pow_succ] at hm hn
    obtain ⟨hfront, hlast⟩ := append_inj h (by rw [length_digits, length_digits])
    have hquot := ih (Nat.div_lt_of_lt_mul (by omega)) (Nat.div_lt_of_lt_mul (by omega)) hfront
    have hrem := digitChar_inj (Nat.mod_lt m (by decide)) (Nat.mod_lt n (by decide)) (cons.inj hlast).1
    omega

theorem digits_lt_iff {width m n : ℕ} (hm : m < 10 ^ width) (hn : n < 10 ^ width) :
    digits width m < digits width n ↔ m < n := by
  induction width generalizing m n with
  | zero =>
    rw [pow_zero, lt_one_iff] at hm hn
    rw [hm, hn]
    exact ⟨nofun, fun h => absurd h (lt_irrefl 0)⟩
  | succ width ih =>
    rw [pow_succ] at hm hn
    have hquot : m / 10 < 10 ^ width := Nat.div_lt_of_lt_mul (by omega)
    have hquot' : n / 10 < 10 ^ width := Nat.div_lt_of_lt_mul (by omega)
    have heq : digits width (m / 10) = digits width (n / 10) ↔ m / 10 = n / 10 :=
      ⟨digits_inj hquot hquot', congrArg _⟩
    have hlast : [digitChar (m % 10)] < [digitChar (n % 10)] ↔ m % 10 < n % 10 := by
      rw [cons_lt_cons_iff, digitChar_lt_iff (mod_lt m (by decide)) (mod_lt n (by decide))]
      exact ⟨fun h => h.elim id fun h => (nomatch h.2), .inl⟩
    rw [digits, digits, append_lt_append_iff (by rw [length_digits, length_digits]), ih hquot hquot', heq, hlast]
    omega

/-- Numbers with their widths, and what follows each of them. -/
def fields : List (ℕ × List Char) → List ℕ → List Char
  | (width, separator) :: template, n :: ns => digits width n ++ (separator ++ fields template ns)
  | _, _ => []

/-- Numbers that fit the widths of a template. -/
def Fit : List (ℕ × List Char) → List ℕ → Prop
  | [], [] => True
  | (width, _) :: template, n :: ns => n < 10 ^ width ∧ Fit template ns
  | _, _ => False

/-- **Texts of one template are in the order of their numbers.** -/
theorem fields_append_lt_iff {template : List (ℕ × List Char)} {ms ns : List ℕ} (hm : Fit template ms)
    (hn : Fit template ns) {a b : List Char} :
    fields template ms ++ a < fields template ns ++ b ↔ ms < ns ∨ ms = ns ∧ a < b := by
  induction template generalizing ms ns with
  | nil =>
    cases ms with
    | cons m ms => cases hm
    | nil =>
      cases ns with
      | cons n ns => cases hn
      | nil => exact ⟨fun h => .inr ⟨rfl, h⟩, fun h => h.elim nofun (·.2)⟩
  | cons field template ih =>
    obtain ⟨width, separator⟩ := field
    cases ms with
    | nil => cases hm
    | cons m ms =>
      cases ns with
      | nil => cases hn
      | cons n ns =>
        have heq : digits width m = digits width n ↔ m = n := ⟨digits_inj hm.1 hn.1, congrArg _⟩
        rw [fields, fields, append_assoc, append_assoc, append_assoc, append_assoc,
          append_lt_append_iff (by rw [length_digits, length_digits]), append_lt_append_iff rfl,
          ih hm.2 hn.2, digits_lt_iff hm.1 hn.1, heq, List.cons_lt_cons_iff, List.cons.injEq]
        have hirrefl : ¬separator < separator := List.lt_irrefl separator
        tauto

/-! ### Dates in the order of their days -/

theorem daysBeforeYear_mono {y y' : ℤ} (h : y ≤ y') : daysBeforeYear y ≤ daysBeforeYear y' := by
  unfold daysBeforeYear
  omega

theorem daysBeforeMonth_bound (leap : Bool) {month : ℕ} (h : 1 ≤ month ∧ month ≤ 12) :
    daysBeforeMonth leap month + monthLength leap month ≤ 365 + (if leap then 1 else 0) := by
  have hall : ∀ leap : Bool, ∀ month < 13,
      1 ≤ month → daysBeforeMonth leap month + monthLength leap month ≤ 365 + (if leap then 1 else 0) := by decide
  exact hall leap month (by omega) h.1

theorem daysBeforeMonth_mono (leap : Bool) {month month' : ℕ} (h : 1 ≤ month) (hlt : month < month') :
    daysBeforeMonth leap month + monthLength leap month ≤ daysBeforeMonth leap month' := by
  induction month', hlt using le_induction with
  | base => exact (CivilDate.daysBeforeMonth_succ leap h).ge
  | succ n hn ih =>
    rw [CivilDate.daysBeforeMonth_succ leap (by omega)]
    omega

theorem leapDay_cast (leap : Bool) : (if leap = true then 1 else 0 : ℤ) = ((if leap = true then 1 else 0 : ℕ) : ℤ) := by
  cases leap <;> rfl

/-- **Valid dates are in the order of their days.** -/
theorem date_lt_of_dayNumber {d d' : CivilDate} (h : d.Valid) (h' : d'.Valid) (hlt : d.dayNumber < d'.dayNumber) :
    d.year < d'.year ∨ d.year = d'.year ∧ (d.month < d'.month ∨ d.month = d'.month ∧ d.day < d'.day) := by
  obtain ⟨hmonth, hday⟩ := h
  obtain ⟨hmonth', hday'⟩ := h'
  unfold CivilDate.dayNumber at hlt
  rcases lt_trichotomy d.year d'.year with hyear | hyear | hyear
  · exact .inl hyear
  · refine .inr ⟨hyear, ?_⟩
    rw [hyear] at hlt hday
    rcases lt_trichotomy d.month d'.month with hm | hm | hm
    · exact .inl hm
    · refine .inr ⟨hm, ?_⟩
      rw [hm] at hlt
      omega
    · have hbefore := daysBeforeMonth_mono (isLeap d'.year) hmonth'.1 hm
      omega
  · have hyears := daysBeforeYear_mono (show d'.year + 1 ≤ d.year by omega)
    have hbound := daysBeforeMonth_bound (isLeap d'.year) hmonth'
    rw [CivilDate.daysBeforeYear_succ, leapDay_cast] at hyears
    generalize (if isLeap d'.year = true then 1 else 0 : ℕ) = leapDay at hyears hbound
    omega

theorem year_bounds {d : CivilDate} (h : d.Valid) (hday : -719162 ≤ d.dayNumber ∧ d.dayNumber ≤ 2932896) :
    1 ≤ d.year ∧ d.year ≤ 9999 := by
  obtain ⟨hmonth, hdays⟩ := h
  unfold CivilDate.dayNumber at hday
  have hbound := daysBeforeMonth_bound (isLeap d.year) hmonth
  constructor
  · by_contra hyear
    have hyears := daysBeforeYear_mono (show d.year + 1 ≤ 1 by omega)
    rw [CivilDate.daysBeforeYear_succ, leapDay_cast, show daysBeforeYear 1 = 0 from rfl] at hyears
    generalize (if isLeap d.year = true then 1 else 0 : ℕ) = leapDay at hyears hbound
    omega
  · by_contra hyear
    have hyears := daysBeforeYear_mono (show 10000 ≤ d.year by omega)
    rw [show daysBeforeYear 10000 = 3652059 from rfl] at hyears
    omega

/-! ### Times -/

/-- The template of a time down to its seconds. -/
def template : List (ℕ × List Char) := [(4, ['-']), (2, ['-']), (2, ['T']), (2, [':']), (2, [':']), (2, [])]

/-- The numbers of the whole seconds since the start of year 1. -/
def secondFields (seconds : ℤ) : List ℕ :=
  let date := civil (seconds / 86400 - 719162)
  [date.year.toNat, date.month, date.day, (seconds % 86400 / 3600).toNat, (seconds % 3600 / 60).toNat,
    (seconds % 60).toNat]

/-- The whole seconds of the years 1 to 9999. -/
def InRange (seconds : ℤ) : Prop := 0 ≤ seconds ∧ seconds < 315537897600

theorem year_of_inRange {seconds : ℤ} (h : InRange seconds) :
    1 ≤ (civil (seconds / 86400 - 719162)).year ∧ (civil (seconds / 86400 - 719162)).year ≤ 9999 := by
  obtain ⟨hlow, hhigh⟩ := h
  refine year_bounds (valid_civil _) ?_
  rw [dayNumber_civil]
  omega

theorem fit_secondFields {seconds : ℤ} (h : InRange seconds) : Fit template (secondFields seconds) := by
  have hyear := year_of_inRange h
  obtain ⟨hmonth, hday⟩ := valid_civil (seconds / 86400 - 719162)
  have hlength : ∀ leap : Bool, ∀ month, monthLength leap month ≤ 31 := by
    intro leap month
    unfold monthLength
    split_ifs <;> omega
  have hle := hlength (isLeap (civil (seconds / 86400 - 719162)).year) (civil (seconds / 86400 - 719162)).month
  unfold template secondFields
  exact ⟨by omega, by omega, by omega, by omega, by omega, by omega, trivial⟩

/-- **The numbers of a time are in the order of time.** -/
theorem secondFields_lt_of_lt {s t : ℤ} (hs : InRange s) (ht : InRange t) (h : s < t) : secondFields s < secondFields t := by
  have hyear := year_of_inRange hs
  have hyear' := year_of_inRange ht
  unfold secondFields
  simp only [cons_lt_cons_iff]
  rcases lt_or_ge (s / 86400) (t / 86400) with hday | hday
  · have hdate := date_lt_of_dayNumber (valid_civil (s / 86400 - 719162)) (valid_civil (t / 86400 - 719162))
      (by rw [dayNumber_civil, dayNumber_civil]; omega)
    omega
  · obtain hsame : s / 86400 = t / 86400 := by omega
    rw [hsame]
    omega

theorem secondFields_lt_iff {s t : ℤ} (hs : InRange s) (ht : InRange t) : secondFields s < secondFields t ↔ s < t := by
  refine ⟨fun h => ?_, secondFields_lt_of_lt hs ht⟩
  rcases lt_trichotomy s t with hlt | rfl | hgt
  · exact hlt
  · exact absurd h (List.lt_irrefl _)
  · exact absurd (secondFields_lt_of_lt ht hs hgt) (List.lt_asymm h)

theorem secondFields_inj {s t : ℤ} (hs : InRange s) (ht : InRange t) (h : secondFields s = secondFields t) : s = t := by
  rcases lt_trichotomy s t with hlt | heq | hgt
  · exact absurd (h ▸ secondFields_lt_of_lt hs ht hlt) (List.lt_irrefl _)
  · exact heq
  · exact absurd (h ▸ secondFields_lt_of_lt ht hs hgt) (List.lt_irrefl _)

/-! ### The text of a time in UTC -/

/-- The whole seconds and the microseconds of a time. -/
def second (t : UtcTime) : ℤ := t.micros / 1000000

def microsecond (t : UtcTime) : ℕ := (t.micros % 1000000).toNat

/-- The fraction of a text, and what follows it. -/
def fraction (us : ℕ) : List Char := (if us = 0 then [] else '.' :: digits 6 us) ++ ['Z']

/-- `t.isoformat().replace("+00:00", "Z")`: the offset of a time in UTC is the only one in its text. -/
def zulu (t : UtcTime) : String := String.ofList (fields template (secondFields (second t)) ++ fraction (microsecond t))

theorem inRange_second (t : UtcTime) : InRange (second t) := by
  have hnonneg := t.nonneg
  have hlt := t.lt_max
  unfold maxMicros at hlt
  unfold second InRange
  omega

theorem fraction_lt_iff {us us' : ℕ} (h : us < 1000000) (h' : us' < 1000000) :
    fraction us < fraction us' ↔ us ≠ 0 ∧ (us' = 0 ∨ us < us') := by
  have hdot : ('.' : Char) < 'Z' := by decide
  unfold fraction
  by_cases hzero : us = 0 <;> by_cases hzero' : us' = 0
  · rw [if_pos hzero, if_pos hzero']
    exact ⟨fun h => absurd h (List.lt_irrefl _), fun h => absurd hzero h.1⟩
  · rw [if_pos hzero, if_neg hzero', List.nil_append, List.cons_append, List.cons_lt_cons_iff]
    exact ⟨fun h => h.elim (fun h => absurd h (by decide)) fun h => absurd h.1 (by decide), fun h => absurd hzero h.1⟩
  · rw [if_neg hzero, if_pos hzero', nil_append, cons_append, cons_lt_cons_iff]
    exact ⟨fun _ => ⟨hzero, .inl hzero'⟩, fun _ => .inl hdot⟩
  · rw [if_neg hzero, if_neg hzero', append_lt_append_iff (by rw [length_cons, length_cons, length_digits,
      length_digits]), cons_lt_cons_iff, digits_lt_iff (by omega) (by omega)]
    constructor
    · rintro ((hlt | ⟨-, hlt⟩) | ⟨-, hlt⟩)
      · exact absurd hlt (by decide)
      · exact ⟨hzero, .inr hlt⟩
      · exact absurd hlt (List.lt_irrefl _)
    · rintro ⟨-, hnone | hlt⟩
      · exact absurd hnone hzero'
      · exact .inl (.inr ⟨rfl, hlt⟩)

/-- **The order of two texts**: that of the seconds, and within a second that of the fractions, where none is last. -/
theorem zulu_lt_iff (s t : UtcTime) : zulu s < zulu t ↔ second s < second t ∨ second s = second t ∧
    microsecond s ≠ 0 ∧ (microsecond t = 0 ∨ microsecond s < microsecond t) := by
  have hs := inRange_second s
  have ht := inRange_second t
  have hseconds : secondFields (second s) = secondFields (second t) ↔ second s = second t :=
    ⟨secondFields_inj hs ht, congrArg _⟩
  unfold zulu
  rw [String.lt_iff, String.toList_ofList, String.toList_ofList,
    fields_append_lt_iff (fit_secondFields hs) (fit_secondFields ht), secondFields_lt_iff hs ht, hseconds,
    fraction_lt_iff (by unfold microsecond; omega) (by unfold microsecond; omega)]

end ComputeMesh.IsoDatetime
