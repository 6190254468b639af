import PolicyDesk.Calendar.Date

/-!
# Counting days

A day number is what is counted on a calendar, day by day.

* `Date.IsNext`: the day after, by the lengths of the months.
* `Date.DaysAfter`: so many days after 1970-01-01, forwards or backwards.
* `dayNumber_next`: the number of the next day is the next number.
* `yearStart_le`, `lt_yearStart`, `monthOf_bounds`: a day number lies in the year and the month that are found for it.
* `ofDayNumber?_dayNumber`, `dayNumber_of_ofDayNumber?`: a date is found by its number.
* `ofDayNumber?_isSome_iff`: there is one for every number between the ends of the calendar.
* `ofDayNumber?_eq_some_iff`: the date that is found is the one so many days after 1970-01-01.
-/

namespace PolicyDesk.Date

/-! ## The calendar day by day -/

/-- The second date is the day after the first. -/
inductive IsNext (d e : Date) : Prop
  /-- The month goes on. -/
  | inMonth (year : e.year = d.year) (month : e.month = d.month) (day : e.day = d.day + 1)
  /-- The month is over. -/
  | inYear (last : d.day = monthLength (isLeap d.year) d.month) (year : e.year = d.year)
      (month : e.month = d.month + 1) (day : e.day = 1)
  /-- The year is over. -/
  | newYear (last : d.month = 12 ∧ d.day = 31) (year : e.year = d.year + 1) (first : e.month = 1 ∧ e.day = 1)

/-- So many days after 1970-01-01; a negative number of days is counted backwards. -/
inductive DaysAfter : Int → Date → Prop
  | epoch : DaysAfter 0 epoch
  | forth {n : Int} {d e : Date} (known : DaysAfter n d) (next : d.IsNext e) : DaysAfter (n + 1) e
  | back {n : Int} {d e : Date} (known : DaysAfter n e) (next : d.IsNext e) : DaysAfter (n - 1) d

/-- How many days a year has. -/
def yearLength (leap : Bool) : Nat := if leap then 366 else 365

theorem yearStart_eq (year : Int) :
    yearStart year = 365 * (year - 1) + (year - 1) / 4 - (year - 1) / 100 + (year - 1) / 400 - 719162 := rfl

theorem isLeap_iff {year : Int} : isLeap year = true ↔ year % 4 = 0 ∧ (year % 100 ≠ 0 ∨ year % 400 = 0) := by
  simp [isLeap]

theorem yearStart_succ (year : Int) : yearStart (year + 1) = yearStart year + yearLength (isLeap year) := by
  rw [yearStart_eq, yearStart_eq]
  cases leap : isLeap year with
  | true =>
    have rule := isLeap_iff.mp leap
    simp only [yearLength, if_true]
    omega
  | false =>
    have rule := mt isLeap_iff.mpr (show ¬ isLeap year = true by simp [leap])
    simp only [yearLength, Bool.false_eq_true, if_false]
    omega

theorem monthStart_succ (leap : Bool) (m : Nat) :
    monthStart leap (m + 2) = monthStart leap (m + 1) + monthLength leap (m + 1) := by
  simp [monthStart, List.range_succ]

theorem monthStart_thirteen (leap : Bool) : monthStart leap 13 = yearLength leap := by
  have all : ∀ leap, monthStart leap 13 = yearLength leap := by decide
  exact all leap

theorem parts (d : Date) :
    firstYear ≤ d.year ∧ d.year ≤ lastYear ∧ 1 ≤ d.month ∧ d.month ≤ 12 ∧ 1 ≤ d.day ∧
      d.day ≤ monthLength (isLeap d.year) d.month := by
  have real := d.real
  simpa only [exists?, Bool.and_eq_true, decide_eq_true_eq, and_assoc] using real

theorem ext_parts {d e : Date} (year : d.year = e.year) (month : d.month = e.month) (day : d.day = e.day) :
    d = e := by
  cases d
  cases e
  simp_all

/-- **The number of the next day is the next number.** -/
theorem dayNumber_next {d e : Date} (h : d.IsNext e) : e.dayNumber = d.dayNumber + 1 := by
  obtain ⟨-, -, month, -, day, -⟩ := d.parts
  unfold dayNumber
  cases h with
  | inMonth year month' day' =>
    rw [year, month', day']
    omega
  | inYear last year month' day' =>
    obtain ⟨m, hm⟩ : ∃ m, d.month = m + 1 := ⟨d.month - 1, by omega⟩
    have start := monthStart_succ (isLeap d.year) m
    rw [hm] at last
    rw [year, month', day', hm, start, last]
    omega
  | newYear last year first =>
    obtain ⟨december, day'⟩ := last
    have whole : yearLength (isLeap d.year) = monthStart (isLeap d.year) 12 + 31 := by
      rw [← monthStart_thirteen]
      exact monthStart_succ (isLeap d.year) 11
    have start := yearStart_succ d.year
    have january : ∀ leap, monthStart leap 1 = 0 := by decide
    rw [year, first.1, first.2, december, day', january, start, whole]
    omega

theorem dayNumber_of_daysAfter {n : Int} {d : Date} (h : DaysAfter n d) : d.dayNumber = n := by
  induction h with
  | epoch => decide
  | forth _ next ih =>
    rw [dayNumber_next next, ih]
  | back _ next ih =>
    have step := dayNumber_next next
    omega

/-! ## Finding the date of a day number -/

theorem yearStart_mono {y z : Int} (h : y ≤ z) : yearStart y ≤ yearStart z := by
  rw [yearStart_eq, yearStart_eq]
  omega

theorem yearStart_le (n : Int) : yearStart (yearOf n) ≤ n := by
  unfold yearOf
  simp only
  split
  · rw [yearStart_eq] at *
    omega
  · split
    · assumption
    · omega

theorem lt_yearStart (n : Int) : n < yearStart (yearOf n + 1) := by
  unfold yearOf
  simp only
  split
  · rename_i before
    rwa [Int.sub_add_cancel]
  · split
    · simp only [yearStart_eq] at *
      omega
    · omega

/-- Only one year holds a day number. -/
theorem yearOf_eq {n y : Int} (low : yearStart y ≤ n) (high : n < yearStart (y + 1)) : yearOf n = y := by
  have start := yearStart_le n
  have stop := lt_yearStart n
  obtain before | same | behind := Int.lt_trichotomy (yearOf n) y
  · have := yearStart_mono (show yearOf n + 1 ≤ y by omega)
    omega
  · exact same
  · have := yearStart_mono (show y + 1 ≤ yearOf n by omega)
    omega

theorem monthStart_mono (leap : Bool) {m k : Nat} (h : m ≤ k) : monthStart leap (m + 1) ≤ monthStart leap (k + 1) := by
  induction h with
  | refl => exact Nat.le_refl _
  | step _ ih =>
    rw [monthStart_succ]
    omega

/-- A day of a month is found again by its place in the year: the months that start by then are those up to it. -/
theorem monthOf_monthStart {leap : Bool} {month day : Nat} (low : 1 ≤ month) (high : month ≤ 12)
    (fits : day < monthLength leap month) : monthOf leap (monthStart leap month + day) = month := by
  obtain ⟨m, rfl⟩ : ∃ m, month = m + 1 := ⟨month - 1, by omega⟩
  have started : ∀ k, monthStart leap (k + 2) ≤ monthStart leap (m + 1) + day ↔ k < m := by
    intro k
    have next := monthStart_succ leap m
    obtain before | behind := Nat.lt_or_ge k m
    · have : monthStart leap (k + 2) ≤ monthStart leap (m + 1) := monthStart_mono leap before
      exact iff_of_true (by omega) before
    · have : monthStart leap (m + 2) ≤ monthStart leap (k + 2) := monthStart_mono leap (by omega)
      exact iff_of_false (by omega) (by omega)
  have count : ∀ m < 12, 1 + ((List.range 11).filter fun k => decide (k < m)).length = m + 1 := by decide
  simp only [monthOf, started]
  exact count m (by omega)

/-- A day before a month lies in a month before it. -/
theorem exists_month {leap : Bool} {day k : Nat} (h : day < monthStart leap (k + 1)) :
    ∃ m, 1 ≤ m ∧ m ≤ k ∧ monthStart leap m ≤ day ∧ day < monthStart leap m + monthLength leap m := by
  induction k with
  | zero => cases h
  | succ k ih =>
    by_cases before : day < monthStart leap (k + 1)
    · obtain ⟨m, low, high, start, stop⟩ := ih before
      exact ⟨m, low, by omega, start, stop⟩
    · rw [monthStart_succ] at h
      exact ⟨k + 1, by omega, Nat.le_refl _, by omega, h⟩

/-- The day lies in the month that is found for it. -/
theorem monthOf_bounds {leap : Bool} {day : Nat} (h : day < yearLength leap) :
    (1 ≤ monthOf leap day ∧ monthOf leap day ≤ 12) ∧ monthStart leap (monthOf leap day) ≤ day ∧
      day < monthStart leap (monthOf leap day) + monthLength leap (monthOf leap day) := by
  rw [← monthStart_thirteen] at h
  obtain ⟨m, low, high, start, stop⟩ := exists_month h
  have found := monthOf_monthStart low high (show day - monthStart leap m < monthLength leap m by omega)
  rw [Nat.add_sub_cancel' start] at found
  rw [found]
  exact ⟨⟨low, high⟩, start, stop⟩

/-- A date lies in its year. -/
theorem dayNumber_inYear (d : Date) : yearStart d.year ≤ d.dayNumber ∧ d.dayNumber < yearStart (d.year + 1) := by
  obtain ⟨-, -, month, month', day, day'⟩ := d.parts
  have fits := monthStart_mono (isLeap d.year) (show d.month - 1 + 1 ≤ 12 by omega)
  rw [monthStart_succ, Nat.sub_add_cancel month, monthStart_thirteen] at fits
  rw [yearStart_succ]
  unfold dayNumber
  omega

/-- **A date is found by its number.** -/
theorem ofDayNumber?_dayNumber (d : Date) : ofDayNumber? d.dayNumber = some d := by
  obtain ⟨-, -, month, month', day, day'⟩ := d.parts
  have year : yearOf d.dayNumber = d.year := yearOf_eq d.dayNumber_inYear.1 d.dayNumber_inYear.2
  have dayOfYear : (d.dayNumber - yearStart d.year).toNat =
      monthStart (isLeap d.year) d.month + (d.day - 1) := by
    unfold dayNumber
    omega
  have found := monthOf_monthStart month month' (show d.day - 1 < monthLength (isLeap d.year) d.month by omega)
  unfold ofDayNumber?
  simp only [year, dayOfYear, found]
  rw [Nat.add_sub_cancel_left, Nat.sub_add_cancel day]
  exact dif_pos d.real

theorem dayNumber_injective {d e : Date} (h : d.dayNumber = e.dayNumber) : d = e := by
  have found := d.ofDayNumber?_dayNumber
  rw [h, e.ofDayNumber?_dayNumber] at found
  exact (Option.some.inj found).symm

theorem ofParts?_eq_some {year : Int} {month day : Nat} {d : Date} (h : ofParts? year month day = some d) :
    d.year = year ∧ d.month = month ∧ d.day = day := by
  unfold ofParts? at h
  split at h
  · cases h
    exact ⟨rfl, rfl, rfl⟩
  · cases h

/-- The date that is found has this number. -/
theorem dayNumber_of_ofDayNumber? {n : Int} {d : Date} (h : ofDayNumber? n = some d) : d.dayNumber = n := by
  obtain ⟨year, month, day⟩ := ofParts?_eq_some h
  have start := yearStart_le n
  have stop := lt_yearStart n
  rw [yearStart_succ] at stop
  obtain ⟨-, before, -⟩ :=
    monthOf_bounds (show (n - yearStart (yearOf n)).toNat < yearLength (isLeap (yearOf n)) by omega)
  unfold dayNumber
  rw [year, month, day]
  omega

/-! ## Every date is reached -/

/-- The first day of the calendar. -/
def first : Date := ⟨firstYear, 1, 1, by decide⟩

/-- The last day of the calendar. -/
def last : Date := ⟨lastYear, 12, 31, by decide⟩

theorem monthLength_pos (leap : Bool) (m : Nat) : 1 ≤ monthLength leap m := by
  unfold monthLength
  split
  · split <;> decide
  all_goals decide

theorem real_of_parts {year : Int} {month day : Nat} (h₁ : firstYear ≤ year) (h₂ : year ≤ lastYear) (h₃ : 1 ≤ month)
    (h₄ : month ≤ 12) (h₅ : 1 ≤ day) (h₆ : day ≤ monthLength (isLeap year) month) :
    exists? year month day = true := by
  simp only [exists?, Bool.and_eq_true, decide_eq_true_eq]
  exact ⟨⟨⟨⟨⟨h₁, h₂⟩, h₃⟩, h₄⟩, h₅⟩, h₆⟩

/-- Every day but the last has a next one. -/
theorem exists_next {d : Date} (h : d ≠ last) : ∃ e, d.IsNext e := by
  obtain ⟨year, year', month, month', day, day'⟩ := d.parts
  by_cases inMonth : d.day < monthLength (isLeap d.year) d.month
  · exact ⟨⟨d.year, d.month, d.day + 1, real_of_parts year year' month month' (by omega) inMonth⟩,
      .inMonth rfl rfl rfl⟩
  · by_cases inYear : d.month < 12
    · exact ⟨⟨d.year, d.month + 1, 1,
        real_of_parts year year' (by omega) inYear (Nat.le_refl 1) (monthLength_pos _ _)⟩,
        .inYear (by omega) rfl rfl rfl⟩
    · have december : d.month = 12 := by omega
      have long : ∀ leap, monthLength leap 12 = 31 := by decide
      rw [december, long] at day' inMonth
      have notLast : d.year ≠ lastYear := fun same => h (ext_parts same december (by simp [last]; omega))
      exact ⟨⟨d.year + 1, 1, 1,
        real_of_parts (by omega) (by omega) (Nat.le_refl 1) (by decide) (Nat.le_refl 1) (monthLength_pos _ _)⟩,
        .newYear ⟨december, by omega⟩ rfl ⟨rfl, rfl⟩⟩

/-- Every day but the first is the next one of some day. -/
theorem exists_previous {e : Date} (h : e ≠ first) : ∃ d : Date, d.IsNext e := by
  obtain ⟨year, year', month, month', day, day'⟩ := e.parts
  by_cases inMonth : 1 < e.day
  · exact ⟨⟨e.year, e.month, e.day - 1, real_of_parts year year' month month' (by omega) (by omega)⟩,
      .inMonth rfl rfl (by simp only; omega)⟩
  · by_cases inYear : 1 < e.month
    · exact ⟨⟨e.year, e.month - 1, monthLength (isLeap e.year) (e.month - 1),
        real_of_parts year year' (by omega) (by omega) (monthLength_pos _ _) (Nat.le_refl _)⟩,
        .inYear rfl rfl (by simp only; omega) (by omega)⟩
    · have notFirst : e.year ≠ firstYear := fun same =>
        h (ext_parts same (by simp [first]; omega) (by simp [first]; omega))
      exact ⟨⟨e.year - 1, 12, 31, real_of_parts (by omega) (by omega) (by decide) (by decide) (by decide)
        (by simp [monthLength])⟩, .newYear ⟨rfl, rfl⟩ (by simp only; omega) ⟨by omega, by omega⟩⟩

/-- **The calendar has no gaps**: a date is found for every number from that of the first to that of the last
    day, and for no other. -/
theorem ofDayNumber?_isSome_iff {n : Int} :
    (ofDayNumber? n).isSome ↔ first.dayNumber ≤ n ∧ n ≤ last.dayNumber := by
  have ends : first.dayNumber = yearStart firstYear ∧ last.dayNumber + 1 = yearStart (lastYear + 1) := by decide
  constructor
  · intro h
    obtain ⟨d, found⟩ := Option.isSome_iff_exists.mp h
    have number := dayNumber_of_ofDayNumber? found
    obtain ⟨low, high⟩ := d.dayNumber_inYear
    obtain ⟨year, year', -⟩ := d.parts
    have := yearStart_mono year
    have := yearStart_mono (show d.year + 1 ≤ lastYear + 1 by omega)
    omega
  · rintro ⟨low, high⟩
    have start := yearStart_le n
    have stop := lt_yearStart n
    have year : firstYear ≤ yearOf n := by
      obtain h | h := Int.lt_or_le (yearOf n) firstYear
      · have := yearStart_mono (show yearOf n + 1 ≤ firstYear by omega)
        omega
      · exact h
    have year' : yearOf n ≤ lastYear := by
      obtain h | h := Int.lt_or_le lastYear (yearOf n)
      · have := yearStart_mono (show lastYear + 1 ≤ yearOf n by omega)
        omega
      · exact h
    rw [yearStart_succ] at stop
    obtain ⟨⟨month, month'⟩, before, behind⟩ :=
      monthOf_bounds (show (n - yearStart (yearOf n)).toNat < yearLength (isLeap (yearOf n)) by omega)
    unfold ofDayNumber? ofParts?
    simp only
    rw [dif_pos (real_of_parts year year' month month' (by omega) (by omega))]
    rfl

/-- Every date is counted to by its number: forwards by induction on the number, backwards on its opposite. -/
theorem daysAfter_dayNumber (d : Date) : DaysAfter d.dayNumber d := by
  have start : epoch.dayNumber = 0 := by decide
  have forwards : ∀ (n : Nat) (d : Date), d.dayNumber = n → DaysAfter n d := by
    intro n
    induction n with
    | zero =>
      intro d h
      rw [dayNumber_injective (h.trans start.symm)]
      exact .epoch
    | succ n ih =>
      intro d h
      have notFirst : d ≠ first := by
        rintro rfl
        have : first.dayNumber < 0 := by decide
        omega
      obtain ⟨c, next⟩ := exists_previous notFirst
      have step := dayNumber_next next
      exact .forth (ih c (by omega)) next
  have backwards : ∀ (n : Nat) (d : Date), d.dayNumber = -(n : Int) → DaysAfter (-(n : Int)) d := by
    intro n
    induction n with
    | zero =>
      intro d h
      rw [dayNumber_injective (h.trans start.symm)]
      exact .epoch
    | succ n ih =>
      intro d h
      have notLast : d ≠ last := by
        rintro rfl
        have : 0 < last.dayNumber := by decide
        omega
      obtain ⟨e, next⟩ := exists_next notLast
      have step := dayNumber_next next
      have counted := DaysAfter.back (ih e (by omega)) next
      rwa [show -(n : Int) - 1 = -((n + 1 : Nat) : Int) by omega] at counted
  obtain ⟨n, h | h⟩ := d.dayNumber.eq_nat_or_neg
  · rw [h]
    exact forwards n d h
  · rw [h]
    exact backwards n d h

/-- **The date that is found is the one so many days after 1970-01-01.** -/
theorem ofDayNumber?_eq_some_iff {n : Int} {d : Date} : ofDayNumber? n = some d ↔ DaysAfter n d := by
  constructor
  · intro h
    rw [← dayNumber_of_ofDayNumber? h]
    exact d.daysAfter_dayNumber
  · intro h
    rw [← dayNumber_of_daysAfter h]
    exact d.ofDayNumber?_dayNumber

end PolicyDesk.Date
