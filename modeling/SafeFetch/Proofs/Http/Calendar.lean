import SafeFetch.Http.Date

/-!
# Days of the civil calendar

Days follow one another: the day after the last one of a month is the first one of the next month,
and a year follows December. The number that a day has in a date is found by counting such steps
from the beginning of 1970, on or back, and no day is out of reach.

## Main definitions

* `monthLength`: how many days a month has;
* `Day`: a day that the calendar has;
* `Day.next` and `Day.later`: the days that follow;
* `Day.IsNumbered`: the number of steps from the beginning of 1970 to a day.

## Main results

* `Day.number_next`: the number of a day is one less than that of the next day;
* `Day.exists_later_first`: every day follows the first day of year one;
* `Day.isNumbered_iff`: steps are counted by the number of a day.
-/

namespace SafeFetch.Http.Date

variable {year month n : Nat}

/-! ## Months and years -/

/-- A year has a leap day if four divides it, but for the centuries that 400 does not divide. -/
def IsLeapYear (year : Nat) : Prop := 4 ∣ year ∧ (100 ∣ year → 400 ∣ year)

instance (year : Nat) : Decidable (IsLeapYear year) := by
  unfold IsLeapYear
  infer_instance

/-- The days of the months of a year. -/
def monthLengths (year : Nat) : List Nat :=
  [31, if IsLeapYear year then 29 else 28, 31, 30, 31, 30, 31, 31, 30, 31, 30, 31]

/-- The number of days in a month. -/
def monthLength (year month : Nat) : Nat := (monthLengths year).getD (month - 1) 0

theorem isLeap_eq_true_iff : isLeap year = true ↔ IsLeapYear year := by
  simp only [isLeap, Bool.and_eq_true, Bool.or_eq_true, beq_iff_eq, bne_iff_ne, IsLeapYear]
  omega

/-- The months of a date have the lengths of the months of the calendar. -/
theorem daysIn_eq (isMonth : 1 ≤ month ∧ month ≤ 12) :
    daysIn year month = monthLength year month := by
  obtain rfl | rfl | rfl | rfl | rfl | rfl | rfl | rfl | rfl | rfl | rfl | rfl :
      month = 1 ∨ month = 2 ∨ month = 3 ∨ month = 4 ∨ month = 5 ∨ month = 6 ∨ month = 7 ∨
        month = 8 ∨ month = 9 ∨ month = 10 ∨ month = 11 ∨ month = 12 := by
    omega
  all_goals simp [daysIn, monthLength, monthLengths, isLeap_eq_true_iff]

/-- A month adds its days to those before it. -/
theorem daysBeforeMonth_succ (isMonth : 1 ≤ month) :
    daysBeforeMonth year (month + 1) = daysBeforeMonth year month + daysIn year month := by
  obtain ⟨before, rfl⟩ := Nat.exists_eq_add_of_le' isMonth
  rw [daysBeforeMonth, daysBeforeMonth, ← List.sum_eq_foldr, ← List.sum_eq_foldr,
    Nat.add_sub_cancel, Nat.add_sub_cancel, List.range_succ, List.map_append, List.sum_append,
    List.map_singleton, List.sum_singleton]

/-- The months of a year have 365 days, and a leap year has one more. -/
theorem daysBeforeMonth_december : daysBeforeMonth year 12 + daysIn year 12 =
    365 + if isLeap year then 1 else 0 := by
  simp only [daysBeforeMonth, daysIn]
  generalize isLeap year = leap
  cases leap <;> decide

/-- A year adds its days to those before it. -/
theorem daysBeforeYear_succ (isYear : 1 ≤ year) :
    daysBeforeYear (year + 1) = daysBeforeYear year + daysBeforeMonth year 12 + daysIn year 12 := by
  obtain ⟨past, rfl⟩ := Nat.exists_eq_add_of_le' isYear
  have fewer : past / 100 ≤ past / 4 := Nat.div_le_div_left (by decide) (by decide)
  rw [Nat.add_assoc (daysBeforeYear _), daysBeforeMonth_december, daysBeforeYear, daysBeforeYear]
  simp only [Nat.add_sub_cancel, Nat.succ_div, isLeap_eq_true_iff, IsLeapYear]
  -- A multiple of 400 is one of a hundred, and that is one of four.
  by_cases four : 4 ∣ past + 1
  · by_cases hundred : 100 ∣ past + 1
    · by_cases fourHundred : 400 ∣ past + 1
      · simp only [four, hundred, fourHundred, true_and, imp_self, if_true]
        omega
      · simp only [four, hundred, fourHundred, true_and, imp_false, not_true_eq_false, if_true,
          if_false]
        omega
    · have fourHundred : ¬ 400 ∣ past + 1 := fun multiple =>
        hundred (Nat.dvd_trans (by decide) multiple)
      simp only [four, hundred, fourHundred, true_and, imp_self, if_true, if_false]
      omega
  · have hundred : ¬ 100 ∣ past + 1 := fun multiple => four (Nat.dvd_trans (by decide) multiple)
    have fourHundred : ¬ 400 ∣ past + 1 := fun multiple =>
      hundred (Nat.dvd_trans (by decide) multiple)
    simp only [four, hundred, fourHundred, false_and, if_false]
    omega

/-! ## Days -/

/-- A day of the civil calendar. -/
@[ext]
structure Day where
  year : Nat
  month : Nat
  day : Nat
  isYear : 1 ≤ year
  isMonth : 1 ≤ month ∧ month ≤ 12
  isDay : 1 ≤ day ∧ day ≤ monthLength year month
  deriving DecidableEq, Repr

/-- Every month has a first day. -/
theorem monthLength_pos (isMonth : 1 ≤ month ∧ month ≤ 12) : 1 ≤ monthLength year month := by
  rw [← daysIn_eq isMonth, daysIn]
  repeat' split
  all_goals decide

namespace Day

variable {d : Day} {days : Int}

/-- The first day of a month. -/
def firstOf (year month : Nat) (isYear : 1 ≤ year) (isMonth : 1 ≤ month ∧ month ≤ 12) : Day where
  year := year
  month := month
  day := 1
  isYear := isYear
  isMonth := isMonth
  isDay := ⟨Nat.le_refl 1, monthLength_pos isMonth⟩

/-- The last day of a month. -/
def lastOf (year month : Nat) (isYear : 1 ≤ year) (isMonth : 1 ≤ month ∧ month ≤ 12) : Day where
  year := year
  month := month
  day := monthLength year month
  isYear := isYear
  isMonth := isMonth
  isDay := ⟨monthLength_pos isMonth, Nat.le_refl _⟩

/-- The day after a day. -/
def next (d : Day) : Day :=
  if within : d.day < monthLength d.year d.month then
    { d with day := d.day + 1, isDay := ⟨Nat.le_add_left 1 d.day, within⟩ }
  else if before : d.month < 12 then
    firstOf d.year (d.month + 1) d.isYear ⟨Nat.le_add_left 1 d.month, before⟩
  else firstOf (d.year + 1) 1 (Nat.le_add_left 1 d.year) (by decide)

/-- The day a number of days after a day. -/
def later (d : Day) : Nat → Day
  | 0 => d
  | n + 1 => (d.later n).next

/-- The first day of year one. -/
def first : Day := firstOf 1 1 (by decide) (by decide)

/-- The first day of 1970. -/
def epoch : Day := firstOf 1970 1 (by decide) (by decide)

/-- The steps from the beginning of 1970 to a day; they are negative if the day is before it. -/
def IsNumbered (d : Day) : Int → Prop
  | .ofNat n => epoch.later n = d
  | .negSucc n => d.later (n + 1) = epoch

/-- The number that a day has in a date. -/
def number (d : Day) : Int := dayNumber d.year d.month d.day

/-- The day after the last one of a month is the first one of the next month. -/
theorem next_lastOf (isYear : 1 ≤ year) (isMonth : 1 ≤ month) (before : month < 12) :
    (lastOf year month isYear ⟨isMonth, Nat.le_of_lt before⟩).next =
      firstOf year (month + 1) isYear ⟨Nat.le_add_left 1 month, before⟩ := by
  simp [next, lastOf, before]

/-- The year after the last day of December is the next one. -/
theorem next_lastOf_december (isYear : 1 ≤ year) :
    (lastOf year 12 isYear (by decide)).next =
      firstOf (year + 1) 1 (Nat.le_add_left 1 year) (by decide) := by
  simp [next, lastOf]

/-- The number of a day is one less than that of the next day. -/
theorem number_next (d : Day) : d.next.number = d.number + 1 := by
  obtain ⟨year, month, day, isYear, isMonth, isDay⟩ := d
  have length : daysIn year month = monthLength year month := daysIn_eq isMonth
  rw [next]
  dsimp only
  split
  next within =>
    simp only [number, dayNumber]
    omega
  next last =>
    split
    next before =>
      simp only [number, dayNumber, firstOf, daysBeforeMonth_succ isMonth.1]
      omega
    next whole =>
      obtain rfl : month = 12 := by omega
      have begins : daysBeforeMonth (year + 1) 1 = 0 := rfl
      simp only [number, dayNumber, firstOf, daysBeforeYear_succ isYear, begins]
      omega

theorem number_later (d : Day) (n : Nat) : (d.later n).number = d.number + n := by
  induction n with
  | zero => simp [later]
  | succ n ih =>
    rw [later, number_next, ih]
    omega

/-- Steps add up. -/
theorem later_add (d : Day) (n m : Nat) : d.later (n + m) = (d.later n).later m := by
  induction m with
  | zero => rfl
  | succ m ih => rw [← Nat.add_assoc, later, later, ih]

/-- Every day but the first one has a day before it. -/
theorem exists_next_eq (later : d ≠ first) : ∃ before : Day, before.next = d := by
  obtain ⟨year, month, day, isYear, isMonth, isDay⟩ := d
  by_cases inside : 1 < day
  · refine ⟨⟨year, month, day - 1, isYear, isMonth, by omega, by omega⟩, ?_⟩
    have within : day - 1 < monthLength year month := by omega
    rw [next, dif_pos within, Day.mk.injEq]
    exact ⟨rfl, rfl, Nat.sub_add_cancel isDay.1⟩
  obtain rfl : day = 1 := by omega
  by_cases afterFirst : 1 < month
  · obtain ⟨before, rfl⟩ := Nat.exists_eq_add_of_le' isMonth.1
    exact ⟨_, next_lastOf isYear (by omega) (by omega)⟩
  obtain rfl : month = 1 := by omega
  by_cases pastFirst : 1 < year
  · obtain ⟨before, rfl⟩ := Nat.exists_eq_add_of_le' isYear
    exact ⟨_, next_lastOf_december (by omega)⟩
  obtain rfl : year = 1 := by omega
  exact absurd rfl later

/-- No day is before the first one. -/
theorem number_first_le (d : Day) : first.number ≤ d.number := by
  have nothing : daysBeforeYear 1 + daysBeforeMonth 1 1 + (1 - 1) = 0 := by decide
  simp only [number, dayNumber, first, firstOf, nothing]
  omega

/-- Every day follows the first day of year one. -/
theorem exists_later_first (d : Day) : ∃ n, first.later n = d := by
  -- The induction is on the number of the day, counted from the first one.
  obtain ⟨n, steps⟩ : ∃ n : Nat, d.number = first.number + n :=
    Int.le.dest (number_first_le d) |>.imp fun _ same => same.symm
  induction n generalizing d with
  | zero =>
    by_cases isFirst : d = first
    · exact ⟨0, isFirst.symm⟩
    · obtain ⟨before, rfl⟩ := exists_next_eq isFirst
      have least := number_first_le before
      rw [number_next] at steps
      omega
  | succ n ih =>
    by_cases isFirst : d = first
    · exact ⟨0, isFirst.symm⟩
    · obtain ⟨before, rfl⟩ := exists_next_eq isFirst
      rw [number_next] at steps
      obtain ⟨m, rfl⟩ := ih before (by omega)
      exact ⟨m + 1, rfl⟩

theorem number_epoch : epoch.number = 0 := by
  decide

/-- Steps from the beginning of 1970 are counted by the number of a day. -/
theorem isNumbered_iff : d.IsNumbered days ↔ days = d.number := by
  obtain ⟨n, rfl⟩ := exists_later_first d
  obtain ⟨e, isEpoch⟩ := exists_later_first epoch
  have counted := number_later first e
  rw [isEpoch, number_epoch] at counted
  have number := number_later first n
  cases days with
  | ofNat m =>
    rw [IsNumbered, Int.ofNat_eq_natCast]
    constructor
    · intro reached
      rw [← reached, number_later, number_epoch]
      omega
    · intro same
      obtain rfl : n = e + m := by omega
      rw [later_add, isEpoch]
  | negSucc m =>
    rw [IsNumbered]
    constructor
    · intro reached
      have back := number_later (first.later n) (m + 1)
      rw [reached, number_epoch] at back
      omega
    · intro same
      obtain rfl : e = n + (m + 1) := by omega
      rw [← later_add, isEpoch]

end Day

end SafeFetch.Http.Date
