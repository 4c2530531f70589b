import Mathlib.Data.Bool.AllAny
import Mathlib.Data.List.TakeWhile
import SafeFetch.Proofs.Http.Calendar
import SafeFetch.Proofs.Http.Date
import SafeFetch.Proofs.Numeral

/-!
# Moments, word by word

The words of a date are joined by blanks, so the text falls apart into them again. What a word is
follows from its place and from its first character: the day of the week comes first, the name of a
month has no digits, a time has colons, and a year begins with a digit.

## Main definitions

* `Moment` and `Moment.seconds`: a day and a time of the day, and where it is in time;
* `Moment.clock` and `shortMonth`: how the time and the month are written;
* `IsWord`: a text that says something and can be seen.

## Main results

* `words_intercalate`: words joined by blanks are split at the blanks;
* `Moment.arrange?_dayFirst` and `Moment.arrange?_monthFirst`: the words of a moment are put into
  their fields, whichever of the day and the month comes first.
-/

namespace SafeFetch.Http.Date

open SafeFetch.Text SafeFetch.Text.Numeral

/-! ## Moments -/

/-- A day and a time of that day. -/
structure Moment where
  day : Day
  hour : Fin 24
  minute : Fin 60
  second : Fin 60
  deriving DecidableEq, Repr

/-- The seconds from the beginning of 1970 to a moment, whose day has the number `days`. -/
def Moment.seconds (moment : Moment) (days : Int) : Int :=
  days * 86400 + moment.hour * 3600 + moment.minute * 60 + moment.second

/-- The days of the week. -/
inductive Weekday where
  | monday
  | tuesday
  | wednesday
  | thursday
  | friday
  | saturday
  | sunday
  deriving DecidableEq, Repr

/-- The name of a day of the week. -/
def Weekday.name : Weekday → List Char
  | .monday => "Monday".toList
  | .tuesday => "Tuesday".toList
  | .wednesday => "Wednesday".toList
  | .thursday => "Thursday".toList
  | .friday => "Friday".toList
  | .saturday => "Saturday".toList
  | .sunday => "Sunday".toList

/-- The first three letters of a day of the week. -/
def Weekday.short (weekday : Weekday) : List Char := weekday.name.take 3

/-- The first three letters of a month. -/
def shortMonth (month : Nat) : List Char :=
  (["Jan", "Feb", "Mar", "Apr", "May", "Jun", "Jul", "Aug", "Sep", "Oct", "Nov", "Dec"].getD
    (month - 1) "").toList

variable {moment : Moment} {s time place : List Char} {month n : Nat} {c : Char}
  {pieces : List (List Char)}

/-- The time of a day. -/
def Moment.clock (moment : Moment) : List Char :=
  List.intercalate [':'] [twoDigits moment.hour, twoDigits moment.minute, twoDigits moment.second]

/-- A day of a month has at most two digits. -/
theorem Day.day_lt (day : Day) : day.day < 100 := by
  have last := day.isDay.2
  rw [← daysIn_eq day.isMonth, daysIn] at last
  repeat' split at last
  all_goals omega

/-! ## Words -/

/-- The words of a text are the pieces between white space that say something. -/
theorem words_eq_splitOnP (s : List Char) :
    Date.words s = (s.splitOnP isBlank).filter (!·.isEmpty) := by
  rw [Date.words]
  congr 1
  induction s with
  | nil => rfl
  | cons c s ih =>
    rw [List.foldr_cons, ih, List.splitOnP_cons_eq_if_modifyHead]
    cases pieces : s.splitOnP isBlank with
    | nil => exact absurd pieces (List.splitOnP_ne_nil isBlank s)
    | cons piece others => rfl

/-- A blank ends a word. -/
theorem words_append_blank (s rest : List Char) :
    Date.words (s ++ ' ' :: rest) = Date.words s ++ Date.words rest := by
  rw [words_eq_splitOnP, words_eq_splitOnP, words_eq_splitOnP,
    List.splitOnP_append_cons s rest (by decide), List.filter_append]

/-- A text without white space is one word, or none. -/
theorem words_of_visible (visible : ∀ c ∈ s, IsVisible c) :
    Date.words s = [s].filter (!·.isEmpty) := by
  rw [words_eq_splitOnP, List.splitOnP_eq_singleton]
  exact fun c isIn => (visible c isIn).not_blank

/-- Words joined by blanks are split at the blanks. -/
theorem words_intercalate (visible : ∀ piece ∈ pieces, ∀ c ∈ piece, IsVisible c) :
    Date.words (List.intercalate [' '] pieces) = pieces.filter (!·.isEmpty) := by
  induction pieces with
  | nil => rfl
  | cons piece rest ih =>
    rw [List.forall_mem_cons] at visible
    have alone := words_of_visible visible.1
    -- No blank stands behind the last piece.
    cases rest with
    | nil => rw [List.intercalate_singleton, alone]
    | cons next rest =>
      rw [List.intercalate_cons_cons, List.append_assoc, List.singleton_append,
        words_append_blank, alone, ih visible.2, ← List.filter_append, List.singleton_append]

/-- A text is a word: it says something, and all of it can be seen. -/
structure IsWord (s : List Char) : Prop where
  ne_nil : s ≠ []
  visible : ∀ c ∈ s, IsVisible c

/-- Nothing is lost of words joined by blanks. -/
theorem words_of_isWord (areWords : ∀ piece ∈ pieces, IsWord piece) :
    Date.words (List.intercalate [' '] pieces) = pieces := by
  rw [words_intercalate fun piece isIn => (areWords piece isIn).visible, List.filter_eq_self]
  intro piece isIn
  simp [(areWords piece isIn).ne_nil]

/-- A word stays one if more is written behind it. -/
theorem IsWord.append {t : List Char} (isWord : IsWord s) (visible : ∀ c ∈ t, IsVisible c) :
    IsWord (s ++ t) where
  ne_nil := by simp [isWord.ne_nil]
  visible := List.forall_mem_append.mpr ⟨isWord.visible, visible⟩

/-- A comma may follow a word. -/
theorem IsWord.comma (isWord : IsWord s) : IsWord (s ++ [',']) :=
  isWord.append (List.forall_mem_singleton.mpr (by decide))

/-- Whether a text is a word can be computed. -/
theorem isWord_of_all (more : s ≠ []) (visible : s.all (IsVisible ·) = true) : IsWord s :=
  ⟨more, List.all_iff_forall_prop.mp visible⟩

/-- A number is a word. -/
theorem isWord_of_writes (writes : Writes s n) : IsWord s := ⟨writes.ne_nil, writes.visible⟩

/-! ## What a word is -/

theorem Weekday.isWord_name (weekday : Weekday) : IsWord weekday.name := by
  apply isWord_of_all <;> cases weekday <;> decide

theorem Weekday.isWord_short (weekday : Weekday) : IsWord weekday.short := by
  apply isWord_of_all <;> cases weekday <;> decide

/-- What a month from one to twelve is written with: letters, read back as the month. -/
theorem shortMonth_spec (isMonth : 1 ≤ month ∧ month ≤ 12) :
    (∀ c ∈ shortMonth month, IsVisible c ∧ c ≠ '-') ∧ shortMonth month ≠ [] ∧
      monthNumber? (small (shortMonth month)) = some month := by
  have all : ∀ month ∈ List.range' 1 12,
      (shortMonth month).all (fun c => IsVisible c ∧ c ≠ '-') = true ∧ shortMonth month ≠ [] ∧
        monthNumber? (small (shortMonth month)) = some month := by
    decide +kernel
  obtain ⟨letters, more, isRead⟩ := all month (by rw [List.mem_range'_1]; omega)
  exact ⟨List.all_iff_forall_prop.mp letters, more, isRead⟩

theorem isWord_shortMonth (isMonth : 1 ≤ month ∧ month ≤ 12) : IsWord (shortMonth month) := by
  obtain ⟨visible, more, -⟩ := shortMonth_spec isMonth
  exact ⟨more, fun c isIn => (visible c isIn).1⟩

/-- A number has no capitals. -/
theorem small_of_writes (writes : Writes s n) : small s = s := by
  have same : s.map lowerAscii = s.map id := by
    apply List.map_congr_left
    intro c isIn
    exact forall_of_isPlainDigit (p := fun c => lowerAscii c = id c) (by decide)
      (writes.digits c isIn)
  rw [small, same, List.map_id]

/-- A text without digits is not one that holds a number. -/
theorem ne_of_digitless {t : List Char} (front : List Char) (writes : Writes s n)
    (digitless : t.all (!isPlainDigit ·) = true) : t ≠ front ++ s := by
  rintro rfl
  obtain ⟨c, rest, rfl⟩ := List.exists_cons_of_ne_nil writes.ne_nil
  have isDigit := writes.digits c List.mem_cons_self
  have other := List.all_eq_true.mp digitless c (by simp)
  simp [isDigit] at other

/-- A number is not the name of a month. -/
theorem monthNumber?_of_writes (writes : Writes s n) : monthNumber? (small s) = none := by
  have digitless : ∀ names ∈ monthNames, names.1.toList.all (!isPlainDigit ·) = true ∧
      names.2.toList.all (!isPlainDigit ·) = true := by
    decide
  rw [small_of_writes writes, monthNumber?, Option.map_eq_none_iff, List.findIdx?_eq_none_iff]
  rintro ⟨short, long⟩ isIn
  obtain ⟨isShort, isLong⟩ := digitless _ isIn
  have notShort : short.toList ≠ s := ne_of_digitless [] writes isShort
  have notLong : long.toList ≠ s := ne_of_digitless [] writes isLong
  simp [notShort, notLong]

/-- A text without a comma loses none. -/
theorem dropComma_eq_self (clean : ',' ∉ s) : dropComma s = s := by
  rw [dropComma, if_neg]
  exact fun isLast => clean (List.mem_of_getLast? isLast)

namespace Moment

/-- The parts of a time are written with two digits each. -/
theorem writes_parts (moment : Moment) :
    Writes (twoDigits moment.hour) moment.hour ∧ Writes (twoDigits moment.minute) moment.minute ∧
      Writes (twoDigits moment.second) moment.second := by
  refine ⟨?_, ?_, ?_⟩ <;>
  · apply writes_twoDigits
    omega

/-- A time is written with digits and colons. -/
theorem mem_clock (isIn : c ∈ moment.clock) : isPlainDigit c = true ∨ c = ':' := by
  simp only [clock, List.intercalate_cons_cons, List.intercalate_singleton, List.mem_append,
    List.mem_singleton] at isIn
  obtain ⟨hour, minute, second⟩ := moment.writes_parts
  rcases isIn with (inHour | rfl) | (inMinute | rfl) | inSecond
  · exact .inl (hour.digits c inHour)
  · exact .inr rfl
  · exact .inl (minute.digits c inMinute)
  · exact .inr rfl
  · exact .inl (second.digits c inSecond)

/-- A time falls apart at its colons. -/
theorem splitTime?_clock (moment : Moment) : splitTime? moment.clock =
    some (twoDigits moment.hour, twoDigits moment.minute, twoDigits moment.second) := by
  have colonFree : ∀ part ∈ [twoDigits moment.hour, twoDigits moment.minute,
      twoDigits moment.second], ':' ∉ part := by
    obtain ⟨hour, minute, second⟩ := moment.writes_parts
    simp only [List.forall_mem_cons]
    exact ⟨hour.notMem (by decide), minute.notMem (by decide), second.notMem (by decide), by simp⟩
  rw [splitTime?, clock, splitAll_eq_splitOn, List.splitOn_intercalate ':' colonFree (by simp)]

/-- The fields of a written moment. -/
def fields (moment : Moment) (day year zone : List Char) : Fields where
  day := day
  month := moment.day.month
  year := year
  hour := twoDigits moment.hour
  minute := twoDigits moment.minute
  second := twoDigits moment.second
  zone := zone

end Moment

/-! ## Fields -/

/-- A year begins with a digit, so it is not taken for a zone. -/
theorem isDigit_head (writes : Writes s n) :
    ∃ c rest, s = c :: rest ∧ isDigit c = true ∧ c ≠ ':' := by
  obtain ⟨c, rest, rfl⟩ := List.exists_cons_of_ne_nil writes.ne_nil
  refine ⟨c, rest, rfl, ?_⟩
  exact forall_of_isPlainDigit (p := fun c => isDigit c = true ∧ c ≠ ':') (by decide)
    (writes.digits c List.mem_cons_self)

/-- The day and the month are told apart, whichever comes first. -/
theorem dayAndMonth?_eq (isMonth : 1 ≤ month ∧ month ≤ 12) (writes : Writes s n) :
    dayAndMonth? s (shortMonth month) = some (s, month) ∧
      dayAndMonth? (shortMonth month) s = some (s, month) := by
  obtain ⟨-, -, isRead⟩ := shortMonth_spec isMonth
  constructor
  · rw [dayAndMonth?, isRead]
  · rw [dayAndMonth?, monthNumber?_of_writes writes, isRead, small_of_writes writes]
    rfl

namespace Moment

variable {day year : List Char} {d y : Nat}

theorem comma_notMem_clock (moment : Moment) : ',' ∉ moment.clock := by
  intro isIn
  rcases mem_clock isIn with isDigit | isColon
  · cases isDigit
  · cases isColon

theorem isWord_clock (moment : Moment) : IsWord moment.clock := by
  refine ⟨?_, fun c isIn => ?_⟩
  · simp [clock, List.intercalate_cons_cons]
  · rcases mem_clock isIn with isDigit | rfl
    · exact forall_of_isPlainDigit (p := IsVisible) (by decide) isDigit
    · decide

/-- A time holds colons, but does not begin with one. -/
theorem clock_colons (moment : Moment) :
    ':' ∈ moment.clock ∧ moment.clock ≠ [] ∧ moment.clock.head? ≠ some ':' := by
  obtain ⟨hour, -⟩ := moment.writes_parts
  obtain ⟨c, rest, begins, -, other⟩ := isDigit_head hour
  simp only [clock, List.intercalate_cons_cons, begins]
  simp [other]

/-- The fields of a moment whose day comes first. -/
theorem arrange?_dayFirst (moment : Moment) (isDay : Writes day d) (isYear : Writes year y) :
    arrange? day (shortMonth moment.day.month) year moment.clock place =
      some (moment.fields day year place) := by
  obtain ⟨-, named, -⟩ := shortMonth_spec moment.day.isMonth
  obtain ⟨c, rest, begins, isDigit, -⟩ := isDigit_head isYear
  have colonFree : ':' ∉ year := isYear.notMem (by decide)
  -- Nothing changes places, and the year begins with a digit, so it is not taken for a zone.
  rw [arrange?, if_neg (by simp [isDay.ne_nil, named, isYear.ne_nil]),
    (dayAndMonth?_eq moment.day.isMonth isDay).1]
  simp only [List.contains_eq_mem, colonFree, decide_false, Bool.false_and, Bool.false_eq_true,
    if_false, dropComma_eq_self (isYear.notMem (by decide)),
    dropComma_eq_self moment.comma_notMem_clock, dropComma_eq_self (isDay.notMem (by decide)),
    splitTime?_clock]
  subst begins
  simp [isDigit, fields]

/-- The fields of a moment whose month comes first, and whose year comes after the time. -/
theorem arrange?_monthFirst (moment : Moment) (isDay : Writes day d) (isYear : Writes year y) :
    arrange? (shortMonth moment.day.month) day moment.clock year place =
      some (moment.fields day year place) := by
  obtain ⟨-, named, -⟩ := shortMonth_spec moment.day.isMonth
  obtain ⟨c, rest, begins, isDigit, -⟩ := isDigit_head isYear
  obtain ⟨colon, more, other⟩ := moment.clock_colons
  -- The colons tell that the time stands in the place of the year.
  rw [arrange?, if_neg (by simp [isDay.ne_nil, named, more]),
    (dayAndMonth?_eq moment.day.isMonth isDay).2]
  simp only [List.contains_eq_mem, colon, decide_true, Bool.true_and, bne_iff_ne, ne_eq, other,
    not_false_eq_true, if_true, dropComma_eq_self (isYear.notMem (by decide)),
    dropComma_eq_self moment.comma_notMem_clock, dropComma_eq_self (isDay.notMem (by decide)),
    splitTime?_clock]
  subst begins
  simp [isDigit, fields]

end Moment

/-- What ends in a comma, or is the short name of a day, is left out. -/
theorem dropDayName_eq (weekday : Weekday) (name : List Char) (others : List (List Char)) :
    dropDayName ((name ++ [',']) :: others) = others ∧
      dropDayName (weekday.short :: others) = others := by
  constructor
  · rw [dropDayName, if_pos (.inl (by simp))]
  · -- A short name has no comma, and is looked up among the names of the days.
    rw [dropDayName, if_pos]
    cases weekday <;> decide

/-- A day, a month and a year fall apart at the hyphens between them. -/
theorem splitHyphens_eq {day year : List Char} {d y : Nat} (isMonth : 1 ≤ month ∧ month ≤ 12)
    (isDay : Writes day d) (isYear : Writes year y) :
    splitHyphens [List.intercalate ['-'] [day, shortMonth month, year], time, place] =
      [day, shortMonth month, year, time, place] := by
  have hyphenFree : ∀ part ∈ [day, shortMonth month, year], '-' ∉ part := by
    simp only [List.forall_mem_cons]
    refine ⟨isDay.notMem (by decide), ?_, isYear.notMem (by decide), by simp⟩
    exact fun isIn => ((shortMonth_spec isMonth).1 _ isIn).2 rfl
  rw [splitHyphens, splitAll_eq_splitOn, List.splitOn_intercalate '-' hyphenFree (by simp)]
  rfl

/-- A year at the end has no zone attached. -/
theorem splitZone_eq {first second third year : List Char} (isYear : Writes year n) :
    splitZone [first, second, third, year] = [first, second, third, year, []] := by
  have plusFree : '+' ∉ year := isYear.notMem (by decide)
  have hyphenFree : '-' ∉ year := isYear.notMem (by decide)
  have kept : year.takeWhile (· != '-') = year := by
    rw [List.takeWhile_eq_self_iff]
    intro c isIn
    rw [bne_iff_ne]
    rintro rfl
    exact hyphenFree isIn
  rw [splitZone]
  simp [plusFree, kept]

end SafeFetch.Http.Date
