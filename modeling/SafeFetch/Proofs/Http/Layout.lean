import SafeFetch.Proofs.Http.Moment

/-!
# Written dates

A moment can be written in several layouts, and each is read back as the numbers of that moment. A
layout is a list of words; its words are put into the fields of the moment, and the numbers are read
out of the fields.

## Main definitions

* `Layout`: the ways to write a moment down, each with its words;
* `Layout.Fits`: the years that a layout can tell apart;
* `Layout.offset`: how far a written time is ahead of universal time.

## Main results

* `Layout.fields?_text`: the words of a layout are put into their fields;
* `Layout.numbers?_text`: what is written in a layout is read back;
* `Layout.names_text`: the instant that a written moment names.
-/

namespace SafeFetch.Http.Date

open SafeFetch.Text SafeFetch.Text.Numeral

/-! ## Layouts -/

/-- How a day before the tenth is written: alone, behind a blank or behind a zero. -/
inductive Padding where
  | none
  | blank
  | zero
  deriving DecidableEq, Repr

/-- The words of a day; a blank before it makes an empty word. -/
def Padding.words (padding : Padding) (day : Nat) : List (List Char) :=
  if 10 ≤ day then [twoDigits day]
  else
    match padding with
    | .none => [[Nat.digitChar day]]
    | .blank => [[], [Nat.digitChar day]]
    | .zero => [twoDigits day]

/-- The layouts of a date. -/
inductive Layout where
  /-- As `Sun, 06 Nov 1994 08:49:37 GMT`. -/
  | fixed
  /-- As `Sun, 06 Nov 1994 08:49:37 +0130`. -/
  | zoned (isWest : Bool) (hours : Fin 24) (minutes : Fin 60)
  /-- As `Sun Nov 6 08:49:37 1994`. -/
  | trailingYear (padding : Padding)
  /-- As `Sunday, 06-Nov-94 08:49:37 GMT`. -/
  | shortYear
  deriving DecidableEq, Repr

variable {moment : Moment} {layout : Layout} {s place : List Char} {n : Nat}

/-- A numeric zone. -/
def zoneText (isWest : Bool) (hours minutes : Nat) : List Char :=
  (if isWest then '-' else '+') :: (twoDigits hours ++ twoDigits minutes)

namespace Layout

/-- The words of a date, with any day of the week. -/
def words (weekday : Weekday) (moment : Moment) : Layout → List (List Char)
  | .fixed =>
    [weekday.short ++ [','], twoDigits moment.day.day, shortMonth moment.day.month,
      fourDigits moment.day.year, moment.clock, "GMT".toList]
  | .zoned isWest hours minutes =>
    [weekday.short ++ [','], twoDigits moment.day.day, shortMonth moment.day.month,
      fourDigits moment.day.year, moment.clock, zoneText isWest hours minutes]
  | .trailingYear padding =>
    weekday.short :: shortMonth moment.day.month ::
      (padding.words moment.day.day ++ [moment.clock, fourDigits moment.day.year])
  | .shortYear =>
    [weekday.name ++ [','],
      List.intercalate ['-'] [twoDigits moment.day.day, shortMonth moment.day.month,
        twoDigits (moment.day.year % 100)],
      moment.clock, "GMT".toList]

/-- The text of a date. -/
def text (layout : Layout) (weekday : Weekday) (moment : Moment) : String :=
  String.ofList (List.intercalate [' '] (layout.words weekday moment))

/-- The years that a layout writes without loss. -/
def Fits (year : Nat) : Layout → Prop
  | .shortYear => 1969 ≤ year ∧ year ≤ 2068
  | .fixed | .zoned _ _ _ | .trailingYear _ => 1000 ≤ year ∧ year ≤ 9999

/-- The zone of a layout, as it is written. -/
def zone : Layout → List Char
  | .fixed | .shortYear => "GMT".toList
  | .zoned isWest hours minutes => zoneText isWest hours minutes
  | .trailingYear _ => []

/-- The seconds by which a written time is ahead of universal time. -/
def offset : Layout → Int
  | .zoned isWest hours minutes =>
    if isWest then -(hours * 3600 + minutes * 60 : Nat) else (hours * 3600 + minutes * 60 : Nat)
  | .fixed | .trailingYear _ | .shortYear => 0

end Layout

/-! ## Fields -/

/-- A number is written with one word. -/
theorem Padding.spec_of_writes (writes : Writes s n) :
    (∀ word ∈ [s], ∀ c ∈ word, IsVisible c) ∧
      ∃ written, [s].filter (!·.isEmpty) = [written] ∧ Writes written n := by
  refine ⟨?_, s, ?_, writes⟩
  · simpa using writes.visible
  · simp [writes.ne_nil]

/-- A day is written with one word, or with two of which the first says nothing. -/
theorem Padding.words_spec (padding : Padding) {day : Nat} (isDay : day < 100) :
    (∀ word ∈ padding.words day, ∀ c ∈ word, IsVisible c) ∧
      ∃ written, (padding.words day).filter (!·.isEmpty) = [written] ∧ Writes written day := by
  have two := spec_of_writes (writes_twoDigits isDay)
  -- The padding matters only for a day of one digit.
  by_cases many : 10 ≤ day
  · have same : padding.words day = [twoDigits day] := by simp [Padding.words, many]
    rwa [same]
  · have one := spec_of_writes (writes_digit (Nat.not_le.mp many))
    cases padding with
    | none => simpa [Padding.words, many] using one
    | blank => simpa [Padding.words, many] using one
    | zero => simpa [Padding.words, many] using two

namespace Moment

variable {name day year : List Char} {d y : Nat}

/-- A date whose day comes first, word by word. -/
theorem fields?_dayFirst (moment : Moment) (isName : IsWord name) (isDay : Writes day d)
    (isYear : Writes year y) (isZone : IsWord place) :
    fields? (List.intercalate [' '] [name ++ [','], day, shortMonth moment.day.month, year,
        moment.clock, place]) =
      some (moment.fields day year place) := by
  have areWords : ∀ word ∈ [name ++ [','], day, shortMonth moment.day.month, year, moment.clock,
      place], IsWord word := by
    simp only [List.forall_mem_cons]
    exact ⟨isName.comma, isWord_of_writes isDay, isWord_shortMonth moment.day.isMonth,
      isWord_of_writes isYear, moment.isWord_clock, isZone, by simp⟩
  rw [fields?, words_of_isWord areWords, (dropDayName_eq .monday name _).1]
  exact moment.arrange?_dayFirst isDay isYear

/-- A date whose day, month and year are one word. -/
theorem fields?_hyphens (moment : Moment) (isName : IsWord name) (isDay : Writes day d)
    (isYear : Writes year y) (isZone : IsWord place) :
    fields? (List.intercalate [' '] [name ++ [','],
        List.intercalate ['-'] [day, shortMonth moment.day.month, year], moment.clock, place]) =
      some (moment.fields day year place) := by
  have isMonth := isWord_shortMonth moment.day.isMonth
  -- The hyphens make one word of the day, the month and the year.
  have isDate : IsWord (List.intercalate ['-'] [day, shortMonth moment.day.month, year]) := by
    rw [List.intercalate_cons_cons, List.append_assoc]
    apply (isWord_of_writes isDay).append
    simp only [List.intercalate_cons_cons, List.intercalate_singleton, List.forall_mem_append]
    have hyphen : ∀ c ∈ ['-'], IsVisible c := List.forall_mem_singleton.mpr (by decide)
    exact ⟨hyphen, ⟨isMonth.visible, hyphen⟩, isYear.visible⟩
  have areWords : ∀ word ∈ [name ++ [','],
      List.intercalate ['-'] [day, shortMonth moment.day.month, year], moment.clock, place],
      IsWord word := by
    simp only [List.forall_mem_cons]
    exact ⟨isName.comma, isDate, moment.isWord_clock, isZone, by simp⟩
  rw [fields?, words_of_isWord areWords, (dropDayName_eq .monday name _).1,
    splitHyphens_eq moment.day.isMonth isDay isYear]
  exact moment.arrange?_dayFirst isDay isYear

/-- A date whose month comes first, with its year at the end. -/
theorem fields?_monthFirst (moment : Moment) (weekday : Weekday) (padding : Padding)
    (isYear : Writes year y) :
    ∃ day, Writes day moment.day.day ∧
      fields? (List.intercalate [' '] (weekday.short :: shortMonth moment.day.month ::
          (padding.words moment.day.day ++ [moment.clock, year]))) =
        some (moment.fields day year []) := by
  obtain ⟨visible, day, alone, isDay⟩ := padding.words_spec moment.day.day_lt
  have isMonth := isWord_shortMonth moment.day.isMonth
  have isShort := weekday.isWord_short
  have isClock := moment.isWord_clock
  refine ⟨day, isDay, ?_⟩
  rw [fields?, words_intercalate]
  -- A blank before the day makes a word that says nothing, and that is left out.
  · have kept : (weekday.short :: shortMonth moment.day.month ::
        (padding.words moment.day.day ++ [moment.clock, year])).filter (!·.isEmpty) =
          [weekday.short, shortMonth moment.day.month, day, moment.clock, year] := by
      rw [List.filter_cons_of_pos, List.filter_cons_of_pos, List.filter_append, alone,
        List.filter_cons_of_pos, List.filter_cons_of_pos]
      · rfl
      all_goals simp [isShort.ne_nil, isMonth.ne_nil, isClock.ne_nil, isYear.ne_nil]
    rw [kept, (dropDayName_eq weekday [] _).2, splitHyphens, splitZone_eq isYear]
    · exact moment.arrange?_monthFirst isDay isYear
    · simp
  · simp only [List.forall_mem_cons, List.forall_mem_append]
    exact ⟨isShort.visible, isMonth.visible, visible, isClock.visible, isYear.visible, by simp⟩

end Moment

theorem isWord_zoneText (isWest : Bool) (hours : Fin 24) (minutes : Fin 60) :
    IsWord (zoneText isWest hours minutes) := by
  have isHours := writes_twoDigits (n := hours) (by omega)
  have isMinutes := writes_twoDigits (n := minutes) (by omega)
  refine ⟨List.cons_ne_nil _ _, ?_⟩
  simp only [zoneText, List.forall_mem_cons, List.forall_mem_append]
  exact ⟨by cases isWest <;> decide, isHours.visible, isMinutes.visible⟩

namespace Layout

/-- What is written in a layout is put into its fields. A year of two digits stands for the full
one. -/
theorem fields?_text (layout : Layout) (weekday : Weekday) (moment : Moment)
    (fits : layout.Fits moment.day.year) :
    ∃ day year y, fields? (layout.text weekday moment).toList =
        some (moment.fields day year layout.zone) ∧
      Writes day moment.day.day ∧ Writes year y ∧ fullYear y = moment.day.year := by
  have isDay := writes_twoDigits moment.day.day_lt
  have isGmt : IsWord "GMT".toList := isWord_of_all (by decide) (by decide)
  have isShort := weekday.isWord_short
  have four (fits : 1000 ≤ moment.day.year ∧ moment.day.year ≤ 9999) :
      Writes (fourDigits moment.day.year) moment.day.year ∧
        fullYear moment.day.year = moment.day.year := by
    refine ⟨writes_fourDigits (by omega), ?_⟩
    rw [fullYear, if_neg (by omega)]
  rw [text, String.toList_ofList]
  cases layout with
  | fixed =>
    obtain ⟨isYear, full⟩ := four fits
    exact ⟨_, _, _, moment.fields?_dayFirst isShort isDay isYear isGmt, isDay, isYear, full⟩
  | zoned isWest hours minutes =>
    obtain ⟨isYear, full⟩ := four fits
    have isZone := isWord_zoneText isWest hours minutes
    exact ⟨_, _, _, moment.fields?_dayFirst isShort isDay isYear isZone, isDay, isYear, full⟩
  | trailingYear padding =>
    obtain ⟨isYear, full⟩ := four fits
    obtain ⟨day, isDay, fields⟩ := moment.fields?_monthFirst weekday padding isYear
    exact ⟨_, _, _, fields, isDay, isYear, full⟩
  | shortYear =>
    have isYear := writes_twoDigits (n := moment.day.year % 100) (by omega)
    refine ⟨_, _, _, moment.fields?_hyphens weekday.isWord_name isDay isYear isGmt, isDay, isYear,
      ?_⟩
    -- The years up to 1999 end in 69 and more, the later ones in 68 and less.
    obtain ⟨least, most⟩ := fits
    rw [fullYear, if_pos (by omega)]
    split <;> omega

end Layout

/-! ## Numbers -/

/-- Neither signs nor digits have capitals. -/
theorem flatMap_capital (plain : ∀ c ∈ s, capital c = [c]) : s.flatMap capital = s := by
  induction s with
  | nil => rfl
  | cons c s ih =>
    rw [List.forall_mem_cons] at plain
    rw [List.flatMap_cons, plain.1, ih plain.2, List.singleton_append]

/-- Hours and minutes are told apart in one decimal number. -/
theorem offsetSeconds_eq (hours : Nat) (minutes : Fin 60) :
    offsetSeconds ((100 * hours + minutes : Nat) : Int) = (hours * 3600 + minutes * 60 : Nat) ∧
      offsetSeconds (-((100 * hours + minutes : Nat) : Int)) =
        -((hours * 3600 + minutes * 60 : Nat) : Int) := by
  have size : (100 * hours + minutes) / 100 * 3600 + (100 * hours + minutes) % 100 * 60 =
      hours * 3600 + minutes * 60 := by
    omega
  constructor
  · rw [offsetSeconds, Int.natAbs_natCast, size, if_neg (by omega)]
  · rw [offsetSeconds, Int.natAbs_neg, Int.natAbs_natCast, size]
    split
    · rfl
    -- Minus zero is zero.
    · omega

/-- A zone that has no name is read as a number. -/
theorem zoneOffset?_of_unnamed {zone : List Char} {value : Int}
    (capitals : ∀ c ∈ zone, capital c = [c])
    (unnamed : ∀ named ∈ namedZones, named.1.toList ≠ zone) (isRead : int? zone = some value) :
    zoneOffset? zone =
      if value = 0 ∧ zone.head? = some '-' then none else some (offsetSeconds value) := by
  rw [zoneOffset?]
  dsimp only
  rw [flatMap_capital capitals]
  split
  next name offset found =>
    have same := List.find?_some found
    exact absurd (eq_of_beq same) (unnamed _ (List.mem_of_find?_eq_some found))
  next => rw [isRead]

/-- A numeric zone is read as the seconds that it is ahead; nothing is read of minus zero. -/
theorem zoneOffset?_zoneText (isWest : Bool) (hours : Fin 24) (minutes : Fin 60) :
    (zoneOffset? (zoneText isWest hours minutes)).getD 0 =
      (Layout.zoned isWest hours minutes).offset := by
  have writes : Writes (twoDigits hours ++ twoDigits minutes) (100 * hours + minutes) :=
    (writes_twoDigits (by omega)).append (by simp [twoDigits, maxDigits]) (by omega)
  have capitals : ∀ c ∈ zoneText isWest hours minutes, capital c = [c] := by
    rw [zoneText, List.forall_mem_cons]
    refine ⟨by cases isWest <;> decide, fun c isIn => ?_⟩
    exact forall_of_isPlainDigit (p := fun c => capital c = [c]) (by decide)
      (writes.digits c isIn)
  have unnamed : ∀ named ∈ namedZones, named.1.toList ≠ zoneText isWest hours minutes := by
    have digitless : ∀ named ∈ namedZones, named.1.toList.all (!isPlainDigit ·) = true := by
      decide
    intro named isIn
    exact ne_of_digitless [if isWest then '-' else '+'] writes (digitless named isIn)
  obtain ⟨east, west⟩ := int?_of_signed writes
  obtain ⟨ahead, behind⟩ := offsetSeconds_eq hours minutes
  cases isWest with
  | true =>
    rw [zoneOffset?_of_unnamed capitals unnamed west]
    split
    -- Minus zero is no zone, and the time is taken for universal time.
    next zero =>
      have nothing : ((hours * 3600 + minutes * 60 : Nat) : Int) = 0 := by omega
      simp [Layout.offset, nothing]
    next => rw [Option.getD_some, behind, Layout.offset, if_pos rfl]
  | false =>
    rw [zoneOffset?_of_unnamed capitals unnamed east]
    split
    next zero => cases zero.2
    next => rw [Option.getD_some, ahead, Layout.offset, if_neg Bool.false_ne_true]

namespace Layout

theorem getD_zoneOffset? (layout : Layout) : (zoneOffset? layout.zone).getD 0 = layout.offset := by
  cases layout with
  | fixed | shortYear => decide
  | zoned isWest hours minutes => exact zoneOffset?_zoneText isWest hours minutes
  | trailingYear padding =>
    have nothing : zoneOffset? [] = none := by decide
    rw [zone, nothing]
    rfl

/-- The numbers of a moment that is written in a layout. -/
def numbers (layout : Layout) (moment : Moment) : Numbers where
  year := moment.day.year
  month := moment.day.month
  day := moment.day.day
  hour := moment.hour
  minute := moment.minute
  second := moment.second
  offset := zoneOffset? layout.zone

/-- What is written in a layout is read back. -/
theorem numbers?_text (layout : Layout) (weekday : Weekday) (moment : Moment)
    (fits : layout.Fits moment.day.year) :
    numbers? (layout.text weekday moment) = some (layout.numbers moment) := by
  obtain ⟨day, year, y, areFields, isDay, isYear, full⟩ := layout.fields?_text weekday moment fits
  obtain ⟨hour, minute, second⟩ := moment.writes_parts
  rw [numbers?, areFields, Option.bind_some, Fields.numbers?, numbers, ← full]
  simp only [Moment.fields, int?_of_writes isYear, int?_of_writes isDay, int?_of_writes hour,
    int?_of_writes minute, int?_of_writes second]
  rfl

/-- A zone is less than a day away. -/
theorem natAbs_offset_lt (layout : Layout) : layout.offset.natAbs < 86400 := by
  cases layout with
  | fixed | trailingYear padding | shortYear => exact Nat.zero_lt_succ _
  | zoned isWest hours minutes =>
    rw [offset]
    split <;> omega

/-- A moment has a day and a time of the calendar. -/
theorem isCivil_numbers (moment : Moment) (fits : layout.Fits moment.day.year) :
    (layout.numbers moment).isCivil = true := by
  have years : 1 ≤ moment.day.year ∧ moment.day.year ≤ 9999 := by
    cases layout <;> simp only [Fits] at fits <;> omega
  have isMonth := moment.day.isMonth
  have isDay := moment.day.isDay
  rw [← daysIn_eq isMonth] at isDay
  simp only [Numbers.isCivil, Bool.and_eq_true, decide_eq_true_eq]
  simp only [numbers, Int.toNat_natCast]
  omega

/-- A moment that is written names the seconds of its day and of its time, but for those that the
time is ahead. -/
theorem names_text (layout : Layout) (weekday : Weekday) (moment : Moment)
    (fits : layout.Fits moment.day.year) :
    Names (layout.text weekday moment) (moment.seconds moment.day.number - layout.offset) := by
  refine ⟨_, layout.numbers?_text weekday moment fits, ⟨isCivil_numbers moment fits, ?_⟩, ?_⟩
  · rw [numbers, getD_zoneOffset?]
    exact layout.natAbs_offset_lt
  · rw [Numbers.seconds, numbers, getD_zoneOffset?]
    rfl

end Layout

end SafeFetch.Http.Date
