import SafeFetch.Destination
import SafeFetch.Proofs.Http.Layout

/-!
# Stamping files

A file gets the instant that the header of its response names, by one request to the file system. A
header that names none leaves the file alone. Only a date with a number that no clock can be asked
about keeps stamping from coming to its end. A moment of the calendar that is written in any layout
is stamped as the seconds that have passed since the beginning of 1970.

## Main definitions

* `FileInfo.Dates`: a header names the instant of the last modification;
* `FileInfo.IsDateBounded`: the numbers of its date are ones that a clock can be asked about;
* `IsStamping`: stamping sets the instant that is named, or does nothing;
* `setOnce`: one request sets the instant of a file.

## Main results

* `isStamping_iff`: stamping is that exactly if the numbers of the date are bounded;
* `stamp_text`: a moment that is written in a layout is the one that is stamped.
-/

namespace SafeFetch

variable {info : FileInfo} {instant : Int}

namespace FileInfo

/-- The header of a response names the instant of the last modification. -/
def Dates (info : FileInfo) (instant : Int) : Prop :=
  ∃ date, info.lastModified = some date ∧ Http.Date.Names date instant

/-- The numbers of the date in the header, if there is one, are ones that a clock can be asked
about. -/
def IsDateBounded (info : FileInfo) : Prop :=
  ∀ date, info.lastModified = some date → Http.Date.IsBounded date

/-- A header that names an instant is bounded. -/
theorem Dates.isDateBounded (dates : info.Dates instant) : info.IsDateBounded := by
  obtain ⟨date, isDate, names⟩ := dates
  intro other isDate'
  obtain rfl := Option.some.inj (isDate.symm.trans isDate')
  exact names.isBounded

/-- A date that has numbers is not empty. -/
theorem not_isEmpty_of_numbers? {date : String} {n : Http.Date.Numbers}
    (isNumbers : Http.Date.numbers? date = some n) : (!date.isEmpty) = true := by
  cases empty : date.isEmpty with
  | false => rfl
  | true =>
    rw [String.isEmpty_iff.mp empty] at isNumbers
    cases isNumbers

/-- The instant that is told is the one that the header names. -/
theorem modifiedAt_of_dates (dates : info.Dates instant) :
    info.modifiedAt = (.ok (some instant), []) := by
  obtain ⟨date, isDate, names⟩ := dates
  have reads := Http.Date.instant?_eq_some_iff.mpr names
  obtain ⟨n, isNumbers, -⟩ := names
  simp only [modifiedAt, isDate, Option.filter_some, not_isEmpty_of_numbers? isNumbers, if_true,
    reads]

/-- No instant is told if the header names none and its date is bounded. -/
theorem modifiedAt_of_undated (bounded : info.IsDateBounded)
    (undated : ∀ instant, ¬ info.Dates instant) : ∃ log, info.modifiedAt = (.ok none, log) := by
  rw [modifiedAt]
  cases kept : info.lastModified.filter (!·.isEmpty) with
  | none => exact ⟨[], rfl⟩
  | some date =>
    obtain ⟨isDate, -⟩ := Option.filter_eq_some_iff.mp kept
    have reads := Http.Date.instant?_eq_none (bounded date isDate)
      fun instant names => undated instant ⟨date, isDate, names⟩
    dsimp only
    rw [reads]
    exact ⟨_, rfl⟩

/-- A date that is not bounded is told as its fault. -/
theorem modifiedAt_of_unbounded (unbounded : ¬ info.IsDateBounded) :
    ∃ fault, info.modifiedAt = (.error (.date fault), []) := by
  simp only [IsDateBounded, Classical.not_forall] at unbounded
  obtain ⟨date, isDate, unbounded⟩ := unbounded
  cases reads : Http.Date.instant? date with
  | ok r => exact absurd (Http.Date.exists_instant?_iff.mp ⟨r, reads⟩) unbounded
  | error fault =>
    simp only [Http.Date.IsBounded, Classical.not_forall] at unbounded
    obtain ⟨n, isNumbers, -⟩ := unbounded
    refine ⟨fault, ?_⟩
    simp only [modifiedAt, isDate, Option.filter_some, not_isEmpty_of_numbers? isNumbers, if_true,
      reads]

end FileInfo

namespace Destination

variable {path : String} {s : Session}

/-- Stamping a file ends without a failure: a header that names an instant has it set, and tells so;
any other header leaves the file system as it was. -/
structure IsStamping (info : FileInfo) (path : String) (s : Session) : Prop where
  dated : ∀ instant, info.Dates instant → ∃ fs, s.fs.setModified path instant = .ok fs ∧
    (stamp info path).runOn s = (.ok true, { s with fs })
  undated : (∀ instant, ¬ info.Dates instant) → ∃ log,
    (stamp info path).runOn s = (.ok false, { s with log })

/-- A date that is not bounded keeps the file from being stamped, and nothing is done. -/
theorem stamp_of_unbounded (unbounded : ¬ info.IsDateBounded) (path : String) (s : Session) :
    ∃ fault, (stamp info path).runOn s = (.error (.date fault), s) := by
  obtain ⟨fault, faulty⟩ := FileInfo.modifiedAt_of_unbounded unbounded
  refine ⟨fault, ?_⟩
  rw [stamp, Action.runOn_bind, Action.runOn_reporting, faulty]
  rfl

/-- Stamping does not come to its end over a date that is not bounded. -/
theorem not_isStamping_of_unbounded (unbounded : ¬ info.IsDateBounded) :
    ¬ IsStamping info path s := by
  -- Such a date names no instant, so the file would have to be left alone without a failure.
  intro stamping
  obtain ⟨fault, fails⟩ := stamp_of_unbounded unbounded path s
  obtain ⟨log, returns⟩ := stamping.undated fun _ dates => unbounded dates.isDateBounded
  cases fails.symm.trans returns

/-- Where the file system sets the instant of a file, stamping sets the one that the header names, or
does nothing, exactly if a clock can be asked about the numbers of the date. Otherwise it fails
before anything is done. -/
theorem isStamping_iff
    (settable : ∀ instant, info.Dates instant → ∃ fs, s.fs.setModified path instant = .ok fs) :
    (IsStamping info path s ↔ info.IsDateBounded) ∧
      (¬ info.IsDateBounded →
        ∃ fault, (stamp info path).runOn s = (.error (.date fault), s)) := by
  refine ⟨⟨fun stamping => ?_, fun bounded => ⟨fun instant dates => ?_, fun undated => ?_⟩⟩,
    fun unbounded => stamp_of_unbounded unbounded path s⟩
  · exact Classical.byContradiction fun unbounded => not_isStamping_of_unbounded unbounded stamping
  · obtain ⟨fs, sets⟩ := settable instant dates
    refine ⟨fs, sets, ?_⟩
    simp only [stamp, Action.runOn_bind, Action.runOn_reporting,
      FileInfo.modifiedAt_of_dates dates, Action.runOn_change, sets, Action.runOn_pure]
    rfl
  · obtain ⟨log, told⟩ := FileInfo.modifiedAt_of_undated bounded undated
    refine ⟨log.reverse ++ s.log, ?_⟩
    rw [stamp, Action.runOn_bind, Action.runOn_reporting, told]
    rfl

/-- What a response says with a date. -/
def datedBy (date : String) : FileInfo where
  urlPath := "/x"
  contentDisposition := none
  lastModified := some date

/-- A working directory with one file. -/
def oneFile : FileSystem := (FileSystem.empty [] 0o022).put ["x".toList] (.file [1] none)

/-- A file is stamped with the beginning of the year 2000. -/
theorem isStamping_of_new_year :
    (∀ instant, ∃ fs, oneFile.setModified "x" instant = .ok fs) ∧
      (datedBy "Sat, 01 Jan 2000 00:00:00 GMT").Dates 946684800 ∧
        IsStamping (datedBy "Sat, 01 Jan 2000 00:00:00 GMT") "x" (.start oneFile none) := by
  have settable (instant : Int) : ∃ fs, oneFile.setModified "x" instant = .ok fs := ⟨_, rfl⟩
  have isNumbers : Http.Date.numbers? "Sat, 01 Jan 2000 00:00:00 GMT" =
      some ⟨2000, 1, 1, 0, 0, 0, some 0⟩ := by
    decide +kernel
  have dates : (datedBy "Sat, 01 Jan 2000 00:00:00 GMT").Dates 946684800 :=
    ⟨_, rfl, _, isNumbers, ⟨by decide, by decide⟩, by decide⟩
  exact ⟨settable, dates,
    (isStamping_iff fun instant _ => settable instant).1.mpr dates.isDateBounded⟩

/-- A year of twenty digits, which no date has, keeps a file from being left alone. -/
theorem not_isStamping_of_long_year :
    (∀ instant, ∃ fs, oneFile.setModified "x" instant = .ok fs) ∧
      ¬ IsStamping (datedBy "Thu, 01 Jan 99999999999999999999 00:00:00 GMT") "x"
        (.start oneFile none) := by
  refine ⟨fun instant => ⟨_, rfl⟩, not_isStamping_of_unbounded fun bounded => ?_⟩
  have isNumbers : Http.Date.numbers? "Thu, 01 Jan 99999999999999999999 00:00:00 GMT" =
      some ⟨99999999999999999999, 1, 1, 0, 0, 0, some 0⟩ := by
    decide +kernel
  have fits := (bounded _ rfl _ isNumbers).fields (by decide) _ List.mem_cons_self
  exact absurd fits.2 (by decide)

/-! ## Written moments -/

/-- One request sets the instant of a file. -/
def setOnce (path : String) (instant : Int) : Action Bool := do
  Action.change (·.setModified path instant)
  return true

/-- A header that names an instant leads to one request. -/
theorem stamp_of_dates (dates : info.Dates instant) (path : String) (s : Session) :
    (stamp info path).runOn s = (setOnce path instant).runOn s := by
  rw [stamp, Action.runOn_bind, Action.runOn_reporting, FileInfo.modifiedAt_of_dates dates]
  rfl

section

open SafeFetch.Http.Date

/-- A moment that is written in a layout leads to one request. It sets the seconds that have passed
since the beginning of 1970, with the days counted one by one and the zone taken into account. -/
theorem stamp_text (layout : Layout) (weekday : Weekday) (moment : Moment)
    (fits : layout.Fits moment.day.year)
    (header : info.lastModified = some (layout.text weekday moment)) (path : String) (s : Session) :
    ∃ days, moment.day.IsNumbered days ∧
      (stamp info path).runOn s =
        (setOnce path (moment.seconds days - layout.offset)).runOn s := by
  refine ⟨moment.day.number, Day.isNumbered_iff.mpr rfl, ?_⟩
  exact stamp_of_dates ⟨_, header, layout.names_text weekday moment fits⟩ path s

/-- A moment in November 1994. -/
def november : Moment where
  day := ⟨1994, 11, 6, by decide, by decide, by decide⟩
  hour := 8
  minute := 49
  second := 37

/-- The moment is stamped from a date in any of the layouts, and ninety minutes later if the date is
written that far to the west. -/
theorem stamp_november :
    (stamp (datedBy "Sun, 06 Nov 1994 08:49:37 GMT") "x").runOn (.start oneFile none) =
        (setOnce "x" 784111777).runOn (.start oneFile none) ∧
      (stamp (datedBy "Sun, 06 Nov 1994 08:49:37 -0130") "x").runOn (.start oneFile none) =
        (setOnce "x" 784117177).runOn (.start oneFile none) ∧
      (stamp (datedBy "Sun Nov  6 08:49:37 1994") "x").runOn (.start oneFile none) =
        (setOnce "x" 784111777).runOn (.start oneFile none) ∧
      (stamp (datedBy "Sunday, 06-Nov-94 08:49:37 GMT") "x").runOn (.start oneFile none) =
        (setOnce "x" 784111777).runOn (.start oneFile none) := by
  have number : november.day.number = 9075 := by decide
  have seconds : november.seconds 9075 = 784111777 := by decide
  have stamped (layout : Layout) {date : String} {instant : Int} (fits : layout.Fits 1994)
      (isDate : layout.text .sunday november = date) (ahead : 784111777 - layout.offset = instant) :
      (stamp (datedBy date) "x").runOn (.start oneFile none) =
        (setOnce "x" instant).runOn (.start oneFile none) := by
    have header : (datedBy date).lastModified = some (layout.text .sunday november) :=
      congrArg some isDate.symm
    obtain ⟨days, isNumbered, stamps⟩ :=
      stamp_text layout .sunday november fits header "x" (.start oneFile none)
    obtain rfl : days = 9075 := (Day.isNumbered_iff.mp isNumbered).trans number
    rwa [seconds, ahead] at stamps
  have fits : 1000 ≤ 1994 ∧ 1994 ≤ 9999 := by decide
  have short : 1969 ≤ 1994 ∧ 1994 ≤ 2068 := by decide
  refine ⟨?_, ?_, ?_, ?_⟩
  · exact stamped .fixed fits rfl (by decide)
  · exact stamped (.zoned true 1 30) fits rfl (by decide)
  · exact stamped (.trailingYear .blank) fits rfl (by decide)
  · exact stamped .shortYear short rfl (by decide)

end

end Destination

end SafeFetch
