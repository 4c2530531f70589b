import SafeFetch.Text.Blank
import SafeFetch.Text.Numeral

/-!
# Dates in HTTP headers

Reading of a date in any of the layouts that servers write, as a number of seconds since the
beginning of 1970 in universal time. A text is first split into its fields, which may stand in
several orders; then the fields are read as numbers; then the numbers must name a day and a time of
the civil calendar.
-/

namespace SafeFetch.Http.Date

open SafeFetch.Text

/-- A number in a date that is beyond what a clock can be asked about. -/
inductive Fault where
  /-- A field of the date does not fit into a word of 64 bits. -/
  | beyondLong
  /-- A field of the date is above the words of 32 bits. -/
  | aboveInt
  /-- A field of the date is below the words of 32 bits. -/
  | belowInt
  /-- The days of the zone offset do not fit into a word of 32 bits. -/
  | offsetBeyondInt
  /-- The days of the zone offset are more than a difference of times may have. -/
  | offsetDays (days : Int)
  deriving DecidableEq, Repr

/-- The text of a fault. -/
def Fault.message : Fault → String
  | .beyondLong => "Python int too large to convert to C long"
  | .aboveInt => "signed integer is greater than maximum"
  | .belowInt => "signed integer is less than minimum"
  | .offsetBeyondInt => "Python int too large to convert to C int"
  | .offsetDays days => s!"days={days}; must have magnitude <= 999999999"

/-! ## Fields -/

/-- The fields of a date as texts. -/
structure Fields where
  day : List Char
  month : Nat
  year : List Char
  hour : List Char
  minute : List Char
  second : List Char
  zone : List Char
  deriving DecidableEq, Repr

/-- Split at white space; no piece is empty. -/
def words (s : List Char) : List (List Char) :=
  (s.foldr
    (fun c pieces =>
      if isBlank c then [] :: pieces
      else
        match pieces with
        | [] => [[c]]
        | piece :: others => (c :: piece) :: others)
    [[]]).filter (!·.isEmpty)

/-- The names of the days of the week. -/
def dayNames : List String := ["mon", "tue", "wed", "thu", "fri", "sat", "sun"]

/-- The short and the long names of the months. -/
def monthNames : List (String × String) :=
  [("jan", "january"), ("feb", "february"), ("mar", "march"), ("apr", "april"), ("may", "may"),
    ("jun", "june"), ("jul", "july"), ("aug", "august"), ("sep", "september"),
    ("oct", "october"), ("nov", "november"), ("dec", "december")]

/-- The small letters of a text. -/
def small (s : List Char) : List Char := s.map lowerAscii

/-- The number of a month from one to twelve, by either name in small letters. -/
def monthNumber? (name : List Char) : Option Nat :=
  (monthNames.findIdx? fun (short, long) =>
    short.toList == name || long.toList == name).map (· + 1)

/-- Drop a comma at the end. -/
def dropComma (s : List Char) : List Char := if s.getLast? = some ',' then s.dropLast else s

/-- Leave the day of the week out, whether it is a word of its own or ends at a comma inside the
first word. -/
def dropDayName : List (List Char) → List (List Char)
  | [] => []
  | first :: others =>
    if first.getLast? = some ',' ∨ dayNames.any (fun name => name.toList == small first) then
      others
    else (first.reverse.takeWhile (· != ',')).reverse :: others

/-- Split a day, a month and a year joined by hyphens when two words follow. -/
def splitHyphens (pieces : List (List Char)) : List (List Char) :=
  match pieces with
  | [first, second, third] =>
    let parts := splitAll '-' first
    if parts.length = 3 then parts ++ [second, third] else pieces
  | _ => pieces

/-- Split a time with its zone attached when it is the fourth and last word; a time without one
gets an empty zone. -/
def splitZone (pieces : List (List Char)) : List (List Char) :=
  match pieces with
  | [first, second, third, time] =>
    let sign := if time.contains '+' then '+' else '-'
    let clock := time.takeWhile (· != sign)
    if clock.isEmpty ∨ clock.length = time.length then pieces ++ [[]]
    else [first, second, third, clock, time.drop clock.length]
  | _ => pieces

/-- Hour, minute and second of a time whose parts are joined by colons, or by points if it has no
colon. -/
def splitTime? (time : List Char) : Option (List Char × List Char × List Char) :=
  match splitAll ':' time with
  | [hour, minute] => some (hour, minute, ['0'])
  | [hour, minute, second] => some (hour, minute, second)
  | [whole] =>
    match splitAll '.' whole with
    | [hour, minute] => some (hour, minute, ['0'])
    | [hour, minute, second] => some (hour, minute, second)
    | _ => none
  | _ => none

/-- Day and month of the two leading words, in whichever order they stand. -/
def dayAndMonth? (first second : List Char) : Option (List Char × Nat) :=
  match monthNumber? (small second) with
  | some month => some (first, month)
  | none => (monthNumber? (small first)).map fun month => (small second, month)

/-- The fields of a date, once its words are day, month, year, time and zone or a permutation that
servers use: month before day, year after the time, year after the zone. -/
def arrange? (first second year time zone : List Char) : Option Fields :=
  if first.isEmpty ∨ second.isEmpty ∨ year.isEmpty then none
  else
    match dayAndMonth? first second with
    | none => none
    | some (day, month) =>
      let (year, time) :=
        if year.contains ':' && year.head? != some ':' then (time, year) else (year, time)
      let year := dropComma year
      match year with
      | [] => none
      | c :: _ =>
        let (year, zone) := if isDigit c then (year, zone) else (zone, year)
        (splitTime? (dropComma time)).map fun (hour, minute, second) =>
          { day := dropComma day, month, year, hour, minute, second, zone }

/-- The fields of a date. -/
def fields? (s : List Char) : Option Fields :=
  match splitZone (splitHyphens (dropDayName (words s))) with
  | first :: second :: year :: time :: zone :: _ => arrange? first second year time zone
  | _ => none

/-! ## Numbers -/

/-- The numbers of a date; the offset is in seconds. -/
structure Numbers where
  year : Int
  month : Nat
  day : Int
  hour : Int
  minute : Int
  second : Int
  offset : Option Int
  deriving DecidableEq, Repr

/-- The full year of a year that may be written with two digits. -/
def fullYear (year : Int) : Int :=
  if year < 100 then (if 68 < year then year + 1900 else year + 2000) else year

/-- The named zones, each as hours and minutes in one decimal number. -/
def namedZones : List (String × Int) :=
  [("UT", 0), ("UTC", 0), ("GMT", 0), ("Z", 0), ("AST", -400), ("ADT", -300), ("EST", -500),
    ("EDT", -400), ("CST", -600), ("CDT", -500), ("MST", -700), ("MDT", -600), ("PST", -800),
    ("PDT", -700)]

/-- The capitals of a letter that could spell a named zone. -/
def capital (c : Char) : List Char :=
  if 'a' ≤ c ∧ c ≤ 'z' then [Char.ofNat (c.toNat - 32)]
  else if c = '\u017F' then ['S']
  else if c = '\uFB05' ∨ c = '\uFB06' then ['S', 'T']
  else [c]

/-- The seconds of an offset written as hours and minutes in one decimal number. -/
def offsetSeconds (hoursMinutes : Int) : Int :=
  let size := hoursMinutes.natAbs
  let seconds : Int := (size / 100 * 3600 + size % 100 * 60 : Nat)
  if hoursMinutes < 0 then -seconds else seconds

/-- The offset of a zone in seconds. There is none for an unknown zone and for one that is written
as minus zero. -/
def zoneOffset? (zone : List Char) : Option Int :=
  let zone := zone.flatMap capital
  match namedZones.find? fun (name, _) => name.toList == zone with
  | some (_, value) => some (offsetSeconds value)
  | none =>
    match Numeral.int? zone with
    | none => none
    | some value =>
      if value = 0 ∧ zone.head? = some '-' then none else some (offsetSeconds value)

/-- Read the fields of a date as numbers. -/
def Fields.numbers? (f : Fields) : Option Numbers := do
  let year ← Numeral.int? f.year
  let day ← Numeral.int? f.day
  let hour ← Numeral.int? f.hour
  let minute ← Numeral.int? f.minute
  let second ← Numeral.int? f.second
  return { year := fullYear year, month := f.month, day, hour, minute, second,
           offset := zoneOffset? f.zone }

/-! ## Calendar -/

/-- Whether a year has a leap day. -/
def isLeap (year : Nat) : Bool := year % 4 == 0 && (year % 100 != 0 || year % 400 == 0)

/-- The number of days in a month from one to twelve. -/
def daysIn (year month : Nat) : Nat :=
  if month = 2 then (if isLeap year then 29 else 28)
  else if month = 4 ∨ month = 6 ∨ month = 9 ∨ month = 11 then 30
  else 31

/-- The days before a year, counted from the beginning of year one. -/
def daysBeforeYear (year : Nat) : Nat :=
  let past := year - 1
  past * 365 + past / 4 - past / 100 + past / 400

/-- The days of a year before a month. -/
def daysBeforeMonth (year month : Nat) : Nat :=
  ((List.range (month - 1)).map fun m => daysIn year (m + 1)).foldr (· + ·) 0

/-- The days before the beginning of 1970, counted from the beginning of year one. -/
def epochDays : Nat := daysBeforeYear 1970

/-- The day numbered from the beginning of 1970. -/
def dayNumber (year month day : Nat) : Int :=
  ((daysBeforeYear year + daysBeforeMonth year month + (day - 1) : Nat) : Int) - epochDays

/-- Whether numbers name a day and a time of the civil calendar. -/
def Numbers.isCivil (n : Numbers) : Bool :=
  1 ≤ n.year && n.year ≤ 9999 && 1 ≤ n.month && n.month ≤ 12 &&
    1 ≤ n.day && n.day ≤ daysIn n.year.toNat n.month &&
    0 ≤ n.hour && n.hour ≤ 23 && 0 ≤ n.minute && n.minute ≤ 59 &&
    0 ≤ n.second && n.second ≤ 59

/-- The seconds since the beginning of 1970 at a civil day and time. -/
def Numbers.seconds (n : Numbers) : Int :=
  dayNumber n.year.toNat n.month n.day.toNat * 86400 + n.hour * 3600 + n.minute * 60 + n.second -
    n.offset.getD 0

/-- The fault of a number that is handed over as a word of 32 bits. -/
def wordFault? (n : Int) : Option Fault :=
  if n < -0x8000000000000000 ∨ 0x8000000000000000 ≤ n then some .beyondLong
  else if 0x80000000 ≤ n then some .aboveInt
  else if n < -0x80000000 then some .belowInt
  else none

/-- The fault of an offset in seconds. -/
def offsetFault? (seconds : Int) : Option Fault :=
  let days := seconds.fdiv 86400
  if days < -0x80000000 ∨ 0x80000000 ≤ days then some .offsetBeyondInt
  else if 999999999 < days.natAbs then some (.offsetDays days)
  else none

/-- The first fault of the numbers of a date. The offset comes first; one of a day or more, which is
no zone at all, hides the faults of the other numbers. -/
def Numbers.fault? (n : Numbers) : Option Fault :=
  match n.offset.bind offsetFault? with
  | some fault => some fault
  | none =>
    if 86400 ≤ (n.offset.getD 0).natAbs then none
    else [n.year, n.day, n.hour, n.minute, n.second].findSome? wordFault?

/-- The instant that numbers name, if they name one. -/
def Numbers.instant? (n : Numbers) : Except Fault (Option Int) :=
  match n.fault? with
  | some fault => .error fault
  | none =>
    if n.isCivil && (n.offset.getD 0).natAbs < 86400 then .ok (some n.seconds) else .ok none

/-- The instant that a date names in seconds since the beginning of 1970, if it names one. -/
def instant? (s : String) : Except Fault (Option Int) :=
  match (fields? s.toList).bind Fields.numbers? with
  | some numbers => numbers.instant?
  | none => .ok none

end SafeFetch.Http.Date
