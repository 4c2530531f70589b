import SafeFetch.Http.Date

/-!
# Which dates name an instant

A date is read in two steps: its fields as whole numbers of any size, and the numbers as a day and a
time of the calendar. A text that is no date, and numbers that no calendar has, name no instant, and
that is all there is to them unless a number is beyond what a clock can be asked about at all.

## Main definitions

* `numbers?`: the numbers of a date;
* `Names`: a date names an instant;
* `IsBounded`: the numbers of a date are ones that a clock can be asked about.

## Main results

* `instant?_eq_some_iff`: the instant that is read is the one that is named;
* `exists_instant?_iff`: reading a date fails exactly over numbers that are not bounded.
-/

namespace SafeFetch.Http.Date

variable {date : String} {instant : Int}

/-! ## Numbers -/

/-- A number that fits into a word of 32 bits. -/
def FitsWord (n : Int) : Prop := -0x80000000 ≤ n ∧ n < 0x80000000

/-- A word of 32 bits is handed over without a fault. -/
theorem wordFault?_eq_none_iff {n : Int} : wordFault? n = none ↔ FitsWord n := by
  rw [wordFault?, FitsWord]
  constructor
  · intro unfaulted
    repeat' split at unfaulted
    -- Each branch but the last one names its fault.
    all_goals cases unfaulted
    omega
  · intro fits
    rw [if_neg (by omega), if_neg (by omega), if_neg (by omega)]

/-- An offset has no fault if its days are no more than a difference of times may have. -/
theorem offsetFault?_eq_none_iff {seconds : Int} :
    offsetFault? seconds = none ↔ (seconds.fdiv 86400).natAbs ≤ 999999999 := by
  rw [offsetFault?]
  constructor
  · intro unfaulted
    repeat' split at unfaulted
    all_goals cases unfaulted
    omega
  · intro few
    rw [if_neg (by omega), if_neg (by omega)]

/-- The numbers of a date besides its month and its offset. -/
def Numbers.fields (n : Numbers) : List Int := [n.year, n.day, n.hour, n.minute, n.second]

/-- Numbers that a clock can be asked about. An offset of a day or more is no zone, and then nobody
looks at the other numbers. -/
structure Numbers.IsBounded (n : Numbers) : Prop where
  offset : ∀ offset, n.offset = some offset → (offset.fdiv 86400).natAbs ≤ 999999999
  fields : (n.offset.getD 0).natAbs < 86400 → ∀ number ∈ n.fields, FitsWord number

/-- Numbers have no fault if a clock can be asked about them. -/
theorem Numbers.fault?_eq_none_iff {n : Numbers} : n.fault? = none ↔ n.IsBounded := by
  have offset_iff : n.offset.bind offsetFault? = none ↔
      ∀ offset, n.offset = some offset → (offset.fdiv 86400).natAbs ≤ 999999999 := by
    simp only [Option.bind_eq_none_iff, offsetFault?_eq_none_iff]
  have fields_iff : n.fields.findSome? wordFault? = none ↔ ∀ number ∈ n.fields, FitsWord number := by
    simp only [List.findSome?_eq_none_iff, wordFault?_eq_none_iff]
  rw [fault?]
  -- The offset is looked at first, and one of a day or more keeps the rest from being looked at.
  cases offset : n.offset.bind offsetFault? with
  | some fault =>
    refine ⟨nofun, fun bounded => ?_⟩
    cases offset.symm.trans (offset_iff.mpr bounded.offset)
  | none =>
    dsimp only
    split
    next far => exact ⟨fun _ => ⟨offset_iff.mp offset, fun near => by omega⟩, fun _ => rfl⟩
    next near =>
      exact ⟨fun unfaulted => ⟨offset_iff.mp offset, fun _ => fields_iff.mp unfaulted⟩,
        fun bounded => fields_iff.mpr (bounded.fields (by omega))⟩

/-- Numbers that name a day and a time of the civil calendar, in a zone less than a day away. -/
def Numbers.IsInstant (n : Numbers) : Prop :=
  n.isCivil = true ∧ (n.offset.getD 0).natAbs < 86400

/-- A clock can be asked about every day and time of the calendar. -/
theorem Numbers.IsInstant.isBounded {n : Numbers} (isInstant : n.IsInstant) : n.IsBounded := by
  obtain ⟨civil, near⟩ := isInstant
  have days : daysIn n.year.toNat n.month ≤ 31 := by
    rw [daysIn]
    repeat' split
    all_goals omega
  constructor
  · intro offset isOffset
    rw [isOffset, Option.getD_some] at near
    rw [Int.fdiv_eq_ediv_of_nonneg _ (by decide)]
    omega
  · intro _ number isIn
    simp only [isCivil, Bool.and_eq_true, decide_eq_true_eq] at civil
    simp only [Numbers.fields, List.mem_cons, List.not_mem_nil, or_false] at isIn
    rw [FitsWord]
    omega

/-- Numbers are read as the instant that they name, if a clock can be asked about them. -/
theorem Numbers.instant?_eq {n : Numbers} (bounded : n.IsBounded) :
    n.instant? = .ok (if n.isCivil && (n.offset.getD 0).natAbs < 86400 then some n.seconds
      else none) := by
  rw [instant?, fault?_eq_none_iff.mpr bounded]
  dsimp only
  split <;> rfl

/-- Reading numbers fails exactly if no clock can be asked about them. -/
theorem Numbers.exists_instant?_iff {n : Numbers} : (∃ r, n.instant? = .ok r) ↔ n.IsBounded := by
  constructor
  · rintro ⟨r, reads⟩
    rw [← fault?_eq_none_iff]
    cases faulty : n.fault? with
    | none => rfl
    | some fault =>
      rw [instant?, faulty] at reads
      cases reads
  · exact fun bounded => ⟨_, instant?_eq bounded⟩

/-! ## Dates -/

/-- The numbers of a date, if the text is laid out as one. -/
def numbers? (date : String) : Option Numbers := (fields? date.toList).bind Fields.numbers?

/-- A date names an instant, in seconds since the beginning of 1970. -/
def Names (date : String) (instant : Int) : Prop :=
  ∃ n, numbers? date = some n ∧ n.IsInstant ∧ n.seconds = instant

/-- The numbers of a date, if it has any, are ones that a clock can be asked about. -/
def IsBounded (date : String) : Prop := ∀ n, numbers? date = some n → n.IsBounded

/-- A date that names an instant is bounded. -/
theorem Names.isBounded (names : Names date instant) : IsBounded date := by
  obtain ⟨n, isDate, isInstant, -⟩ := names
  intro other isDate'
  obtain rfl := Option.some.inj (isDate.symm.trans isDate')
  exact isInstant.isBounded

/-- The instant that is read is the one that the date names. -/
theorem instant?_eq_some_iff : instant? date = .ok (some instant) ↔ Names date instant := by
  rw [instant?, Names, numbers?]
  cases (fields? date.toList).bind Fields.numbers? with
  | none => exact ⟨nofun, nofun⟩
  | some n =>
    dsimp only
    constructor
    · intro reads
      have bounded : n.IsBounded := Numbers.exists_instant?_iff.mp ⟨_, reads⟩
      rw [Numbers.instant?_eq bounded] at reads
      split at reads
      next isInstant =>
        rw [Bool.and_eq_true, decide_eq_true_eq] at isInstant
        exact ⟨n, rfl, isInstant, Option.some.inj (Except.ok.inj reads)⟩
      next => cases reads
    · rintro ⟨other, same, isInstant, rfl⟩
      obtain rfl := Option.some.inj same
      rw [Numbers.instant?_eq isInstant.isBounded, isInstant.1, Bool.true_and,
        if_pos (decide_eq_true isInstant.2)]

/-- Reading a date fails exactly if no clock can be asked about its numbers. -/
theorem exists_instant?_iff : (∃ r, instant? date = .ok r) ↔ IsBounded date := by
  rw [instant?, IsBounded, numbers?]
  cases (fields? date.toList).bind Fields.numbers? with
  | none => exact ⟨fun _ => nofun, fun _ => ⟨none, rfl⟩⟩
  | some n =>
    rw [Numbers.exists_instant?_iff]
    exact ⟨fun bounded _ same => Option.some.inj same ▸ bounded, fun bounded => bounded n rfl⟩

/-- A bounded date that names no instant is read as none. -/
theorem instant?_eq_none (bounded : IsBounded date) (unnamed : ∀ instant, ¬ Names date instant) :
    instant? date = .ok none := by
  obtain ⟨_ | instant, reads⟩ := exists_instant?_iff.mpr bounded
  · exact reads
  · exact absurd (instant?_eq_some_iff.mp reads) (unnamed instant)

end SafeFetch.Http.Date
