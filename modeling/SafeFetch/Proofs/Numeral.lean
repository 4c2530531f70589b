import SafeFetch.Proofs.Path
import SafeFetch.Text.Numeral

/-!
# Numerals read back

A number that is written with the ten digits of ASCII is read back, with a sign before it or
without. Numbers are put together from their digits, the last one being added to ten times the
others.

## Main definitions

* `IsVisible`: characters of ASCII that can be seen;
* `Numeral.Writes`: a text writes a number with digits of ASCII;
* `Numeral.twoDigits` and `Numeral.fourDigits`: numbers with zeros in front.

## Main results

* `Numeral.int?_of_writes` and `Numeral.int?_of_signed`: what is written is read back;
* `Numeral.Writes.append`: numbers that are written one after the other.
-/

namespace SafeFetch.Text

/-- A character of ASCII that can be seen. -/
def IsVisible (c : Char) : Prop := 0x20 < c.toNat ∧ c.toNat < 0x7F

instance (c : Char) : Decidable (IsVisible c) := by
  unfold IsVisible
  infer_instance

/-- What can be seen is no white space. -/
theorem IsVisible.not_blank {c : Char} (visible : IsVisible c) : isBlank c = false := by
  obtain ⟨low, high⟩ := visible
  simp only [isBlank, Bool.or_eq_false_iff, Bool.and_eq_false_iff, decide_eq_false_iff_not,
    beq_eq_false_iff_ne]
  omega

namespace Numeral

variable {s : List Char} {c : Char} {d m n : Nat}

/-! ## Digits -/

theorem isPlainDigit_digitChar (small : d < 10) : isPlainDigit (Nat.digitChar d) = true := by
  revert d
  decide

/-- What holds of the ten digits holds of every plain digit. -/
theorem forall_of_isPlainDigit {p : Char → Prop} (ten : ∀ d < 10, p (Nat.digitChar d))
    (isDigit : isPlainDigit c = true) : p c := by
  simp only [isPlainDigit, Bool.and_eq_true, decide_eq_true_eq] at isDigit
  obtain ⟨least, most⟩ := isDigit
  have low : 48 ≤ c.toNat := least
  have high : c.toNat ≤ 57 := most
  -- A plain digit is the digit of its own value.
  have same : Nat.digitChar (c.toNat - 48) = c := by
    apply Char.toNat_inj.mp
    rw [Nat.toNat_digitChar_of_lt_ten (by omega)]
    omega
  rw [← same]
  exact ten _ (by omega)

/-- A digit more is one more place. -/
theorem natOfDigits_concat (s : List Char) (small : d < 10) :
    natOfDigits (s ++ [Nat.digitChar d]) = 10 * natOfDigits s + d := by
  have value : (Nat.digitChar d).toNat - '0'.toNat = d := by
    rw [Nat.toNat_digitChar_of_lt_ten small]
    exact Nat.add_sub_cancel_left ..
  rw [natOfDigits, natOfDigits, List.foldl_append, List.foldl_cons, List.foldl_nil, value]

/-! ## Numbers -/

/-- A text writes a number with digits of ASCII, no more of them than a numeral may have. -/
structure Writes (s : List Char) (n : Nat) : Prop where
  ne_nil : s ≠ []
  digits : ∀ c ∈ s, isPlainDigit c = true
  few : s.length ≤ maxDigits
  value : natOfDigits s = n

theorem writes_digit (small : d < 10) : Writes [Nat.digitChar d] d where
  ne_nil := List.cons_ne_nil _ _
  digits c isIn := by
    obtain rfl := List.mem_singleton.mp isIn
    exact isPlainDigit_digitChar small
  few := by simp [maxDigits]
  value := by
    have place := natOfDigits_concat [] small
    simpa [natOfDigits] using place

/-- A number with one more digit. -/
theorem Writes.concat (writes : Writes s n) (room : s.length < maxDigits) (small : d < 10) :
    Writes (s ++ [Nat.digitChar d]) (10 * n + d) where
  ne_nil := by simp
  digits c isIn := by
    rcases List.mem_append.mp isIn with inFront | isLast
    · exact writes.digits c inFront
    · obtain rfl := List.mem_singleton.mp isLast
      exact isPlainDigit_digitChar small
  few := by
    rw [List.length_append]
    exact room
  value := by rw [natOfDigits_concat s small, writes.value]

/-- A number below a hundred with two digits. -/
def twoDigits (n : Nat) : List Char := [Nat.digitChar (n / 10), Nat.digitChar (n % 10)]

/-- A number below ten thousand with four digits. -/
def fourDigits (n : Nat) : List Char := twoDigits (n / 100) ++ twoDigits (n % 100)

/-- Two more digits. -/
theorem Writes.append (writes : Writes s m) (room : s.length + 1 < maxDigits) (small : n < 100) :
    Writes (s ++ twoDigits n) (100 * m + n) := by
  -- The tens are written first, the ones behind them.
  have tens := writes.concat (d := n / 10) (by omega) (by omega)
  have ones := tens.concat (d := n % 10) (by simpa using room) (by omega)
  rw [List.append_assoc] at ones
  have value : 10 * (10 * m + n / 10) + n % 10 = 100 * m + n := by omega
  rw [value] at ones
  exact ones

theorem writes_twoDigits (small : n < 100) : Writes (twoDigits n) n := by
  have tens := writes_digit (d := n / 10) (by omega)
  have ones := tens.concat (d := n % 10) (by simp [maxDigits]) (by omega)
  have value : 10 * (n / 10) + n % 10 = n := by omega
  rw [value] at ones
  exact ones

theorem writes_fourDigits (small : n < 10000) : Writes (fourDigits n) n := by
  have hundreds := writes_twoDigits (n := n / 100) (by omega)
  have whole := hundreds.append (n := n % 100) (by simp [twoDigits, maxDigits]) (by omega)
  have value : 100 * (n / 100) + n % 100 = n := by omega
  rw [value] at whole
  exact whole

/-! ## Reading back -/

/-- A text that is all visible is plain as it is. -/
theorem plain_eq_self (visible : ∀ c ∈ s, IsVisible c) : plain s = s := by
  have same : s.map plainChar = s.map id := by
    apply List.map_congr_left
    intro c isIn
    rw [plainChar, if_pos (visible c isIn).2, id]
  rw [plain, same, List.map_id]
  -- No white space is there to be trimmed.
  apply trimWhile_eq_self
  intro c isIn
  have seen := (visible c isIn).1
  simp only [isAsciiBlank, Bool.or_eq_false_iff, Bool.and_eq_false_iff, decide_eq_false_iff_not,
    beq_eq_false_iff_ne]
  omega

/-- What is no digit has no place in a number. -/
theorem Writes.notMem (writes : Writes s n) (other : isPlainDigit c = false) : c ∉ s := by
  intro isIn
  cases other.symm.trans (writes.digits c isIn)

/-- Digits are visible. -/
theorem Writes.visible (writes : Writes s n) : ∀ c ∈ s, IsVisible c := by
  intro c isIn
  apply forall_of_isPlainDigit (p := IsVisible) (by decide) (writes.digits c isIn)

/-- Digits alone are one group. -/
theorem Writes.groupedDigits? (writes : Writes s n) : Numeral.groupedDigits? s = some s := by
  have undivided : '_' ∉ s := writes.notMem (by decide)
  have whole : splitAll '_' s = [s] := by
    rw [splitAll_eq_splitOn, List.splitOn_eq_singleton undivided]
  have digits : s.all isPlainDigit = true := List.all_eq_true.mpr writes.digits
  simp [Numeral.groupedDigits?, whole, writes.ne_nil, digits]

/-- What is left behind a sign is read, and the sign counts. -/
theorem int?_of_splitSign (isNegative : Bool) {digits : List Char}
    (split : splitSign (plain s) = (isNegative, digits)) (writes : Writes digits n) :
    int? s = some (if isNegative then -(n : Int) else n) := by
  rw [int?, split]
  cases isNegative <;> simp [writes.groupedDigits?, Nat.not_lt.mpr writes.few, writes.value]

/-- A number that is written is read back. -/
theorem int?_of_writes (writes : Writes s n) : int? s = some (n : Int) := by
  have unsigned : splitSign (plain s) = (false, s) := by
    rw [plain_eq_self writes.visible]
    obtain ⟨c, rest, rfl⟩ := List.exists_cons_of_ne_nil writes.ne_nil
    have isDigit := writes.digits c List.mem_cons_self
    -- A digit is no sign.
    have other {sign : Char} (isSign : isPlainDigit sign = false) (rest' : List Char) :
        c :: rest = sign :: rest' → False := by
      intro same
      obtain ⟨rfl, -⟩ := List.cons.inj same
      cases isSign.symm.trans isDigit
    rw [splitSign]
    · exact other (by decide)
    · exact other (by decide)
  exact int?_of_splitSign false unsigned writes

/-- A number with a sign before it is read back. -/
theorem int?_of_signed (writes : Writes s n) :
    int? ('+' :: s) = some (n : Int) ∧ int? ('-' :: s) = some (-(n : Int)) := by
  have visible {sign : Char} (seen : IsVisible sign) : ∀ c ∈ sign :: s, IsVisible c := by
    intro c isIn
    rcases List.mem_cons.mp isIn with rfl | isIn
    · exact seen
    · exact writes.visible c isIn
  constructor
  · apply int?_of_splitSign false _ writes
    rw [plain_eq_self (visible (by decide)), splitSign]
  · apply int?_of_splitSign true _ writes
    rw [plain_eq_self (visible (by decide)), splitSign]

end Numeral

end SafeFetch.Text
