import Mathlib.Data.List.DropRight
import SafeFetch.Proofs.Failure
import SafeFetch.Proofs.Hex
import SafeFetch.Proofs.Text

/-!
# Expected digests as they may be spelled

An expected digest is given as text in pairs of hexadecimal digits, one pair for each byte. The
digits may be small or capital, ASCII white space may stand between two pairs, and white space of any
script around all of them. Such texts are read as the bytes that the pairs write, and every other
text is refused.

## Main definitions

* `Hex.SetsOut`: pairs of digits with ASCII white space between them;
* `Hex.Displays`: the same with white space of any script around it;
* `Hex.Writes`: the bytes that pairs of digits write.

## Main results

* `trimWhile_of_enclosed` and `exists_enclosed`: what is left of a text that is trimmed;
* `Hex.decodeFrom_of_setsOut` and `Hex.exists_setsOut_of_decodeFrom`: pairs are read, and nothing
  else is;
* `Expected.decode_text_iff`: which texts are read, and as which bytes.
-/

namespace SafeFetch

open SafeFetch.Text

namespace Text

variable {p : Char → Bool} {front core back : List Char}

/-! ## Trimmed texts -/

/-- What stands between characters to drop is left, if it neither begins nor ends with one. -/
theorem trimWhile_of_enclosed (inFront : ∀ c ∈ front, p c = true) (behind : ∀ c ∈ back, p c = true)
    (begins : ∀ c ∈ core.head?, p c = false) (ends : ∀ c ∈ core.getLast?, p c = false) :
    trimWhile p (front ++ core ++ back) = core := by
  cases core with
  | nil =>
    have dropped : ∀ c ∈ front ++ [] ++ back, p c = true := by
      intro c isIn
      rw [List.append_nil] at isIn
      exact (List.mem_append.mp isIn).elim (inFront c) (behind c)
    rw [trimWhile, List.dropWhile_eq_nil_iff.mpr dropped]
    rfl
  | cons c rest =>
    have first : (front ++ (c :: rest) ++ back).dropWhile p = (c :: rest) ++ back := by
      rw [List.append_assoc]
      exact dropWhile_append_of_head inFront begins
    -- The end is dropped as the beginning of the text that is turned round.
    have last : (back.reverse ++ (c :: rest).reverse).dropWhile p = (c :: rest).reverse := by
      apply dropWhile_append_of_head
      · intro d isIn
        exact behind d (List.mem_reverse.mp isIn)
      · rw [List.head?_reverse]
        exact ends
    rw [trimWhile, first, dropEndWhile, List.reverse_append, last, List.reverse_reverse]

/-- What is dropped stands in front of what is left, and behind it. -/
theorem exists_enclosed (p : Char → Bool) (s : List Char) :
    ∃ front back, s = front ++ trimWhile p s ++ back ∧ (∀ c ∈ front, p c = true) ∧
      ∀ c ∈ back, p c = true := by
  refine ⟨s.takeWhile p, (s.dropWhile p).rtakeWhile p, ?_, ?_, ?_⟩
  · have behind : trimWhile p s ++ (s.dropWhile p).rtakeWhile p = s.dropWhile p :=
      List.rdropWhile_append_rtakeWhile
    rw [List.append_assoc, behind, List.takeWhile_append_dropWhile]
  · intro c isIn
    exact List.mem_takeWhile_imp isIn
  · intro c isIn
    exact List.mem_rtakeWhile_imp isIn

namespace Hex

variable {c high low : Char} {n : Nat} {s rest gap : List Char} {bytes : List UInt8}
  {pairs others : List (Char × Char)}

/-! ## Pairs of digits -/

/-- A hexadecimal digit, in either letter case. -/
def IsDigit (c : Char) : Prop := ∃ n < 16, lowerAscii c = digit n

/-- Pairs of digits with ASCII white space between them, none inside a pair. -/
inductive SetsOut : List (Char × Char) → List Char → Prop
  | nil : SetsOut [] []
  | cons {high low : Char} {gap rest : List Char} {others : List (Char × Char)}
      (isHigh : IsDigit high) (isLow : IsDigit low) (blank : ∀ c ∈ gap, isAsciiBlank c = true)
      (between : others = [] → gap = []) (onward : SetsOut others rest) :
      SetsOut ((high, low) :: others) (high :: low :: (gap ++ rest))

/-- A text of such pairs, with white space of any script around it. -/
def Displays (pairs : List (Char × Char)) (s : List Char) : Prop :=
  ∃ front core back, s = front ++ core ++ back ∧ (∀ c ∈ front, isBlank c = true) ∧
    (∀ c ∈ back, isBlank c = true) ∧ SetsOut pairs core

/-- A pair in small letters. -/
def smallPair (pair : Char × Char) : List Char := [pair.1, pair.2].map lowerAscii

/-- Pairs of digits write bytes, in whatever letter case. -/
def Writes (pairs : List (Char × Char)) (bytes : List UInt8) : Prop :=
  pairs.map smallPair = bytes.map pair

/-- One pair and its byte more. -/
theorem Writes.cons {byte : UInt8} (writes : Writes pairs bytes)
    (isPair : smallPair (high, low) = pair byte) : Writes ((high, low) :: pairs) (byte :: bytes) := by
  rw [Writes, List.map_cons, List.map_cons, isPair, writes]

/-- Digits are the characters with a value. -/
theorem isDigit_iff : IsDigit c ↔ ∃ n, digitValue? c = some n := by
  constructor
  · rintro ⟨n, small, isDigit⟩
    exact ⟨n, (reads_of_lowerAscii small isDigit).1⟩
  · rintro ⟨n, value⟩
    exact ⟨n, lowerAscii_of_digitValue? value⟩

/-- A digit is no white space, and belongs to ASCII. -/
theorem IsDigit.spec (isDigit : IsDigit c) : isBlank c = false ∧ isAscii c = true := by
  obtain ⟨n, small, lower⟩ := isDigit
  exact (reads_of_lowerAscii small lower).2.2

/-- White space of ASCII is white space, and belongs to ASCII. -/
theorem isBlank_of_isAsciiBlank (blank : isAsciiBlank c = true) :
    isBlank c = true ∧ isAscii c = true := by
  simp only [isAsciiBlank, isBlank, isAscii, Bool.or_eq_true, Bool.and_eq_true, decide_eq_true_eq,
    beq_iff_eq] at blank ⊢
  omega

namespace SetsOut

/-- A pair with nothing between it and the next one. -/
theorem pair (isHigh : IsDigit high) (isLow : IsDigit low) (onward : SetsOut others rest) :
    SetsOut ((high, low) :: others) (high :: low :: rest) :=
  @cons high low [] rest others isHigh isLow (by simp) (fun _ => rfl) onward

/-- Pairs of digits always write bytes. -/
theorem exists_writes (setsOut : SetsOut pairs s) : ∃ bytes, Writes pairs bytes := by
  induction setsOut with
  | nil => exact ⟨[], rfl⟩
  | cons isHigh isLow _ _ _ ih =>
    obtain ⟨h, isHigh⟩ := isDigit_iff.mp isHigh
    obtain ⟨l, isLow⟩ := isDigit_iff.mp isLow
    obtain ⟨bytes, writes⟩ := ih
    exact ⟨UInt8.ofNat (16 * h + l) :: bytes, writes.cons (map_lowerAscii_eq_pair isHigh isLow)⟩

/-- All characters belong to ASCII. -/
theorem isAscii_of_mem (setsOut : SetsOut pairs s) : ∀ c ∈ s, isAscii c = true := by
  induction setsOut with
  | nil => simp
  | cons isHigh isLow blank _ _ ih =>
    intro c isIn
    simp only [List.mem_cons, List.mem_append] at isIn
    rcases isIn with rfl | rfl | inGap | later
    · exact isHigh.spec.2
    · exact isLow.spec.2
    · exact (isBlank_of_isAsciiBlank (blank c inGap)).2
    · exact ih c later

/-- The first character is a digit. -/
theorem isDigit_of_head? (setsOut : SetsOut pairs s) : ∀ c ∈ s.head?, IsDigit c := by
  cases setsOut with
  | nil => simp
  | cons isHigh => simpa using isHigh

/-- The last character is a digit. -/
theorem isDigit_of_getLast? (setsOut : SetsOut pairs s) : ∀ c ∈ s.getLast?, IsDigit c := by
  induction setsOut with
  | nil => simp
  | @cons _ low gap rest others _ isLow _ between onward ih =>
    cases onward with
    | nil =>
      rw [between rfl]
      simpa using isLow
    | cons =>
      -- The last character of the other pairs is the last one of all.
      intro c isLast
      apply ih c
      rwa [← List.cons_append, ← List.cons_append, List.getLast?_append_cons] at isLast

/-- One pair more in front. White space behind the last pair of all is not between pairs, and is left
outside. -/
theorem exists_of_pair {front core back : List Char} (isHigh : IsDigit high) (isLow : IsDigit low)
    (inFront : ∀ c ∈ front, isAsciiBlank c = true) (behind : ∀ c ∈ back, isAsciiBlank c = true)
    (setsOut : SetsOut pairs core) :
    ∃ core' back', high :: low :: (front ++ core ++ back) = core' ++ back' ∧
      (∀ c ∈ back', isAsciiBlank c = true) ∧ SetsOut ((high, low) :: pairs) core' := by
  cases pairs with
  | nil =>
    obtain rfl : core = [] := by
      cases setsOut
      rfl
    refine ⟨[high, low], front ++ back, by simp, ?_, ?_⟩
    · intro c isIn
      exact (List.mem_append.mp isIn).elim (inFront c) (behind c)
    · exact .pair isHigh isLow .nil
  | cons next others =>
    refine ⟨high :: low :: (front ++ core), back, rfl, behind, ?_⟩
    exact .cons isHigh isLow inFront nofun setsOut

end SetsOut

/-- Pairs of digits that are displayed write bytes. -/
theorem Displays.exists_writes (displays : Displays pairs s) : ∃ bytes, Writes pairs bytes := by
  obtain ⟨_, _, _, -, -, -, setsOut⟩ := displays
  exact setsOut.exists_writes

/-! ## Reading -/

/-- White space between pairs is passed over. -/
theorem decodeFrom_append_of_blank (start : Nat) (blank : ∀ c ∈ gap, isAsciiBlank c = true) :
    decodeFrom start (gap ++ s) = decodeFrom (start + gap.length) s := by
  induction gap generalizing start with
  | nil => rfl
  | cons c gap ih =>
    obtain ⟨first, later⟩ := List.forall_mem_cons.mp blank
    rw [List.cons_append, decodeFrom.eq_def]
    simp only [first, if_true]
    rw [ih (start + 1) later, List.length_cons, Nat.add_assoc, Nat.add_comm 1]

/-- Pairs of digits are read as the bytes that they write, from any position on. -/
theorem decodeFrom_of_setsOut (start : Nat) (setsOut : SetsOut pairs s)
    (writes : Writes pairs bytes) : decodeFrom start s = .ok bytes := by
  induction setsOut generalizing start bytes with
  | nil =>
    obtain rfl := List.map_eq_nil_iff.mp writes.symm
    rfl
  | cons isHigh isLow blank _ _ ih =>
    obtain ⟨byte, bytes, rfl, isPair, later⟩ := List.map_eq_cons_iff.mp writes.symm
    rw [decodeFrom_pair start isPair.symm, decodeFrom_append_of_blank _ blank, ih _ later.symm]
    rfl

/-- What is read are pairs of digits, with white space around them. -/
theorem exists_setsOut_of_decodeFrom {start : Nat} (reads : decodeFrom start s = .ok bytes) :
    ∃ front core back pairs, s = front ++ core ++ back ∧ (∀ c ∈ front, isAsciiBlank c = true) ∧
      (∀ c ∈ back, isAsciiBlank c = true) ∧ SetsOut pairs core ∧ Writes pairs bytes := by
  fun_induction decodeFrom start s generalizing bytes with
  | case1 =>
    obtain rfl := Except.ok.inj reads
    exact ⟨[], [], [], [], rfl, by simp, by simp, .nil, rfl⟩
  | case2 start c rest blank ih =>
    obtain ⟨front, core, back, pairs, rfl, inFront, behind, setsOut, writes⟩ := ih reads
    refine ⟨c :: front, core, back, pairs, rfl, ?_, behind, setsOut, writes⟩
    exact List.forall_mem_cons.mpr ⟨blank, inFront⟩
  | case3 => cases reads
  | case4 => cases reads
  | case5 => cases reads
  | case6 start c notBlank h d rest isHigh l isLow ih =>
    rcases decoded : decodeFrom (start + 2) rest with position | later
    · rw [decoded] at reads
      cases reads
    rw [decoded] at reads
    obtain rfl := Except.ok.inj reads
    obtain ⟨front, core, back, others, rfl, inFront, behind, setsOut, writes⟩ := ih decoded
    obtain ⟨core', back', whole, behind', setsOut'⟩ :=
      setsOut.exists_of_pair (isDigit_iff.mpr ⟨h, isHigh⟩) (isDigit_iff.mpr ⟨l, isLow⟩) inFront behind
    have writes' : Writes ((c, d) :: others) (UInt8.ofNat (16 * h + l) :: later) :=
      writes.cons (map_lowerAscii_eq_pair isHigh isLow)
    exact ⟨[], core', back', (c, d) :: others, whole, by simp, behind', setsOut', writes'⟩

end Hex

end Text

/-! ## Expected digests -/

namespace Expected

open Text.Hex

variable {digits other : String} {bytes : List UInt8} {pairs others : List (Char × Char)}

/-- A text that spells bytes is read as these bytes. -/
theorem decode_text_of_displays (displays : Displays pairs digits.toList) (writes : Writes pairs bytes) :
    (Expected.text digits).decode = .ok bytes := by
  obtain ⟨front, core, back, whole, inFront, behind, setsOut⟩ := displays
  have trimmed : trim digits.toList = core := by
    rw [whole]
    apply trimWhile_of_enclosed inFront behind
    · intro c isFirst
      exact (setsOut.isDigit_of_head? c isFirst).spec.1
    · intro c isLast
      exact (setsOut.isDigit_of_getLast? c isLast).spec.1
  have ascii : core.findIdx? (fun c => !isAscii c) = none := by
    rw [List.findIdx?_eq_none_iff]
    intro c isIn
    rw [setsOut.isAscii_of_mem c isIn, Bool.not_true]
  rw [decode, trimmed, Hex.decode, ascii]
  simp only [decodeFrom_of_setsOut 0 setsOut writes]
  rfl

/-- A text that is read spells the bytes. -/
theorem exists_displays_of_decode_text (reads : (Expected.text digits).decode = .ok bytes) :
    ∃ pairs, Displays pairs digits.toList ∧ Writes pairs bytes := by
  have reads : Hex.decode (trim digits.toList) = .ok bytes := by
    rw [decode] at reads
    cases decoded : Hex.decode (trim digits.toList) with
    | error position =>
      rw [decoded] at reads
      cases reads
    | ok given =>
      rw [decoded] at reads
      exact congrArg Except.ok (Except.ok.inj reads)
  rw [Hex.decode] at reads
  split at reads
  next => cases reads
  next =>
    obtain ⟨front, core, back, pairs, kept, inFront, behind, setsOut, writes⟩ :=
      exists_setsOut_of_decodeFrom reads
    obtain ⟨before, after, whole, outFront, outBack⟩ := exists_enclosed isBlank digits.toList
    -- White space of ASCII that the reader passes over adds to what was trimmed.
    refine ⟨pairs, ⟨before ++ front, core, back ++ after, ?_, ?_, ?_, setsOut⟩, writes⟩
    · rw [whole, ← trim, kept]
      simp
    · intro c isIn
      rcases List.mem_append.mp isIn with outside | inside
      · exact outFront c outside
      · exact (isBlank_of_isAsciiBlank (inFront c inside)).1
    · intro c isIn
      rcases List.mem_append.mp isIn with inside | outside
      · exact (isBlank_of_isAsciiBlank (behind c inside)).1
      · exact outBack c outside

/-- Bytes are read back from the digits that they are written with. -/
theorem decode_text_encode (bytes : List UInt8) :
    (Expected.text (String.ofList (Hex.encode bytes))).decode = .ok bytes := by
  apply Spells.decode_eq
  rw [Spells, String.toList_ofList]
  -- Bytes are written in small letters.
  have small : ∀ n < 16, lowerAscii (digit n) = digit n := by decide
  induction bytes with
  | nil => rfl
  | cons byte bytes ih =>
    have bound := byte.toNat_lt
    rw [encode_cons, List.map_cons, List.map_cons, ih, small _ (by omega), small _ (by omega)]

/-- A text is read as bytes exactly if pairs of digits that write them are displayed in it, and any
other text is refused as not being hexadecimal. So bytes are read back from their digits, and texts
with the same pairs are read alike. -/
theorem decode_text_iff (digits : String) :
    (∀ bytes, (Expected.text digits).decode = .ok bytes ↔
      ∃ pairs, Displays pairs digits.toList ∧ Writes pairs bytes) ∧
    ((∃ position, (Expected.text digits).decode = .error (.notHexadecimal position)) ↔
      ¬∃ pairs, Displays pairs digits.toList) ∧
    (∀ bytes, (Expected.text (String.ofList (Hex.encode bytes))).decode = .ok bytes) ∧
    ∀ other pairs others, Displays pairs digits.toList → Displays others other.toList →
      pairs.map smallPair = others.map smallPair →
        (Expected.text digits).decode = (Expected.text other).decode := by
  have reads (bytes : List UInt8) : (Expected.text digits).decode = .ok bytes ↔
      ∃ pairs, Displays pairs digits.toList ∧ Writes pairs bytes := by
    constructor
    · exact exists_displays_of_decode_text
    · rintro ⟨pairs, displays, writes⟩
      exact decode_text_of_displays displays writes
  refine ⟨reads, ?_, decode_text_encode, ?_⟩
  · cases decoded : (Expected.text digits).decode with
    | ok bytes =>
      obtain ⟨pairs, displays, -⟩ := exists_displays_of_decode_text decoded
      simpa using ⟨pairs, displays⟩
    | error failure =>
      -- A text that displays pairs would be read as the bytes that they write.
      have none : ¬∃ pairs, Displays pairs digits.toList := by
        rintro ⟨pairs, displays⟩
        obtain ⟨bytes, writes⟩ := displays.exists_writes
        cases decoded.symm.trans (decode_text_of_displays displays writes)
      obtain ⟨position, rfl⟩ := error_of_decode_text decoded
      exact iff_of_true ⟨position, rfl⟩ none
  · intro other pairs others displays displays' same
    obtain ⟨bytes, writes⟩ := displays.exists_writes
    rw [decode_text_of_displays displays writes,
      decode_text_of_displays displays' (same.symm.trans writes)]

/-- Two bytes with space between their pairs and around them, spelled in mixed case. A space inside a
pair is not allowed. -/
theorem decode_text_of_spaced :
    Displays [('0', 'A'), ('f', 'b')] "\u00A0 0A\t\nfb\u2003".toList ∧
      Displays [('0', 'a'), ('F', 'B')] "0aFB".toList ∧
      [('0', 'A'), ('f', 'b')].map smallPair = [('0', 'a'), ('F', 'B')].map smallPair ∧
      (Expected.text "\u00A0 0A\t\nfb\u2003").decode = .ok [0x0A, 0xFB] ∧
      (Expected.text "\u00A0 0A\t\nfb\u2003").decode = (Expected.text "0aFB").decode ∧
      ¬∃ pairs, Displays pairs "0 afb".toList := by
  have spaced : Displays [('0', 'A'), ('f', 'b')] "\u00A0 0A\t\nfb\u2003".toList := by
    refine ⟨['\u00A0', ' '], ['0', 'A', '\t', '\n', 'f', 'b'], ['\u2003'], by decide +kernel,
      List.all_eq_true.mp (by decide), List.all_eq_true.mp (by decide), ?_⟩
    refine @SetsOut.cons '0' 'A' ['\t', '\n'] ['f', 'b'] _ ⟨0, by decide⟩ ⟨10, by decide⟩
      (List.all_eq_true.mp (by decide)) (by simp) ?_
    exact .pair ⟨15, by decide⟩ ⟨11, by decide⟩ .nil
  have close : Displays [('0', 'a'), ('F', 'B')] "0aFB".toList := by
    refine ⟨[], ['0', 'a', 'F', 'B'], [], by decide +kernel, by simp, by simp, ?_⟩
    refine .pair ⟨0, by decide⟩ ⟨10, by decide⟩ ?_
    exact .pair ⟨15, by decide⟩ ⟨11, by decide⟩ .nil
  have same : [('0', 'A'), ('f', 'b')].map smallPair = [('0', 'a'), ('F', 'B')].map smallPair := by
    decide
  obtain ⟨reads, -, -, alike⟩ := decode_text_iff "\u00A0 0A\t\nfb\u2003"
  obtain ⟨-, refuses, -⟩ := decode_text_iff "0 afb"
  refine ⟨spaced, close, same, ?_, alike _ _ _ spaced close same, ?_⟩
  · exact (reads [0x0A, 0xFB]).mpr ⟨_, spaced, by rw [Writes]; decide⟩
  · exact refuses.mp ⟨1, by decide +kernel⟩

end Expected

end SafeFetch
