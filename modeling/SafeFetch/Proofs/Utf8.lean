import Mathlib.Tactic.SplitIfs
import SafeFetch.Text.Utf8

/-!
# UTF-8 read back

The bytes of a text are read as that text. The scan takes bytes of the right shape for the character
of their code point, whatever follows them; a character's own bytes have that shape, since no
character is a surrogate or beyond the last code point.

## Main results

* `scan_encodeChar_append`: the bytes of a character in front of others;
* `decode?_encode`: the bytes of a text;
* `length_encode_eq_iff`: which texts have a byte for each of their characters.
-/

namespace SafeFetch.Text.Utf8

variable {n : Nat}

/-! ## Bytes of the right shape -/

/-- Bytes that make up the code point `n`: a lead in the range for their number, a second byte that
suits the lead, and continuations. -/
inductive MakesUp (n : Nat) : List UInt8 → Prop
  | one {b : UInt8} (lead : b.toNat < 0x80) (code : b.toNat = n) : MakesUp n [b]
  | two {b b₁ : UInt8} (lead : 0xC2 ≤ b.toNat ∧ b.toNat < 0xE0)
      (second : isContinuation b₁ = true) (code : b.toNat % 0x20 * 0x40 + payload b₁ = n) :
      MakesUp n [b, b₁]
  | three {b b₁ b₂ : UInt8} (lead : 0xE0 ≤ b.toNat ∧ b.toNat < 0xF0)
      (second : isSecond b.toNat b₁ = true) (third : isContinuation b₂ = true)
      (code : b.toNat % 0x10 * 0x1000 + payload b₁ * 0x40 + payload b₂ = n) : MakesUp n [b, b₁, b₂]
  | four {b b₁ b₂ b₃ : UInt8} (lead : 0xF0 ≤ b.toNat ∧ b.toNat < 0xF5)
      (second : isSecond b.toNat b₁ = true) (third : isContinuation b₂ = true)
      (fourth : isContinuation b₃ = true)
      (code : b.toNat % 0x8 * 0x40000 + payload b₁ * 0x1000 + payload b₂ * 0x40 + payload b₃ = n) :
      MakesUp n [b, b₁, b₂, b₃]

/-- Such bytes are read as the character of their code point, whatever follows them. -/
theorem MakesUp.scan_append {bytes : List UInt8} (makesUp : MakesUp n bytes) (rest : List UInt8) :
    scan (bytes ++ rest) = some (Char.ofNat n) :: scan rest := by
  cases makesUp with
  | one lead code =>
    subst code
    rw [List.singleton_append, scan.eq_def]
    simp only [lead, if_true]
  | @two b b₁ lead second code =>
    rw [List.cons_append, List.singleton_append, scan.eq_def]
    simp only [second, if_true, lead.2, show ¬ b.toNat < 0x80 by omega,
      show ¬ b.toNat < 0xC2 by omega, if_false, code]
  | @three b b₁ b₂ lead second third code =>
    rw [List.cons_append, List.cons_append, List.singleton_append, scan.eq_def]
    simp only [second, third, if_true, lead.2, show ¬ b.toNat < 0x80 by omega,
      show ¬ b.toNat < 0xC2 by omega, show ¬ b.toNat < 0xE0 by omega, if_false, code]
  | @four b b₁ b₂ b₃ lead second third fourth code =>
    rw [List.cons_append, List.cons_append, List.cons_append, List.singleton_append, scan.eq_def]
    simp only [second, third, fourth, if_true, lead.2, show ¬ b.toNat < 0x80 by omega,
      show ¬ b.toNat < 0xC2 by omega, show ¬ b.toNat < 0xE0 by omega,
      show ¬ b.toNat < 0xF0 by omega, if_false, code]

/-! ## The bytes of a character -/

/-- A number below 256 is the value of its byte; the bound is one that `omega` reads. -/
theorem toNat_ofNat (small : n < 0x100) : (UInt8.ofNat n).toNat = n :=
  UInt8.toNat_ofNat_of_lt' small

/-- Six bits behind the mark of a continuation. -/
theorem isContinuation_ofNat (n : Nat) : isContinuation (UInt8.ofNat (0x80 + n % 0x40)) = true := by
  rw [isContinuation, toNat_ofNat (by omega), Bool.and_eq_true, decide_eq_true_eq,
    decide_eq_true_eq]
  omega

/-- The bits that a continuation carries. -/
theorem payload_ofNat (n : Nat) : payload (UInt8.ofNat (0x80 + n % 0x40)) = n % 0x40 := by
  rw [payload, toNat_ofNat (by omega)]
  omega

/-- A second byte lies in the range that its lead allows. -/
theorem isSecond_ofNat {lead : Nat} (afterE0 : lead = 0xE0 → 0x20 ≤ n % 0x40)
    (afterED : lead = 0xED → n % 0x40 < 0x20) (afterF0 : lead = 0xF0 → 0x10 ≤ n % 0x40)
    (afterF4 : lead = 0xF4 → n % 0x40 < 0x10) :
    isSecond lead (UInt8.ofNat (0x80 + n % 0x40)) = true := by
  rw [isSecond, toNat_ofNat (by omega), Bool.and_eq_true, decide_eq_true_eq, decide_eq_true_eq,
    secondByteRange]
  -- Four leads narrow the range; after any other lead each continuation may stand.
  split_ifs <;> dsimp only <;> omega

/-- The bytes of a character make up its code point. -/
theorem makesUp_encodeChar (c : Char) : MakesUp c.toNat (encodeChar c) := by
  -- A code point that is no surrogate keeps second bytes in the ranges of their leads.
  have valid : c.toNat < 0xD800 ∨ 0xDFFF < c.toNat ∧ c.toNat < 0x110000 := c.valid
  rw [encodeChar]
  split_ifs with one two three
  · have lead := toNat_ofNat (n := c.toNat) (by omega)
    exact .one (by omega) lead
  · have lead := toNat_ofNat (n := 0xC0 + c.toNat / 0x40) (by omega)
    refine .two (by omega) (isContinuation_ofNat _) ?_
    rw [lead, payload_ofNat]
    omega
  · have lead := toNat_ofNat (n := 0xE0 + c.toNat / 0x1000) (by omega)
    refine .three (by omega) (isSecond_ofNat (by omega) (by omega) (by omega) (by omega))
      (isContinuation_ofNat _) ?_
    rw [lead, payload_ofNat, payload_ofNat]
    omega
  · have lead := toNat_ofNat (n := 0xF0 + c.toNat / 0x40000) (by omega)
    refine .four (by omega) (isSecond_ofNat (by omega) (by omega) (by omega) (by omega))
      (isContinuation_ofNat _) (isContinuation_ofNat _) ?_
    rw [lead, payload_ofNat, payload_ofNat, payload_ofNat]
    omega

/-- A character of ASCII is its own byte. -/
theorem encodeChar_of_ascii {c : Char} (ascii : c.toNat < 0x80) :
    encodeChar c = [UInt8.ofNat c.toNat] := by
  rw [encodeChar, if_pos ascii]

/-- The bytes of any other character lie beyond ASCII. -/
theorem le_of_mem_encodeChar {c : Char} (beyond : 0x80 ≤ c.toNat) :
    ∀ b ∈ encodeChar c, 0x80 ≤ b.toNat := by
  have valid : c.toNat < 0xD800 ∨ 0xDFFF < c.toNat ∧ c.toNat < 0x110000 := c.valid
  intro b isIn
  rw [encodeChar] at isIn
  have large {n : Nat} (lower : 0x80 ≤ n) (upper : n < 0x100) : 0x80 ≤ (UInt8.ofNat n).toNat := by
    rw [toNat_ofNat upper]
    exact lower
  split_ifs at isIn <;> simp only [List.mem_cons, List.not_mem_nil, or_false] at isIn
  · omega
  · rcases isIn with rfl | rfl <;> exact large (by omega) (by omega)
  · rcases isIn with rfl | rfl | rfl <;> exact large (by omega) (by omega)
  · rcases isIn with rfl | rfl | rfl | rfl <;> exact large (by omega) (by omega)

/-- A character has a byte, and no other one exactly if it belongs to ASCII. -/
theorem length_encodeChar (c : Char) :
    1 ≤ (encodeChar c).length ∧ ((encodeChar c).length = 1 ↔ c.toNat < 0x80) := by
  rw [encodeChar]
  split_ifs <;> simp [*]

theorem encodeChar_ne_nil (c : Char) : encodeChar c ≠ [] := by
  rw [← List.length_pos_iff]
  exact (length_encodeChar c).1

/-- The bytes of a character are read as that character, whatever follows. -/
theorem scan_encodeChar_append (c : Char) (rest : List UInt8) :
    scan (encodeChar c ++ rest) = some c :: scan rest := by
  rw [(makesUp_encodeChar c).scan_append, Char.ofNat_toNat]

/-! ## The bytes of a text -/

theorem encode_cons (c : Char) (s : List Char) : encode (c :: s) = encodeChar c ++ encode s := rfl

theorem encode_append (s t : List Char) : encode (s ++ t) = encode s ++ encode t :=
  List.flatMap_append

/-- The bytes of a text hold its characters and no fault. -/
theorem scan_encode (s : List Char) : scan (encode s) = s.map some := by
  induction s with
  | nil => rfl
  | cons c s ih => rw [encode_cons, scan_encodeChar_append, ih, List.map_cons]

/-- The bytes of a text are read as that text. -/
theorem decode?_encode (s : List Char) : decode? (encode s) = some s := by
  rw [decode?, scan_encode]
  induction s with
  | nil => rfl
  | cons c s ih => simp [ih]

/-- A text that begins with a character beyond ASCII has such a byte first. -/
theorem le_of_encode_eq_cons {c : Char} {s : List Char} {b : UInt8} {rest : List UInt8}
    (beyond : 0x80 ≤ c.toNat) (starts : encode (c :: s) = b :: rest) : 0x80 ≤ b.toNat := by
  obtain ⟨first, later, bytes⟩ := List.exists_cons_of_ne_nil (encodeChar_ne_nil c)
  rw [encode_cons, bytes] at starts
  obtain ⟨rfl, -⟩ := List.cons.inj starts
  apply le_of_mem_encodeChar beyond
  rw [bytes]
  exact List.mem_cons_self

/-- A text of ASCII has a byte for each of its characters. -/
theorem encode_of_ascii {s : List Char} (ascii : ∀ c ∈ s, c.toNat < 0x80) :
    encode s = s.map fun c => UInt8.ofNat c.toNat := by
  induction s with
  | nil => rfl
  | cons c s ih =>
    have first : c.toNat < 0x80 := ascii c List.mem_cons_self
    rw [encode_cons, encodeChar_of_ascii first, ih fun c isIn => ascii c (List.mem_cons_of_mem _ isIn)]
    rfl

/-- The bytes of a text of ASCII belong to ASCII. -/
theorem lt_of_mem_encode {s : List Char} (ascii : ∀ c ∈ s, c.toNat < 0x80) :
    ∀ byte ∈ encode s, byte < 0x80 := by
  intro byte isIn
  rw [encode_of_ascii ascii] at isIn
  obtain ⟨c, isChar, rfl⟩ := List.mem_map.mp isIn
  have small := ascii c isChar
  rw [UInt8.lt_iff_toNat_lt, toNat_ofNat (by omega)]
  exact small

/-! ## Numbers of bytes -/

/-- A text has as many bytes as characters, or more. -/
theorem length_le_length_encode (s : List Char) : s.length ≤ (encode s).length := by
  induction s with
  | nil => exact Nat.le_refl 0
  | cons c s ih =>
    have first := (length_encodeChar c).1
    rw [encode_cons, List.length_append, List.length_cons]
    omega

/-- A text has as many bytes as characters exactly if all of it is ASCII. -/
theorem length_encode_eq_iff {s : List Char} :
    (encode s).length = s.length ↔ ∀ c ∈ s, c.toNat < 0x80 := by
  induction s with
  | nil => simp [encode]
  | cons c s ih =>
    obtain ⟨first, isAscii⟩ := length_encodeChar c
    have rest := length_le_length_encode s
    rw [List.forall_mem_cons, ← ih, ← isAscii, encode_cons, List.length_append, List.length_cons]
    omega

end SafeFetch.Text.Utf8
