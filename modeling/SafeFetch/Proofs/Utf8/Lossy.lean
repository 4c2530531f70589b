import SafeFetch.Proofs.Utf8

/-!
# UTF-8 read with faults

Bytes begin with a character or with a fault, and which of them it is depends on no byte behind it
except the next one: a fault ends where the next byte does not continue what was begun. A byte that
continues nothing therefore cuts any bytes in two parts that are read by themselves, and the bytes of
a character, wherever they stand, are read as that character.

## Main definitions

* `IsFault`: bytes that begin a character without finishing it, or begin none, with what follows.

## Main results

* `IsFault.scan_append`: a fault is read as such, and what follows it by itself;
* `exists_makesUp_or_isFault`: bytes begin with a character or with a fault;
* `scan_append_of_stops`: bytes are cut in front of a byte that continues nothing;
* `decodeLossy_append_encodeChar`: a character stands out among any bytes.
-/

namespace SafeFetch.Text.Utf8

variable {n lead : Nat} {b : UInt8} {bytes rest tail : List UInt8} {p : UInt8 → Bool}

/-! ## Faults -/

/-- The next byte, if there is one, is none of those that `p` admits. -/
def Stops (p : UInt8 → Bool) (rest : List UInt8) : Prop := ∀ b ∈ rest.head?, p b = false

/-- Bytes that are a fault in front of others: a byte that begins no character, or the longest piece
that begins one without finishing it. -/
inductive IsFault : List UInt8 → List UInt8 → Prop
  | stray {b : UInt8} {rest : List UInt8}
      (lead : 0x80 ≤ b.toNat ∧ b.toNat < 0xC2 ∨ 0xF5 ≤ b.toNat) : IsFault [b] rest
  | one {b : UInt8} {rest : List UInt8} (lead : 0xC2 ≤ b.toNat ∧ b.toNat < 0xF5)
      (stops : Stops (isSecond b.toNat) rest) : IsFault [b] rest
  | two {b b₁ : UInt8} {rest : List UInt8} (lead : 0xE0 ≤ b.toNat ∧ b.toNat < 0xF5)
      (second : isSecond b.toNat b₁ = true) (stops : Stops isContinuation rest) :
      IsFault [b, b₁] rest
  | three {b b₁ b₂ : UInt8} {rest : List UInt8} (lead : 0xF0 ≤ b.toNat ∧ b.toNat < 0xF5)
      (second : isSecond b.toNat b₁ = true) (third : isContinuation b₂ = true)
      (stops : Stops isContinuation rest) : IsFault [b, b₁, b₂] rest

/-- A second byte is a continuation. -/
theorem isContinuation_of_isSecond (second : isSecond lead b = true) : isContinuation b = true := by
  rw [isSecond, secondByteRange, Bool.and_eq_true, decide_eq_true_eq, decide_eq_true_eq] at second
  rw [isContinuation, Bool.and_eq_true, decide_eq_true_eq, decide_eq_true_eq]
  split_ifs at second <;> dsimp only at second <;> omega

/-- After the lead of a character of two bytes every continuation is a second byte. -/
theorem isSecond_eq_isContinuation (small : lead < 0xE0) : isSecond lead b = isContinuation b := by
  rw [isSecond, secondByteRange, if_neg (by omega), if_neg (by omega), if_neg (by omega),
    if_neg (by omega), isContinuation]

/-- What does not begin with a continuation does not begin with a second byte either. -/
theorem Stops.isSecond (stops : Stops isContinuation rest) (lead : Nat) :
    Stops (isSecond lead) rest := by
  intro b isFirst
  rw [← Bool.not_eq_true]
  intro second
  cases (stops b isFirst).symm.trans (isContinuation_of_isSecond second)

/-- Otherwise such a byte follows. -/
theorem exists_of_not_stops (onward : ¬Stops p rest) :
    ∃ b rest', rest = b :: rest' ∧ p b = true := by
  cases rest with
  | nil => exact absurd (by simp [Stops]) onward
  | cons b rest =>
    refine ⟨b, rest, rfl, ?_⟩
    simpa [Stops] using onward

/-- What follows stops a piece, also if the piece ends before it. -/
theorem Stops.append (stops : Stops p rest) (stops' : Stops p tail) : Stops p (rest ++ tail) := by
  cases rest with
  | nil => exact stops'
  | cons b rest => exact stops

/-- A fault is read as such, and what follows it by itself. -/
theorem IsFault.scan_append (isFault : IsFault bytes rest) :
    scan (bytes ++ rest) = none :: scan rest := by
  cases isFault with
  | @stray b rest lead =>
    rw [List.singleton_append, scan.eq_def]
    rcases lead with below | above
    · simp only [show ¬ b.toNat < 0x80 by omega, below.2, if_false, if_true]
    · simp only [show ¬ b.toNat < 0x80 by omega, show ¬ b.toNat < 0xC2 by omega,
        show ¬ b.toNat < 0xE0 by omega, show ¬ b.toNat < 0xF0 by omega,
        show ¬ b.toNat < 0xF5 by omega, if_false]
  | @one b rest lead stops =>
    rw [List.singleton_append, scan.eq_def]
    simp only [show ¬ b.toNat < 0x80 by omega, show ¬ b.toNat < 0xC2 by omega, lead.2, if_false,
      if_true]
    -- The next byte settles it, but the scan looks at more of them at once.
    rcases rest with _ | ⟨b₁, _ | ⟨b₂, _ | ⟨b₃, rest⟩⟩⟩
    · simp [scan]
    all_goals
      have other : isSecond b.toNat b₁ = false := stops b₁ rfl
      by_cases small : b.toNat < 0xE0
      · rw [isSecond_eq_isContinuation small] at other
        simp [small, other]
      · simp [small, other]
  | @two b b₁ rest lead second stops =>
    rw [List.cons_append, List.singleton_append, scan.eq_def]
    simp only [show ¬ b.toNat < 0x80 by omega, show ¬ b.toNat < 0xC2 by omega,
      show ¬ b.toNat < 0xE0 by omega, lead.2, if_false, if_true]
    rcases rest with _ | ⟨b₂, _ | ⟨b₃, rest⟩⟩
    · simp [scan, second]
    all_goals
      have other : isContinuation b₂ = false := stops b₂ rfl
      simp [second, other]
  | @three b b₁ b₂ rest lead second third stops =>
    rw [List.cons_append, List.cons_append, List.singleton_append, scan.eq_def]
    simp only [show ¬ b.toNat < 0x80 by omega, show ¬ b.toNat < 0xC2 by omega,
      show ¬ b.toNat < 0xE0 by omega, show ¬ b.toNat < 0xF0 by omega, lead.2, if_false, if_true]
    rcases rest with _ | ⟨b₃, rest⟩
    · simp [scan, second, third]
    · have other : isContinuation b₃ = false := stops b₃ rfl
      simp [second, third, other]

/-- Bytes begin with a character or with a fault. -/
theorem exists_makesUp_or_isFault (b : UInt8) (rest : List UInt8) :
    ∃ piece left, b :: rest = piece ++ left ∧ piece ≠ [] ∧
      ((∃ n, MakesUp n piece) ∨ IsFault piece left) := by
  by_cases ascii : b.toNat < 0x80
  · exact ⟨[b], rest, rfl, by simp, .inl ⟨_, .one ascii rfl⟩⟩
  by_cases stray : b.toNat < 0xC2 ∨ 0xF5 ≤ b.toNat
  · exact ⟨[b], rest, rfl, by simp, .inr (.stray (by omega))⟩
  have lead : 0xC2 ≤ b.toNat ∧ b.toNat < 0xF5 := by omega
  by_cases stops : Stops (isSecond b.toNat) rest
  · exact ⟨[b], rest, rfl, by simp, .inr (.one lead stops)⟩
  obtain ⟨b₁, rest, rfl, second⟩ := exists_of_not_stops stops
  by_cases two : b.toNat < 0xE0
  · rw [isSecond_eq_isContinuation two] at second
    exact ⟨[b, b₁], rest, rfl, by simp, .inl ⟨_, .two ⟨lead.1, two⟩ second rfl⟩⟩
  by_cases stops : Stops isContinuation rest
  · exact ⟨[b, b₁], rest, rfl, by simp, .inr (.two (by omega) second stops)⟩
  obtain ⟨b₂, rest, rfl, third⟩ := exists_of_not_stops stops
  by_cases three : b.toNat < 0xF0
  · exact ⟨[b, b₁, b₂], rest, rfl, by simp, .inl ⟨_, .three (by omega) second third rfl⟩⟩
  by_cases stops : Stops isContinuation rest
  · exact ⟨[b, b₁, b₂], rest, rfl, by simp, .inr (.three (by omega) second third stops)⟩
  obtain ⟨b₃, rest, rfl, fourth⟩ := exists_of_not_stops stops
  exact ⟨[b, b₁, b₂, b₃], rest, rfl, by simp, .inl ⟨_, .four (by omega) second third fourth rfl⟩⟩

/-! ## Cuts -/

/-- A fault stays one in front of a byte that continues nothing. -/
theorem IsFault.append (isFault : IsFault bytes rest) (stops : Stops isContinuation tail) :
    IsFault bytes (rest ++ tail) := by
  cases isFault with
  | stray lead => exact .stray lead
  | one lead next => exact .one lead (next.append (stops.isSecond _))
  | two lead second next => exact .two lead second (next.append stops)
  | three lead second third next => exact .three lead second third (next.append stops)

/-- In front of a byte that continues nothing, bytes are cut in two parts that are read by
themselves. -/
theorem scan_append_of_stops (bytes : List UInt8) (stops : Stops isContinuation tail) :
    scan (bytes ++ tail) = scan bytes ++ scan tail := by
  -- Characters and faults are taken off the front, one by one.
  induction length : bytes.length using Nat.strongRecOn generalizing bytes with
  | ind k ih =>
    cases bytes with
    | nil => rfl
    | cons b rest =>
      obtain ⟨piece, left, whole, some, begins⟩ := exists_makesUp_or_isFault b rest
      rw [whole, List.append_assoc]
      have shorter : left.length < k := by
        rw [← length, whole, List.length_append]
        have positive := List.length_pos_iff.mpr some
        omega
      have later := ih left.length shorter left rfl
      rcases begins with ⟨n, makesUp⟩ | isFault
      · rw [makesUp.scan_append, makesUp.scan_append, later, List.cons_append]
      · rw [(isFault.append stops).scan_append, isFault.scan_append, later, List.cons_append]

/-- A character begins with a byte that continues nothing. -/
theorem stops_encodeChar (c : Char) (rest : List UInt8) :
    Stops isContinuation (encodeChar c ++ rest) := by
  intro b isFirst
  rw [isContinuation, Bool.and_eq_false_iff, decide_eq_false_iff_not, decide_eq_false_iff_not]
  have makesUp := makesUp_encodeChar c
  generalize encodeChar c = bytes at makesUp isFirst
  -- The first byte is a lead, and leads lie outside of the range of continuations.
  cases makesUp <;> obtain rfl := Option.some.inj isFirst <;> omega

/-- A character stands out among any bytes: it is read, and so is what stands in front of it and
what follows it. -/
theorem decodeLossy_append_encodeChar (bytes : List UInt8) (c : Char) (rest : List UInt8) :
    decodeLossy (bytes ++ (encodeChar c ++ rest)) = decodeLossy bytes ++ c :: decodeLossy rest := by
  rw [decodeLossy, scan_append_of_stops bytes (stops_encodeChar c rest), scan_encodeChar_append,
    List.map_append, List.map_cons]
  rfl

end SafeFetch.Text.Utf8
