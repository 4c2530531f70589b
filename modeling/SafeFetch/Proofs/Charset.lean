import SafeFetch.Charset.Basic
import SafeFetch.Proofs.Utf8

/-!
# Declared labels

A label selects the same character set in any letter case, and bytes under a label are read in the
character set that it declares. The bytes of a text in UTF-8, read as Latin-1, give that text only if
it is ASCII.

## Main definitions

* `Declares`: a label under which bytes are read in a character set.

## Main results

* `ofLabel?_map_lowerAscii`: letter case does not count in a label;
* `Declares.decodeLabelled`: what bytes are under a label;
* `IsUtf8.declares`: which labels declare UTF-8;
* `decodeLatin1_encode_eq_iff`: the same bytes, read as Latin-1.
-/

namespace SafeFetch

variable {c : Char} {label : List Char}

/-! ## Small letters -/

/-- Characters beyond ASCII have no other letter case here. -/
theorem Text.lowerAscii_of_le (beyond : 128 ≤ c.toNat) : lowerAscii c = c := by
  have notCapital : ¬ ('A' ≤ c ∧ c ≤ 'Z') := by
    rintro ⟨-, least⟩
    have bound : c.toNat ≤ 90 := least
    omega
  rw [lowerAscii, if_neg notCapital]

/-- What holds of each character of ASCII and of those that have no letter case holds of all. -/
theorem Text.forall_of_ascii {p : Char → Char → Prop} (ascii : ∀ n < 128, p (Char.ofNat n)
    (lowerAscii (Char.ofNat n))) (beyond : ∀ c : Char, 128 ≤ c.toNat → p c c) (c : Char) :
    p c (lowerAscii c) := by
  rcases Nat.lt_or_ge c.toNat 128 with small | large
  · have here := ascii c.toNat small
    rwa [Char.ofNat_toNat] at here
  · rw [lowerAscii_of_le large]
    exact beyond c large

/-- A small letter is its own small letter. -/
theorem Text.lowerAscii_lowerAscii (c : Char) : lowerAscii (lowerAscii c) = lowerAscii c :=
  forall_of_ascii (p := fun _ small => lowerAscii small = small) (by decide +kernel)
    (fun _ => lowerAscii_of_le) c

namespace Charset

open SafeFetch.Text

/-! ## Labels -/

/-- A character is kept in the normal form of a label if its small letter is. -/
theorem isLabelChar_lowerAscii (c : Char) : isLabelChar (lowerAscii c) = isLabelChar c :=
  forall_of_ascii (p := fun c small => isLabelChar small = isLabelChar c) (by decide +kernel)
    (fun _ _ => rfl) c

theorem normalFrom_map_lowerAscii (isDue hasKept : Bool) (label : List Char) :
    normalFrom isDue hasKept (label.map lowerAscii) = normalFrom isDue hasKept label := by
  induction label generalizing isDue hasKept with
  | nil => rfl
  | cons c label ih =>
    simp only [List.map_cons, normalFrom, isLabelChar_lowerAscii, lowerAscii_lowerAscii, ih]

/-- Letter case does not count in a label. -/
theorem ofLabel?_map_lowerAscii [Platform] (label : List Char) :
    ofLabel? (label.map lowerAscii) = ofLabel? label := by
  simp only [ofLabel?, normalLabel, normalFrom_map_lowerAscii]

/-! ## Declared character sets -/

/-- Bytes are read in a character set under a label: the label selects the set and holds no NUL. -/
structure Declares [Platform] (label : List Char) (charset : Charset) : Prop where
  selects : ofLabel? label = some charset
  nulFree : '\x00' ∉ label

/-- Bytes under a label are a text in the character set that it declares, or malformed. The decoder
is not asked without bytes, so it has to read none as the empty text. -/
theorem Declares.decodeLabelled [Platform] {charset : Charset} (declares : Declares label charset)
    (silent : charset.decode? [] = some []) (bytes : List UInt8) :
    decodeLabelled label bytes = (charset.decode? bytes).elim (.error .malformed) .ok := by
  have nulFree : label.contains '\x00' = false := by simpa using declares.nulFree
  rw [Charset.decodeLabelled, nulFree, declares.selects]
  cases bytes with
  | nil => simp [silent]
  | cons b bytes => cases decoded : charset.decode? (b :: bytes) <;> simp [decoded]

/-- A label that declares a character set is not empty. -/
theorem Declares.ne_nil [Platform] {charset : Charset} (declares : Declares label charset) :
    label ≠ [] := by
  rintro rfl
  have unknown : ofLabel? [] = none := rfl
  cases unknown.symm.trans declares.selects

/-! ## UTF-8 -/

/-- A label is `utf-8` in some letter case. -/
def IsUtf8 (label : List Char) : Prop := label.map lowerAscii = "utf-8".toList

instance : DecidablePred IsUtf8 := fun label =>
  inferInstanceAs (Decidable (label.map lowerAscii = "utf-8".toList))

namespace IsUtf8

/-- Every character of such a label has a small letter in `utf-8`. -/
theorem mem (isUtf8 : IsUtf8 label) (isIn : c ∈ label) : lowerAscii c ∈ "utf-8".toList := by
  rw [← show label.map lowerAscii = "utf-8".toList from isUtf8]
  exact List.mem_map_of_mem isIn

theorem quoteFree (isUtf8 : IsUtf8 label) : '\'' ∉ label := fun quote =>
  absurd (isUtf8.mem quote) (by decide)

/-- Such a label declares UTF-8. -/
theorem declares [Platform] (isUtf8 : IsUtf8 label) : Declares label .utf8 where
  selects := by
    have plain : ofLabel? "utf-8".toList = some .utf8 := rfl
    rw [← ofLabel?_map_lowerAscii, show label.map lowerAscii = "utf-8".toList from isUtf8, plain]
  nulFree := fun nul => absurd (isUtf8.mem nul) (by decide)

theorem ne_nil (isUtf8 : IsUtf8 label) : label ≠ [] := by
  rintro rfl
  exact absurd isUtf8 (by decide)

end IsUtf8

/-! ## Latin-1 -/

theorem decodeLatin1_append (bytes more : List UInt8) :
    decodeLatin1 (bytes ++ more) = decodeLatin1 bytes ++ decodeLatin1 more :=
  List.map_append

/-- The bytes of a text in UTF-8 are read as that text in Latin-1 only if all of it is ASCII. -/
theorem decodeLatin1_encode_eq_iff {s : List Char} :
    decodeLatin1 (Utf8.encode s) = s ↔ ∀ c ∈ s, c.toNat < 0x80 := by
  constructor
  · -- Latin-1 reads a character from every byte, so there are as many bytes as characters.
    intro same
    have length := congrArg List.length same
    rw [decodeLatin1, List.length_map] at length
    exact Utf8.length_encode_eq_iff.mp length
  · intro ascii
    have kept : ∀ c ∈ s, Char.ofNat (UInt8.ofNat c.toNat).toNat = c := by
      intro c isIn
      have small := ascii c isIn
      rw [Utf8.toNat_ofNat (by omega), Char.ofNat_toNat]
    rw [Utf8.encode_of_ascii ascii, decodeLatin1, List.map_map]
    exact (List.map_congr_left kept).trans (List.map_id' s)

end Charset

end SafeFetch
