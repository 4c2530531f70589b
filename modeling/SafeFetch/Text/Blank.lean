/-!
# Blank characters

White space in the sense of Unicode, together with the four information separators of ASCII, and
the trimming of a text at both ends.
-/

namespace SafeFetch.Text

/-- Whether `c` is white space of any script. -/
def isBlank (c : Char) : Bool :=
  let n := c.toNat
  (9 ≤ n && n ≤ 13) || (28 ≤ n && n ≤ 32) || n == 0x85 || n == 0xA0 || n == 0x1680 ||
    (0x2000 ≤ n && n ≤ 0x200A) || n == 0x2028 || n == 0x2029 || n == 0x202F || n == 0x205F ||
    n == 0x3000

/-- Whether `c` is one of the six white-space characters of ASCII. -/
def isAsciiBlank (c : Char) : Bool :=
  let n := c.toNat
  (9 ≤ n && n ≤ 13) || n == 32

/-- Whether `c` belongs to ASCII. -/
def isAscii (c : Char) : Bool := c.toNat < 0x80

/-- Drop the characters at the end of `s` that satisfy `p`. -/
def dropEndWhile (p : Char → Bool) (s : List Char) : List Char :=
  (s.reverse.dropWhile p).reverse

/-- Drop the characters at both ends of `s` that satisfy `p`. -/
def trimWhile (p : Char → Bool) (s : List Char) : List Char :=
  dropEndWhile p (s.dropWhile p)

/-- A text without characters to drop is kept. -/
theorem trimWhile_eq_self {p : Char → Bool} {s : List Char} (clean : ∀ c ∈ s, p c = false) :
    trimWhile p s = s := by
  have kept (s' : List Char) (within : ∀ c ∈ s', c ∈ s) : s'.dropWhile p = s' := by
    cases s' with
    | nil => rfl
    | cons c rest =>
      apply List.dropWhile_cons_of_neg
      simp [clean c (within c List.mem_cons_self)]
  rw [trimWhile, kept s fun _ => id, dropEndWhile, kept s.reverse fun _ => List.mem_reverse.mp,
    List.reverse_reverse]

/-- Drop white space of any script at both ends. -/
def trim (s : List Char) : List Char := trimWhile isBlank s

/-- The small letter of an ASCII capital; every other character is kept. -/
def lowerAscii (c : Char) : Char :=
  if 'A' ≤ c ∧ c ≤ 'Z' then Char.ofNat (c.toNat + 32) else c

/-- Split `s` at every occurrence of `sep`; there is one more piece than separators. -/
def splitAll (sep : Char) (s : List Char) : List (List Char) :=
  s.foldr
    (fun c pieces =>
      if c = sep then [] :: pieces
      else
        match pieces with
        | [] => [[c]]
        | piece :: others => (c :: piece) :: others)
    [[]]

/-- Split `s` at the first occurrence of `sep`, if there is one. -/
def cut? (sep : Char) : List Char → Option (List Char × List Char)
  | [] => none
  | c :: rest =>
    if c = sep then some ([], rest)
    else (cut? sep rest).map fun (before, after) => (c :: before, after)

end SafeFetch.Text
