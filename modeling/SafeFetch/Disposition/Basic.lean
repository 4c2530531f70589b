import SafeFetch.Text.Blank

/-!
# Content dispositions

The value of a `Content-Disposition` header: a token, then parameters, each a semicolon, a name, an
equals sign and a value that is a token or a quoted string. White space may stand between any two of
these, and a single semicolon may close the whole. A value with a name twice, in whatever letter
case, is refused, and so is every value that does not follow the grammar.
-/

namespace SafeFetch.Disposition

open SafeFetch.Text

/-- A parameter: its name in small letters and its value without quotes and escapes. -/
structure Parameter where
  name : List Char
  value : List Char
  deriving DecidableEq, Repr

/-- Whether `c` may stand in a token: any visible ASCII character that separates nothing. -/
def isTokenChar (c : Char) : Bool :=
  ('0' ≤ c && c ≤ '9') || ('a' ≤ c && c ≤ 'z') || ('A' ≤ c && c ≤ 'Z') ||
    "!#$%&'*+-.^_`|~".toList.contains c || c == '\x7b' || c == '\x7d'

/-- Drop white space in front. -/
def skipBlanks (s : List Char) : List Char := s.dropWhile isBlank

/-- Read the longest token in front. -/
def token? (s : List Char) : Option (List Char × List Char) :=
  match s.takeWhile isTokenChar with
  | [] => none
  | token => some (token, s.dropWhile isTokenChar)

/-- Read a quoted string after its opening quote, up to its closing one. A backslash makes the next
character stand for itself; neither a line feed nor a bare carriage return may occur. -/
def quotedText? : List Char → Option (List Char × List Char)
  | [] => none
  | '"' :: rest => some ([], rest)
  | '\\' :: c :: rest =>
    if c = '\n' then none else (quotedText? rest).map fun (text, rest) => (c :: text, rest)
  | c :: rest =>
    if c = '\\' ∨ c = '\r' ∨ c = '\n' then none
    else (quotedText? rest).map fun (text, rest) => (c :: text, rest)

/-- Read a value, which is a token or a quoted string. -/
def value? (s : List Char) : Option (List Char × List Char) :=
  match token? s with
  | some read => some read
  | none =>
    match s with
    | '"' :: rest => quotedText? rest
    | _ => none

/-- Read a parameter after its semicolon, with the white space that follows. -/
def parameter? (s : List Char) : Option (Parameter × List Char) :=
  match token? (skipBlanks s) with
  | none => none
  | some (name, rest) =>
    match skipBlanks rest with
    | '=' :: rest =>
      (value? (skipBlanks rest)).map fun (value, rest) =>
        ({ name := name.map lowerAscii, value }, skipBlanks rest)
    | _ => none

theorem skipBlanks_length (s : List Char) : (skipBlanks s).length ≤ s.length :=
  List.IsSuffix.length_le (List.dropWhile_suffix _)

theorem token?_length {s token rest : List Char} (h : token? s = some (token, rest)) :
    rest.length ≤ s.length := by
  simp only [token?] at h
  split at h
  · simp at h
  · simp only [Option.some.injEq, Prod.mk.injEq] at h
    rw [← h.2]
    exact List.IsSuffix.length_le (List.dropWhile_suffix _)

theorem quotedText?_length {s text rest : List Char} (h : quotedText? s = some (text, rest)) :
    rest.length ≤ s.length := by
  fun_induction quotedText? s generalizing text rest with
  | case1 => simp at h
  | case2 s =>
    simp only [Option.some.injEq, Prod.mk.injEq] at h
    simp [← h.2]
  | case3 => simp at h
  | case4 c s _ ih =>
    simp only [Option.map_eq_some_iff, Prod.mk.injEq, Prod.exists] at h
    obtain ⟨_, _, h, _, rfl⟩ := h
    have := ih h
    simp only [List.length_cons]
    omega
  | case5 => simp at h
  | case6 c s _ _ _ ih =>
    simp only [Option.map_eq_some_iff, Prod.mk.injEq, Prod.exists] at h
    obtain ⟨_, _, h, _, rfl⟩ := h
    have := ih h
    simp only [List.length_cons]
    omega

theorem value?_length {s value rest : List Char} (h : value? s = some (value, rest)) :
    rest.length ≤ s.length := by
  simp only [value?] at h
  split at h
  · next read hread =>
    obtain rfl := Option.some.inj h
    exact token?_length hread
  · split at h
    · next s _ =>
      have := quotedText?_length h
      simp only [List.length_cons]
      omega
    · simp at h

theorem parameter?_length {s rest : List Char} {p : Parameter}
    (h : parameter? s = some (p, rest)) : rest.length ≤ s.length := by
  simp only [parameter?] at h
  split at h
  · simp at h
  · next name rest₁ hname =>
    split at h
    · next rest₂ hequals =>
      simp only [Option.map_eq_some_iff, Prod.mk.injEq, Prod.exists] at h
      obtain ⟨value, rest₃, hvalue, _, rfl⟩ := h
      have h₁ := token?_length hname
      have h₂ := value?_length hvalue
      have h₃ := skipBlanks_length rest₁
      rw [hequals] at h₃
      have h₄ := skipBlanks_length s
      have h₅ := skipBlanks_length rest₂
      have h₆ := skipBlanks_length rest₃
      simp only [List.length_cons] at h₃
      omega
    · simp at h

/-- Read parameters to the end of the text; a last semicolon may have none after it. -/
def parameters? : List Char → Option (List Parameter)
  | [] => some []
  | c :: rest =>
    if c ≠ ';' then none
    else
      match _h : parameter? rest with
      | some (p, rest') => (parameters? rest').map (p :: ·)
      | none => if rest.all isBlank then some [] else none
termination_by s => s.length
decreasing_by
  have := parameter?_length _h
  simp only [List.length_cons]
  omega

/-- Read the disposition type with the white space around it. -/
def afterType? (s : List Char) : Option (List Char) :=
  (token? (skipBlanks s)).map fun (_, rest) => skipBlanks rest

/-- The parameters of a disposition, in order of appearance. -/
def parseChars? (s : List Char) : Option (List Parameter) :=
  ((afterType? s).bind parameters?).filter fun ps => decide (ps.map Parameter.name).Nodup

/-- The parameters of a disposition, in order of appearance. -/
def parse? (value : String) : Option (List Parameter) := parseChars? value.toList

/-- The value of the parameter of the given name. -/
def get? (ps : List Parameter) (name : List Char) : Option (List Char) :=
  (ps.find? fun p => p.name == name).map Parameter.value

end SafeFetch.Disposition
