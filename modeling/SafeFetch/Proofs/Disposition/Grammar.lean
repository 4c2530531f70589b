import Mathlib.Data.Bool.AllAny
import SafeFetch.Disposition.Basic
import SafeFetch.Proofs.Text

/-!
# The grammar of content dispositions

How a disposition is spelled, beside how it is read. A spelling is made of tokens, quoted strings
and the white space around them, each with the proof that it is one. Reading a text succeeds on
what a spelling with distinct names writes, and gives its parameters; every other text is refused.

## Main definitions

* `Blanks`, `Token`, `QuotedItem`, `ValueSpelling`, `ParameterSpelling`: the parts of a disposition;
* `Spelling`: a whole disposition, with the text it writes and the parameters it gives.

## Main results

* `isTokenChar_iff`: which characters stand in tokens;
* `parameters?_eq_some_iff`: the parameters behind the disposition type;
* `parse?_eq_some_iff`: reading accepts exactly the spellings with distinct names.
-/

namespace SafeFetch.Disposition

open SafeFetch.Text

variable {s rest : List Char}

/-! ## Characters -/

/-- The visible characters of ASCII that separate the parts of a header. -/
def separators : List Char := "()<>@,;:\\\"/[]?=".toList

/-- A character of a token: a visible one of ASCII that is no separator. -/
def IsTokenChar (c : Char) : Prop := 0x20 < c.toNat ∧ c.toNat < 0x7F ∧ c ∉ separators

instance : DecidablePred IsTokenChar := fun c =>
  inferInstanceAs (Decidable (0x20 < c.toNat ∧ c.toNat < 0x7F ∧ c ∉ separators))

/-- Tokens have characters of ASCII only. -/
theorem toNat_lt_of_isTokenChar {c : Char} (isToken : isTokenChar c = true) : c.toNat < 128 := by
  have upTo {last : Char} (bounded : c ≤ last) (ascii : last.toNat < 128) : c.toNat < 128 :=
    Nat.lt_of_le_of_lt bounded ascii
  have signs : "!#$%&'*+-.^_`|~".toList.all (·.toNat < 128) = true := by decide
  simp only [isTokenChar, Bool.or_eq_true, Bool.and_eq_true, decide_eq_true_eq, beq_iff_eq,
    List.contains_iff_mem] at isToken
  rcases isToken with ((((digit | small) | capital) | sign) | rfl) | rfl
  · exact upTo digit.2 (by decide)
  · exact upTo small.2 (by decide)
  · exact upTo capital.2 (by decide)
  · exact of_decide_eq_true (List.all_eq_true.mp signs c sign)
  · decide
  · decide

/-- Which characters stand in tokens. -/
theorem isTokenChar_iff {c : Char} : isTokenChar c = true ↔ IsTokenChar c := by
  have small : ∀ n < 128, isTokenChar (Char.ofNat n) = true ↔ IsTokenChar (Char.ofNat n) := by
    decide +kernel
  have ascii (isAscii : c.toNat < 128) : isTokenChar c = true ↔ IsTokenChar c := by
    have here := small c.toNat isAscii
    rwa [Char.ofNat_toNat] at here
  constructor
  · intro isToken
    exact (ascii (toNat_lt_of_isTokenChar isToken)).mp isToken
  · intro isToken
    exact (ascii (Nat.lt_succ_of_lt isToken.2.1)).mpr isToken

/-! ## Spellings -/

/-- White space, or nothing. -/
structure Blanks where
  chars : List Char
  areBlank : ∀ c ∈ chars, isBlank c = true

/-- No white space. -/
def Blanks.none : Blanks := ⟨[], nofun⟩

/-- A single space. -/
def Blanks.space : Blanks := ⟨[' '], List.all_eq_true.mp rfl⟩

/-- A token. -/
structure Token where
  chars : List Char
  ne_nil : chars ≠ []
  areTokenChars : ∀ c ∈ chars, IsTokenChar c

/-- The token of a text. -/
def Token.ofText (text : String) (more : text.toList ≠ [])
    (areTokenChars : (text.toList.all fun c => IsTokenChar c) = true) : Token :=
  ⟨text.toList, more, List.all_iff_forall_prop.mp areTokenChars⟩

/-- A part of a quoted string: a character that stands for itself, or one behind a backslash. -/
inductive QuotedItem where
  | plain (c : Char) (isPlain : c ∉ ['"', '\\', '\r', '\n'])
  | escaped (c : Char) (isEscapable : c ≠ '\n')

namespace QuotedItem

/-- An item as it is written. -/
def chars : QuotedItem → List Char
  | .plain c _ => [c]
  | .escaped c _ => ['\\', c]

/-- The character that an item stands for. -/
def char : QuotedItem → Char
  | .plain c _ => c
  | .escaped c _ => c

end QuotedItem

/-- A value: a token or a quoted string. -/
inductive ValueSpelling where
  | token (plain : Token)
  | quoted (items : List QuotedItem)

namespace ValueSpelling

/-- A value as it is written. -/
def chars : ValueSpelling → List Char
  | .token plain => plain.chars
  | .quoted items => '"' :: (items.flatMap QuotedItem.chars ++ ['"'])

/-- The text that a value stands for. -/
def text : ValueSpelling → List Char
  | .token plain => plain.chars
  | .quoted items => items.map QuotedItem.char

end ValueSpelling

/-- A parameter behind its semicolon. -/
structure ParameterSpelling where
  beforeName : Blanks
  name : Token
  afterName : Blanks
  beforeValue : Blanks
  value : ValueSpelling
  afterValue : Blanks

namespace ParameterSpelling

/-- A parameter as it is written behind its semicolon. -/
def chars (p : ParameterSpelling) : List Char :=
  p.beforeName.chars ++ (p.name.chars ++ (p.afterName.chars ++
    '=' :: (p.beforeValue.chars ++ (p.value.chars ++ p.afterValue.chars))))

/-- The parameter that is written. -/
def parameter (p : ParameterSpelling) : Parameter where
  name := p.name.chars.map lowerAscii
  value := p.value.text

end ParameterSpelling

/-- What follows a disposition type: parameters, each behind a semicolon, and perhaps one more
semicolon with white space behind it. -/
def charsOf (ps : List ParameterSpelling) (closing : Option Blanks) : List Char :=
  ps.flatMap (';' :: ·.chars) ++ (closing.map (';' :: ·.chars)).getD []

/-- A disposition. -/
structure Spelling where
  beforeType : Blanks
  type : Token
  afterType : Blanks
  parameters : List ParameterSpelling
  /-- The white space behind a last semicolon, if there is one. -/
  closing : Option Blanks

/-- A disposition as it is written. -/
def Spelling.chars (d : Spelling) : List Char :=
  d.beforeType.chars ++ (d.type.chars ++ (d.afterType.chars ++ charsOf d.parameters d.closing))

/-! ## Reading what is written -/

/-- No character that satisfies `p` comes first. -/
def StopsAt (p : Char → Bool) (rest : List Char) : Prop := ∀ c, rest.head? = some c → p c = false

/-- Characters that satisfy a predicate are taken up to the first that does not. -/
theorem takeWhile_append_of_stopsAt {p : Char → Bool} (all : ∀ c ∈ s, p c = true)
    (stops : StopsAt p rest) : (s ++ rest).takeWhile p = s ∧ (s ++ rest).dropWhile p = rest :=
  ⟨takeWhile_append_of_head all stops, dropWhile_append_of_head all stops⟩

/-- White space is skipped up to the next other character. -/
theorem skipBlanks_append (blanks : Blanks) (stops : StopsAt isBlank rest) :
    skipBlanks (blanks.chars ++ rest) = rest :=
  (takeWhile_append_of_stopsAt blanks.areBlank stops).2

/-- White space does not belong to tokens. -/
theorem isBlank_of_isTokenChar {c : Char} (isToken : IsTokenChar c) : isBlank c = false := by
  obtain ⟨more, less, -⟩ := isToken
  simp only [isBlank, Bool.or_eq_false_iff, Bool.and_eq_false_iff, decide_eq_false_iff_not,
    beq_eq_false_iff_ne]
  omega

/-- A token is read up to the next character of another kind. -/
theorem token?_append (token : Token) (stops : StopsAt isTokenChar rest) :
    token? (token.chars ++ rest) = some (token.chars, rest) := by
  have all : ∀ c ∈ token.chars, isTokenChar c = true := fun c isIn =>
    isTokenChar_iff.mpr (token.areTokenChars c isIn)
  obtain ⟨taken, dropped⟩ := takeWhile_append_of_stopsAt all stops
  rw [token?, taken, dropped]
  cases chars : token.chars with
  | nil => exact absurd chars token.ne_nil
  | cons => rfl

/-- A token is no white space. -/
theorem Token.stopsAt_blank (token : Token) (rest : List Char) :
    StopsAt isBlank (token.chars ++ rest) := by
  intro c first
  cases chars : token.chars with
  | nil => exact absurd chars token.ne_nil
  | cons other others =>
    rw [chars] at first
    obtain rfl := Option.some.inj first
    exact isBlank_of_isTokenChar (token.areTokenChars other (by simp [chars]))

/-- A quoted string is read up to its closing quote. -/
theorem quotedText?_append (items : List QuotedItem) (rest : List Char) :
    quotedText? (items.flatMap QuotedItem.chars ++ '"' :: rest) =
      some (items.map QuotedItem.char, rest) := by
  induction items with
  | nil => rfl
  | cons item items ih =>
    cases item with
    | plain c isPlain =>
      obtain ⟨notQuote, notBackslash, notReturn, notFeed⟩ :
          c ≠ '"' ∧ c ≠ '\\' ∧ c ≠ '\r' ∧ c ≠ '\n' := by simpa using isPlain
      simp [QuotedItem.chars, QuotedItem.char, quotedText?, *]
    | escaped c isEscapable =>
      simp [QuotedItem.chars, QuotedItem.char, quotedText?, ih, isEscapable]

/-- No character of a token comes first in white space before something that begins with none. -/
theorem Blanks.stopsAt_token (blanks : Blanks) (stops : StopsAt isTokenChar rest) :
    StopsAt isTokenChar (blanks.chars ++ rest) := by
  intro c first
  cases chars : blanks.chars with
  | nil =>
    rw [chars] at first
    exact stops c first
  | cons other others =>
    rw [chars] at first
    obtain rfl := Option.some.inj first
    have blank := blanks.areBlank other (by simp [chars])
    refine Bool.eq_false_iff.mpr fun isToken => ?_
    rw [isBlank_of_isTokenChar (isTokenChar_iff.mp isToken)] at blank
    cases blank

/-- A value is no white space. -/
theorem ValueSpelling.stopsAt_blank (value : ValueSpelling) (rest : List Char) :
    StopsAt isBlank (value.chars ++ rest) := by
  cases value with
  | token plain => exact plain.stopsAt_blank rest
  | quoted items =>
    intro c first
    obtain rfl := Option.some.inj first
    decide

/-- A value is read up to the next character that is none of a token. -/
theorem value?_append (value : ValueSpelling) (stops : StopsAt isTokenChar rest) :
    value? (value.chars ++ rest) = some (value.text, rest) := by
  cases value with
  | token plain => simp only [value?, ValueSpelling.chars, token?_append plain stops,
      ValueSpelling.text]
  | quoted items =>
    have noToken (s : List Char) : token? ('"' :: s) = none := by
      simp [token?, show isTokenChar '"' = false by decide]
    simp only [value?, ValueSpelling.chars, List.cons_append, noToken, List.append_assoc,
      List.nil_append, quotedText?_append, ValueSpelling.text]

/-- A parameter is read, with the white space behind it, up to the next other character. -/
theorem parameter?_append (p : ParameterSpelling) (unblank : StopsAt isBlank rest)
    (untoken : StopsAt isTokenChar rest) :
    parameter? (p.chars ++ rest) = some (p.parameter, rest) := by
  have equals {q : Char → Bool} (other : q '=' = false) (s : List Char) : StopsAt q ('=' :: s) := by
    intro c first
    obtain rfl := Option.some.inj first
    exact other
  have equalsUnblank := equals (q := isBlank) (by decide)
  have equalsUntoken := equals (q := isTokenChar) (by decide)
  simp only [parameter?, ParameterSpelling.chars, List.append_assoc, List.cons_append,
    skipBlanks_append p.beforeName (p.name.stopsAt_blank _),
    token?_append p.name (p.afterName.stopsAt_token (equalsUntoken _)),
    skipBlanks_append p.afterName (equalsUnblank _),
    skipBlanks_append p.beforeValue (p.value.stopsAt_blank _),
    value?_append p.value (p.afterValue.stopsAt_token untoken), Option.map_some,
    skipBlanks_append p.afterValue unblank, ParameterSpelling.parameter]

/-- What follows a disposition type is nothing or begins with a semicolon. -/
theorem stopsAt_charsOf {p : Char → Bool} (semicolon : p ';' = false)
    (ps : List ParameterSpelling) (closing : Option Blanks) : StopsAt p (charsOf ps closing) := by
  intro c first
  cases ps with
  | nil =>
    cases closing with
    | none => cases first
    | some blanks =>
      obtain rfl := Option.some.inj first
      exact semicolon
  | cons q ps =>
    obtain rfl := Option.some.inj first
    exact semicolon

/-- White space is no parameter. -/
theorem parameter?_blanks (blanks : Blanks) : parameter? blanks.chars = none := by
  have skipped : skipBlanks blanks.chars = [] := by
    simpa using @skipBlanks_append [] blanks nofun
  rw [parameter?, skipped]
  rfl

/-- A parameter that can be read comes before the others. -/
theorem parameters?_of_some {p : Parameter} (read : parameter? s = some (p, rest)) :
    parameters? (';' :: s) = (parameters? rest).map (p :: ·) := by
  rw [parameters?, if_neg (by simp)]
  split
  next p' rest' read' =>
    obtain ⟨rfl, rfl⟩ := Prod.mk.inj (Option.some.inj (read.symm.trans read'))
    rfl
  next unread => cases read.symm.trans unread

/-- Where no parameter can be read, only white space may follow the semicolon. -/
theorem parameters?_of_none (unread : parameter? s = none) :
    parameters? (';' :: s) = if s.all isBlank then some [] else none := by
  rw [parameters?, if_neg (by simp)]
  split
  next read => cases unread.symm.trans read
  next => rfl

/-- Parameters are read to the end. -/
theorem parameters?_charsOf (ps : List ParameterSpelling) (closing : Option Blanks) :
    parameters? (charsOf ps closing) = some (ps.map ParameterSpelling.parameter) := by
  induction ps with
  | nil =>
    cases closing with
    | none => simp [charsOf, parameters?]
    | some blanks =>
      have allBlank : blanks.chars.all isBlank = true := List.all_eq_true.mpr blanks.areBlank
      have written : charsOf [] (some blanks) = ';' :: blanks.chars := by simp [charsOf]
      rw [written, parameters?_of_none (parameter?_blanks blanks), if_pos allBlank, List.map_nil]
  | cons p ps ih =>
    have written : charsOf (p :: ps) closing = ';' :: (p.chars ++ charsOf ps closing) := by
      simp [charsOf]
    have read := parameter?_append p (stopsAt_charsOf (by decide) ps closing)
      (stopsAt_charsOf (by decide) ps closing)
    rw [written, parameters?_of_some read, ih, Option.map_some, List.map_cons]

/-- A disposition type is read with the white space around it. -/
theorem afterType?_chars (d : Spelling) :
    afterType? d.chars = some (charsOf d.parameters d.closing) := by
  have untoken := stopsAt_charsOf (p := isTokenChar) (by decide) d.parameters d.closing
  have unblank := stopsAt_charsOf (p := isBlank) (by decide) d.parameters d.closing
  simp only [afterType?, Spelling.chars, skipBlanks_append d.beforeType (d.type.stopsAt_blank _),
    token?_append d.type (d.afterType.stopsAt_token untoken), Option.map_some,
    skipBlanks_append d.afterType unblank]

/-! ## Writing what was read -/

/-- Skipping white space leaves out white space only. -/
theorem exists_of_skipBlanks (s : List Char) : ∃ blanks : Blanks, s = blanks.chars ++ skipBlanks s :=
  ⟨⟨s.takeWhile isBlank, List.all_eq_true.mp List.all_takeWhile⟩,
    List.takeWhile_append_dropWhile.symm⟩

/-- What is read as a token is one. -/
theorem exists_of_token? {token : List Char} (read : token? s = some (token, rest)) :
    ∃ spelled : Token, spelled.chars = token ∧ s = spelled.chars ++ rest := by
  rw [token?] at read
  split at read
  · cases read
  next more =>
    obtain ⟨rfl, rfl⟩ := Prod.mk.inj (Option.some.inj read)
    refine ⟨⟨s.takeWhile isTokenChar, more, fun c isIn => ?_⟩, rfl,
      List.takeWhile_append_dropWhile.symm⟩
    exact isTokenChar_iff.mp (List.all_eq_true.mp List.all_takeWhile c isIn)

/-- What is read as a quoted string is made of its items. -/
theorem exists_of_quotedText? {text : List Char} (read : quotedText? s = some (text, rest)) :
    ∃ items : List QuotedItem,
      s = items.flatMap QuotedItem.chars ++ '"' :: rest ∧ items.map QuotedItem.char = text := by
  -- By what comes first: nothing, the closing quote, a backslash before a line feed, a backslash
  -- before another character, a line break or last backslash, a character that stands for itself.
  fun_induction quotedText? s generalizing text with
  | case1 => cases read
  | case2 s =>
    obtain ⟨rfl, rfl⟩ := Prod.mk.inj (Option.some.inj read)
    exact ⟨[], rfl, rfl⟩
  | case3 => cases read
  | case4 c s escapable ih =>
    obtain ⟨⟨text, rest⟩, readRest, same⟩ := Option.map_eq_some_iff.mp read
    obtain ⟨rfl, rfl⟩ := Prod.mk.inj same
    obtain ⟨items, rfl, rfl⟩ := ih readRest
    exact ⟨.escaped c escapable :: items, by simp [QuotedItem.chars], rfl⟩
  | case5 => cases read
  | case6 c s notQuote _ plain ih =>
    obtain ⟨⟨text, rest⟩, readRest, same⟩ := Option.map_eq_some_iff.mp read
    obtain ⟨rfl, rfl⟩ := Prod.mk.inj same
    obtain ⟨items, rfl, rfl⟩ := ih readRest
    have isPlain : c ∉ ['"', '\\', '\r', '\n'] := by
      simp only [not_or] at plain
      simpa using ⟨notQuote, plain⟩
    exact ⟨.plain c isPlain :: items, by simp [QuotedItem.chars], rfl⟩

/-- What is read as a value is one. -/
theorem exists_of_value? {text : List Char} (read : value? s = some (text, rest)) :
    ∃ value : ValueSpelling, s = value.chars ++ rest ∧ value.text = text := by
  simp only [value?] at read
  split at read
  next readToken isToken =>
    obtain rfl := Option.some.inj read
    obtain ⟨token, rfl, written⟩ := exists_of_token? isToken
    exact ⟨.token token, written, rfl⟩
  next =>
    split at read
    next s _ =>
      obtain ⟨items, rfl, isText⟩ := exists_of_quotedText? read
      exact ⟨.quoted items, by simp [ValueSpelling.chars], isText⟩
    next => cases read

/-- What is read as a parameter is one. -/
theorem exists_of_parameter? {p : Parameter} (read : parameter? s = some (p, rest)) :
    ∃ spelled : ParameterSpelling, s = spelled.chars ++ rest ∧ spelled.parameter = p := by
  rw [parameter?] at read
  split at read
  next => cases read
  next name rest₁ readName =>
    split at read
    next rest₂ equals =>
      obtain ⟨⟨text, rest₃⟩, readValue, same⟩ := Option.map_eq_some_iff.mp read
      obtain ⟨rfl, rfl⟩ := Prod.mk.inj same
      obtain ⟨beforeName, blank⟩ := exists_of_skipBlanks s
      obtain ⟨spelledName, rfl, named⟩ := exists_of_token? readName
      obtain ⟨afterName, blank₁⟩ := exists_of_skipBlanks rest₁
      obtain ⟨beforeValue, blank₂⟩ := exists_of_skipBlanks rest₂
      obtain ⟨value, valued, rfl⟩ := exists_of_value? readValue
      obtain ⟨afterValue, blank₃⟩ := exists_of_skipBlanks rest₃
      refine ⟨⟨beforeName, spelledName, afterName, beforeValue, value, afterValue⟩, ?_, rfl⟩
      calc s = beforeName.chars ++ (spelledName.chars ++ rest₁) := by rw [← named, ← blank]
        _ = beforeName.chars ++ (spelledName.chars ++ (afterName.chars ++ '=' :: rest₂)) := by
          rw [← equals, ← blank₁]
        _ = beforeName.chars ++ (spelledName.chars ++ (afterName.chars ++
              '=' :: (beforeValue.chars ++ (value.chars ++
                (afterValue.chars ++ skipBlanks rest₃))))) := by
          rw [← blank₃, ← valued, ← blank₂]
        _ = _ := by simp [ParameterSpelling.chars]
    next => cases read

/-- What is read as parameters is spelled so. -/
theorem exists_of_parameters? {ps : List Parameter} (read : parameters? s = some ps) :
    ∃ spelled closing, s = charsOf spelled closing ∧
      spelled.map ParameterSpelling.parameter = ps := by
  -- A semicolon is followed by a parameter and what comes after it, or by white space to the end.
  fun_induction parameters? s generalizing ps with
  | case1 =>
    obtain rfl := Option.some.inj read
    exact ⟨[], none, rfl, rfl⟩
  | case2 => cases read
  | case3 c s isSemicolon p rest' readFirst ih =>
    obtain ⟨others, readOthers, rfl⟩ := Option.map_eq_some_iff.mp read
    obtain ⟨first, rfl, rfl⟩ := exists_of_parameter? readFirst
    obtain ⟨spelled, closing, rfl, rfl⟩ := ih readOthers
    obtain rfl := Decidable.not_not.mp isSemicolon
    exact ⟨first :: spelled, closing, by simp [charsOf], rfl⟩
  | case4 c s isSemicolon unread allBlank =>
    obtain rfl := Option.some.inj read
    obtain rfl := Decidable.not_not.mp isSemicolon
    exact ⟨[], some ⟨s, List.all_eq_true.mp allBlank⟩, by simp [charsOf], rfl⟩
  | case5 => cases read

/-- The parameters behind a disposition type are read if they are spelled so. -/
theorem parameters?_eq_some_iff {ps : List Parameter} :
    parameters? s = some ps ↔
      ∃ spelled closing, s = charsOf spelled closing ∧
        spelled.map ParameterSpelling.parameter = ps := by
  constructor
  · exact exists_of_parameters?
  · rintro ⟨spelled, closing, rfl, rfl⟩
    exact parameters?_charsOf spelled closing

/-- Reading a disposition succeeds exactly on a spelling whose names, in small letters, are all
different, and gives its parameters in order. -/
theorem parse?_eq_some_iff {value : String} {ps : List Parameter} :
    parse? value = some ps ↔
      ∃ d : Spelling, value.toList = d.chars ∧ d.parameters.map ParameterSpelling.parameter = ps ∧
        (ps.map Parameter.name).Nodup := by
  rw [parse?, parseChars?, Option.filter_eq_some_iff, Option.bind_eq_some_iff]
  simp only [decide_eq_true_eq]
  constructor
  · rintro ⟨⟨rest, typed, read⟩, distinct⟩
    obtain ⟨⟨type, rest₁⟩, readType, rfl⟩ := Option.map_eq_some_iff.mp typed
    obtain ⟨parameters, closing, spelled, given⟩ := parameters?_eq_some_iff.mp read
    obtain ⟨beforeType, blank⟩ := exists_of_skipBlanks value.toList
    obtain ⟨spelledType, -, isType⟩ := exists_of_token? readType
    obtain ⟨afterType, blank₁⟩ := exists_of_skipBlanks rest₁
    refine ⟨⟨beforeType, spelledType, afterType, parameters, closing⟩, ?_, given, distinct⟩
    rw [Spelling.chars, ← spelled, ← blank₁, ← isType, ← blank]
  · rintro ⟨d, written, given, distinct⟩
    refine ⟨⟨_, written ▸ afterType?_chars d, ?_⟩, distinct⟩
    exact parameters?_eq_some_iff.mpr ⟨d.parameters, d.closing, rfl, given⟩

end SafeFetch.Disposition
