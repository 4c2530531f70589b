import SafeFetch.Path
import SafeFetch.Text.Utf8

/-!
# Texts of paths

A path whose names are proper ones is read back from its text, and the text falls apart into the
names and into pieces that say nothing. The names of a text that is read are proper.

## Main results

* `splitAll_eq_splitOn`: splitting a text is splitting a list;
* `Path.ofText_text`: a proper path is read back from its text;
* `Path.isProper_ofText` and `Path.IsProper.child`: paths that are read are proper;
* `Path.chars_sublist`: a path is written with characters of the text that it was read from;
* `Path.IsProper.names_eq_nil_of_slash`: only the text of a root ends in a slash;
* `Path.exists_eq_further` and `Path.child_eq_further`: paths that go one name further.
-/

namespace SafeFetch

namespace Text

/-- Splitting a text is splitting a list. -/
theorem splitAll_eq_splitOn (sep : Char) (s : List Char) : splitAll sep s = s.splitOn sep := by
  induction s with
  | nil => rfl
  | cons c s ih =>
    rw [List.splitOn_cons_eq_if_modifyHead]
    simp only [beq_iff_eq]
    cases pieces : s.splitOn sep with
    | nil => exact absurd pieces (List.splitOn_ne_nil sep s)
    | cons piece others =>
      rw [pieces] at ih
      simp only [splitAll, List.foldr_cons] at ih ⊢
      simp [ih]

/-- No piece of a text that was split holds the separator. -/
theorem sep_notMem_of_mem_splitAll {sep : Char} {s piece : List Char}
    (isPiece : piece ∈ splitAll sep s) : sep ∉ piece := by
  rw [splitAll_eq_splitOn] at isPiece
  induction s generalizing piece with
  | nil =>
    obtain rfl : piece = [] := by simpa using isPiece
    simp
  | cons c s ih =>
    rw [List.splitOn_cons_eq_if_modifyHead] at isPiece
    by_cases same : c = sep
    · rw [if_pos (by simpa using same)] at isPiece
      rcases List.mem_cons.mp isPiece with rfl | isPiece
      · simp
      · exact ih isPiece
    · rw [if_neg (by simpa using same)] at isPiece
      cases pieces : s.splitOn sep with
      | nil => exact absurd pieces (List.splitOn_ne_nil sep s)
      | cons first others =>
        rw [pieces] at isPiece ih
        rcases List.mem_cons.mp isPiece with rfl | isPiece
        · simpa [Ne.symm same] using ih (List.mem_cons_self)
        · exact ih (List.mem_cons_of_mem _ isPiece)

/-- A separator at the front cuts off an empty piece. -/
theorem splitOn_cons_self (sep : Char) (s : List Char) :
    (sep :: s).splitOn sep = [] :: s.splitOn sep := by
  simpa using List.splitOn_append_cons_self_of_not_mem (List.not_mem_nil : sep ∉ []) s

/-- The first texts with separators between them begin what all of them make. -/
theorem prefix_intercalate_append (sep : List Char) (first more : List (List Char)) :
    List.intercalate sep first <+: List.intercalate sep (first ++ more) := by
  induction first with
  | nil => exact List.nil_prefix
  | cons s rest ih =>
    cases rest with
    | nil =>
      cases more with
      | nil => simp
      | cons next more =>
        simp only [List.singleton_append, List.intercalate_cons_cons, List.intercalate_singleton,
          List.append_assoc]
        exact List.prefix_append _ _
    | cons next rest =>
      simp only [List.cons_append, List.intercalate_cons_cons]
      exact (List.prefix_append_right_inj _).mpr ih

/-- The last text ends what all of them make. -/
theorem suffix_intercalate_concat (sep last : List Char) (first : List (List Char)) :
    last <:+ List.intercalate sep (first ++ [last]) := by
  induction first with
  | nil => simp
  | cons s rest ih =>
    have joined : List.intercalate sep (s :: rest ++ [last]) =
        s ++ sep ++ List.intercalate sep (rest ++ [last]) := by
      cases rest with
      | nil => simp [List.intercalate_cons_cons]
      | cons next rest => simp [List.intercalate_cons_cons]
    rw [joined]
    exact ih.trans (List.suffix_append _ _)

/-- Texts that are left out of a sequence leave out characters of what all of them make. -/
theorem intercalate_sublist (sep : List Char) {kept pieces : List (List Char)}
    (isKept : kept.Sublist pieces) :
    (List.intercalate sep kept).Sublist (List.intercalate sep pieces) := by
  induction isKept with
  | slnil => exact List.Sublist.refl _
  | @cons kept pieces piece isKept ih =>
    refine ih.trans ?_
    cases pieces with
    | nil => exact List.nil_sublist _
    | cons next pieces =>
      rw [List.intercalate_cons_cons]
      exact List.sublist_append_right _ _
  | @cons_cons kept pieces piece isKept ih =>
    cases pieces with
    | nil =>
      obtain rfl := List.sublist_nil.mp isKept
      exact List.Sublist.refl _
    | cons next pieces =>
      rw [List.intercalate_cons_cons]
      cases kept with
      | nil =>
        rw [List.intercalate_singleton, List.append_assoc]
        exact List.sublist_append_left _ _
      | cons first kept =>
        rw [List.intercalate_cons_cons]
        exact (List.append_sublist_append_left _).mpr ih

end Text

open Text

/-- What makes a text a proper name. -/
theorem isPathName_iff {name : List Char} :
    isPathName name = true ↔ name ≠ [] ∧ name ≠ ['.'] ∧ '/' ∉ name := by
  simp [isPathName, and_assoc]

namespace Path

/-- All names of a path are proper names. -/
def IsProper (p : Path) : Prop := ∀ name ∈ p.names, isPathName name = true

/-- The names of a text that is read are proper. -/
theorem isProper_ofText (s : String) : (ofText s).IsProper := by
  intro name isName
  exact (List.mem_filter.mp isName).2

/-- A name below a proper path makes a proper path. -/
theorem IsProper.child {p : Path} (proper : p.IsProper) (name : String) :
    (p.child name).IsProper := by
  rw [Path.child, join]
  split
  · exact isProper_ofText name
  · intro other isName
    rcases List.mem_append.mp isName with isName | isName
    · exact proper other isName
    · exact isProper_ofText name other isName

/-- The path above a proper one is proper. -/
theorem IsProper.parent {p : Path} (proper : p.IsProper) : p.parent.IsProper :=
  fun name isName => proper name ((List.dropLast_sublist p.names).subset isName)

theorem IsProper.notMem {p : Path} (proper : p.IsProper) :
    ∀ name ∈ p.names, '/' ∉ name :=
  fun name isName => (isPathName_iff.mp (proper name isName)).2.2

/-- The names of a path with slashes between them begin with no slash. -/
theorem IsProper.head?_intercalate {p : Path} (proper : p.IsProper) :
    (List.intercalate ['/'] p.names).head? ≠ some '/' := by
  cases names : p.names with
  | nil => simp
  | cons name rest =>
    have isName : isPathName name = true := proper name (by simp [names])
    obtain ⟨more, -, slashFree⟩ := isPathName_iff.mp isName
    obtain ⟨c, name, rfl⟩ := List.exists_cons_of_ne_nil more
    have other : c ≠ '/' := by
      rintro rfl
      simp at slashFree
    cases rest with
    | nil => simpa using other
    | cons next rest => simpa [List.intercalate_cons_cons] using other

/-- A path says nothing more than its names only if there are some. -/
theorem IsProper.intercalate_ne_nil {p : Path} (proper : p.IsProper) (more : p.names ≠ []) :
    List.intercalate ['/'] p.names ≠ [] := by
  cases names : p.names with
  | nil => exact absurd names more
  | cons name rest =>
    have isName : isPathName name = true := proper name (by simp [names])
    have said := (isPathName_iff.mp isName).1
    cases rest with
    | nil => simpa using said
    | cons next rest => simp [List.intercalate_cons_cons]

/-- The text of any other path. -/
theorem IsProper.chars_eq {p : Path} (proper : p.IsProper)
    (more : p.root ≠ .relative ∨ p.names ≠ []) :
    p.chars = p.root.slashes ++ List.intercalate ['/'] p.names := by
  have said : p.root.slashes ++ List.intercalate ['/'] p.names ≠ [] := by
    rcases more with rooted | named
    · cases root : p.root with
      | relative => exact absurd root rooted
      | single => simp [Root.slashes]
      | double => simp [Root.slashes]
    · simp [proper.intercalate_ne_nil named]
  rw [chars]
  split
  · exact absurd ‹_› said
  · rfl

/-- A text of a path falls apart into its names, behind pieces that say nothing. -/
theorem IsProper.splitAll_chars {p : Path} (proper : p.IsProper) :
    ∃ silent, splitAll '/' p.chars = silent ++ p.names ∧
      ∀ piece ∈ silent, piece = [] ∨ piece = ['.'] := by
  have named : ∃ silent, (List.intercalate ['/'] p.names).splitOn '/' = silent ++ p.names ∧
      ∀ piece ∈ silent, piece = [] ∨ piece = ['.'] := by
    by_cases more : p.names = []
    · rw [more]
      exact ⟨[[]], rfl, by simp⟩
    · exact ⟨[], List.splitOn_intercalate '/' proper.notMem more, by simp⟩
  obtain ⟨silent, split, silence⟩ := named
  rw [splitAll_eq_splitOn]
  -- Every slash of the root adds an empty piece in front.
  by_cases more : p.root ≠ .relative ∨ p.names ≠ []
  · rw [proper.chars_eq more]
    cases p.root with
    | relative => exact ⟨silent, split, silence⟩
    | single =>
      refine ⟨[] :: silent, ?_, by simpa using silence⟩
      rw [Root.slashes, List.singleton_append, splitOn_cons_self, split, List.cons_append]
    | double =>
      refine ⟨[] :: [] :: silent, ?_, by simpa using silence⟩
      rw [Root.slashes, List.cons_append, List.singleton_append, splitOn_cons_self,
        splitOn_cons_self, split, List.cons_append, List.cons_append]
  · obtain ⟨root, names⟩ := p
    obtain ⟨rfl, rfl⟩ : root = .relative ∧ names = [] := by simpa using more
    exact ⟨[['.']], by decide, by simp⟩

/-- The names of a path are the names in its text. -/
theorem IsProper.filter_splitAll {p : Path} (proper : p.IsProper) :
    (splitAll '/' p.chars).filter isPathName = p.names := by
  obtain ⟨silent, split, silence⟩ := proper.splitAll_chars
  have noName : silent.filter isPathName = [] := by
    refine List.filter_eq_nil_iff.mpr fun piece isPiece => ?_
    rcases silence piece isPiece with rfl | rfl <;> decide
  rw [split, List.filter_append, noName, List.nil_append, List.filter_eq_self.mpr proper]

/-- The root of a path is found in its text. -/
theorem IsProper.rootOf_chars {p : Path} (proper : p.IsProper) : rootOf p.chars = p.root := by
  have slashFree := proper.head?_intercalate
  by_cases more : p.root ≠ .relative ∨ p.names ≠ []
  · rw [proper.chars_eq more]
    generalize List.intercalate ['/'] p.names = s at slashFree ⊢
    cases s with
    | nil => cases p.root <;> rfl
    | cons c s =>
      have other : c ≠ '/' := by simpa using slashFree
      cases p.root <;> simp [Root.slashes, rootOf, other]
  · obtain ⟨root, names⟩ := p
    obtain ⟨rfl, rfl⟩ : root = .relative ∧ names = [] := by simpa using more
    rfl

/-- A proper path is read back from its text. -/
theorem IsProper.ofText_text {p : Path} (proper : p.IsProper) : ofText p.text = p := by
  rw [ofText, text, String.toList_ofList, ofChars, proper.rootOf_chars, proper.filter_splitAll]

/-- The root and some of the names of a text are written with characters of the text, unless they
say nothing. -/
theorem chars_sublist {p : Path} {s : List Char} (root : p.root = rootOf s)
    (names : p.names.Sublist (ofChars s).names) : p.chars = ['.'] ∨ p.chars.Sublist s := by
  have named (s : List Char) (names : p.names.Sublist (ofChars s).names) :
      (List.intercalate ['/'] p.names).Sublist s := by
    have pieces := intercalate_sublist ['/'] (names.trans List.filter_sublist)
    rwa [splitAll_eq_splitOn, List.intercalate_splitOn] at pieces
  have behind {s : List Char} (names : p.names.Sublist (ofChars ('/' :: s)).names) :
      p.names.Sublist (ofChars s).names := by
    simpa [ofChars, splitAll_eq_splitOn, splitOn_cons_self, isPathName] using names
  have whole : (p.root.slashes ++ List.intercalate ['/'] p.names).Sublist s := by
    rw [root]
    -- The slashes at the front decide about the root, up to the third one; behind them stand the
    -- same names.
    rcases s with _ | ⟨c, s⟩
    · exact named [] names
    by_cases first : c = '/'
    · subst first
      have rest := behind names
      rcases s with _ | ⟨c, s⟩
      · exact (named [] rest).cons_cons '/'
      by_cases second : c = '/'
      · subst second
        rcases s with _ | ⟨c, s⟩
        · exact ((named [] (behind rest)).cons_cons '/').cons_cons '/'
        by_cases third : c = '/'
        · subst third
          exact (named _ rest).cons_cons '/'
        · have double : rootOf ('/' :: '/' :: c :: s) = .double := by simp [rootOf, third]
          rw [double]
          exact ((named _ (behind rest)).cons_cons '/').cons_cons '/'
      · have single : rootOf ('/' :: c :: s) = .single := by simp [rootOf, second]
        rw [single]
        exact (named _ rest).cons_cons '/'
    · have relative : rootOf (c :: s) = .relative := by simp [rootOf, first]
      rw [relative]
      exact named _ names
  rw [chars]
  split
  · exact .inl rfl
  · exact .inr whole

/-! ## Further names -/

/-- The path with one more name. -/
def further (p : Path) (name : List Char) : Path := { p with names := p.names ++ [name] }

@[simp]
theorem parent_further (p : Path) (name : List Char) : (p.further name).parent = p := by
  simp [parent, further]

/-- A path with names is the one above it with one more name. -/
theorem exists_eq_further {p : Path} (more : p.names ≠ []) :
    ∃ name, p = p.parent.further name := by
  refine ⟨p.names.getLast more, ?_⟩
  rw [further, parent, List.dropLast_concat_getLast more]

/-- A name below a path is one more name on it. -/
theorem child_eq_further (p : Path) {name : String} (isName : isPathName name.toList = true) :
    p.child name = p.further name.toList := by
  obtain ⟨more, -, slashFree⟩ := isPathName_iff.mp isName
  have whole : splitAll '/' name.toList = [name.toList] := by
    rw [splitAll_eq_splitOn, List.splitOn_eq_singleton slashFree]
  have relative : rootOf name.toList = .relative := by
    obtain ⟨c, rest, chars⟩ := List.exists_cons_of_ne_nil more
    have other : c ≠ '/' := by
      rintro rfl
      simp [chars] at slashFree
    rw [chars]
    simp [rootOf, other]
  rw [child, join, ofText, ofChars, whole, relative]
  simp [isAbsolute, further, isName]

/-- A path with a further name is proper if both are. -/
theorem isProper_further {p : Path} {name : List Char} :
    (p.further name).IsProper ↔ p.IsProper ∧ isPathName name = true := by
  simp [IsProper, further, or_imp, forall_and]

/-- The text of a path begins with a slash if the path begins at the root. -/
theorem IsProper.head?_chars {p : Path} (proper : p.IsProper) :
    p.chars.head? = some '/' ↔ p.isAbsolute = true := by
  obtain ⟨root, names⟩ := p
  cases root with
  | relative =>
    by_cases more : names = []
    · subst more
      decide
    · rw [proper.chars_eq (.inr more)]
      simpa [Root.slashes, isAbsolute] using proper.head?_intercalate
  | single =>
    rw [proper.chars_eq (.inl (by simp))]
    simp [Root.slashes, isAbsolute]
  | double =>
    rw [proper.chars_eq (.inl (by simp))]
    simp [Root.slashes, isAbsolute]

/-- A further name makes a text longer, unless the text says nothing. -/
theorem IsProper.chars_further {p : Path} {name : List Char}
    (proper : (p.further name).IsProper) :
    p.chars = ['.'] ∨ p.chars <+: (p.further name).chars := by
  have named : (p.further name).names ≠ [] := by simp [further]
  rw [proper.chars_eq (.inr named)]
  by_cases more : p.root ≠ .relative ∨ p.names ≠ []
  · rw [(isProper_further.mp proper).1.chars_eq more]
    exact .inr ((List.prefix_append_right_inj _).mpr (prefix_intercalate_append _ p.names [name]))
  · obtain ⟨root, names⟩ := p
    obtain ⟨rfl, rfl⟩ : root = .relative ∧ names = [] := by simpa using more
    exact .inl rfl

/-- Only the text of a root ends in a slash. -/
theorem IsProper.names_eq_nil_of_slash {p : Path} (proper : p.IsProper)
    (slash : p.chars.getLast? = some '/') : p.names = [] := by
  by_cases more : p.names = []
  · exact more
  obtain ⟨name, isFurther⟩ := exists_eq_further more
  have isName : isPathName name = true := by
    rw [isFurther, isProper_further] at proper
    exact proper.2
  obtain ⟨said, -, slashFree⟩ := isPathName_iff.mp isName
  have named : p.names = p.parent.names ++ [name] := congrArg Path.names isFurther
  -- The text ends as its last name does.
  obtain ⟨front, whole⟩ := suffix_intercalate_concat ['/'] name p.parent.names
  rw [proper.chars_eq (.inr more), named, ← whole, ← List.append_assoc,
    List.getLast?_append, List.getLast?_eq_some_getLast said, Option.some_or] at slash
  have isIn := List.getLast_mem said
  rw [Option.some.inj slash] at isIn
  exact absurd isIn slashFree

end Path

end SafeFetch
