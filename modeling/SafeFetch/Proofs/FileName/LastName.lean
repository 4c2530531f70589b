import SafeFetch.FileInfo
import SafeFetch.Proofs.FileName

/-!
# The last name on a path

The name that is kept of an untrusted text is the last part of a path in normal form. It can also be
found from the end of the text, without following the path: the segments are looked at from the last
one to the first, and each `..` lets one of the names before it go. What stands in front of the
segment where this search ends does not count, so a text keeps its name below every directory.

## Main definitions

* `Path.normal`: the path of a text in normal form;
* `lastName?`: the search for a name from the last segment to the first;
* `backward?`: the name of a text, searched for from its end.

## Main results

* `sanitizeChars_eq_baseName`: the name that is kept is the last part of the normal form;
* `getElem?_descend`: the search finds the names on a path;
* `head?_descend_below`: a directory in front does not change the innermost name;
* `FileInfo.safeName_eq_backward`: the name that is kept is the one found from the end;
* `FileInfo.safeName_below`: it is kept below every directory.
-/

namespace SafeFetch

open Text

/-! ## Normal forms -/

namespace Path

/-- The names on a path in normal form after one more segment, innermost first. A `..` leaves the
innermost name. It is kept where there is none to leave: behind another one, and at the beginning of
a path that does not begin at a root. -/
def normalEnter (isRooted : Bool) (names : List (List Char)) (segment : List Char) :
    List (List Char) :=
  if segment = [] ∨ segment = ['.'] then names
  else if segment ≠ ['.', '.'] ∨ (isRooted = false ∧ names = []) ∨ names.head? = some ['.', '.'] then
    segment :: names
  else names.tail

/-- The path that a text describes, in normal form. -/
def normal (s : List Char) : Path where
  root := rootOf s
  names := ((splitAll '/' s).foldl (normalEnter (rootOf s != .relative)) []).reverse

/-- The last part of a text between slashes. -/
def baseName (s : List Char) : List Char := ((splitAll '/' s).getLast?).getD []

/-- A path that begins at a root never keeps a `..`, so its names in normal form are those that are
left when it is followed. -/
theorem foldl_normalEnter {names : List (List Char)} (downward : ['.', '.'] ∉ names)
    (segments : List (List Char)) :
    segments.foldl (normalEnter true) names = segments.foldl FileName.enter names := by
  induction segments generalizing names with
  | nil => rfl
  | cons segment segments ih =>
    have notAbove : names.head? ≠ some ['.', '.'] := fun above =>
      downward (List.mem_of_head? above)
    -- Below a root a `..` is kept only behind another one, and there is none.
    have same : normalEnter true names segment = FileName.enter names segment := by
      by_cases up : segment = ['.', '.'] <;> simp [normalEnter, FileName.enter, up, notAbove]
    have downward' : ['.', '.'] ∉ FileName.enter names segment := by
      rw [FileName.enter]
      split
      · exact downward
      · split
        · exact fun isIn => downward (List.mem_of_mem_tail isIn)
        next notUp => simpa [downward] using Ne.symm notUp
    rw [List.foldl_cons, List.foldl_cons, same, ih downward']

/-- A text behind a slash describes a path from a root. -/
theorem rootOf_cons_slash (s : List Char) : rootOf ('/' :: s) ≠ .relative := by
  rw [rootOf.eq_def]
  split <;> simp_all

/-- The names of a text behind a slash, in normal form. -/
theorem names_normal (s : List Char) :
    (normal ('/' :: s)).names = (FileName.descend s).reverse := by
  have rooted : (rootOf ('/' :: s) != .relative) = true := by
    simpa using rootOf_cons_slash s
  -- The slash in front makes an empty segment, which says nothing.
  have front : splitAll '/' ('/' :: s) = [] :: splitAll '/' s := by
    rw [splitAll_eq_splitOn, splitAll_eq_splitOn, splitOn_cons_self]
  rw [normal, rooted, foldl_normalEnter List.not_mem_nil, front]
  rfl

/-- Such a path is proper. -/
theorem isProper_normal (s : List Char) : (normal ('/' :: s)).IsProper := by
  intro name isName
  rw [names_normal, List.mem_reverse] at isName
  exact (FileName.descend_proper isName).1

/-- The last part of a proper path from a root is its last name. -/
theorem IsProper.baseName_chars {p : Path} (proper : p.IsProper) (rooted : p.root ≠ .relative) :
    baseName p.chars = p.names.getLast?.getD [] := by
  by_cases more : p.names = []
  · have chars : p.chars = p.root.slashes := by
      rw [proper.chars_eq (.inl rooted), more]
      simp
    -- Nothing stands behind the last slash of a root.
    rw [chars, more]
    cases root : p.root with
    | relative => exact absurd root rooted
    | single => rfl
    | double => rfl
  · obtain ⟨silent, split, -⟩ := proper.splitAll_chars
    rw [baseName, split, List.getLast?_append, List.getLast?_eq_some_getLast more, Option.some_or]

end Path

namespace FileName

/-- The name that is kept of a text is the last part of the normal form of the text behind a slash,
unless the text is refused or that part is no name. -/
theorem sanitizeChars_eq_baseName (s : List Char) :
    sanitizeChars s =
      if isRefused s then none
      else
        let name := Path.baseName (Path.normal ('/' :: s)).chars
        if name = [] ∨ name = ['.'] ∨ name = ['/'] then none else some name := by
  have rooted : (Path.normal ('/' :: s)).root ≠ .relative := Path.rootOf_cons_slash s
  have last : Path.baseName (Path.normal ('/' :: s)).chars = (descend s).head?.getD [] := by
    rw [(Path.isProper_normal s).baseName_chars rooted, Path.names_normal, List.getLast?_reverse]
  rw [sanitizeChars, last]
  -- The root has no name; every other last part is one, and passes.
  cases innermost : (descend s).head? with
  | none => simp
  | some name =>
    obtain ⟨isPiece, more, notDot, -⟩ := mem_descend (List.mem_of_head? innermost)
    have notSlash : name ≠ ['/'] := by
      rintro rfl
      exact sep_notMem_of_mem_splitAll isPiece List.mem_cons_self
    simp [more, notDot, notSlash]

/-! ## From the last segment to the first -/

/-- The first name among segments that are given from the last one to the first, when `toLeave` names
are still to be left out: an empty segment and `.` say nothing, and each `..` leaves out one name
more. -/
def lastName? : (toLeave : Nat) → (segments : List (List Char)) → Option (List Char)
  | _, [] => none
  | toLeave, segment :: before =>
    if segment = [] ∨ segment = ['.'] then lastName? toLeave before
    else if segment = ['.', '.'] then lastName? (toLeave + 1) before
    else if 0 < toLeave then lastName? (toLeave - 1) before
    else some segment

/-- The name that an untrusted text has, searched for from its end. A text that is empty, ends in a
slash or holds a NUL has none. -/
def backward? (candidate : String) : Option String :=
  let s := candidate.toList
  if s = [] ∨ s.getLast? = some '/' ∨ '\x00' ∈ s then none
  else (lastName? 0 (s.splitOn '/').reverse).map String.ofList

/-- The search leaves out as many of the names on a path as it has to, innermost first. -/
theorem getElem?_foldr_enter (toLeave : Nat) (segments : List (List Char)) :
    (segments.foldr (fun segment names => enter names segment) [])[toLeave]? =
      lastName? toLeave segments := by
  -- The last segment is entered last, so the induction goes along the search.
  induction segments generalizing toLeave with
  | nil => rfl
  | cons segment before ih =>
    rw [List.foldr_cons, enter, lastName?]
    split
    · exact ih toLeave
    · split
      · -- Every other name moves up by one place when the innermost is left.
        rw [List.getElem?_tail]
        exact ih (toLeave + 1)
      · cases toLeave with
        | zero => rfl
        | succ toLeave => exact ih toLeave

/-- The search from the end of a text finds the names on its path. -/
theorem getElem?_descend (s : List Char) (toLeave : Nat) :
    (descend s)[toLeave]? = lastName? toLeave (s.splitOn '/').reverse := by
  rw [descend, splitAll_eq_splitOn, ← getElem?_foldr_enter, List.foldr_reverse]

/-- Segments further in front do not count once a name is found. -/
theorem lastName?_append {toLeave : Nat} {segments : List (List Char)} {name : List Char}
    (found : lastName? toLeave segments = some name) (before : List (List Char)) :
    lastName? toLeave (segments ++ before) = some name := by
  -- The search takes the same branch at every segment, until it ends at the same one.
  fun_induction lastName? toLeave segments with
  | case1 => cases found
  | case2 toLeave segment segments silent ih =>
    rw [List.cons_append, lastName?, if_pos silent, ih found]
  | case3 toLeave segments said ih =>
    rw [List.cons_append, lastName?, if_neg said, if_pos rfl, ih found]
  | case4 toLeave segment segments said notUp isDue ih =>
    rw [List.cons_append, lastName?, if_neg said, if_neg notUp, if_pos isDue, ih found]
  | case5 toLeave segment segments said notUp notDue =>
    rw [List.cons_append, lastName?, if_neg said, if_neg notUp, if_neg notDue, found]

/-- A text is refused exactly if it is empty, ends in a slash or holds a NUL. -/
theorem isRefused_iff {s : List Char} :
    isRefused s = true ↔ s = [] ∨ s.getLast? = some '/' ∨ '\x00' ∈ s := by
  simp [isRefused, or_assoc]

/-- The name that is kept of a text is the one found from its end. -/
theorem sanitize?_eq_backward? (candidate : String) : sanitize? candidate = backward? candidate := by
  rw [sanitize?, backward?, sanitizeChars]
  simp only [← isRefused_iff, ← getElem?_descend, ← List.head?_eq_getElem?]
  split <;> rfl

/-! ## Below a directory -/

/-- The innermost name on a path is the same below every directory. -/
theorem head?_descend_below {s name : List Char} (innermost : (descend s).head? = some name)
    (directory : List Char) : (descend (directory ++ '/' :: s)).head? = some name := by
  rw [List.head?_eq_getElem?, getElem?_descend] at innermost ⊢
  -- The segments of the directory are looked at last, when the name is found already.
  rw [List.splitOn_append_cons_self, List.reverse_append, lastName?_append innermost]

/-- A text that is not refused is not refused below a directory without a NUL. -/
theorem not_isRefused_below {directory s : List Char} (nulFree : '\x00' ∉ directory)
    (accepted : ¬ isRefused s = true) : ¬ isRefused (directory ++ '/' :: s) = true := by
  obtain ⟨more, unfinished, nulFree'⟩ : s ≠ [] ∧ s.getLast? ≠ some '/' ∧ '\x00' ∉ s := by
    simpa only [isRefused_iff, not_or] using accepted
  -- The text is not empty, so its end is the end of the whole.
  have last : (directory ++ '/' :: s).getLast? = s.getLast? := by
    rw [List.append_cons, List.getLast?_append, List.getLast?_eq_some_getLast more, Option.some_or]
  rw [isRefused_iff, last]
  simp [unfinished, nulFree, nulFree']

/-- What is kept of a text is kept of it below every directory. -/
theorem sanitize?_below {directory candidate name : String} (nulFree : '\x00' ∉ directory.toList)
    (kept : sanitize? candidate = some name) :
    sanitize? (directory ++ "/" ++ candidate) = some name := by
  have whole : (directory ++ "/" ++ candidate).toList =
      directory.toList ++ '/' :: candidate.toList := by
    simp
  obtain ⟨chars, innermost, rfl⟩ := Option.map_eq_some_iff.mp kept
  rw [sanitizeChars] at innermost
  rw [sanitize?, sanitizeChars, whole]
  split at innermost
  · cases innermost
  next accepted =>
    rw [if_neg (not_isRefused_below nulFree accepted), head?_descend_below innermost]
    rfl

end FileName

namespace FileInfo

variable {candidate name : String}

/-- A text is reduced to a safe name exactly if it has one. -/
theorem safeName_eq_ok_iff :
    safeName candidate = .ok name ↔ FileName.sanitize? candidate = some name := by
  rw [safeName]
  cases FileName.sanitize? candidate <;> simp

/-- The safe name of a text is the one that is found from its end; without one, the text has no name
that can be used. -/
theorem safeName_eq_backward (candidate : String) :
    safeName candidate =
      (FileName.backward? candidate).elim (.error (.unusableName candidate)) .ok := by
  rw [safeName, FileName.sanitize?_eq_backward?]
  cases FileName.backward? candidate <;> rfl

/-- A text has the same safe name below every directory, and so has the name itself. -/
theorem safeName_below {directory : String} (nulFree : '\x00' ∉ directory.toList)
    (kept : safeName candidate = .ok name) :
    safeName (directory ++ "/" ++ candidate) = .ok name ∧
      safeName (directory ++ "/" ++ name) = .ok name := by
  rw [safeName_eq_ok_iff] at kept
  have again : FileName.sanitize? name = some name :=
    FileName.sanitize?_eq_self_iff.mpr (FileName.isSafe_of_sanitize? kept)
  rw [safeName_eq_ok_iff, safeName_eq_ok_iff]
  exact ⟨FileName.sanitize?_below nulFree kept, FileName.sanitize?_below nulFree again⟩

/-- The candidate leads out of the directory and back to another name. -/
theorem safeName_below_of_leaving :
    ('\x00' ∉ "//a/..".toList ∧ safeName "../../b/./c/..//../d.txt" = .ok "d.txt") ∧
      safeName ("//a/.." ++ "/" ++ "../../b/./c/..//../d.txt") = .ok "d.txt" ∧
        safeName ("//a/.." ++ "/" ++ "d.txt") = .ok "d.txt" := by
  have nulFree : '\x00' ∉ "//a/..".toList := by decide
  have kept : safeName "../../b/./c/..//../d.txt" = .ok "d.txt" := by rfl
  exact ⟨⟨nulFree, kept⟩, safeName_below nulFree kept⟩

end FileInfo

end SafeFetch
