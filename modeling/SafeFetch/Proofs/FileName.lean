import SafeFetch.FileName
import SafeFetch.Proofs.Path

/-!
# Names that are safe

What the reduction of an untrusted text to one file name gives: one of the pieces between the
slashes of the text, which stands for an entry of a directory. Such a name is safe, and a safe name
is kept as it is.

## Main definitions

* `IsSafe`: a name of an entry in a directory, other than the directory and the one above it.

## Main results

* `mem_descend`: the names on a path are pieces of its text;
* `sanitize?_proper`: a safe name is a proper one that does not lead up;
* `isSafe_of_sanitize?` and `sanitize?_eq_self_iff`: what is kept is safe, and the safe names are
  the ones that are kept.
-/

namespace SafeFetch

namespace Text

/-- The characters of a piece of a text that was split are characters of the text. -/
theorem mem_of_mem_splitAll {sep c : Char} {s piece : List Char} (isPiece : piece ∈ splitAll sep s)
    (isIn : c ∈ piece) : c ∈ s := by
  rw [splitAll_eq_splitOn] at isPiece
  rw [← @List.intercalate_splitOn _ s _ _ sep]
  generalize s.splitOn sep = pieces at isPiece
  induction pieces with
  | nil => cases isPiece
  | cons first others ih =>
    cases others with
    | nil =>
      obtain rfl := List.mem_singleton.mp isPiece
      simpa using isIn
    | cons second others =>
      rw [List.intercalate_cons_cons]
      rcases List.mem_cons.mp isPiece with rfl | isPiece
      · simp [isIn]
      · exact List.mem_append_right _ (ih isPiece)

end Text

open Text

namespace FileName

variable {candidate name : String}

/-- The names on the path that a text describes are pieces of the text that say something and do not
lead up. -/
theorem mem_descend {s name : List Char} (isName : name ∈ descend s) :
    name ∈ splitAll '/' s ∧ name ≠ [] ∧ name ≠ ['.'] ∧ name ≠ ['.', '.'] := by
  -- Every further segment is entered as it is, or says nothing, or leads up.
  have invariant (segments stack : List (List Char))
      (isName : name ∈ segments.foldl enter stack) :
      name ∈ stack ∨ name ∈ segments ∧ name ≠ [] ∧ name ≠ ['.'] ∧ name ≠ ['.', '.'] := by
    induction segments generalizing stack with
    | nil => exact .inl isName
    | cons segment segments ih =>
      rcases ih _ isName with entered | ⟨isSegment, kept⟩
      · rw [enter] at entered
        split at entered
        · exact .inl entered
        next notSilent =>
          split at entered
          · exact .inl (List.mem_of_mem_tail entered)
          next notUp =>
            rcases List.mem_cons.mp entered with rfl | earlier
            · obtain ⟨more, notDot⟩ := not_or.mp notSilent
              exact .inr ⟨List.mem_cons_self, more, notDot, notUp⟩
            · exact .inl earlier
      · exact .inr ⟨List.mem_cons_of_mem _ isSegment, kept⟩
  exact (invariant _ [] isName).resolve_left (by simp)

/-- The names on the path that a text describes are proper, and none leads up. -/
theorem descend_proper {s name : List Char} (isName : name ∈ descend s) :
    isPathName name = true ∧ name ≠ ['.', '.'] := by
  obtain ⟨isPiece, more, notDot, notUp⟩ := mem_descend isName
  exact ⟨isPathName_iff.mpr ⟨more, notDot, sep_notMem_of_mem_splitAll isPiece⟩, notUp⟩

/-- A name that is kept is one on the path that a text without a NUL describes. -/
theorem mem_descend_of_sanitize? (kept : sanitize? candidate = some name) :
    name.toList ∈ descend candidate.toList ∧ '\x00' ∉ candidate.toList := by
  obtain ⟨chars, innermost, rfl⟩ := Option.map_eq_some_iff.mp kept
  rw [String.toList_ofList]
  rw [sanitizeChars] at innermost
  split at innermost
  · cases innermost
  next accepted =>
    refine ⟨List.mem_of_head? innermost, ?_⟩
    simp only [isRefused, Bool.or_eq_true, not_or] at accepted
    simpa using accepted.2

/-- A safe name is a proper one that does not lead up. -/
theorem sanitize?_proper (safe : sanitize? candidate = some name) :
    isPathName name.toList = true ∧ name.toList ≠ ['.', '.'] :=
  descend_proper (mem_descend_of_sanitize? safe).1

/-- A name of an entry in a directory, other than the directory itself and the one above it. -/
structure IsSafe (name : String) : Prop where
  ne_empty : name ≠ ""
  slashFree : '/' ∉ name.toList
  nulFree : '\x00' ∉ name.toList
  ne_here : name ≠ "."
  ne_above : name ≠ ".."

/-- What is kept of an untrusted text is safe. -/
theorem isSafe_of_sanitize? (kept : sanitize? candidate = some name) : IsSafe name := by
  obtain ⟨isName, nulFree⟩ := mem_descend_of_sanitize? kept
  obtain ⟨isPiece, more, notDot, notUp⟩ := mem_descend isName
  refine ⟨?_, sep_notMem_of_mem_splitAll isPiece, ?_, ?_, ?_⟩
  · rintro rfl
    exact more rfl
  · exact fun isIn => nulFree (mem_of_mem_splitAll isPiece isIn)
  · rintro rfl
    exact notDot rfl
  · rintro rfl
    exact notUp rfl

/-- The safe names are the ones that are kept as they are. -/
theorem sanitize?_eq_self_iff : sanitize? name = some name ↔ IsSafe name := by
  refine ⟨isSafe_of_sanitize?, fun safe => ?_⟩
  have more : name.toList ≠ [] := fun empty => safe.ne_empty (String.toList_eq_nil_iff.mp empty)
  have notDot : name.toList ≠ ['.'] := fun same => safe.ne_here (String.toList_inj.mp same)
  have notUp : name.toList ≠ ['.', '.'] := fun same => safe.ne_above (String.toList_inj.mp same)
  have accepted : isRefused name.toList = false := by
    have notLast : name.toList.getLast? ≠ some '/' := fun last =>
      safe.slashFree (List.mem_of_getLast? last)
    simp [isRefused, safe.ne_empty, safe.nulFree, notLast]
  have alone : descend name.toList = [name.toList] := by
    rw [descend, splitAll_eq_splitOn, List.splitOn_eq_singleton safe.slashFree, List.foldl_cons,
      List.foldl_nil, enter, if_neg (not_or.mpr ⟨more, notDot⟩), if_neg notUp]
  rw [sanitize?, sanitizeChars, accepted, alone]
  simp

end FileName

end SafeFetch
