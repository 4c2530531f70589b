import SafeFetch.Text.Blank

/-!
# Texts that are cut

A text is cut where its characters stop to have a property, or at the first of the separators in it.
What stands in front of the cut comes through as it is.

## Main results

* `takeWhile_append_of_head` and `dropWhile_append_of_head`: a text that is cut at a property;
* `cut?_append_of_notMem`: the cut lies behind a text without separators;
* `cut?_append`: a text is cut at the first of the separators in it.
-/

namespace SafeFetch.Text

variable {p : Char → Bool} {sep : Char} {front core : List Char}

/-- Characters are taken up to the first one that does not have the property. -/
theorem takeWhile_append_of_head (taken : ∀ c ∈ front, p c = true)
    (stops : ∀ c ∈ core.head?, p c = false) : (front ++ core).takeWhile p = front := by
  rw [List.takeWhile_append_of_pos taken]
  cases core with
  | nil => exact List.append_nil front
  | cons c rest => rw [List.takeWhile_cons_of_neg (by simp [stops c rfl]), List.append_nil]

/-- Characters that are dropped stand in front of the first one that is kept. -/
theorem dropWhile_append_of_head (dropped : ∀ c ∈ front, p c = true)
    (kept : ∀ c ∈ core.head?, p c = false) : (front ++ core).dropWhile p = core := by
  rw [List.dropWhile_append_of_pos dropped]
  cases core with
  | nil => rfl
  | cons c rest =>
    apply List.dropWhile_cons_of_neg
    simp [kept c rfl]

/-- Behind a text without separators, the rest is cut as it is by itself. -/
theorem cut?_append_of_notMem (free : sep ∉ front) (rest : List Char) :
    cut? sep (front ++ rest) = (cut? sep rest).map (Prod.map (front ++ ·) id) := by
  induction front with
  | nil =>
    rw [List.nil_append]
    cases cut? sep rest <;> rfl
  | cons c front ih =>
    rw [List.mem_cons, not_or] at free
    rw [List.cons_append, cut?, if_neg (Ne.symm free.1), ih free.2]
    cases cut? sep rest <;> rfl

/-- A text is cut at the first of the separators in it. -/
theorem cut?_append (free : sep ∉ front) (after : List Char) :
    cut? sep (front ++ sep :: after) = some (front, after) := by
  rw [cut?_append_of_notMem free, cut?, if_pos rfl, Option.map_some, Prod.map_apply,
    List.append_nil]
  rfl

end SafeFetch.Text
