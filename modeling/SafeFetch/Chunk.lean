/-!
# Chunks

A list is cut into chunks of one size; only the last chunk may be shorter, and none is empty.
-/

namespace SafeFetch

/-- Cut a list into chunks of `size + 1` elements, in front of which come the chunks `done`, latest
first. -/
def chunksAfter {α : Type} (size : Nat) (done : List (List α)) : List α → List (List α)
  | [] => done.reverse
  | a :: rest => chunksAfter size ((a :: rest.take size) :: done) (rest.drop size)
termination_by s => s.length
decreasing_by
  simp only [List.length_drop, List.length_cons]
  omega

/-- Cut a list into chunks of `size` elements; chunks of no elements are chunks of one. -/
def chunks {α : Type} (size : Nat) (s : List α) : List (List α) := chunksAfter (size - 1) [] s

/-- Cutting loses nothing. -/
theorem flatten_chunksAfter {α : Type} (size : Nat) (done : List (List α)) (s : List α) :
    (chunksAfter size done s).flatten = done.reverse.flatten ++ s := by
  fun_induction chunksAfter size done s with
  | case1 done => simp
  | case2 done a rest ih => simp [ih, List.take_append_drop]

/-- The chunks of a list make up the list. -/
@[simp]
theorem flatten_chunks {α : Type} (size : Nat) (s : List α) : (chunks size s).flatten = s := by
  simp [chunks, flatten_chunksAfter]

end SafeFetch
