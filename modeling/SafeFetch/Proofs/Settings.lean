import SafeFetch.Settings

/-!
# Sizes of chunks that are set

The environment sets the size of chunks by the numeral of a positive number, however it is written.
Any other text, and none at all, leaves the default in force.

## Main definitions

* `SetsChunkSize`: an environment sets the size of chunks.

## Main results

* `chunkSize_of_sets` and `chunkSize_of_unset`: the size of chunks that an environment makes.
-/

namespace SafeFetch.Settings

open SafeFetch.Text

variable {environment : List (String × String)} {size : Nat} {text : String}

/-- An environment sets the size of chunks: its text is the numeral of a positive number. -/
def SetsChunkSize (environment : List (String × String)) (size : Nat) : Prop :=
  0 < size ∧ ∃ text, environment.lookup chunkSizeVariable = some text ∧
    Numeral.int? text.toList = some (size : Int)

/-- The numerals that are read as a size are those of positive numbers. -/
theorem chunkSize?_eq_some_iff :
    chunkSize? text = some size ↔ 0 < size ∧ Numeral.int? text.toList = some (size : Int) := by
  rw [chunkSize?]
  split
  next n isNumber =>
    rw [isNumber, Option.some.injEq, Option.some.injEq]
    constructor
    · rintro rfl
      exact ⟨Nat.succ_pos n, rfl⟩
    · rintro ⟨-, same⟩
      exact Int.ofNat.inj same
  next other =>
    refine iff_of_false (Option.some_ne_none size).symm ?_
    rintro ⟨positive, isNumber⟩
    obtain ⟨n, rfl⟩ := Nat.exists_eq_succ_of_ne_zero (Nat.ne_of_gt positive)
    exact other n isNumber

/-- What is looked up is a size exactly if the environment sets it. -/
theorem bind_chunkSize?_eq_some_iff :
    (lookUp? environment chunkSizeVariable).bind chunkSize? = some size ↔
      SetsChunkSize environment size := by
  rw [Option.bind_eq_some_iff]
  constructor
  · rintro ⟨text, found, isSize⟩
    obtain ⟨positive, isNumber⟩ := chunkSize?_eq_some_iff.mp isSize
    exact ⟨positive, text, (Option.filter_eq_some_iff.mp found).1, isNumber⟩
  · rintro ⟨positive, text, found, isNumber⟩
    refine ⟨text, Option.filter_eq_some_iff.mpr ⟨found, ?_⟩,
      chunkSize?_eq_some_iff.mpr ⟨positive, isNumber⟩⟩
    -- The empty text, which is looked over, is no numeral.
    cases isEmpty : text.isEmpty with
    | false => rfl
    | true =>
      obtain rfl := String.isEmpty_iff.mp isEmpty
      have noNumber : Numeral.int? "".toList = none := by decide
      cases noNumber.symm.trans isNumber

/-- A size that is set is in force. -/
theorem chunkSize_of_sets (sets : SetsChunkSize environment size) :
    (ofEnvironment environment).chunkSize = size := by
  rw [ofEnvironment]
  dsimp only
  rw [bind_chunkSize?_eq_some_iff.mpr sets, Option.getD_some]

/-- Without one the default is in force. -/
theorem chunkSize_of_unset (unset : ∀ size, ¬SetsChunkSize environment size) :
    (ofEnvironment environment).chunkSize = default.chunkSize := by
  have none : (lookUp? environment chunkSizeVariable).bind chunkSize? = none := by
    rw [Option.eq_none_iff_forall_ne_some]
    intro size isSize
    exact unset size (bind_chunkSize?_eq_some_iff.mp isSize)
  rw [ofEnvironment]
  dsimp only
  rw [none, Option.getD_none]

end SafeFetch.Settings
