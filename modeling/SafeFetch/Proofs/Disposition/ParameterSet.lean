import Mathlib.Data.List.Nodup
import SafeFetch.Disposition.ExtendedValue
import SafeFetch.Proofs.Disposition.Grammar

/-!
# File names of sets of parameters

The file name in a disposition depends on the set of its parameters only. Names are looked up in a
list in which each occurs once, so neither the order of the list counts nor anything else that a
spelling may choose: the disposition type, the letter case of names, quotes and escapes in values,
white space, and a semicolon at the end.

## Main definitions

* `Spelling.Spells`: a disposition writes the given parameters, in some order.

## Main results

* `get?_eq_of_perm`: looking a name up in another order of the parameters;
* `fileName_eq_of_perm`: the file name in another order of the parameters;
* `fileNameOf_chars`: the file name in a disposition, by any order of its parameters;
* `fileNameOf_eq_of_spells`: two spellings of the same parameters.
-/

namespace SafeFetch.Disposition

variable {ps qs : List Parameter} {d d' : Spelling} {name value : List Char}

/-! ## Looking up -/

/-- What is found is a parameter. -/
theorem mem_of_get? (found : get? ps name = some value) : (⟨name, value⟩ : Parameter) ∈ ps := by
  obtain ⟨p, isFound, rfl⟩ := Option.map_eq_some_iff.mp found
  obtain rfl : p.name = name := by simpa using List.find?_some isFound
  exact List.mem_of_find?_eq_some isFound

/-- A name that occurs once is found with the value that it stands with. -/
theorem get?_eq_some_iff (distinct : (ps.map Parameter.name).Nodup) :
    get? ps name = some value ↔ (⟨name, value⟩ : Parameter) ∈ ps := by
  constructor
  · exact mem_of_get?
  · intro isIn
    simp only [get?, Option.map_eq_some_iff]
    have isThere : (ps.find? fun p => p.name == name).isSome := by
      rw [List.find?_isSome]
      exact ⟨_, isIn, beq_self_eq_true name⟩
    obtain ⟨p, found⟩ := Option.isSome_iff_exists.mp isThere
    refine ⟨p, found, ?_⟩
    -- What is found has the same name, and only one parameter has it.
    have named : p.name = name := by simpa using List.find?_some found
    have same := List.inj_on_of_nodup_map distinct (List.mem_of_find?_eq_some found) isIn named
    rw [same]

/-- The order of parameters with distinct names does not count in a search. -/
theorem get?_eq_of_perm (distinct : (ps.map Parameter.name).Nodup) (same : ps.Perm qs)
    (name : List Char) : get? ps name = get? qs name := by
  have distinct' : (qs.map Parameter.name).Nodup := (same.map Parameter.name).nodup_iff.mp distinct
  refine Option.ext fun value => ?_
  rw [get?_eq_some_iff distinct, get?_eq_some_iff distinct', same.mem_iff]

/-! ## The file name -/

/-- The pieces of a continued name are found by searches. -/
theorem piecesFrom_congr (found : ∀ name, get? ps name = get? qs name) (count n : Nat) :
    piecesFrom ps count n = piecesFrom qs count n := by
  induction count generalizing n with
  | zero => rfl
  | succ count ih => simp only [piecesFrom, found, ih]

/-- A continued name is found by searches, no more of them than there are parameters. -/
theorem continuedFileName_congr [Platform] (found : ∀ name, get? ps name = get? qs name)
    (length : ps.length = qs.length) : continuedFileName ps = continuedFileName qs := by
  simp only [continuedFileName, found, length, piecesFrom_congr found]

/-- The order of parameters with distinct names does not count for the file name. -/
theorem fileName_eq_of_perm [Platform] (distinct : (ps.map Parameter.name).Nodup)
    (same : ps.Perm qs) :
    fileName ps = fileName qs := by
  have found := get?_eq_of_perm distinct same
  simp only [fileName, found, continuedFileName_congr found same.length_eq]

/-! ## Spellings of a set of parameters -/

/-- A disposition writes the given parameters, whose names are in small letters, in some order. -/
def Spelling.Spells (d : Spelling) (ps : List Parameter) : Prop :=
  (d.parameters.map ParameterSpelling.parameter).Perm ps

instance : Decidable (d.Spells ps) :=
  inferInstanceAs (Decidable (List.Perm _ _))

/-- The file name in a disposition is that of its parameters, in whatever order they are given. -/
theorem fileNameOf_chars [Platform] (distinct : (ps.map Parameter.name).Nodup)
    (spells : d.Spells ps) :
    fileNameOf (String.ofList d.chars) = (fileName ps).map (·.map String.ofList) := by
  have distinct' := ((spells.map Parameter.name).nodup_iff).mpr distinct
  have parsed : parse? (String.ofList d.chars) =
      some (d.parameters.map ParameterSpelling.parameter) :=
    parse?_eq_some_iff.mpr ⟨d, String.toList_ofList, rfl, distinct'⟩
  simp only [fileNameOf, parsed, fileName_eq_of_perm distinct' spells]

/-- Two dispositions that write the same parameters, with distinct names, give the same file name,
which is that of the parameters. -/
theorem fileNameOf_eq_of_spells [Platform] (distinct : (ps.map Parameter.name).Nodup)
    (spells : d.Spells ps) (spells' : d'.Spells ps) :
    fileNameOf (String.ofList d.chars) = fileNameOf (String.ofList d'.chars) ∧
      fileNameOf (String.ofList d.chars) = (fileName ps).map (·.map String.ofList) := by
  have named := fileNameOf_chars distinct spells
  have named' := fileNameOf_chars distinct spells'
  exact ⟨named.trans named'.symm, named⟩

/-- The usual type of a disposition. -/
def attachment : Token := .ofText "attachment" (by decide) (by decide)

/-- The name of the first piece of a file name. -/
def firstPiece : Token := .ofText "filename*0" (by decide) (by decide)

/-- A name in two pieces, the second one first: ` attachment; filename*1="b c"; FileName*0=a`. -/
def reversedPieces : Spelling where
  beforeType := .space
  type := attachment
  afterType := .none
  parameters :=
    [⟨.space, .ofText "filename*1" (by decide) (by decide), .none, .none,
        .quoted [.plain 'b' (by decide), .plain ' ' (by decide), .plain 'c' (by decide)], .none⟩,
      ⟨.space, .ofText "FileName*0" (by decide) (by decide), .none, .none,
        .token (.ofText "a" (by decide) (by decide)), .none⟩]
  closing := none

/-- The same pieces in another spelling: `x;filename*0 ="\a";FILENAME*1= "b\ c";`. -/
def orderedPieces : Spelling where
  beforeType := .none
  type := .ofText "x" (by decide) (by decide)
  afterType := .none
  parameters :=
    [⟨.none, firstPiece, .space, .none, .quoted [.escaped 'a' (by decide)], .none⟩,
      ⟨.none, .ofText "FILENAME*1" (by decide) (by decide), .none, .space,
        .quoted [.plain 'b' (by decide), .escaped ' ' (by decide), .plain 'c' (by decide)], .none⟩]
  closing := some .none

/-- The pieces that both dispositions write. -/
def pieces : List Parameter :=
  [⟨"filename*0".toList, ['a']⟩, ⟨"filename*1".toList, "b c".toList⟩]

theorem fileNameOf_reversedPieces :
    ((pieces.map Parameter.name).Nodup ∧ reversedPieces.Spells pieces ∧
        orderedPieces.Spells pieces) ∧
      fileNameOf (String.ofList reversedPieces.chars) =
          fileNameOf (String.ofList orderedPieces.chars) ∧
        fileNameOf (String.ofList reversedPieces.chars) =
          (fileName pieces).map (·.map String.ofList) := by
  have distinct : (pieces.map Parameter.name).Nodup := by decide
  have reversed : reversedPieces.Spells pieces := by decide
  have ordered : orderedPieces.Spells pieces := by decide
  exact ⟨⟨distinct, reversed, ordered⟩, fileNameOf_eq_of_spells distinct reversed ordered⟩

end SafeFetch.Disposition
