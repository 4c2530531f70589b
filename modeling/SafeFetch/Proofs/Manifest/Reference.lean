import SafeFetch.Proofs.FileSystem.Unlinked
import SafeFetch.Proofs.Manifest.Document

/-!
# Finding the files of a manifest again

A manifest shows a path below its base directory without the names of the directory, and any other
path as it is. Joined to the base directory again, the text of what is shown is the path it was made
from, exactly if the path lies below the directory or begins at the root. A relative path elsewhere
is looked for below the directory, and is lost.

## Main definitions

* `Path.CanFind`: a path lies below a directory as it is written, or begins at the root;
* `Manifest.Shows`: the path that stands in the document of a file.

## Main results

* `Manifest.child_shownPath_iff`: the paths that are found again from their texts;
* `Manifest.finds_of_write`: so it is with the texts in a manifest, and different paths that are
  found again have different texts.
-/

namespace SafeFetch

open SafeFetch.FileSystem SafeFetch.Text

/-! ## Paths -/

namespace Path

variable {base path : Path}

/-- A path lies below a directory as it is written, or begins at the root. -/
def CanFind (base path : Path) : Prop := base.Begins path ∨ path.isAbsolute = true

/-- A proper path below another one is joined to it as it is. -/
theorem IsProper.child_text (proper : path.IsProper) (base : Path) :
    base.child path.text = base.join path := by
  rw [Path.child, proper.ofText_text]

/-- A path is seen from a directory that it lies below, and from no other one. -/
theorem relativeTo?_eq_some_iff {relative : Path} :
    path.relativeTo? base = some relative ↔
      base.Begins path ∧
        relative = { root := .relative, names := path.names.drop base.names.length } := by
  simp only [relativeTo?, List.isPrefixOf_iff_prefix]
  split
  next below =>
    have begins : base.Begins path := ⟨below.1.symm, below.2⟩
    simp [begins, eq_comm]
  next elsewhere =>
    have other : ¬base.Begins path := fun begins => elsewhere ⟨begins.root.symm, begins.names⟩
    simp [other]

/-- What is seen from a directory leads from there to the path again. -/
theorem join_relative (begins : base.Begins path) :
    base.join { root := .relative, names := path.names.drop base.names.length } = path := by
  obtain ⟨root, names⟩ := path
  obtain ⟨rfl, rest, rfl⟩ := begins
  simp [join, isAbsolute]

end Path

namespace Manifest

variable {s s' : Session} {base path target : Path} {files : List (Path × Option String)}
  {sourceUrl downloadedAt : String} {sources : List String}

/-! ## Shown paths -/

theorem shownPath_of_begins (begins : base.Begins path) :
    shownPath base path = { root := .relative, names := path.names.drop base.names.length } := by
  rw [shownPath, Path.relativeTo?_eq_some_iff.mpr ⟨begins, rfl⟩, Option.getD_some]

theorem shownPath_of_not_begins (elsewhere : ¬base.Begins path) : shownPath base path = path := by
  have unseen : path.relativeTo? base = none :=
    Option.eq_none_iff_forall_ne_some.mpr fun relative seen =>
      elsewhere (Path.relativeTo?_eq_some_iff.mp seen).1
  rw [shownPath, unseen, Option.getD_none]

/-- A path is found again from the text that shows it exactly if it lies below the base directory
or begins at the root. -/
theorem child_shownPath_iff (proper : path.IsProper) :
    base.child (shownPath base path).text = path ↔ base.CanFind path := by
  by_cases begins : base.Begins path
  -- Below the directory the rest of the path is shown, which is relative.
  · have rest : Path.IsProper
        { root := .relative, names := path.names.drop base.names.length } :=
      fun name isName => proper name (List.mem_of_mem_drop isName)
    rw [shownPath_of_begins begins, rest.child_text, Path.join_relative begins]
    exact iff_of_true rfl (.inl begins)
  -- Elsewhere the path itself is shown, and a join drops the directory only if it is absolute.
  · rw [shownPath_of_not_begins begins, proper.child_text, Path.CanFind, or_iff_right begins,
      Path.join]
    split
    next absolute => exact iff_of_true rfl absolute
    next relative =>
      refine iff_of_false (fun same => begins ?_) relative
      -- A join that is the path itself would begin with the directory.
      rw [← same]
      exact ⟨rfl, List.prefix_append _ _⟩

/-! ## Documents -/

/-- The path that stands in the document of a file. -/
def Shows (document : JsonValue) (text : String) : Prop :=
  ∃ others, document = .object (("path".toList, .text text.toList) :: others)

/-- The paths in a manifest that was written are found again from their texts, if they lie below the
base directory or begin at the root, and no two of them have the same text. -/
theorem finds_of_write [Platform] (tree : s.fs.IsTree) (proper : ∀ file ∈ files, file.1.IsProper)
    (run : (write target sourceUrl downloadedAt files base sources).runOn s = (.ok (), s')) :
    ∃ contents chars members listed texts,
      s'.fs.stat target.text = .ok (.file contents none) ∧ Utf8.decode? contents = some chars ∧
        JsonValue.read? chars =
          some (.object (members ++ [("files".toList, .array listed)])) ∧
        List.Forall₂ Shows listed texts ∧
        List.Forall₂ (fun file text => base.child text = file.1 ↔ base.CanFind file.1) files
          texts ∧
        ∀ one ∈ files.zip texts, ∀ other ∈ files.zip texts, base.CanFind one.1.1 →
          base.CanFind other.1.1 → one.1.1 ≠ other.1.1 → one.2 ≠ other.2 := by
  obtain ⟨entries, isListed, there⟩ := stat_of_write tree run
  obtain ⟨isValue, tells⟩ := value_requested sourceUrl downloadedAt sources isListed
  have read := JsonValue.read?_render 0 (requested sourceUrl downloadedAt sources entries).value
  rw [isValue] at read there
  have finds : List.Forall₂ (fun file text => base.child text = file.1 ↔ base.CanFind file.1) files
      (files.map fun file => (shownPath base file.1).text) := by
    rw [List.forall₂_map_right_iff, List.forall₂_same]
    exact fun file isIn => child_shownPath_iff (proper file isIn)
  have stand : List.Forall₂ Shows (entries.map entryValue)
      (files.map fun file => (shownPath base file.1).text) := by
    rw [List.forall₂_map_right_iff]
    exact tells.flip.imp fun document file ⟨_, _, isDocument⟩ => ⟨_, isDocument⟩
  generalize (files.map fun file => (shownPath base file.1).text) = texts at finds stand
  refine ⟨_, _, [_, _, _], _, texts, there, Utf8.decode?_encode _, read, stand, finds, ?_⟩
  · rintro ⟨⟨path, _⟩, text⟩ isOne ⟨⟨path', _⟩, text'⟩ isOther can can' apart rfl
    -- One text leads to one path.
    obtain ⟨-, each⟩ := List.forall₂_iff_zip.mp finds
    exact apart (((each isOne).mpr can).symm.trans ((each isOther).mpr can'))

/-- Files in a directory, the directory itself and a file with two slashes in front are found again,
and a file in another directory is not. -/
theorem finds_of_lost :
    ∃ s' contents chars members listed below self above lost,
      (write (.ofText "m.json") "u" "t" [(.ofText "d/a/../b", none), (.ofText "./d/", none),
        (.ofText "//h/x", none), (.ofText "e", none)] (.ofText "d") []).runOn
          (.start withData none) = (.ok (), s') ∧
      s'.fs.stat "m.json" = .ok (.file contents none) ∧ Utf8.decode? contents = some chars ∧
      JsonValue.read? chars = some (.object (members ++ [("files".toList, .array listed)])) ∧
      List.Forall₂ Shows listed [below, self, above, lost] ∧
      (Path.ofText "d").child below = .ofText "d/a/../b" ∧
      (Path.ofText "d").child self = .ofText "d" ∧
      (Path.ofText "d").child above = .ofText "//h/x" ∧
      (Path.ofText "d").child lost ≠ .ofText "e" ∧ below ≠ above := by
  have computed : ((write (.ofText "m.json") "u" "t" [(.ofText "d/a/../b", none),
      (.ofText "./d/", none), (.ofText "//h/x", none), (.ofText "e", none)] (.ofText "d") []).runOn
        (.start withData none)).1.toOption = some () := by decide +kernel
  obtain ⟨contents, chars, members, listed, texts, there, decoded, read, stand, finds, apart⟩ :=
    finds_of_write isTree_withData (by simp [Path.isProper_ofText])
      (Action.runOn_of_toOption computed)
  obtain _ | ⟨below, _ | ⟨self, _ | ⟨above, _ | ⟨elsewhere, _ | _⟩⟩⟩⟩ := finds
  have canBelow : (Path.ofText "d").CanFind (.ofText "d/a/../b") := .inl ⟨rfl, by decide +kernel⟩
  have canSelf : (Path.ofText "d").CanFind (.ofText "./d/") := .inl ⟨rfl, by decide +kernel⟩
  have canAbove : (Path.ofText "d").CanFind (.ofText "//h/x") := .inr (by decide +kernel)
  have cannot : ¬(Path.ofText "d").CanFind (.ofText "e") := by
    rintro (⟨-, names⟩ | absolute)
    · revert names
      decide +kernel
    · revert absolute
      decide +kernel
  have different : Path.ofText "d/a/../b" ≠ .ofText "//h/x" := by decide +kernel
  exact ⟨_, contents, chars, members, listed, _, _, _, _, Action.runOn_of_toOption computed, there,
    decoded, read, stand, below.mpr canBelow, self.mpr canSelf, above.mpr canAbove,
    mt elsewhere.mp cannot, apart ((.ofText "d/a/../b", none), _) (by simp)
      ((.ofText "//h/x", none), _) (by simp) canBelow canAbove different⟩

end Manifest

end SafeFetch
