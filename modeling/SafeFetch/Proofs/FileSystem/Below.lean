import SafeFetch.Proofs.FileSystem.Request
import SafeFetch.Proofs.Path

/-!
# Paths below directories

What a path finds, in terms of its names and of what the path above it finds. A path with one more
name is found only where the path above leads to a directory, and its last name is looked up there.

## Main results

* `spotAt_text_iff`: a path finds the spot where its names lead;
* `directory_of_further`: a path goes one name further than a directory;
* `Leads.last_eq`: what a last name leads to;
* `isDirectory_parent`: a file stands in the directory that the path above leads to.
-/

namespace SafeFetch

open SafeFetch.Text

/-- The place in a file system where a path begins. -/
def Path.start (p : Path) (fs : FileSystem) : Place :=
  if p.isAbsolute then [] else fs.workingDirectory

namespace FileSystem

variable {fs : FileSystem} {ending : Ending} {links : Nat} {p : Path} {here place : Place}
  {name : List Char} {names silent : List (List Char)} {spot : Spot}

/-- A path of a tree begins in a directory. -/
theorem IsTree.hasDirectory_pathStart (tree : fs.IsTree) (p : Path) :
    fs.HasDirectory (p.start fs) := by
  rw [Path.start]
  split
  · exact hasDirectory_nil fs
  · exact tree.home

/-- A path begins where its text does. -/
theorem startOf_text (proper : p.IsProper) (fs : FileSystem) :
    startOf fs.workingDirectory p.text.toList = p.start fs := by
  simp only [startOf, Path.text, String.toList_ofList, Path.start, proper.head?_chars]

/-- Pieces that say nothing are passed over. -/
theorem walk_silent_append (silence : ∀ piece ∈ silent, piece = [] ∨ piece = ['.']) :
    walk fs ending links here (silent ++ names) = walk fs ending links here names := by
  induction silent with
  | nil => rfl
  | cons piece silent ih =>
    rw [List.cons_append, walk_of_silent (silence piece List.mem_cons_self),
      ih fun other isPiece => silence other (List.mem_cons_of_mem _ isPiece)]

/-- A path finds the spot where its names lead. -/
theorem spotAt_text_iff (proper : p.IsProper) :
    fs.spotAt ending p.text = .ok spot ↔
      IsSendable p.text ∧ Leads fs ending maxLinks (p.start fs) p.names spot := by
  obtain ⟨silent, split, silence⟩ := proper.splitAll_chars
  rw [spotAt_eq_ok_iff, LeadsAlong, startOf_text proper, Path.text, String.toList_ofList, split,
    ← walk_eq_ok_iff, walk_silent_append silence, walk_eq_ok_iff]

/-- What goes one name further than a path can be sent only if the path can. -/
theorem isSendable_of_further (proper : (p.further name).IsProper)
    (sendable : IsSendable (p.further name).text) : IsSendable p.text := by
  obtain ⟨nulFree, -, short⟩ := sendable
  rw [Path.text, String.toList_ofList] at nulFree short
  rcases proper.chars_further with bare | begins
  · rw [Path.text, bare]
    exact ⟨by decide, by decide, by decide⟩
  · obtain ⟨rest, whole⟩ := begins
    rw [← whole] at nulFree short
    constructor
    · rw [Path.text, String.toList_ofList]
      exact fun isIn => nulFree (List.mem_append_left rest isIn)
    · rw [Path.text, String.toList_ofList, Path.chars]
      split <;> simp_all
    · rw [Utf8.encode, List.flatMap_append, List.length_append] at short
      rw [Path.text, String.toList_ofList, Utf8.encode]
      omega

/-- A path goes one name further than a directory. -/
theorem directory_of_further (tree : fs.IsTree) (proper : (p.further name).IsProper)
    (found : fs.spotAt ending (p.further name).text = .ok spot) :
    ∃ directory mode links,
      fs.spotAt .followsLink p.text = .ok (.entry directory (.directory mode)) ∧
        Leads fs ending links directory [name] spot := by
  obtain ⟨properAbove, isName⟩ := Path.isProper_further.mp proper
  have said : name ≠ [] := (isPathName_iff.mp isName).1
  obtain ⟨sendable, leads⟩ := (spotAt_text_iff proper).mp found
  have start := tree.hasDirectory_pathStart p
  obtain ⟨directory, mode, leadsAbove⟩ := leads.directory_of_append tree start said
  obtain ⟨links, further⟩ := leadsAbove.append
  -- The last name is walked from the directory, with the links that are left.
  refine ⟨directory, mode, links, ?_, ?_⟩
  · exact (spotAt_text_iff properAbove).mpr ⟨isSendable_of_further proper sendable, leadsAbove⟩
  · rw [← walk_eq_ok_iff, ← further ending name [] said]
    exact leads.walk_eq

/-- Where a path leads to an entry, the path with one name less leads to a directory. -/
theorem isDirectory_of_further {entry : Entry} (tree : fs.IsTree)
    (proper : (p.further name).IsProper) (there : fs.stat (p.further name).text = .ok entry) :
    fs.isDirectory p.text = .ok true := by
  obtain ⟨place, found⟩ := stat_eq_ok_iff.mp there
  obtain ⟨directory, mode, -, found', -⟩ := directory_of_further tree proper found
  exact isDirectory_eq_true_iff.mpr ⟨mode, stat_eq_ok_iff.mpr ⟨directory, found'⟩⟩

/-- A last name that does not lead up leads to what stands there, if that is no link to follow. -/
theorem Leads.last_eq (leads : Leads fs ending links here [name] spot)
    (isName : isPathName name = true) (notUp : name ≠ ['.', '.'])
    (unlinked : ending = .keepsLink ∨ ∀ target, fs.get? (name :: here) ≠ some (.link target)) :
    spot = .of (name :: here) (fs.get? (name :: here)) := by
  obtain ⟨said, notDot, -⟩ := isPathName_iff.mp isName
  cases leads with
  | stay silent _ => simp [said, notDot] at silent
  | up _ => exact absurd rfl notUp
  | free _ isFree _ => rw [isFree, Spot.of]
  | enter _ directory further =>
    cases further
    rw [directory, Spot.of, Option.getD_some]
  | reach _ file => rw [file, Spot.of]
  | keep _ link _ => rw [link, Spot.of]
  | follow _ link followed _ =>
    rcases unlinked with keeps | unlinked
    · exact absurd ⟨rfl, keeps⟩ followed
    · exact absurd link (unlinked _)

/-- A path without names leads to a directory. -/
theorem isDirectory_of_names_nil (tree : fs.IsTree) (bare : p.names = []) :
    fs.isDirectory p.text = .ok true := by
  have proper : p.IsProper := by simp [Path.IsProper, bare]
  have sendable : IsSendable p.text := by
    obtain ⟨root, names⟩ := p
    obtain rfl : names = [] := bare
    cases root <;> exact ⟨by decide, by decide, by decide⟩
  obtain ⟨place, mode, leads⟩ :
      ∃ place mode, Leads fs .followsLink maxLinks (p.start fs) [] (.entry place (.directory mode)) :=
    leads_nil (tree.hasDirectory_pathStart p)
  rw [← bare] at leads
  have found := (spotAt_text_iff proper).mpr ⟨sendable, leads⟩
  exact isDirectory_eq_true_iff.mpr ⟨mode, stat_eq_ok_iff.mpr ⟨place, found⟩⟩

/-- Where a path leads to a file, the path above leads to a directory. -/
theorem isDirectory_parent {contents : List UInt8} {modified : Option Int} (tree : fs.IsTree)
    (proper : p.IsProper) (file : fs.stat p.text = .ok (.file contents modified)) :
    fs.isDirectory p.parent.text = .ok true := by
  by_cases bare : p.names = []
  · have same : p.parent = p := by
      obtain ⟨root, names⟩ := p
      obtain rfl : names = [] := bare
      rfl
    rw [same]
    exact isDirectory_of_names_nil tree bare
  · obtain ⟨name, isFurther⟩ := Path.exists_eq_further bare
    rw [isFurther] at file proper
    exact isDirectory_of_further tree proper file

/-- A path that opens a file goes one name further than the path above it. -/
theorem Opens.exists_eq_further (tree : fs.IsTree) (opens : Opens fs p.text place)
    (level : ['.', '.'] ∉ p.names) :
    ∃ above name, p = above.further name ∧ p.parent = above ∧ name ≠ ['.', '.'] := by
  -- A path without names leads to a directory, which cannot be opened.
  have more : p.names ≠ [] := by
    intro bare
    obtain ⟨mode, there⟩ := isDirectory_eq_true_iff.mp (isDirectory_of_names_nil tree bare)
    obtain ⟨other, found⟩ := stat_eq_ok_iff.mp there
    obtain rfl := Spot.place_of place (fs.get? place) ▸
      congrArg Spot.place (Except.ok.inj (opens.spotAt_followsLink.symm.trans found))
    exact opens.takes.not_hasDirectory ⟨mode, isIn_of_spotAt tree found⟩
  obtain ⟨name, isFurther⟩ := Path.exists_eq_further more
  refine ⟨p.parent, name, isFurther, rfl, ?_⟩
  rintro rfl
  refine level ?_
  rw [isFurther]
  simp [Path.further]

end FileSystem

end SafeFetch
