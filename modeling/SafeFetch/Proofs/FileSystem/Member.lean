import SafeFetch.Proofs.Footprint
import SafeFetch.Proofs.FileSystem.Below

/-!
# Members of a directory

A directory, by any path that leads to it, and names in it. As long as no link stands at a name,
what a request finds under the name depends on nothing but what stands there, and neither does what
a request does to it. Whatever becomes of a file in the directory, the directory stays where it is.

## Main definitions

* `Hosts`: a path leads to a directory, and names in it name no links;
* `memberFault?`: what keeps a name in a directory from being looked up.

## Main results

* `Hosts.spotAt_eq`: what a request finds under a name;
* `Hosts.of_agreesOff`: the directory is still there after a change of a file in it;
* `Hosts.isLocal_store`, `Hosts.isLocal_removeIfPresent` and `Hosts.isLocal_setModified`: requests
  concern the place of their name only.
-/

namespace SafeFetch.FileSystem

open SafeFetch.Text

variable {fs fs' : FileSystem} {ending : Ending} {links : Nat} {here above : Place}
  {directory : Path} {names : Set (List Char)} {name : List Char}

/-! ## Looking up a name -/

/-- A last name that may be looked up leads to what stands there. -/
theorem walk_last (passes : Passes ending name [])
    (unlinked : ending = .keepsLink ∨ ∀ target, fs.get? (name :: here) ≠ some (.link target)) :
    walk fs ending links here [name] = .ok (.of (name :: here) (fs.get? (name :: here))) := by
  rw [walk_eq_walkNames, walkNames_of_passes passes]
  cases standing : fs.get? (name :: here) with
  | none => rfl
  | some entry =>
    cases entry with
    | file contents modified => rfl
    | directory mode => simp [walkNames, standing, Spot.of]
    | link target =>
      have keeps : ending = .keepsLink := by
        rcases unlinked with keeps | unlinked
        · exact keeps
        · exact absurd standing (unlinked target)
      simp [keeps, Spot.of]

/-- A last name that is too long is refused. -/
theorem walk_last_of_long (isName : isPathName name = true) (notUp : name ≠ ['.', '.'])
    (long : maxNameBytes < (Utf8.encode name).length) :
    walk fs ending links here [name] = .error .nameTooLong := by
  obtain ⟨said, notDot, -⟩ := isPathName_iff.mp isName
  rw [walk_eq_walkNames, walkNames, if_neg (by simp [said, notDot]), if_neg notUp,
    if_neg (by simp [isSlashed]), if_pos long]

/-- What keeps a name in a directory from being looked up along a path. It has to do with the path
only, not with what stands there. -/
def memberFault? (path : String) (name : List Char) : Option Failure :=
  if path.toList.contains '\x00' then some .nulInPath
  else if pathBytesLimit ≤ (Utf8.encode path.toList).length ∨
      maxNameBytes < (Utf8.encode name).length then some (.system .nameTooLong (some path))
  else none

/-- A name cannot be looked up because of a NUL or because it is too long. -/
theorem eq_of_memberFault? {path : String} {failure : Failure}
    (fault : memberFault? path name = some failure) :
    failure = .nulInPath ∨ failure = .system .nameTooLong (some path) := by
  rw [memberFault?] at fault
  split at fault
  · exact .inl (Option.some.inj fault).symm
  · split at fault
    · exact .inr (Option.some.inj fault).symm
    · cases fault

/-- What a request for a name in a directory finds, by what stands there. -/
def memberSpot (path : String) (name : List Char) (above : Place) (standing? : Option Entry) :
    Except Failure Spot :=
  match memberFault? path name with
  | some failure => .error failure
  | none => .ok (.of (name :: above) standing?)

/-- The text of a path is never empty. -/
theorem text_ne_nil (p : Path) : p.text.toList ≠ [] := by
  rw [Path.text, String.toList_ofList, Path.chars]
  split <;> simp_all

/-- The walk along a path that goes one name further than a directory comes to the directory and
looks the name up there. -/
theorem spotAt_further_of_sendable {mode : Nat} (proper : directory.IsProper)
    (isName : isPathName name = true)
    (found : fs.spotAt .followsLink directory.text = .ok (.entry above (.directory mode)))
    (sendable : IsSendable (directory.further name).text) :
    ∃ fewer, fs.spotAt ending (directory.further name).text =
      (walk fs ending fewer above [name]).mapError
        (.system · (some (directory.further name).text)) := by
  have properFurther := Path.isProper_further.mpr ⟨proper, isName⟩
  obtain ⟨-, leads⟩ := (spotAt_text_iff proper).mp found
  obtain ⟨fewer, further⟩ := leads.append
  obtain ⟨silent, split, silence⟩ := properFurther.splitAll_chars
  refine ⟨fewer, ?_⟩
  rw [spotAt_of_sendable sendable, startOf_text properFurther, Path.text, String.toList_ofList,
    split, walk_silent_append silence]
  exact congrArg _ (further ending name [] (isPathName_iff.mp isName).1)

/-- A name in a directory is looked up there, unless the path or the name is too long. -/
theorem spotAt_further {mode : Nat} (proper : directory.IsProper) (isName : isPathName name = true)
    (notUp : name ≠ ['.', '.'])
    (found : fs.spotAt .followsLink directory.text = .ok (.entry above (.directory mode)))
    (unlinked : memberFault? (directory.further name).text name = none →
      ending = .keepsLink ∨ ∀ target, fs.get? (name :: above) ≠ some (.link target)) :
    fs.spotAt ending (directory.further name).text =
      memberSpot (directory.further name).text name above (fs.get? (name :: above)) := by
  rw [memberSpot]
  rw [memberFault?] at unlinked ⊢
  -- A path that cannot be sent is refused before anything is looked up.
  by_cases nul : (directory.further name).text.toList.contains '\x00' = true
  · rw [spotAt, if_pos nul, if_pos nul]
  rw [if_neg nul]
  by_cases long : pathBytesLimit ≤ (Utf8.encode (directory.further name).text.toList).length
  · rw [spotAt, if_neg nul, resolve, if_neg (by simpa using text_ne_nil _), if_pos long,
      if_pos (.inl long)]
    rfl
  obtain ⟨fewer, walked⟩ := @spotAt_further_of_sendable fs ending above directory name mode proper
    isName found ⟨by simpa using nul, text_ne_nil _, Nat.not_le.mp long⟩
  rw [walked]
  -- What is left to decide is the length of the name alone.
  by_cases longName : maxNameBytes < (Utf8.encode name).length
  · rw [walk_last_of_long isName notUp longName, if_pos (.inr longName)]
    rfl
  · obtain ⟨said, notDot, -⟩ := isPathName_iff.mp isName
    have free : ¬ (pathBytesLimit ≤ (Utf8.encode (directory.further name).text.toList).length ∨
        maxNameBytes < (Utf8.encode name).length) := not_or.mpr ⟨long, longName⟩
    rw [if_neg nul, if_neg free] at unlinked
    rw [walk_last ⟨said, notDot, notUp, fun _ => rfl, Nat.not_lt.mp longName⟩ (unlinked rfl),
      if_neg free]
    rfl

/-! ## Directories with names in them -/

/-- A path leads to a directory of a tree, and names in the directory name no links. -/
structure Hosts (directory : Path) (above : Place) (names : Set (List Char)) (fs : FileSystem) :
    Prop where
  tree : fs.IsTree
  proper : directory.IsProper
  named {name : List Char} : name ∈ names → isPathName name = true ∧ name ≠ ['.', '.']
  found : ∃ mode, fs.spotAt .followsLink directory.text = .ok (.entry above (.directory mode))
  unlinked {name : List Char} : name ∈ names → ∀ place target,
    fs.spotAt .keepsLink (directory.further name).text ≠ .ok (.entry place (.link target))

/-- The path of a directory with names in it leads to a directory. -/
theorem Hosts.stat_eq (hosts : Hosts directory above names fs) :
    ∃ mode, fs.stat directory.text = .ok (.directory mode) := by
  obtain ⟨mode, found⟩ := hosts.found
  exact ⟨mode, stat_eq_ok_iff.mpr ⟨above, found⟩⟩

/-- What a request finds under a name depends on nothing but what stands there. -/
theorem Hosts.spotAt_eq (hosts : Hosts directory above names fs) (isIn : name ∈ names)
    (ending : Ending) :
    fs.spotAt ending (directory.further name).text =
      memberSpot (directory.further name).text name above (fs.get? (name :: above)) := by
  obtain ⟨isName, notUp⟩ := hosts.named isIn
  obtain ⟨mode, found⟩ := hosts.found
  have kept : fs.spotAt .keepsLink (directory.further name).text = _ :=
    spotAt_further hosts.proper isName notUp found fun _ => .inl rfl
  refine spotAt_further hosts.proper isName notUp found fun free => .inr fun target link => ?_
  -- A link that can be looked up would have been found.
  rw [memberSpot, free, link] at kept
  exact hosts.unlinked isIn _ target kept

/-- A directory is still there, and no link appears in it, after a change of a file in it. -/
theorem Hosts.of_agreesOff (hosts : Hosts directory above names fs)
    (agrees : AgreesOff (name :: above) fs fs') (takes : fs.TakesFile (name :: above))
    (takes' : fs'.TakesFile (name :: above)) : Hosts directory above names fs' := by
  obtain ⟨mode, found⟩ := hosts.found
  have standing : fs.get? above = some (.directory mode) := isIn_of_spotAt hosts.tree found
  have off : above ≠ name :: above := takes.ne_of_directory standing
  refine ⟨?_, hosts.proper, hosts.named, ⟨mode, spotAt_elsewhere agrees takes found off⟩, ?_⟩
  · exact hosts.tree.of_agreesOff agrees ⟨mode, standing⟩ takes.not_hasDirectory
  · intro other isIn place target link
    -- The link would stand elsewhere, so it would have been there before.
    have elsewhere : place ≠ name :: above := takes'.ne_of_link (get?_of_spotAt link (by simp))
    exact hosts.unlinked isIn place target (spotAt_elsewhere agrees.symm takes' link elsewhere)

/-! ## Requests -/

/-- Whether a name is taken depends on nothing but what stands there. -/
theorem Hosts.leadsSomewhere_eq (hosts : Hosts directory above names fs)
    (hosts' : Hosts directory above names fs') (isIn : name ∈ names)
    (same : fs'.get? (name :: above) = fs.get? (name :: above)) :
    fs'.leadsSomewhere (directory.further name).text =
      fs.leadsSomewhere (directory.further name).text := by
  simp only [leadsSomewhere, entryHas, stat, hosts.spotAt_eq isIn, hosts'.spotAt_eq isIn, same]

/-- A request under a name finds nothing but what stands there. -/
theorem Hosts.place_of_spotAt {spot : Spot} (hosts : Hosts directory above names fs)
    (isIn : name ∈ names) (found : fs.spotAt ending (directory.further name).text = .ok spot) :
    spot.place = name :: above := by
  rw [hosts.spotAt_eq isIn, memberSpot] at found
  split at found
  · cases found
  · rw [← Except.ok.inj found, Spot.place_of]

/-- A directory is still there after a file was written or removed under a name in it. -/
theorem Hosts.edits (hosts : Hosts directory above names fs)
    (agrees : AgreesOff (name :: above) fs fs') (takes : fs.TakesFile (name :: above))
    (takes' : fs'.TakesFile (name :: above)) :
    Hosts directory above names fs' ∧ AgreesOff (name :: above) fs fs' :=
  ⟨hosts.of_agreesOff agrees takes takes', agrees⟩

/-- Writing a file under a name concerns its place only. -/
theorem Hosts.isLocal_store (isIn : name ∈ names) (contents : List UInt8) :
    IsLocal (Hosts directory above names) (name :: above) fun fs =>
      (fs.create (directory.further name).text).map fun opened =>
        opened.2.store opened.1 contents where
  alike {fs other} hosts hosts' same := by
    have more : name :: above ≠ [] := List.cons_ne_nil name above
    have written : Alike (name :: above)
        (.ok (fs.put (name :: above) (.file contents none)))
        (.ok (other.put (name :: above) (.file contents none))) :=
      .granted (by rw [get?_put_self _ more, get?_put_self _ more])
    simp only [create, hosts.spotAt_eq isIn, hosts'.spotAt_eq isIn, same, memberSpot]
    -- A free name and a file take the contents, a directory and a link do not.
    rcases memberFault? (directory.further name).text name with _ | failure
    · rcases other.get? (name :: above) with _ | (_ | _ | _)
      · simpa [Spot.of, Except.map, store] using written
      · simpa [Spot.of, Except.map, store] using written
      · exact .refused _
      · exact .refused _
    · exact .refused failure
  edits {fs fs'} hosts granted := by
    rcases creates : fs.create (directory.further name).text with failure | ⟨place, opened⟩
    · rw [creates] at granted
      cases granted
    rw [creates] at granted
    obtain rfl := Except.ok.inj granted
    obtain ⟨opens, rfl⟩ := (create_eq_ok_iff hosts.tree).mp creates
    -- The path opens no other place than that of the name.
    obtain rfl : place = name :: above := by
      rw [← hosts.place_of_spotAt isIn opens.found, Spot.place_of]
    have stored : (fs.store (name :: above) []).store (name :: above) contents =
        fs.put (name :: above) (.file contents none) := put_put fs _ _ _
    obtain ⟨-, opens', file⟩ := opens.written hosts.tree contents none
    dsimp only
    rw [stored]
    exact hosts.edits (agreesOff_put fs _ _) opens.takes opens'.takes

/-- Removing what has a name concerns its place only. -/
theorem Hosts.isLocal_removeIfPresent (isIn : name ∈ names) :
    IsLocal (Hosts directory above names) (name :: above)
      (·.removeIfPresent (directory.further name).text) where
  alike {fs other} hosts hosts' same := by
    have more : name :: above ≠ [] := List.cons_ne_nil name above
    have erased : Alike (name :: above) (.ok (fs.erase (name :: above)))
        (.ok (other.erase (name :: above))) :=
      .granted (by rw [get?_erase_self _ more, get?_erase_self _ more])
    simp only [removeIfPresent, remove, hosts.spotAt_eq isIn, hosts'.spotAt_eq isIn, same,
      memberSpot]
    -- A free name is left alone, a file and a link are removed, a directory is not.
    rcases fault : memberFault? (directory.further name).text name with _ | failure
    · rcases other.get? (name :: above) with _ | (_ | _ | _)
      · exact .granted same
      · exact erased
      · exact .refused _
      · exact erased
    · rcases eq_of_memberFault? fault with rfl | rfl
      · exact .refused _
      · exact .refused _
  edits {fs fs'} hosts granted := by
    rcases removeIfPresent_eq_ok granted with rfl | ⟨place, entry, found, leaf, rfl⟩
    · exact ⟨hosts, .refl _ _⟩
    obtain rfl : place = name :: above := hosts.place_of_spotAt isIn found
    -- What is removed is a file, since no link has the name.
    have takes : fs.TakesFile (name :: above) := by
      cases entry with
      | file contents modified => exact .inr ⟨_, _, get?_of_spotAt found leaf⟩
      | directory mode => exact absurd rfl (leaf mode)
      | link target => exact absurd found (hosts.unlinked isIn _ target)
    have free := get?_erase_self fs (List.cons_ne_nil name above)
    exact hosts.edits (agreesOff_erase fs _) takes (.inl free)

/-- Stamping what has a name concerns its place only. -/
theorem Hosts.isLocal_setModified (isIn : name ∈ names) (instant : Int) :
    IsLocal (Hosts directory above names) (name :: above)
      (·.setModified (directory.further name).text instant) where
  alike {fs other} hosts hosts' same := by
    have more : name :: above ≠ [] := List.cons_ne_nil name above
    simp only [setModified, hosts.spotAt_eq isIn, hosts'.spotAt_eq isIn, same, memberSpot]
    -- Only a file holds an instant; a directory and a link are left as they are.
    rcases memberFault? (directory.further name).text name with _ | failure
    · rcases other.get? (name :: above) with _ | (_ | _ | _)
      · exact .refused _
      · exact .granted (by rw [get?_put_self _ more, get?_put_self _ more])
      · exact .granted same
      · exact .granted same
    · cases failure <;> exact .refused _
  edits {fs fs'} hosts granted := by
    rw [setModified] at granted
    split at granted
    · cases granted
    · cases granted
    · cases granted
    next place contents modified found =>
      obtain rfl := Except.ok.inj granted
      obtain rfl : place = name :: above := hosts.place_of_spotAt isIn found
      have file := get?_of_spotAt found (by simp)
      exact hosts.edits (agreesOff_put fs _ _) (.inr ⟨_, _, file⟩)
        (.inr ⟨_, _, get?_put_self fs (List.cons_ne_nil _ _) _⟩)
    · obtain rfl := Except.ok.inj granted
      exact ⟨hosts, .refl _ _⟩

end SafeFetch.FileSystem
