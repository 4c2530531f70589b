import SafeFetch.FileSystem.Call
import SafeFetch.Proofs.FileSystem.Change

/-!
# Requests

What the requests of a program find and change, in terms of where the names of a path lead. A
request that is granted has walked along its path, so its effect is known from the spot at the end
of the walk.

## Main results

* `spotAt_eq_ok_iff`: a request finds the spot where the names of its path lead;
* `create_eq_ok_iff`: what opening a file for writing does;
* `Opens.of_agreesOff`: a path that opens a file opens it again, whatever was written to it;
* `Opens.removeIfPresent`: the file, or the link that names it, can be removed;
* `stat_ne_ok_of_removed`: a path whose entry was removed leads to no entry;
* `makeDirectory_eq_ok_iff`: what making a directory does.
-/

namespace SafeFetch.FileSystem

open SafeFetch.Text

variable {fs fs' : FileSystem} {ending : Ending} {path : String} {place : Place} {spot : Spot}
  {entry : Entry}

/-- A path may be sent to a file system. -/
structure IsSendable (path : String) : Prop where
  nulFree : '\x00' ∉ path.toList
  ne_nil : path.toList ≠ []
  short : (Utf8.encode path.toList).length < pathBytesLimit

/-- The place where a path of a tree begins is a directory. -/
theorem IsTree.hasDirectory_start (tree : fs.IsTree) (path : String) :
    fs.HasDirectory (startOf fs.workingDirectory path.toList) :=
  hasDirectory_startOf tree.home

/-- Where the names of a path lead. -/
def LeadsAlong (fs : FileSystem) (ending : Ending) (path : String) (spot : Spot) : Prop :=
  Leads fs ending maxLinks (startOf fs.workingDirectory path.toList) (splitAll '/' path.toList)
    spot

/-- A request for a path that may be sent is a walk along its names. -/
theorem spotAt_of_sendable (sendable : IsSendable path) :
    fs.spotAt ending path =
      (walk fs ending maxLinks (startOf fs.workingDirectory path.toList)
        (splitAll '/' path.toList)).mapError (.system · (some path)) := by
  rw [spotAt, if_neg (by simpa using sendable.nulFree), resolve,
    if_neg (by simpa using sendable.ne_nil), if_neg (Nat.not_le.mpr sendable.short)]

/-- A path that cannot be sent finds nothing. -/
theorem isSendable_of_spotAt (found : fs.spotAt ending path = .ok spot) : IsSendable path := by
  rw [spotAt] at found
  split at found
  · cases found
  next nulFree =>
    rw [resolve] at found
    split at found
    · cases found
    next more =>
      split at found
      · cases found
      next short => exact ⟨by simpa using nulFree, by simpa using more, Nat.not_le.mp short⟩

/-- A request finds the spot where the names of its path lead. -/
theorem spotAt_eq_ok_iff :
    fs.spotAt ending path = .ok spot ↔ IsSendable path ∧ LeadsAlong fs ending path spot := by
  constructor
  · intro found
    have sendable := isSendable_of_spotAt found
    rw [spotAt_of_sendable sendable] at found
    refine ⟨sendable, leads_of_walk ?_⟩
    cases walked : walk fs ending maxLinks _ _ with
    | ok spot' =>
      rw [walked] at found
      exact congrArg Except.ok (Except.ok.inj found)
    | error error =>
      rw [walked] at found
      cases found
  · rintro ⟨sendable, leads⟩
    rw [spotAt_of_sendable sendable, leads.walk_eq]
    rfl

/-- A file or a link that a request finds stands there. -/
theorem get?_of_spotAt (found : fs.spotAt ending path = .ok (.entry place entry))
    (leaf : ∀ mode, entry ≠ .directory mode) : fs.get? place = some entry :=
  (spotAt_eq_ok_iff.mp found).2.get?_eq leaf

/-- A request finds what is there. -/
theorem isIn_of_spotAt (tree : fs.IsTree) (found : fs.spotAt ending path = .ok spot) :
    spot.IsIn fs :=
  (spotAt_eq_ok_iff.mp found).2.isIn tree (tree.hasDirectory_start path)

/-- Directories that are made do not keep a request from finding what it found. -/
theorem spotAt_grow {mode : Nat} (tree : fs.IsTree) (grows : Grows mode fs fs')
    (found : fs.spotAt ending path = .ok (.entry place entry)) :
    fs'.spotAt ending path = .ok (.entry place entry) := by
  obtain ⟨sendable, leads⟩ := spotAt_eq_ok_iff.mp found
  refine spotAt_eq_ok_iff.mpr ⟨sendable, ?_⟩
  rw [LeadsAlong, grows.home]
  exact leads.grow tree (tree.hasDirectory_start path) grows

/-- A change of a file is not seen by a request that finds something elsewhere. -/
theorem spotAt_elsewhere (agrees : AgreesOff place fs fs') (takes : fs.TakesFile place)
    (found : fs.spotAt ending path = .ok spot) (off : spot.place ≠ place) :
    fs'.spotAt ending path = .ok spot := by
  obtain ⟨sendable, leads⟩ := spotAt_eq_ok_iff.mp found
  refine spotAt_eq_ok_iff.mpr ⟨sendable, ?_⟩
  rw [LeadsAlong, agrees.home]
  exact leads.elsewhere agrees takes off

/-! ## Looking -/

/-- The entry that a path leads to. -/
theorem stat_eq_ok_iff :
    fs.stat path = .ok entry ↔
      ∃ place, fs.spotAt .followsLink path = .ok (.entry place entry) := by
  rw [stat]
  cases fs.spotAt .followsLink path with
  | error failure => simp
  | ok spot => cases spot <;> simp [refuse]

/-- A path that leads nowhere leads to no entry. -/
theorem stat_ne_ok_of_leadsSomewhere (nowhere : fs.leadsSomewhere path = .ok false)
    (entry : Entry) : fs.stat path ≠ .ok entry := by
  intro found
  simp [leadsSomewhere, entryHas, found] at nowhere

/-- A path that leads to a free name leads nowhere. -/
theorem leadsSomewhere_of_vacant (found : fs.spotAt .followsLink path = .ok (.vacant place)) :
    fs.leadsSomewhere path = .ok false := by
  rw [leadsSomewhere, entryHas, stat, found]
  rfl

/-- A path that leads to an entry names one, itself or a link. -/
theorem spotAt_keepsLink_of_stat (there : fs.stat path = .ok entry) :
    ∃ place named, fs.spotAt .keepsLink path = .ok (.entry place named) := by
  obtain ⟨place, found⟩ := stat_eq_ok_iff.mp there
  obtain ⟨sendable, leads⟩ := spotAt_eq_ok_iff.mp found
  rcases leads.toKeepsLink with kept | ⟨other, target, kept⟩
  · exact ⟨place, entry, spotAt_eq_ok_iff.mpr ⟨sendable, kept⟩⟩
  · exact ⟨other, .link target, spotAt_eq_ok_iff.mpr ⟨sendable, kept⟩⟩

/-- A path leads somewhere if it leads to an entry. -/
theorem leadsSomewhere_eq_true_iff :
    fs.leadsSomewhere path = .ok true ↔ ∃ entry, fs.stat path = .ok entry := by
  rw [leadsSomewhere, entryHas]
  cases fs.stat path with
  | error failure => by_cases nowhere : meansNowhere failure = true <;> simp [nowhere]
  | ok entry => simp

/-- A path leads to a directory. -/
theorem isDirectory_eq_true_iff :
    fs.isDirectory path = .ok true ↔ ∃ mode, fs.stat path = .ok (.directory mode) := by
  rw [isDirectory, entryHas]
  cases fs.stat path with
  | error failure => by_cases nowhere : meansNowhere failure = true <;> simp [nowhere]
  | ok entry => cases entry <;> simp [isDirectoryEntry]

/-- A path still leads to a directory when another place changes that may take a file. -/
theorem isDirectory_elsewhere (tree : fs.IsTree) (agrees : AgreesOff place fs fs')
    (takes : fs.TakesFile place) (found : fs.isDirectory path = .ok true) :
    fs'.isDirectory path = .ok true := by
  obtain ⟨mode, there⟩ := isDirectory_eq_true_iff.mp found
  obtain ⟨other, leads⟩ := stat_eq_ok_iff.mp there
  have standing : fs.get? other = some (.directory mode) := isIn_of_spotAt tree leads
  have off : other ≠ place := takes.ne_of_directory standing
  have leads' := spotAt_elsewhere agrees takes leads off
  exact isDirectory_eq_true_iff.mpr ⟨mode, stat_eq_ok_iff.mpr ⟨other, leads'⟩⟩

/-- The contents of a file are those of the file that a path leads to. -/
theorem read_eq_ok_iff {contents : List UInt8} :
    fs.read path = .ok contents ↔ ∃ modified, fs.stat path = .ok (.file contents modified) := by
  rw [read]
  cases fs.stat path with
  | error failure => simp
  | ok entry => cases entry <;> simp [refuse]

/-! ## Opening a file -/

/-- Opening a path for writing empties the file at a place, or makes one there. -/
structure Opens (fs : FileSystem) (path : String) (place : Place) : Prop where
  found : fs.spotAt .makesFile path = .ok (.of place (fs.get? place))
  takes : fs.TakesFile place

/-- What opening a file does. -/
theorem create_eq_ok_iff (tree : fs.IsTree) :
    fs.create path = .ok (place, fs') ↔ Opens fs path place ∧ fs' = fs.store place [] := by
  -- A path opens one place at most, the one of the spot that is found.
  have opens_iff {spot : Spot} (found : fs.spotAt .makesFile path = .ok spot)
      (standing : spot = .of spot.place (fs.get? spot.place)) :
      Opens fs path place ↔ spot.place = place ∧ fs.TakesFile place := by
    constructor
    · rintro ⟨found', takes⟩
      rw [found] at found'
      exact ⟨by rw [Except.ok.inj found', Spot.place_of], takes⟩
    · rintro ⟨rfl, takes⟩
      exact ⟨standing ▸ found, takes⟩
  rw [create]
  cases found : fs.spotAt .makesFile path with
  | error failure => simp [show ¬ Opens fs path place from fun opens => by
      simp [opens.found] at found]
  | ok spot =>
    have isIn := isIn_of_spotAt tree found
    rw [opens_iff found isIn.eq_of]
    -- A file is emptied and a free name is taken; the other entries are refused.
    match spot with
    | .vacant free =>
      have takes : fs.TakesFile free := .inl isIn.1
      simp only [Except.ok.injEq, Prod.mk.injEq, Spot.place]
      constructor
      · rintro ⟨rfl, rfl⟩
        exact ⟨⟨rfl, takes⟩, rfl⟩
      · rintro ⟨⟨rfl, -⟩, rfl⟩
        exact ⟨rfl, rfl⟩
    | .entry there (.file contents modified) =>
      have takes : fs.TakesFile there := .inr ⟨_, _, isIn⟩
      simp only [Except.ok.injEq, Prod.mk.injEq, Spot.place]
      constructor
      · rintro ⟨rfl, rfl⟩
        exact ⟨⟨rfl, takes⟩, rfl⟩
      · rintro ⟨⟨rfl, -⟩, rfl⟩
        exact ⟨rfl, rfl⟩
    | .entry there (.directory mode) =>
      simp only [refuse, reduceCtorEq, Spot.place, false_iff]
      rintro ⟨⟨rfl, takes⟩, -⟩
      exact takes.not_hasDirectory ⟨mode, isIn⟩
    | .entry there (.link target) =>
      simp only [refuse, reduceCtorEq, Spot.place, false_iff]
      rintro ⟨⟨rfl, takes⟩, -⟩
      exact takes.ne_of_link isIn rfl

section Opens

variable {contents : List UInt8} {modified : Option Int}

/-- A request that finds a file finds what opening the path would open. -/
theorem opens_of_spotAt (tree : fs.IsTree)
    (found : fs.spotAt .followsLink path = .ok (.entry place (.file contents modified))) :
    Opens fs path place := by
  have standing : fs.get? place = some (.file contents modified) := get?_of_spotAt found (by simp)
  obtain ⟨sendable, leads⟩ := spotAt_eq_ok_iff.mp found
  refine ⟨spotAt_eq_ok_iff.mpr ⟨sendable, ?_⟩, .inr ⟨contents, modified, standing⟩⟩
  rw [standing]
  exact leads.toMakesFile tree (tree.hasDirectory_start path)

/-- A path opens one place at most. -/
theorem Opens.unique {other : Place} (opens : Opens fs path place) (opens' : Opens fs path other) :
    place = other := by
  have same := congrArg Spot.place (Except.ok.inj (opens.found.symm.trans opens'.found))
  rwa [Spot.place_of, Spot.place_of] at same

/-- A file stands in a directory. -/
theorem Opens.above (tree : fs.IsTree) (opens : Opens fs path place) :
    ∃ name directory, place = name :: directory ∧ fs.HasDirectory directory := by
  have more : place ≠ [] := ne_nil_of_not_hasDirectory opens.takes.not_hasDirectory
  obtain ⟨name, directory, rfl⟩ := List.exists_cons_of_ne_nil more
  refine ⟨name, directory, rfl, ?_⟩
  rcases opens.takes with isFree | ⟨contents, modified, file⟩
  · have isIn := isIn_of_spotAt tree opens.found
    rw [isFree] at isIn
    exact isIn.2
  · exact tree.above file

/-- A tree stays one whatever becomes of a file that was opened. -/
theorem Opens.isTree (tree : fs.IsTree) (opens : Opens fs path place)
    (agrees : AgreesOff place fs fs') : fs'.IsTree := by
  obtain ⟨name, directory, rfl, above⟩ := opens.above tree
  exact tree.of_agreesOff agrees above opens.takes.not_hasDirectory

/-- A path that opens a file opens it again, whatever became of it. -/
theorem Opens.of_agreesOff (tree : fs.IsTree) (opens : Opens fs path place)
    (agrees : AgreesOff place fs fs') (takes : fs'.TakesFile place) : Opens fs' path place := by
  obtain ⟨sendable, leads⟩ := spotAt_eq_ok_iff.mp opens.found
  refine ⟨spotAt_eq_ok_iff.mpr ⟨sendable, ?_⟩, takes⟩
  rw [LeadsAlong, agrees.home]
  exact leads.retarget tree (tree.hasDirectory_start path) agrees opens.takes takes
    (Spot.place_of place _)

/-- A path opens the same file, be it this one or another that may be written. -/
theorem Opens.stays {other : Place} (tree : fs.IsTree) (opens : Opens fs path place)
    (agrees : AgreesOff other fs fs') (takes : fs.TakesFile other) (takes' : fs'.TakesFile other) :
    Opens fs' path place := by
  by_cases same : place = other
  · subst same
    exact opens.of_agreesOff tree agrees takes'
  · have stays := agrees.get?_eq same
    refine ⟨?_, ?_⟩
    · rw [stays]
      exact spotAt_elsewhere agrees takes opens.found (by simpa using same)
    · rw [TakesFile, stays]
      exact opens.takes

/-- A file that is written to is one that its path opens, in a tree as before. -/
theorem Opens.written (tree : fs.IsTree) (opens : Opens fs path place) (contents : List UInt8)
    (modified : Option Int) :
    (fs.put place (.file contents modified)).IsTree ∧
      Opens (fs.put place (.file contents modified)) path place ∧
        (fs.put place (.file contents modified)).get? place = some (.file contents modified) := by
  have agrees := agreesOff_put fs place (.file contents modified)
  have standing := get?_put_self fs (ne_nil_of_not_hasDirectory opens.takes.not_hasDirectory)
    (.file contents modified)
  exact ⟨opens.isTree tree agrees,
    opens.of_agreesOff tree agrees (.inr ⟨contents, modified, standing⟩), standing⟩

/-- Whatever is written to a file, paths open what they opened before. -/
theorem Opens.opens_iff {path' : String} {other : Place} (tree : fs.IsTree)
    (opens : Opens fs path place) (contents : List UInt8) (modified : Option Int) :
    Opens (fs.put place (.file contents modified)) path' other ↔ Opens fs path' other := by
  obtain ⟨tree', opens', -⟩ := opens.written tree contents modified
  have agrees := agreesOff_put fs place (.file contents modified)
  constructor
  · exact fun opened => opened.stays tree' agrees.symm opens'.takes opens.takes
  · exact fun opened => opened.stays tree agrees opens.takes opens'.takes

/-- Any other request finds the file as well, if it follows links. -/
theorem Opens.spotAt_followsLink (opens : Opens fs path place) :
    fs.spotAt .followsLink path = .ok (.of place (fs.get? place)) := by
  obtain ⟨sendable, leads⟩ := spotAt_eq_ok_iff.mp opens.found
  exact spotAt_eq_ok_iff.mpr ⟨sendable, leads.ofMakesFile⟩

/-- A path that opens a file leads somewhere or nowhere. -/
theorem Opens.leadsSomewhere (opens : Opens fs path place) :
    ∃ isThere, fs.leadsSomewhere path = .ok isThere := by
  have found := opens.spotAt_followsLink
  cases standing : fs.get? place with
  | none =>
    rw [standing] at found
    exact ⟨false, leadsSomewhere_of_vacant found⟩
  | some entry =>
    rw [standing] at found
    exact ⟨true, leadsSomewhere_eq_true_iff.mpr ⟨entry, stat_eq_ok_iff.mpr ⟨place, found⟩⟩⟩

/-- A request that keeps links finds what becomes of the file, if it found no link before. -/
theorem Opens.spotAt_keepsLink (tree : fs.IsTree) (opens : Opens fs path place)
    (agrees : AgreesOff place fs fs') (takes : fs'.TakesFile place)
    (unlinked : ∀ other target,
      fs.spotAt .keepsLink path ≠ .ok (.entry other (.link target))) :
    fs'.spotAt .keepsLink path = .ok (.of place (fs'.get? place)) := by
  obtain ⟨sendable, leads⟩ := spotAt_eq_ok_iff.mp opens.found
  refine spotAt_eq_ok_iff.mpr ⟨sendable, ?_⟩
  rw [LeadsAlong, agrees.home]
  refine leads.retarget_keepsLink tree (tree.hasDirectory_start path) agrees opens.takes takes
    (Spot.place_of place _) fun other target kept => ?_
  exact unlinked other target (spotAt_eq_ok_iff.mpr ⟨sendable, kept⟩)

/-- A path that opens a file leads to it. -/
theorem Opens.stat_eq (opens : Opens fs path place)
    (file : fs.get? place = some (.file contents modified)) :
    fs.stat path = .ok (.file contents modified) := by
  refine stat_eq_ok_iff.mpr ⟨place, ?_⟩
  rw [opens.spotAt_followsLink, file, Spot.of]

/-- The instant of the last modification can be set. -/
theorem Opens.setModified_eq (opens : Opens fs path place)
    (file : fs.get? place = some (.file contents modified)) (instant : Int) :
    fs.setModified path instant = .ok (fs.put place (.file contents (some instant))) := by
  rw [setModified, opens.spotAt_followsLink, file, Spot.of]

end Opens

/-! ## Removing -/

/-- A file or a link that is found can be removed. -/
theorem remove_eq (found : fs.spotAt .keepsLink path = .ok (.entry place entry))
    (leaf : ∀ mode, entry ≠ .directory mode) : fs.remove path = .ok (fs.erase place) := by
  rw [remove, found]
  cases entry with
  | directory mode => exact absurd rfl (leaf mode)
  | file contents modified => rfl
  | link target => rfl

/-- What removing an entry does: nothing, or a file or a link that was found is gone. -/
theorem removeIfPresent_eq_ok (removed : fs.removeIfPresent path = .ok fs') :
    fs' = fs ∨
      ∃ place entry, fs.spotAt .keepsLink path = .ok (.entry place entry) ∧
        (∀ mode, entry ≠ .directory mode) ∧ fs' = fs.erase place := by
  rw [removeIfPresent] at removed
  split at removed
  · exact .inl (Except.ok.inj removed).symm
  next outcome =>
    rw [remove] at removed
    split at removed
    · cases removed
    · cases removed
    · cases removed
    next place entry other found =>
      exact .inr ⟨place, entry, found, other, (Except.ok.inj removed).symm⟩

/-- Where no file can be opened, no file is found. -/
theorem stat_ne_file_of_shut {failure : Failure} (tree : fs.IsTree)
    (shut : fs.create path = .error failure) (contents : List UInt8) (modified : Option Int) :
    fs.stat path ≠ .ok (.file contents modified) := by
  intro file
  obtain ⟨place, found⟩ := stat_eq_ok_iff.mp file
  cases shut.symm.trans ((create_eq_ok_iff tree).mpr ⟨opens_of_spotAt tree found, rfl⟩)

/-- Where no file can be opened, nothing but a link can be removed. -/
theorem removeIfPresent_of_shut {failure : Failure} (tree : fs.IsTree)
    (shut : fs.create path = .error failure) (removed : fs.removeIfPresent path = .ok fs') :
    fs' = fs ∨ ∃ place target, fs.spotAt .keepsLink path = .ok (.entry place (.link target)) ∧
      fs' = fs.erase place := by
  rcases removeIfPresent_eq_ok removed with same | ⟨place, entry, found, leaf, rfl⟩
  · exact .inl same
  · cases entry with
    | directory mode => exact absurd rfl (leaf mode)
    | link target => exact .inr ⟨place, target, found, rfl⟩
    -- A file that is found could have been opened.
    | file contents modified =>
      obtain ⟨sendable, leads⟩ := spotAt_eq_ok_iff.mp found
      have followed := spotAt_eq_ok_iff.mpr ⟨sendable, leads.ofKeepsLink (by simp)⟩
      exact absurd (stat_eq_ok_iff.mpr ⟨place, followed⟩) (stat_ne_file_of_shut tree shut _ _)

/-- Files stay as they are where no file can be opened, whatever is removed instead. -/
theorem get?_of_shut {failure : Failure} {contents : List UInt8} {modified : Option Int}
    (tree : fs.IsTree) (shut : fs.create path = .error failure)
    (left : fs.removeIfPresent path = .ok fs' ∨ fs' = fs)
    (file : fs.get? place = some (.file contents modified)) :
    fs'.get? place = some (.file contents modified) := by
  rcases left with removed | rfl
  · rcases removeIfPresent_of_shut tree shut removed with rfl | ⟨gone, target, link, rfl⟩
    · exact file
    · have off : place ≠ gone := by
        rintro rfl
        cases (get?_of_spotAt link (by simp)).symm.trans file
      exact (get?_erase_of_ne fs off).trans file
  · exact file

/-- A path whose entry was removed leads to no entry. -/
theorem stat_ne_ok_of_removed (tree : fs.IsTree)
    (found : fs.spotAt .keepsLink path = .ok (.entry place entry))
    (leaf : ∀ mode, entry ≠ .directory mode) (other : Entry) :
    (fs.erase place).stat path ≠ .ok other := by
  intro there
  have standing := get?_of_spotAt found leaf
  have isFree : (fs.erase place).get? place = none :=
    get?_erase_self fs (ne_nil_of_not_hasDirectory (not_hasDirectory_of_some standing leaf))
  obtain ⟨-, leads⟩ := spotAt_eq_ok_iff.mp found
  obtain ⟨there, found'⟩ := stat_eq_ok_iff.mp there
  have arrived : walk (fs.erase place) .followsLink maxLinks _ _ = _ :=
    (spotAt_eq_ok_iff.mp found').2.walk_eq
  -- The walk that finds an entry now would end otherwise.
  rcases walk_of_removed tree (tree.hasDirectory_start path) (agreesOff_erase fs place) isFree
    leads leaf with vacant | missing
  · cases vacant.symm.trans arrived
  · cases missing.symm.trans arrived

/-- A file that was opened can be removed: the path names it, or a link that leads to it. -/
theorem Opens.keepsLink {contents : List UInt8} {modified : Option Int}
    (opens : Opens fs path place) (file : fs.get? place = some (.file contents modified)) :
    fs.spotAt .keepsLink path = .ok (.entry place (.file contents modified)) ∨
      ∃ other target, fs.spotAt .keepsLink path = .ok (.entry other (.link target)) := by
  obtain ⟨sendable, leads⟩ := spotAt_eq_ok_iff.mp opens.spotAt_followsLink
  rw [file] at leads
  rcases leads.toKeepsLink with kept | ⟨other, target, kept⟩
  · exact .inl (spotAt_eq_ok_iff.mpr ⟨sendable, kept⟩)
  · exact .inr ⟨other, target, spotAt_eq_ok_iff.mpr ⟨sendable, kept⟩⟩

/-- The file at a place is gone, or the link by which a path names it, and the path leads
nowhere. -/
def IsRemoved (fs : FileSystem) (path : String) (place : Place) (fs' : FileSystem) : Prop :=
  (∀ entry, fs'.stat path ≠ .ok entry) ∧
    ∃ other, fs' = fs.erase other ∧
      (other = place ∨ ∃ target, fs.spotAt .keepsLink path = .ok (.entry other (.link target)))

/-- A file that was opened can be removed. -/
theorem Opens.removeIfPresent {contents : List UInt8} {modified : Option Int} (tree : fs.IsTree)
    (opens : Opens fs path place) (file : fs.get? place = some (.file contents modified)) :
    ∃ fs', fs.removeIfPresent path = .ok fs' ∧ IsRemoved fs path place fs' := by
  rcases opens.keepsLink file with kept | ⟨other, target, kept⟩
  · have leaf : ∀ mode, Entry.file contents modified ≠ .directory mode := by simp
    refine ⟨fs.erase place, ?_, stat_ne_ok_of_removed tree kept leaf, place, rfl, .inl rfl⟩
    rw [FileSystem.removeIfPresent, remove_eq kept leaf]
  · have leaf : ∀ mode, Entry.link target ≠ .directory mode := by simp
    refine ⟨fs.erase other, ?_, stat_ne_ok_of_removed tree kept leaf, other, rfl,
      .inr ⟨target, kept⟩⟩
    rw [FileSystem.removeIfPresent, remove_eq kept leaf]

/-- Removing a file takes nothing away but the file itself or a link. -/
theorem IsRemoved.get?_eq {other : Place} {contents : List UInt8} {modified : Option Int}
    (removed : IsRemoved fs path place fs')
    (file : fs.get? other = some (.file contents modified)) :
    fs'.get? other = some (.file contents modified) ∨ other = place ∧ fs'.get? other = none := by
  obtain ⟨-, gone, rfl, rfl | ⟨target, found⟩⟩ := removed
  · by_cases same : other = gone
    · subst same
      have more : other ≠ [] :=
        ne_nil_of_not_hasDirectory (not_hasDirectory_of_some file (by simp))
      exact .inr ⟨rfl, get?_erase_self fs more⟩
    · exact .inl ((get?_erase_of_ne fs same).trans file)
  · have link := get?_of_spotAt found (by simp)
    have off : other ≠ gone := by
      rintro rfl
      cases link.symm.trans file
    exact .inl ((get?_erase_of_ne fs off).trans file)

/-- A tree stays one when a file is removed. -/
theorem IsRemoved.isTree {contents : List UInt8} {modified : Option Int} (tree : fs.IsTree)
    (file : fs.get? place = some (.file contents modified))
    (removed : IsRemoved fs path place fs') : fs'.IsTree := by
  obtain ⟨-, gone, rfl, rfl | ⟨target, found⟩⟩ := removed
  · exact tree.erase file (by simp)
  · exact tree.erase (get?_of_spotAt found (by simp)) (by simp)

/-- A file that no link names is removed itself, and its name is free then. -/
theorem IsRemoved.eq_erase {contents : List UInt8} {modified : Option Int} (tree : fs.IsTree)
    (opens : Opens fs path place)
    (unlinked : ∀ other target, fs.spotAt .keepsLink path ≠ .ok (.entry other (.link target)))
    (removed : IsRemoved (fs.put place (.file contents modified)) path place fs') :
    fs' = fs.erase place ∧ fs'.spotAt .keepsLink path = .ok (.vacant place) := by
  obtain ⟨-, -, file⟩ := opens.written tree contents modified
  have more : place ≠ [] := ne_nil_of_not_hasDirectory opens.takes.not_hasDirectory
  have isFree : (fs.erase place).get? place = none := get?_erase_self fs more
  obtain ⟨-, other, rfl, rfl | ⟨target, link⟩⟩ := removed
  · have kept := opens.spotAt_keepsLink tree (agreesOff_erase fs other) (.inl isFree) unlinked
    rw [isFree, Spot.of] at kept
    rw [erase_put]
    exact ⟨rfl, kept⟩
  · have kept := opens.spotAt_keepsLink tree (agreesOff_put fs place (.file contents modified))
      (.inr ⟨contents, modified, file⟩) unlinked
    rw [file, Spot.of] at kept
    cases link.symm.trans kept

/-! ## Making directories -/

/-- What making a directory does. -/
theorem makeDirectory_eq_ok_iff {mode : Nat} :
    fs.makeDirectory path mode = .ok fs' ↔
      ∃ place, fs.spotAt .keepsLink path = .ok (.vacant place) ∧
        fs' = fs.put place (.directory (fs.maskedMode mode)) := by
  rw [makeDirectory]
  cases fs.spotAt .keepsLink path with
  | error failure => simp
  | ok spot =>
    cases spot with
    | entry place entry => simp [refuse]
    | vacant place =>
      simp only [Except.ok.injEq, Spot.vacant.injEq, exists_eq_left']
      exact eq_comm

/-- No directory can be made where a path leads to an entry. -/
theorem makeDirectory_of_stat {mode : Nat} (there : fs.stat path = .ok entry) :
    fs.makeDirectory path mode = refuse path .entryExists := by
  obtain ⟨place, named, kept⟩ := spotAt_keepsLink_of_stat there
  rw [makeDirectory, kept]

/-- A directory that was made is where its path leads. -/
theorem spotAt_made (tree : fs.IsTree) (found : fs.spotAt .keepsLink path = .ok (.vacant place))
    (mode : Nat) :
    (fs.put place (.directory mode)).spotAt .followsLink path =
      .ok (.entry place (.directory mode)) := by
  obtain ⟨isFree, -⟩ := isIn_of_spotAt tree found
  have more : place ≠ [] := ne_nil_of_not_hasDirectory (not_hasDirectory_of_none isFree)
  obtain ⟨sendable, leads⟩ := spotAt_eq_ok_iff.mp found
  exact spotAt_eq_ok_iff.mpr
    ⟨sendable, leads.made (agreesOff_put fs place _) isFree (get?_put_self fs more _)⟩

/-- A directory that was made is one more, in a tree as before, and is found. -/
theorem makeDirectory_grows {mode : Nat} (tree : fs.IsTree)
    (made : fs.makeDirectory path mode = .ok fs') :
    Grows mode fs fs' ∧ fs'.IsTree ∧ fs'.isDirectory path = .ok true := by
  obtain ⟨place, found, rfl⟩ := makeDirectory_eq_ok_iff.mp made
  obtain ⟨isFree, above⟩ := isIn_of_spotAt tree found
  have more : place ≠ [] := ne_nil_of_not_hasDirectory (not_hasDirectory_of_none isFree)
  refine ⟨grows_put mode isFree, ?_, ?_⟩
  · obtain ⟨name, directory, rfl⟩ := List.exists_cons_of_ne_nil more
    exact tree.put above isFree _
  · exact isDirectory_eq_true_iff.mpr ⟨_, stat_eq_ok_iff.mpr ⟨place, spotAt_made tree found _⟩⟩

end SafeFetch.FileSystem
