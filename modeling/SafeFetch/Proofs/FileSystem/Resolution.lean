import SafeFetch.FileSystem.Walk
import SafeFetch.Proofs.FileSystem.Tree

/-!
# Resolution of paths

Walks as a relation with one rule for every way in which a name can be taken, beside the walk that
computes. The relation has no rule for a refusal, so an induction on a derivation meets the walks
that arrive and no others.

## Main definitions

* `Passes`: a name may be looked up.
* `Leads`: names lead from a directory to a spot, through a limited number of links.

## Main results

* `walk_eq_ok_iff`: a walk arrives exactly where its names lead;
* `Leads.unique`: names lead to one spot at most;
* `Leads.append`: where names lead to a directory, further names are walked from there;
* `Leads.directory_of_append`: names before others lead to a directory;
* `Leads.ofMakesFile` and `Leads.toMakesFile`: the endings of a walk compared.
-/

namespace SafeFetch.FileSystem

open SafeFetch.Text

/-- A name may be looked up: it says something, it is not too long, and where it names a file no
slash follows it. -/
structure Passes (ending : Ending) (name : List Char) (rest : List (List Char)) : Prop where
  ne_nil : name ≠ []
  ne_dot : name ≠ ['.']
  ne_dots : name ≠ ['.', '.']
  unslashed : ending = .makesFile → isSlashed rest = false
  short : (Utf8.encode name).length ≤ maxNameBytes

/-- Names lead from a directory to a spot, through at most a number of links. -/
inductive Leads (fs : FileSystem) (ending : Ending) :
    (links : Nat) → (here : Place) → List (List Char) → Spot → Prop
  | arrive {links here} :
      Leads fs ending links here [] (.entry here ((fs.get? here).getD (.directory rootMode)))
  | stay {links here name rest spot} (silent : name = [] ∨ name = ['.'])
      (further : Leads fs ending links here rest spot) :
      Leads fs ending links here (name :: rest) spot
  | up {links here rest spot} (further : Leads fs ending links here.tail rest spot) :
      Leads fs ending links here (['.', '.'] :: rest) spot
  | free {links here name rest} (passes : Passes ending name rest)
      (isFree : fs.get? (name :: here) = none) (blank : rest.all (·.isEmpty) = true) :
      Leads fs ending links here (name :: rest) (.vacant (name :: here))
  | enter {links here name rest spot mode} (passes : Passes ending name rest)
      (directory : fs.get? (name :: here) = some (.directory mode))
      (further : Leads fs ending links (name :: here) rest spot) :
      Leads fs ending links here (name :: rest) spot
  | reach {links here name contents modified} (passes : Passes ending name [])
      (file : fs.get? (name :: here) = some (.file contents modified)) :
      Leads fs ending links here [name] (.entry (name :: here) (.file contents modified))
  | keep {links here name target} (passes : Passes ending name [])
      (link : fs.get? (name :: here) = some (.link target)) (keeps : ending = .keepsLink) :
      Leads fs ending links here [name] (.entry (name :: here) (.link target))
  | follow {links here name rest target spot} (passes : Passes ending name rest)
      (link : fs.get? (name :: here) = some (.link target))
      (followed : ¬ (rest = [] ∧ ending = .keepsLink))
      (further :
        Leads fs ending links (startOf here target) (splitAll '/' target ++ rest) spot) :
      Leads fs ending (links + 1) here (name :: rest) spot

variable {fs : FileSystem} {ending : Ending} {links : Nat} {here : Place}
  {name : List Char} {names rest : List (List Char)} {spot : Spot}

/-! ## The walk and the relation -/

/-- What a walk that may follow `links` links does where it meets one. -/
def follows (fs : FileSystem) (ending : Ending) :
    (links : Nat) → Place → List (List Char) → Except SystemError Spot
  | 0 => fun _ _ => .error .tooManyLinks
  | links + 1 => walk fs ending links

/-- A walk is one along names that knows what to do about links. -/
theorem walk_eq_walkNames (fs : FileSystem) (ending : Ending) (links : Nat) :
    walk fs ending links = walkNames fs ending (follows fs ending links) := by
  cases links <;> rfl

@[simp]
theorem follows_succ (fs : FileSystem) (ending : Ending) (links : Nat) :
    follows fs ending (links + 1) = walk fs ending links := rfl

/-- A name that may be looked up is. -/
theorem walkNames_of_passes {onLink : Place → List (List Char) → Except SystemError Spot}
    (passes : Passes ending name rest) :
    walkNames fs ending onLink here (name :: rest) =
      match fs.get? (name :: here) with
      | none =>
        if rest.all (·.isEmpty) then .ok (.vacant (name :: here)) else .error .noEntry
      | some (.directory _) => walkNames fs ending onLink (name :: here) rest
      | some (.file contents modified) =>
        if rest.isEmpty then .ok (.entry (name :: here) (.file contents modified))
        else .error .notDirectory
      | some (.link target) =>
        if rest.isEmpty && ending = .keepsLink then .ok (.entry (name :: here) (.link target))
        else onLink (startOf here target) (splitAll '/' target ++ rest) := by
  have unslashed : ¬ (ending = .makesFile ∧ isSlashed rest = true) := fun h => by
    simp [passes.unslashed h.1] at h
  have said : ¬ (name = [] ∨ name = ['.']) := by simp [passes.ne_nil, passes.ne_dot]
  rw [walkNames, if_neg said, if_neg passes.ne_dots, if_neg unslashed]
  exact if_neg (Nat.not_lt.mpr passes.short)

/-- A walk along names arrives where they lead, if the walk beyond links does. -/
private theorem leads_of_walkNames
    (beyond : ∀ here names spot, follows fs ending links here names = .ok spot →
      ∃ fewer, links = fewer + 1 ∧ Leads fs ending fewer here names spot)
    (walked : walkNames fs ending (follows fs ending links) here names = .ok spot) :
    Leads fs ending links here names spot := by
  induction names generalizing here with
  | nil =>
    obtain rfl := Except.ok.inj walked
    exact .arrive
  | cons name rest ih =>
    by_cases stays : name = [] ∨ name = ['.']
    · rw [walkNames, if_pos stays] at walked
      exact .stay stays (ih walked)
    by_cases isUp : name = ['.', '.']
    · subst isUp
      exact .up (ih walked)
    -- A walk that arrives has met no name that may not be looked up.
    by_cases slashed : ending = .makesFile ∧ isSlashed rest = true
    · rw [walkNames, if_neg stays, if_neg isUp, if_pos slashed] at walked
      cases walked
    by_cases long : maxNameBytes < (Utf8.encode name).length
    · rw [walkNames, if_neg stays, if_neg isUp, if_neg slashed, if_pos long] at walked
      cases walked
    have passes : Passes ending name rest := by
      refine ⟨fun h => stays (.inl h), fun h => stays (.inr h), isUp, fun h => ?_,
        Nat.not_lt.mp long⟩
      simpa [h] using slashed
    -- What stands under the name tells which rule takes it.
    rw [walkNames_of_passes passes] at walked
    split at walked
    next free =>
      split at walked
      · obtain rfl := Except.ok.inj walked
        exact .free passes free ‹_›
      · cases walked
    next directory => exact .enter passes directory (ih walked)
    next file =>
      split at walked
      · obtain rfl := Except.ok.inj walked
        obtain rfl : rest = [] := by simpa using ‹rest.isEmpty = true›
        exact .reach passes file
      · cases walked
    next link =>
      split at walked
      next kept =>
        obtain rfl := Except.ok.inj walked
        obtain ⟨rfl, keeps⟩ : rest = [] ∧ ending = .keepsLink := by simpa using kept
        exact .keep passes link keeps
      next followed =>
        obtain ⟨fewer, rfl, leads⟩ := beyond _ _ _ walked
        exact .follow passes link (by simpa using followed) leads

/-- A walk arrives where its names lead. -/
theorem leads_of_walk (walked : walk fs ending links here names = .ok spot) :
    Leads fs ending links here names spot := by
  -- The walk beyond a link has one link less, so the induction is on the links that are left.
  induction links generalizing here names spot with
  | zero =>
    rw [walk_eq_walkNames] at walked
    exact leads_of_walkNames (fun _ _ _ h => by cases h) walked
  | succ links ih =>
    rw [walk_eq_walkNames] at walked
    exact leads_of_walkNames (fun _ _ _ h => ⟨links, rfl, ih h⟩) walked

/-- A name that says nothing is passed over. -/
theorem walk_of_silent (silent : name = [] ∨ name = ['.']) :
    walk fs ending links here (name :: rest) = walk fs ending links here rest := by
  rw [walk_eq_walkNames, walkNames, if_pos silent]

/-- Two dots lead to the directory above. -/
theorem walk_up :
    walk fs ending links here (['.', '.'] :: rest) = walk fs ending links here.tail rest := by
  rw [walk_eq_walkNames, walkNames, if_neg (by decide), if_pos rfl]

/-- A free name ends a walk. -/
theorem walk_of_none (passes : Passes ending name rest) (isFree : fs.get? (name :: here) = none) :
    walk fs ending links here (name :: rest) =
      if rest.all (·.isEmpty) then .ok (.vacant (name :: here)) else .error .noEntry := by
  rw [walk_eq_walkNames, walkNames_of_passes passes, isFree]

/-- A walk goes on from a directory. -/
theorem walk_of_directory {mode : Nat} (passes : Passes ending name rest)
    (directory : fs.get? (name :: here) = some (.directory mode)) :
    walk fs ending links here (name :: rest) = walk fs ending links (name :: here) rest := by
  rw [walk_eq_walkNames, walkNames_of_passes passes, directory]

/-- A walk goes on along the target of a link that it does not keep. -/
theorem walk_of_link {target : List Char} (passes : Passes ending name rest)
    (link : fs.get? (name :: here) = some (.link target))
    (followed : ¬ (rest = [] ∧ ending = .keepsLink)) :
    walk fs ending (links + 1) here (name :: rest) =
      walk fs ending links (startOf here target) (splitAll '/' target ++ rest) := by
  rw [walk_eq_walkNames, walkNames_of_passes passes, link]
  simp [followed]

/-- Where names lead, their walk arrives. -/
theorem Leads.walk_eq (leads : Leads fs ending links here names spot) :
    walk fs ending links here names = .ok spot := by
  induction leads with
  | arrive => rw [walk_eq_walkNames, walkNames]
  | stay silent _ ih => rw [walk_of_silent silent, ih]
  | up _ ih => rw [walk_up, ih]
  | free passes isFree blank => rw [walk_of_none passes isFree, if_pos blank]
  | enter passes directory _ ih => rw [walk_of_directory passes directory, ih]
  | reach passes file => rw [walk_eq_walkNames, walkNames_of_passes passes, file]; rfl
  | keep passes link keeps =>
    rw [walk_eq_walkNames, walkNames_of_passes passes, link]
    simp [keeps]
  | follow passes link followed _ ih => rw [walk_of_link passes link followed, ih]

/-- A walk arrives exactly where its names lead. -/
theorem walk_eq_ok_iff :
    walk fs ending links here names = .ok spot ↔ Leads fs ending links here names spot :=
  ⟨leads_of_walk, Leads.walk_eq⟩

/-- Names lead to one spot at most. -/
theorem Leads.unique {other : Spot} (leads : Leads fs ending links here names spot)
    (leads' : Leads fs ending links here names other) : spot = other :=
  Except.ok.inj (leads.walk_eq.symm.trans leads'.walk_eq)

/-! ## Spots -/

/-- The place of a spot. -/
def Spot.place : Spot → Place
  | .entry place _ => place
  | .vacant place => place

/-- A spot tells what is there: the entry that stands at its place, or a free name in a
directory. -/
def Spot.IsIn (fs : FileSystem) : Spot → Prop
  | .entry place standing => fs.get? place = some standing
  | .vacant place => fs.get? place = none ∧ fs.HasDirectory place.tail

/-- A link is followed from a directory. -/
theorem hasDirectory_startOf {target : List Char} (directory : fs.HasDirectory here) :
    fs.HasDirectory (startOf here target) := by
  rw [startOf]
  split
  · exact hasDirectory_nil fs
  · exact directory

/-- Names that lead somewhere from a directory of a tree lead to what is there. -/
theorem Leads.isIn (tree : fs.IsTree) (directory : fs.HasDirectory here)
    (leads : Leads fs ending links here names spot) : spot.IsIn fs := by
  induction leads with
  | arrive =>
    obtain ⟨mode, standing⟩ := directory
    simp [Spot.IsIn, standing]
  | stay _ _ ih => exact ih directory
  | up _ ih => exact ih (directory.tail tree)
  | free _ isFree _ => exact ⟨isFree, directory⟩
  | enter _ entered _ ih => exact ih ⟨_, entered⟩
  | reach _ file => exact file
  | keep _ link _ => exact link
  | follow _ _ _ _ ih => exact ih (hasDirectory_startOf directory)

/-- A file or a link that names lead to stands there. -/
theorem Leads.get?_eq {place : Place} {entry : Entry}
    (leads : Leads fs ending links here names (.entry place entry))
    (leaf : ∀ mode, entry ≠ .directory mode) : fs.get? place = some entry := by
  generalize isEntry : Spot.entry place entry = spot at leads
  induction leads with
  | @arrive links here =>
    obtain ⟨rfl, rfl⟩ := Spot.entry.inj isEntry
    cases standing : fs.get? place with
    | none => exact absurd (by simp [standing]) (leaf rootMode)
    | some entry => rfl
  | stay _ _ ih => exact ih isEntry
  | up _ ih => exact ih isEntry
  | free => cases isEntry
  | enter _ _ _ ih => exact ih isEntry
  | reach _ file =>
    obtain ⟨rfl, rfl⟩ := Spot.entry.inj isEntry
    exact file
  | keep _ link _ =>
    obtain ⟨rfl, rfl⟩ := Spot.entry.inj isEntry
    exact link
  | follow _ _ _ _ ih => exact ih isEntry

/-- No names lead to the directory where they begin. -/
theorem leads_nil (directory : fs.HasDirectory here) :
    ∃ place mode, Leads fs ending links here [] (.entry place (.directory mode)) := by
  obtain ⟨mode, standing⟩ := directory
  refine ⟨here, mode, ?_⟩
  have arrived : Leads fs ending links here [] _ := .arrive
  rwa [standing] at arrived

/-- Names that say nothing lead nowhere else. -/
theorem leads_blank (blank : rest.all (·.isEmpty) = true) :
    Leads fs ending links here rest
      (.entry here ((fs.get? here).getD (.directory rootMode))) := by
  induction rest with
  | nil => exact .arrive
  | cons name rest ih =>
    simp only [List.all_cons, Bool.and_eq_true, List.isEmpty_iff] at blank
    exact .stay (.inl blank.1) (ih blank.2)

/-! ## Endings -/

/-- What may be looked up as the name of a file may be looked up. -/
theorem Passes.mono {other : Ending} (passes : Passes ending name rest)
    (files : other = .makesFile → ending = .makesFile) : Passes other name rest :=
  { passes with unslashed := fun h => passes.unslashed (files h) }

/-- The last name of a path may be looked up whatever is done about it. -/
theorem Passes.last {other : Ending} (passes : Passes ending name []) : Passes other name [] :=
  { passes with unslashed := fun _ => rfl }

/-- Nothing but slashes follows a name that ends a walk to a file. -/
theorem Passes.rest_eq_nil (passes : Passes .makesFile name rest)
    (blank : rest.all (·.isEmpty) = true) : rest = [] := by
  have unslashed := passes.unslashed rfl
  cases rest with
  | nil => rfl
  | cons next rest => exact absurd blank (by simpa [isSlashed] using unslashed)

/-- A walk that opens a file follows links. -/
theorem Leads.ofMakesFile (leads : Leads fs .makesFile links here names spot) :
    Leads fs .followsLink links here names spot := by
  induction leads with
  | arrive => exact .arrive
  | stay silent _ ih => exact .stay silent ih
  | up _ ih => exact .up ih
  | free passes isFree blank => exact .free (passes.mono (by simp)) isFree blank
  | enter passes directory _ ih => exact .enter (passes.mono (by simp)) directory ih
  | reach passes file => exact .reach passes.last file
  | keep _ _ keeps => cases keeps
  | follow passes link _ _ ih => exact .follow (passes.mono (by simp)) link (by simp) ih

/-- No file is reached along a path that ends in a slash. -/
theorem Leads.ne_file_of_slash {place : Place} {contents : List UInt8} {modified : Option Int}
    (tree : fs.IsTree) (directory : fs.HasDirectory here)
    (leads : Leads fs ending links here names spot) (slash : names.getLast? = some []) :
    spot ≠ .entry place (.file contents modified) := by
  -- The last name is empty, so the walk can only end where it stays, which is a directory.
  induction leads with
  | arrive => simp at slash
  | @stay links here name rest spot _ further ih =>
    cases rest with
    | nil =>
      obtain ⟨mode, standing⟩ := directory
      cases further
      simp [standing]
    | cons next rest => exact ih directory (by simpa using slash)
  | @up links here rest spot _ ih =>
    cases rest with
    | nil => simp at slash
    | cons next rest => exact ih (directory.tail tree) (by simpa using slash)
  | free => simp
  | @enter links here name rest spot mode passes entered further ih =>
    cases rest with
    | nil => exact absurd (by simpa using slash) passes.ne_nil
    | cons next rest => exact ih ⟨mode, entered⟩ (by simpa using slash)
  | reach passes _ => exact absurd (by simpa using slash) passes.ne_nil
  | keep => simp
  | @follow links here name rest target spot passes _ _ _ ih =>
    cases rest with
    | nil => exact absurd (by simpa using slash) passes.ne_nil
    | cons next rest => exact ih (hasDirectory_startOf directory) (by simpa using slash)

/-- A name with slashes behind it makes a path that ends in one. -/
theorem getLast?_of_isSlashed (slashed : isSlashed rest = true) :
    (name :: rest).getLast? = some [] := by
  simp only [isSlashed, Bool.and_eq_true, Bool.not_eq_true', List.isEmpty_eq_false_iff] at slashed
  obtain ⟨more, blank⟩ := slashed
  have last : rest.getLast more = [] := by
    simpa using List.all_eq_true.mp blank _ (List.getLast_mem more)
  rw [List.getLast?_cons, List.getLast?_eq_some_getLast more, last]
  rfl

/-- A file that a walk reaches can be opened along the same path. -/
theorem Leads.toMakesFile {place : Place} {contents : List UInt8} {modified : Option Int}
    (tree : fs.IsTree) (directory : fs.HasDirectory here)
    (leads : Leads fs ending links here names (.entry place (.file contents modified))) :
    Leads fs .makesFile links here names (.entry place (.file contents modified)) := by
  -- No name on the way has only slashes behind it, because the walk reaches a file.
  have opens {links : Nat} {here : Place} {name : List Char} {rest : List (List Char)}
      {spot : Spot} (directory : fs.HasDirectory here)
      (isFile : Spot.entry place (.file contents modified) = spot)
      (passes : Passes ending name rest) (leads : Leads fs ending links here (name :: rest) spot) :
      Passes .makesFile name rest := by
    refine { passes with unslashed := fun _ => Bool.eq_false_iff.mpr fun slashed => ?_ }
    exact leads.ne_file_of_slash tree directory (getLast?_of_isSlashed slashed) isFile.symm
  generalize isFile : Spot.entry place (.file contents modified) = spot at leads ⊢
  induction leads with
  | arrive => exact .arrive
  | stay silent _ ih => exact .stay silent (ih directory isFile)
  | up _ ih => exact .up (ih (directory.tail tree) isFile)
  | free => cases isFile
  | enter passes entered further ih =>
    exact .enter (opens directory isFile passes (.enter passes entered further)) entered
      (ih ⟨_, entered⟩ isFile)
  | reach passes file => exact .reach passes.last file
  | keep => cases isFile
  | follow passes link followed further ih =>
    have leads := Leads.follow passes link followed further
    exact .follow (opens directory isFile passes leads) link (by simp)
      (ih (hasDirectory_startOf directory) isFile)

/-- A walk that follows a link at its end arrives also when it keeps it: at the same spot, or at a
link. -/
theorem Leads.toKeepsLink (leads : Leads fs .followsLink links here names spot) :
    Leads fs .keepsLink links here names spot ∨
      ∃ place target, Leads fs .keepsLink links here names (.entry place (.link target)) := by
  induction leads with
  | arrive => exact .inl .arrive
  | stay silent _ ih =>
    exact ih.imp (.stay silent) fun ⟨place, target, kept⟩ =>
      ⟨place, target, .stay silent kept⟩
  | up _ ih => exact ih.imp .up fun ⟨place, target, kept⟩ => ⟨place, target, .up kept⟩
  | free passes isFree blank => exact .inl (.free (passes.mono (by simp)) isFree blank)
  | enter passes directory _ ih =>
    have passes : Passes .keepsLink _ _ := passes.mono (by simp)
    exact ih.imp (.enter passes directory) fun ⟨place, target, kept⟩ =>
      ⟨place, target, .enter passes directory kept⟩
  | reach passes file => exact .inl (.reach passes.last file)
  | keep _ _ keeps => cases keeps
  | @follow links here name rest target spot passes link _ _ ih =>
    have passes : Passes .keepsLink name rest := passes.mono (by simp)
    cases rest with
    -- The link stands at the end, where it is kept now.
    | nil => exact .inr ⟨_, _, .keep passes link rfl⟩
    | cons next rest =>
      exact ih.imp (.follow passes link (by simp)) fun ⟨place, target, kept⟩ =>
        ⟨place, target, .follow passes link (by simp) kept⟩

/-- A walk that keeps a link at its end, and does not end at one, follows none there. -/
theorem Leads.ofKeepsLink (leads : Leads fs .keepsLink links here names spot)
    (other : ∀ place target, spot ≠ .entry place (.link target)) :
    Leads fs .followsLink links here names spot := by
  induction leads with
  | arrive => exact .arrive
  | stay silent _ ih => exact .stay silent (ih other)
  | up _ ih => exact .up (ih other)
  | free passes isFree blank => exact .free (passes.mono (by simp)) isFree blank
  | enter passes directory _ ih => exact .enter (passes.mono (by simp)) directory (ih other)
  | reach passes file => exact .reach passes.last file
  | keep => exact absurd rfl (other _ _)
  | follow passes link _ _ ih => exact .follow (passes.mono (by simp)) link (by simp) (ih other)

/-! ## Paths in parts -/

/-- More names behind a name do not keep it from being looked up. -/
theorem Passes.append {next : List Char} {more : List (List Char)} (said : next ≠ [])
    (passes : Passes .followsLink name rest) (ending : Ending) :
    Passes ending name (rest ++ next :: more) := by
  refine { passes with unslashed := fun _ => ?_ }
  simp [isSlashed, said]

/-- Fewer names behind a name do not keep a walk from looking it up. -/
theorem Passes.ofAppend {more : List (List Char)} (passes : Passes ending name (rest ++ more)) :
    Passes .followsLink name rest :=
  { passes with unslashed := fun h => by cases h }

/-- Where names lead to a directory, further names are walked from there, with what is left of the
links. -/
theorem Leads.append {place : Place} {mode : Nat}
    (leads : Leads fs .followsLink links here names (.entry place (.directory mode))) :
    ∃ fewer, ∀ ending next more, next ≠ [] →
      walk fs ending links here (names ++ next :: more) =
        walk fs ending fewer place (next :: more) := by
  generalize isDirectory : Spot.entry place (.directory mode) = spot at leads
  -- Along the first names the two walks take the same rules, and spend the same links.
  induction leads with
  | @arrive links here =>
    obtain ⟨rfl, -⟩ := Spot.entry.inj isDirectory
    exact ⟨links, fun _ _ _ _ => rfl⟩
  | stay silent _ ih =>
    obtain ⟨fewer, ih⟩ := ih isDirectory
    refine ⟨fewer, fun ending next more said => ?_⟩
    rw [List.cons_append, walk_of_silent silent, ih ending next more said]
  | up _ ih =>
    obtain ⟨fewer, ih⟩ := ih isDirectory
    refine ⟨fewer, fun ending next more said => ?_⟩
    rw [List.cons_append, walk_up, ih ending next more said]
  | free => cases isDirectory
  | enter passes directory _ ih =>
    obtain ⟨fewer, ih⟩ := ih isDirectory
    refine ⟨fewer, fun ending next more said => ?_⟩
    rw [List.cons_append, walk_of_directory (passes.append said ending) directory,
      ih ending next more said]
  | reach => cases isDirectory
  | keep => cases isDirectory
  | follow passes link _ _ ih =>
    obtain ⟨fewer, ih⟩ := ih isDirectory
    refine ⟨fewer, fun ending next more said => ?_⟩
    rw [List.cons_append, walk_of_link (passes.append said ending) link (by simp),
      ← List.append_assoc, ih ending next more said]

/-- Names that others follow lead to a directory. -/
theorem Leads.directory_of_append {next : List Char} {more : List (List Char)}
    (tree : fs.IsTree) (directory : fs.HasDirectory here) (said : next ≠ [])
    (leads : Leads fs ending links here (names ++ next :: more) spot) :
    ∃ place mode, Leads fs .followsLink links here names (.entry place (.directory mode)) := by
  generalize whole : names ++ next :: more = all at leads
  -- Either no first name is left, and the walk stands in a directory, or the rule takes one.
  induction leads generalizing names with
  | arrive => simp at whole
  | @stay links here name rest spot silent _ ih =>
    cases names with
    | nil => exact leads_nil directory
    | cons first names =>
      obtain ⟨rfl, rfl⟩ := List.cons.inj whole
      obtain ⟨place, mode, leads⟩ := ih directory rfl
      exact ⟨place, mode, .stay silent leads⟩
  | @up links here rest spot _ ih =>
    cases names with
    | nil => exact leads_nil directory
    | cons first names =>
      obtain ⟨rfl, rfl⟩ := List.cons.inj whole
      obtain ⟨place, mode, leads⟩ := ih (directory.tail tree) rfl
      exact ⟨place, mode, .up leads⟩
  | @free links here name rest passes isFree blank =>
    cases names with
    | nil => exact leads_nil directory
    | cons first names =>
      obtain ⟨rfl, rfl⟩ := List.cons.inj whole
      simp [said] at blank
  | @enter links here name rest spot mode passes entered _ ih =>
    cases names with
    | nil => exact leads_nil directory
    | cons first names =>
      obtain ⟨rfl, rfl⟩ := List.cons.inj whole
      obtain ⟨place, mode, leads⟩ := ih ⟨mode, entered⟩ rfl
      exact ⟨place, mode, .enter (passes.ofAppend) entered leads⟩
  | reach =>
    cases names with
    | nil => exact leads_nil directory
    | cons first names => simp at whole
  | keep =>
    cases names with
    | nil => exact leads_nil directory
    | cons first names => simp at whole
  | @follow links here name rest target spot passes link _ _ ih =>
    cases names with
    | nil => exact leads_nil directory
    | cons first names =>
      obtain ⟨rfl, rfl⟩ := List.cons.inj whole
      obtain ⟨place, mode, leads⟩ :=
        @ih (splitAll '/' target ++ names) (hasDirectory_startOf directory) (by simp)
      exact ⟨place, mode, .follow (passes.ofAppend) link (by simp) leads⟩

end SafeFetch.FileSystem
