import SafeFetch.Proofs.FileSystem.Resolution

/-!
# Resolution while a file system changes

Where names lead after an entry was put or taken away, compared with where they led before. A place
that holds a file or nothing can only be the end of a walk, so a change there is seen by the walks
that end there and by no others. A link may be met on the way as well, so removing one may break the
very path that named it.

## Main results

* `Leads.elsewhere`: a change at a place that holds no directory and no link is not seen by walks
  that end elsewhere;
* `Leads.retarget` and `Leads.retarget_keepsLink`: walks that end there see what stands there now;
* `walk_of_removed`: a path whose entry was removed leads to no entry;
* `Leads.made`: a directory that was made is found;
* `Leads.grow`: what was found is found after directories were made.
-/

namespace SafeFetch.FileSystem

open SafeFetch.Text

/-- The spot of a place, by what stands there. -/
def Spot.of (place : Place) : Option Entry → Spot
  | none => .vacant place
  | some standing => .entry place standing

@[simp]
theorem Spot.place_of (place : Place) (standing? : Option Entry) :
    (of place standing?).place = place := by
  cases standing? <;> rfl

/-- A spot that tells what is there is the one of its place. -/
theorem Spot.IsIn.eq_of {fs : FileSystem} {spot : Spot} (isIn : spot.IsIn fs) :
    spot = .of spot.place (fs.get? spot.place) := by
  cases spot with
  | entry place entry =>
    have standing : fs.get? place = some entry := isIn
    rw [Spot.place, standing, Spot.of]
  | vacant place =>
    rw [Spot.place, isIn.1, Spot.of]

/-- A place may take a file: it is free or holds one already. -/
def TakesFile (fs : FileSystem) (place : Place) : Prop :=
  fs.get? place = none ∨
    ∃ contents modified, fs.get? place = some (.file contents modified)

variable {fs fs' : FileSystem} {ending : Ending} {links : Nat} {here place : Place}
  {name : List Char} {names rest : List (List Char)} {spot : Spot} {entry : Entry}

/-- A place that may take a file is no directory. -/
theorem TakesFile.not_hasDirectory (takes : fs.TakesFile place) : ¬ fs.HasDirectory place := by
  rcases takes with isFree | ⟨contents, modified, file⟩
  · exact not_hasDirectory_of_none isFree
  · exact not_hasDirectory_of_some file (by simp)

/-- A directory stands elsewhere than at a place that may take a file. -/
theorem TakesFile.ne_of_directory {mode : Nat} {other : Place} (takes : fs.TakesFile place)
    (directory : fs.get? other = some (.directory mode)) : other ≠ place := by
  rintro rfl
  exact takes.not_hasDirectory ⟨mode, directory⟩

/-- A link stands elsewhere than at a place that may take a file. -/
theorem TakesFile.ne_of_link {target : List Char} {other : Place} (takes : fs.TakesFile place)
    (link : fs.get? other = some (.link target)) : other ≠ place := by
  rintro rfl
  rcases takes with isFree | ⟨contents, modified, file⟩
  · simp [isFree] at link
  · simp [file] at link

/-! ## Changes of files -/

/-- A walk that ends elsewhere does not see what stands at a place that may take a file. -/
theorem Leads.elsewhere (agrees : AgreesOff place fs fs') (takes : fs.TakesFile place)
    (leads : Leads fs ending links here names spot) (off : spot.place ≠ place) :
    Leads fs' ending links here names spot := by
  -- Directories and links on the way stand elsewhere, because the place holds neither.
  induction leads with
  | @arrive links here =>
    have same : fs'.get? here = fs.get? here := agrees.get?_eq off
    rw [← same]
    exact .arrive
  | stay silent _ ih => exact .stay silent (ih off)
  | up _ ih => exact .up (ih off)
  | free passes isFree blank => exact .free passes ((agrees.get?_eq off).trans isFree) blank
  | enter passes directory _ ih =>
    have same := agrees.get?_eq (takes.ne_of_directory directory)
    exact .enter passes (same.trans directory) (ih off)
  | reach passes file => exact .reach passes ((agrees.get?_eq off).trans file)
  | keep passes link keeps => exact .keep passes ((agrees.get?_eq off).trans link) keeps
  | follow passes link followed _ ih =>
    have same := agrees.get?_eq (takes.ne_of_link link)
    exact .follow passes (same.trans link) followed (ih off)

/-- A last name leads to the place that it names, if that may take a file. -/
theorem leads_last (passes : Passes .makesFile name []) (takes : fs.TakesFile (name :: here)) :
    Leads fs .makesFile links here [name] (.of (name :: here) (fs.get? (name :: here))) := by
  rcases takes with isFree | ⟨contents, modified, file⟩
  · rw [isFree]
    exact .free passes isFree rfl
  · rw [file]
    exact .reach passes file

/-- A walk that opens a file ends where it ended, whatever file stands there now. -/
theorem Leads.retarget (tree : fs.IsTree) (directory : fs.HasDirectory here)
    (agrees : AgreesOff place fs fs') (takes : fs.TakesFile place) (takes' : fs'.TakesFile place)
    (leads : Leads fs .makesFile links here names spot) (isThere : spot.place = place) :
    Leads fs' .makesFile links here names (.of place (fs'.get? place)) := by
  -- The walk meets the place at its last name, which is looked up again.
  induction leads with
  | arrive =>
    obtain rfl := isThere
    exact absurd directory takes.not_hasDirectory
  | stay silent _ ih => exact .stay silent (ih directory isThere)
  | up _ ih => exact .up (ih (directory.tail tree) isThere)
  | free passes _ blank =>
    obtain rfl := isThere
    obtain rfl := passes.rest_eq_nil blank
    exact leads_last passes takes'
  | enter passes entered _ ih =>
    have same := agrees.get?_eq (takes.ne_of_directory entered)
    exact .enter passes (same.trans entered) (ih ⟨_, entered⟩ isThere)
  | reach passes _ =>
    obtain rfl := isThere
    exact leads_last passes takes'
  | keep _ _ keeps => cases keeps
  | follow passes link followed _ ih =>
    have same := agrees.get?_eq (takes.ne_of_link link)
    exact .follow passes (same.trans link) followed (ih (hasDirectory_startOf directory) isThere)

/-- The same for a walk that keeps a link at its end, if there was none. -/
theorem Leads.retarget_keepsLink (tree : fs.IsTree) (directory : fs.HasDirectory here)
    (agrees : AgreesOff place fs fs') (takes : fs.TakesFile place) (takes' : fs'.TakesFile place)
    (leads : Leads fs .makesFile links here names spot) (isThere : spot.place = place)
    (unlinked : ∀ other target,
      ¬ Leads fs .keepsLink links here names (.entry other (.link target))) :
    Leads fs' .keepsLink links here names (.of place (fs'.get? place)) := by
  have opened := leads.retarget tree directory agrees takes takes' isThere
  rcases opened.ofMakesFile.toKeepsLink with kept | ⟨other, target, kept⟩
  · exact kept
  -- A link at the end would have been there before.
  · have elsewhere : other ≠ place := takes'.ne_of_link (kept.get?_eq (by simp))
    exact absurd (kept.elsewhere agrees.symm takes' elsewhere) (unlinked other target)

/-! ## Removals -/

/-- A path whose entry was removed leads to no entry: its last name is free, or a name on the way
is missing. -/
theorem walk_of_removed (tree : fs.IsTree) (directory : fs.HasDirectory here)
    (agrees : AgreesOff place fs fs') (isFree : fs'.get? place = none)
    (leads : Leads fs .keepsLink links here names (.entry place entry))
    (leaf : ∀ mode, entry ≠ .directory mode) :
    walk fs' .followsLink links here names = .ok (.vacant place) ∨
      walk fs' .followsLink links here names = .error .noEntry := by
  have standing := leads.get?_eq leaf
  generalize isEntry : Spot.entry place entry = spot at leads
  -- The entry is a file or a link. A file is met at the end only, but a link may be followed on the
  -- way before it is met at the end.
  induction leads with
  | arrive =>
    obtain ⟨mode, standing⟩ := directory
    simp only [standing, Option.getD_some, Spot.entry.injEq] at isEntry
    exact absurd isEntry.2 (leaf mode)
  | stay silent _ ih =>
    rw [walk_of_silent silent]
    exact ih directory isEntry
  | up _ ih =>
    rw [walk_up]
    exact ih (directory.tail tree) isEntry
  | free => cases isEntry
  | @enter links here name rest spot mode passes entered further ih =>
    have off : name :: here ≠ place := by
      rintro rfl
      exact leaf mode (Option.some.inj (standing.symm.trans entered))
    rw [walk_of_directory (passes.mono (by simp)) ((agrees.get?_eq off).trans entered)]
    exact ih ⟨_, entered⟩ isEntry
  | reach passes _ =>
    obtain ⟨rfl, -⟩ := Spot.entry.inj isEntry
    rw [walk_of_none passes.last isFree]
    exact .inl rfl
  | keep passes _ _ =>
    obtain ⟨rfl, -⟩ := Spot.entry.inj isEntry
    rw [walk_of_none passes.last isFree]
    exact .inl rfl
  | @follow links here name rest target spot passes link followed _ ih =>
    have passes : Passes .followsLink name rest := passes.mono (by simp)
    -- The link that is followed here may be the one that was removed.
    by_cases same : name :: here = place
    · subst same
      rw [walk_of_none passes isFree]
      split
      · exact .inl rfl
      · exact .inr rfl
    · rw [walk_of_link passes ((agrees.get?_eq same).trans link) (by simp)]
      exact ih (hasDirectory_startOf directory) isEntry

/-! ## New directories -/

/-- A directory that was made at a free name is where the name leads. -/
theorem Leads.made {mode : Nat} (agrees : AgreesOff place fs fs') (isFree : fs.get? place = none)
    (directory : fs'.get? place = some (.directory mode))
    (leads : Leads fs .keepsLink links here names (.vacant place)) :
    Leads fs' .followsLink links here names (.entry place (.directory mode)) := by
  generalize isVacant : Spot.vacant place = spot at leads
  have off {other : Place} {entry : Entry} (standing : fs.get? other = some entry) :
      fs'.get? other = some entry := by
    rw [agrees.get?_eq, standing]
    rintro rfl
    simp [isFree] at standing
  -- Nothing on the way is free, so only the last name sees the new directory.
  induction leads with
  | arrive => cases isVacant
  | stay silent _ ih => exact .stay silent (ih isVacant)
  | up _ ih => exact .up (ih isVacant)
  | @free links here name rest passes _ blank =>
    obtain rfl := Spot.vacant.inj isVacant
    have arrived : Leads fs' .followsLink links (name :: here) rest _ := leads_blank blank
    rw [directory] at arrived
    exact .enter (passes.mono (by simp)) directory arrived
  | enter passes entered _ ih => exact .enter (passes.mono (by simp)) (off entered) (ih isVacant)
  | reach => cases isVacant
  | keep => cases isVacant
  | follow passes link _ _ ih =>
    exact .follow (passes.mono (by simp)) (off link) (by simp) (ih isVacant)

/-- What was found is found after directories were made. -/
theorem Leads.grow {mode : Nat} (tree : fs.IsTree) (directory : fs.HasDirectory here)
    (grows : Grows mode fs fs') (leads : Leads fs ending links here names (.entry place entry)) :
    Leads fs' ending links here names (.entry place entry) := by
  generalize isEntry : Spot.entry place entry = spot at leads ⊢
  induction leads with
  | arrive =>
    obtain ⟨mode, standing⟩ := directory
    rw [standing, ← grows.get?_of_some standing]
    exact .arrive
  | stay silent _ ih => exact .stay silent (ih directory isEntry)
  | up _ ih => exact .up (ih (directory.tail tree) isEntry)
  | free => cases isEntry
  | enter passes entered _ ih =>
    exact .enter passes (grows.get?_of_some entered) (ih ⟨_, entered⟩ isEntry)
  | reach passes file => exact .reach passes (grows.get?_of_some file)
  | keep passes link keeps => exact .keep passes (grows.get?_of_some link) keeps
  | follow passes link followed _ ih =>
    exact .follow passes (grows.get?_of_some link) followed
      (ih (hasDirectory_startOf directory) isEntry)

end SafeFetch.FileSystem
