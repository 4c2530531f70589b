import SafeFetch.Destination
import SafeFetch.Proofs.Effect
import SafeFetch.Proofs.FileSystem.Below

/-!
# Directories on the way to a file

What making the directories above a file does: it never takes anything away, it succeeds exactly
where the directory is there in the end, and along a path that does not lead up it makes the
missing directories from the innermost one that was there.

## Main definitions

* `Extends`: directories are added to a tree;
* `Digs`: nothing changes, or the directory of a path is a new one.

## Main results

* `makeDirectories_ok_iff`: directories are made exactly if the innermost is there in the end;
* `prepare_ok_iff`: a file can be prepared for exactly if its directory is there in the end;
* `prepare_digs`: nothing changes, or the directory above the file is a new one;
* `ensure_ok`: a directory that was asked for is there;
* `fst_resolve` and `resolve_ok`: where a file goes.
-/

namespace SafeFetch.Destination

open SafeFetch.FileSystem SafeFetch.Text

variable {s s' : Session} {path : Path} {makeAbove : Action Unit} {mode room : Nat} {root : Root}
  {names : List (List Char)} {outcome : Except Failure Unit}

/-- Directories are added to a tree, which stays one. -/
def Extends (mode : Nat) (fs fs' : FileSystem) : Prop :=
  fs.IsTree → Grows mode fs fs' ∧ fs'.IsTree

theorem composes_extends (mode : Nat) : Action.Composes (Extends mode) where
  refl fs tree := ⟨.refl mode fs, tree⟩
  trans h h' tree :=
    have ⟨grows, tree'⟩ := h tree
    have ⟨grows', tree''⟩ := h' tree'
    ⟨grows.trans grows', tree''⟩

/-- Making a directory adds one. -/
theorem leaves_makeDirectory (path : String) (mode : Nat) :
    Action.Leaves (Extends mode) (Action.change (·.makeDirectory path mode)) :=
  .change (composes_extends mode) fun _ _ made tree =>
    have ⟨grows, tree', _⟩ := makeDirectory_grows tree made
    ⟨grows, tree'⟩

/-! ## One directory -/

/-- How making one directory ends. -/
inductive MakesOne (path : Path) (makeAbove : Action Unit) (s : Session) :
    Except Failure Unit → Session → Prop
  | found (found : s.fs.isDirectory path.text = .ok true) : MakesOne path makeAbove s (.ok ()) s
  | unclear {failure : Failure} (unclear : s.fs.isDirectory path.text = .error failure) :
      MakesOne path makeAbove s (.error failure) s
  | stuck {failure : Failure} {s' : Session} (missing : s.fs.isDirectory path.text = .ok false)
      (above : makeAbove.runOn s = (.error failure, s')) :
      MakesOne path makeAbove s (.error failure) s'
  | made {s' : Session} {fs : FileSystem} (missing : s.fs.isDirectory path.text = .ok false)
      (above : makeAbove.runOn s = (.ok (), s'))
      (made : s'.fs.makeDirectory path.text directoryMode = .ok fs) :
      MakesOne path makeAbove s (.ok ()) { s' with fs }
  | appeared {s' : Session} (missing : s.fs.isDirectory path.text = .ok false)
      (above : makeAbove.runOn s = (.ok (), s'))
      (found : s'.fs.isDirectory path.text = .ok true) :
      MakesOne path makeAbove s (.ok ()) s'
  | refused {failure : Failure} {s' : Session} (missing : s.fs.isDirectory path.text = .ok false)
      (above : makeAbove.runOn s = (.ok (), s'))
      (lost : s'.fs.isDirectory path.text ≠ .ok true) :
      MakesOne path makeAbove s (.error failure) s'

/-- Making one directory ends in one of these ways. -/
theorem makesOne (run : (makeDirectories.makeOne path makeAbove).runOn s = (outcome, s')) :
    MakesOne path makeAbove s outcome s' := by
  rw [makeDirectories.makeOne, Action.runOn_bind, Action.runOn_query] at run
  rcases looked : s.fs.isDirectory path.text with failure | isThere
  · rw [looked] at run
    obtain ⟨rfl, rfl⟩ := Prod.mk.inj run
    exact .unclear looked
  rw [looked] at run
  cases isThere with
  | true =>
    obtain ⟨rfl, rfl⟩ := Prod.mk.inj run
    exact .found looked
  | false =>
    simp only [Bool.false_eq_true, if_false, Action.runOn_bind] at run
    rcases above : makeAbove.runOn s with ⟨failure | _, between⟩
    · rw [above] at run
      obtain ⟨rfl, rfl⟩ := Prod.mk.inj run
      exact .stuck looked above
    rw [above] at run
    simp only [Action.runOn_tryCatch, Action.runOn_change] at run
    rcases made : between.fs.makeDirectory path.text directoryMode with failure | fs
    · rw [made] at run
      -- A refusal passes if the directory has appeared meanwhile.
      by_cases found : between.fs.isDirectory path.text = .ok true
      · obtain ⟨mode, there⟩ := isDirectory_eq_true_iff.mp found
        obtain rfl := Except.error.inj ((makeDirectory_of_stat there).symm.trans made)
        simp only [Action.runOn_bind, Action.runOn_query, found, if_true, Action.runOn_pure] at run
        obtain ⟨rfl, rfl⟩ := Prod.mk.inj run
        exact .appeared looked above found
      -- Any other refusal is passed on, and so is a failure of looking again.
      · obtain ⟨later, rfl, rfl⟩ : ∃ later, outcome = .error later ∧ s' = between := by
          dsimp only at run
          split at run
          · rw [Action.runOn_bind, Action.runOn_query] at run
            rcases again : between.fs.isDirectory path.text with later | isThere
            · rw [again] at run
              exact ⟨_, (Prod.mk.inj run).1.symm, (Prod.mk.inj run).2.symm⟩
            · cases isThere with
              | true => exact absurd again found
              | false =>
                rw [again] at run
                exact ⟨_, (Prod.mk.inj run).1.symm, (Prod.mk.inj run).2.symm⟩
          · exact ⟨_, (Prod.mk.inj run).1.symm, (Prod.mk.inj run).2.symm⟩
        exact .refused looked above found
    · rw [made] at run
      obtain ⟨rfl, rfl⟩ := Prod.mk.inj run
      exact .made looked above made

theorem leaves_makeOne (leaves : Action.Leaves (Extends directoryMode) makeAbove) (path : Path) :
    Action.Leaves (Extends directoryMode) (makeDirectories.makeOne path makeAbove) := by
  intro s
  have composes := composes_extends directoryMode
  have here := leaves s
  rcases run : (makeDirectories.makeOne path makeAbove).runOn s with ⟨outcome, s'⟩
  cases makesOne run with
  | found => exact composes.refl _
  | unclear => exact composes.refl _
  | stuck _ above =>
    rw [above] at here
    exact here
  | made _ above made =>
    rw [above] at here
    refine composes.trans here fun tree => ?_
    have ⟨grows, tree', _⟩ := makeDirectory_grows tree made
    exact ⟨grows, tree'⟩
  | appeared _ above =>
    rw [above] at here
    exact here
  | refused _ above =>
    rw [above] at here
    exact here

/-! ## Directories above one another -/

theorem leaves_within (leaves : Action.Leaves (Extends mode) makeAbove) (room : Nat) :
    Action.Leaves (Extends mode) (within room makeAbove) := by
  rw [within]
  split
  · exact .throw (composes_extends mode) _
  · exact leaves

/-- Making directories only adds some. -/
theorem leaves_makeDirectories (root : Root) (room : Nat) (names : List (List Char)) :
    Action.Leaves (Extends directoryMode) (makeDirectories root room names) := by
  induction names generalizing room with
  | nil => exact leaves_makeOne (.pure (composes_extends directoryMode) ()) _
  | cons name above ih => exact leaves_makeOne (leaves_within (ih (room - 1)) room) _

/-- Making one directory succeeds exactly if it is there in the end, provided that it cannot be
there if what is above it could not be made. -/
theorem makeOne_ok_iff (tree : s.fs.IsTree)
    (leaves : Action.Leaves (Extends directoryMode) makeAbove)
    (needs : ∀ failure s', makeAbove.runOn s = (.error failure, s') →
      s.fs.isDirectory path.text ≠ .ok true → s'.fs.isDirectory path.text ≠ .ok true)
    (run : (makeDirectories.makeOne path makeAbove).runOn s = (outcome, s')) :
    outcome = .ok () ↔ s'.fs.isDirectory path.text = .ok true := by
  have here := leaves s
  cases makesOne run with
  | found found => simp [found]
  | unclear unclear => simp [unclear]
  | stuck missing above => simpa using needs _ _ above (by simp [missing])
  | made _ above made =>
    rw [above] at here
    have ⟨_, _, found⟩ := makeDirectory_grows (here tree).2 made
    simp [found]
  | appeared _ _ found => simp [found]
  | refused _ _ lost => simpa using lost

/-- The path of names, innermost first, goes one name further than the path of those above. -/
theorem path_cons (root : Root) (name : List Char) (above : List (List Char)) :
    ({ root, names := (name :: above).reverse } : Path) =
      Path.further { root, names := above.reverse } name := by
  simp [Path.further]

/-- Directories are made exactly if the innermost is there in the end. -/
theorem makeDirectories_ok_iff (tree : s.fs.IsTree)
    (proper : Path.IsProper { root, names := names.reverse })
    (run : (makeDirectories root room names).runOn s = (outcome, s')) :
    outcome = .ok () ↔
      s'.fs.isDirectory (Path.text { root, names := names.reverse }) = .ok true := by
  -- If the directories above could not be made, the innermost one can not be there either.
  induction names generalizing room s s' outcome with
  | nil =>
    refine makeOne_ok_iff tree (.pure (composes_extends directoryMode) ()) ?_ run
    intro failure s' failed
    cases failed
  | cons name above ih =>
    have leaves := leaves_makeDirectories root (room - 1) above
    refine makeOne_ok_iff tree (leaves_within leaves room) ?_ run
    intro failure s' failed missing
    rw [within] at failed
    split at failed
    · obtain ⟨-, rfl⟩ := Prod.mk.inj failed
      exact missing
    · have grown := leaves s
      rw [failed] at grown
      rw [path_cons] at proper ⊢
      intro found
      obtain ⟨mode, there⟩ := isDirectory_eq_true_iff.mp found
      have foundAbove := isDirectory_of_further (grown tree).2 proper there
      exact absurd ((ih tree (Path.isProper_further.mp proper).1 failed).mpr foundAbove) (by simp)

theorem runOn_of_within {room : Nat} (run : (within room makeAbove).runOn s = (.ok (), s')) :
    makeAbove.runOn s = (.ok (), s') := by
  rw [within] at run
  split at run
  · cases run
  · exact run

/-- What making directories changes along a path that does not lead up: nothing, or the path leads
to a new directory, and only places on the way there are new. -/
def Digs (fs fs' : FileSystem) (path : Path) : Prop :=
  fs' = fs ∨
    ∃ place mode, fs'.spotAt .followsLink path.text = .ok (.entry place (.directory mode)) ∧
      fs.get? place = none ∧ ∀ other, fs'.get? other = fs.get? other ∨ other <:+ place

variable {fs fs' : FileSystem} {name : List Char}

/-- Nothing stands below a directory that is new. -/
theorem get?_below_new {place : Place} (tree : fs.IsTree) (isFree : fs.get? place = none)
    (others : ∀ other, fs'.get? other = fs.get? other ∨ other <:+ place) (name : List Char) :
    fs'.get? (name :: place) = none := by
  rcases others (name :: place) with same | above
  · exact same.trans (tree.get?_below (not_hasDirectory_of_none isFree) name)
  · exact absurd above.length_le (by simp)

/-- One directory more is made below a new directory, or below one that was there. -/
theorem Digs.further (tree : fs.IsTree) (tree' : fs'.IsTree) (grows : Grows mode fs fs')
    (proper : (path.further name).IsProper) (notUp : name ≠ ['.', '.'])
    (digs : Digs fs fs' path) {made : Place}
    (found : fs'.spotAt .keepsLink (path.further name).text = .ok (.vacant made)) (mode : Nat) :
    Digs fs (fs'.put made (.directory mode)) (path.further name) := by
  have isName := (Path.isProper_further.mp proper).2
  obtain ⟨above, _, links, foundAbove, leads⟩ := directory_of_further tree' proper found
  have isFree : fs'.get? made = none := (isIn_of_spotAt tree' found).1
  obtain rfl : made = name :: above := by
    have same := congrArg Spot.place (leads.last_eq isName notUp (.inl rfl))
    rwa [Spot.place_of] at same
  -- The directory above is the new one, or it was there before: the new one stands below it.
  refine .inr ⟨name :: above, mode, spotAt_made tree' found mode, grows.get?_of_none isFree,
    fun other => ?_⟩
  by_cases same : other = name :: above
  · exact .inr (same ▸ List.suffix_rfl)
  rw [get?_put_of_ne fs' same]
  rcases digs with rfl | ⟨place, _, foundAbove', -, others⟩
  · exact .inl rfl
  · obtain ⟨rfl, -⟩ := Spot.entry.inj (Except.ok.inj (foundAbove.symm.trans foundAbove'))
    exact (others other).imp id fun isAbove => isAbove.trans (List.suffix_cons name above)

/-- Below a new directory, a further name that does not lead up finds nothing. -/
theorem Digs.spot_of_further {ending : FileSystem.Ending} {spot : Spot} (tree : fs.IsTree)
    (tree' : fs'.IsTree) (proper : (path.further name).IsProper) (notUp : name ≠ ['.', '.'])
    (digs : Digs fs fs' path) (found : fs'.spotAt ending (path.further name).text = .ok spot) :
    fs' = fs ∨
      ∃ place, spot = .vacant (name :: place) ∧
        ∀ other, fs'.get? other = fs.get? other ∨ other <:+ place := by
  rcases digs with same | ⟨place, _, foundAbove, isFree, others⟩
  · exact .inl same
  obtain ⟨above, _, links, foundAbove', leads⟩ := directory_of_further tree' proper found
  obtain ⟨rfl, -⟩ := Spot.entry.inj (Except.ok.inj (foundAbove.symm.trans foundAbove'))
  have nothing := get?_below_new tree isFree others name
  have spot := leads.last_eq (Path.isProper_further.mp proper).2 notUp (.inr (by simp [nothing]))
  rw [nothing] at spot
  exact .inr ⟨place, spot, others⟩

/-- A directory that is there after those above it were made was there before. -/
theorem Digs.isDirectory (tree : fs.IsTree) (tree' : fs'.IsTree)
    (proper : (path.further name).IsProper) (notUp : name ≠ ['.', '.']) (digs : Digs fs fs' path)
    (found : fs'.isDirectory (path.further name).text = .ok true) :
    fs.isDirectory (path.further name).text = .ok true := by
  obtain ⟨mode, there⟩ := isDirectory_eq_true_iff.mp found
  obtain ⟨place, foundHere⟩ := stat_eq_ok_iff.mp there
  rcases digs.spot_of_further tree tree' proper notUp foundHere with rfl | ⟨_, vacant, -⟩
  · exact found
  · cases vacant

/-- Along a path that does not lead up, directories are made from the innermost one that was
there. -/
theorem makeDirectories_digs (tree : s.fs.IsTree)
    (proper : Path.IsProper { root, names := names.reverse }) (level : ['.', '.'] ∉ names)
    (run : (makeDirectories root room names).runOn s = (.ok (), s')) :
    Digs s.fs s'.fs { root, names := names.reverse } := by
  -- The first directory that is there ends the recursion, and below it all are new.
  induction names generalizing room s s' with
  | nil =>
    have found : s.fs.isDirectory (Path.text { root, names := [].reverse }) = .ok true :=
      isDirectory_of_names_nil tree rfl
    cases makesOne run with
    | found => exact .inl rfl
    | made missing => cases found.symm.trans missing
    | appeared missing => cases found.symm.trans missing
  | cons name names ih =>
    obtain ⟨notUp, level⟩ := not_or.mp (mt List.mem_cons.mpr level)
    have leaves := leaves_makeDirectories root (room - 1) names s
    rw [path_cons] at proper ⊢
    cases makesOne run with
    | found => exact .inl rfl
    | made _ above made =>
      have above := runOn_of_within above
      rw [above] at leaves
      obtain ⟨grows, tree'⟩ := leaves tree
      obtain ⟨place, found, rfl⟩ := makeDirectory_eq_ok_iff.mp made
      rw [path_cons] at found
      have digs := ih tree (Path.isProper_further.mp proper).1 level above
      exact digs.further tree tree' grows proper (Ne.symm notUp) found _
    | appeared missing above found =>
      have above := runOn_of_within above
      rw [above] at leaves
      rw [path_cons] at missing found
      have digs := ih tree (Path.isProper_further.mp proper).1 level above
      have found := digs.isDirectory tree (leaves tree).2 proper (Ne.symm notUp) found
      simp [found] at missing

variable [Platform]

/-! ## The directory of a file -/

/-- Preparing for a file only adds directories. -/
theorem leaves_prepare (file : Path) : Action.Leaves (Extends directoryMode) (prepare file) := by
  have composes := composes_extends directoryMode
  intro s
  rw [prepare, Action.runOn_bind, Action.runOn_get]
  dsimp only
  split
  · exact composes.refl s.fs
  · exact composes.refl s.fs
  · exact Action.Leaves.bind composes (.report composes _ _)
      (fun _ => leaves_makeDirectories _ _ _) s
  · exact composes.refl s.fs

variable {file : Path}

/-- Nothing has to be prepared for a file in a directory that is there. -/
theorem prepare_of_directory (there : s.fs.stat file.parent.text = .ok (.directory mode)) :
    (prepare file).runOn s = (.ok (), s) := by
  rw [prepare, Action.runOn_bind, Action.runOn_get]
  simp only [there, Action.runOn_pure]

/-- How preparing for a file goes: the directory is there, something else is in its way, or
directories are made. -/
theorem prepare_cases (run : (prepare file).runOn s = (outcome, s')) :
    (outcome = .ok () ∧ s' = s ∧ s.fs.isDirectory file.parent.text = .ok true) ∨
      (outcome ≠ .ok () ∧ s' = s ∧ s.fs.isDirectory file.parent.text ≠ .ok true) ∨
      ∃ start, start.fs = s.fs ∧
        (makeDirectories file.parent.root Platform.directoryLimit file.parent.names.reverse).runOn
          start = (outcome, s') := by
  rw [prepare, Action.runOn_bind, Action.runOn_get] at run
  dsimp only at run
  split at run
  next mode there =>
    obtain ⟨rfl, rfl⟩ := Prod.mk.inj run
    exact .inl ⟨rfl, rfl, isDirectory_eq_true_iff.mpr ⟨mode, there⟩⟩
  next entry other there =>
    obtain ⟨rfl, rfl⟩ := Prod.mk.inj run
    refine .inr (.inl ⟨by simp, rfl, fun found => ?_⟩)
    obtain ⟨mode, directory⟩ := isDirectory_eq_true_iff.mp found
    exact other mode (Except.ok.inj (there.symm.trans directory))
  next missing =>
    obtain ⟨log, run⟩ : ∃ log, (makeDirectories file.parent.root Platform.directoryLimit
        file.parent.names.reverse).runOn { s with log } = (outcome, s') := by
      rw [Action.runOn_bind, Action.runOn_report] at run
      exact ⟨_, run⟩
    exact .inr (.inr ⟨{ s with log }, rfl, run⟩)
  next failure _ there =>
    obtain ⟨rfl, rfl⟩ := Prod.mk.inj run
    refine .inr (.inl ⟨by simp, rfl, fun found => ?_⟩)
    obtain ⟨mode, directory⟩ := isDirectory_eq_true_iff.mp found
    cases directory.symm.trans there

/-- A file can be prepared for exactly if its directory is there in the end. -/
theorem prepare_ok_iff (tree : s.fs.IsTree) (proper : file.IsProper)
    (run : (prepare file).runOn s = (outcome, s')) :
    outcome = .ok () ↔ s'.fs.isDirectory file.parent.text = .ok true := by
  rcases prepare_cases run with ⟨rfl, rfl, found⟩ | ⟨failed, rfl, lost⟩ | ⟨start, same, made⟩
  · simp [found]
  · simp [failed, lost]
  · have proper : Path.IsProper
        { root := file.parent.root, names := file.parent.names.reverse.reverse } := by
      rw [List.reverse_reverse]
      exact proper.parent
    have made := makeDirectories_ok_iff (same ▸ tree) proper made
    rwa [List.reverse_reverse] at made

/-- Along a path that does not lead up, nothing changes, or the directory of the file is new. -/
theorem prepare_digs (tree : s.fs.IsTree) (proper : file.IsProper)
    (level : ['.', '.'] ∉ file.names) (run : (prepare file).runOn s = (.ok (), s')) :
    Digs s.fs s'.fs file.parent := by
  rcases prepare_cases run with ⟨-, rfl, -⟩ | ⟨failed, -, -⟩ | ⟨start, same, made⟩
  · exact .inl rfl
  · exact absurd rfl failed
  · have proper : Path.IsProper
        { root := file.parent.root, names := file.parent.names.reverse.reverse } := by
      rw [List.reverse_reverse]
      exact proper.parent
    have level : ['.', '.'] ∉ file.parent.names.reverse := fun isIn =>
      level ((List.dropLast_sublist file.names).subset (List.mem_reverse.mp isIn))
    have digs := makeDirectories_digs (same ▸ tree) proper level made
    rwa [List.reverse_reverse, same] at digs

/-! ## A directory that is asked for -/

omit [Platform] in
theorem leaves_settle {action : Action Unit} (leaves : Action.Leaves (Extends mode) action)
    (path : Path) : Action.Leaves (Extends mode) (makeIfMissing.settle path action) := by
  have composes := composes_extends mode
  refine .tryCatch composes leaves fun failure => ?_
  split
  · refine .bind composes (.query composes _) fun found => ?_
    split
    · exact .pure composes ()
    · exact .throw composes _
  · exact .throw composes _

omit [Platform] in
theorem leaves_makeIfMissing (leaves : Action.Leaves (Extends openMode) makeAbove) (path : Path) :
    Action.Leaves (Extends openMode) (makeIfMissing path makeAbove) := by
  have composes := composes_extends openMode
  refine .tryCatch composes (leaves_makeDirectory path.text openMode) fun failure => ?_
  split
  next place =>
    have onward : Action.Leaves (Extends openMode) (do
        makeAbove
        makeIfMissing.settle path (Action.change (·.makeDirectory path.text openMode))) :=
      .bind composes leaves fun _ => leaves_settle (leaves_makeDirectory path.text openMode) path
    by_cases bare : path.names.isEmpty = true
    · simp only [bare, if_true]
      exact .bind composes (.throw composes _) fun _ => onward
    · simp only [bare]
      exact onward
  next => exact leaves_settle (.throw composes failure) path

omit [Platform] in
theorem leaves_ensureNames (root : Root) (room : Nat) (names : List (List Char)) :
    Action.Leaves (Extends openMode) (ensureNames root room names) := by
  induction names generalizing room with
  | nil => exact leaves_makeIfMissing (.pure (composes_extends openMode) ()) _
  | cons name above ih => exact leaves_makeIfMissing (leaves_within (ih (room - 1)) room) _

/-- Asking for a directory only adds some. -/
theorem leaves_ensure (path : Path) : Action.Leaves (Extends openMode) (ensure path) :=
  leaves_ensureNames path.root Platform.openLimit path.names.reverse

omit [Platform] in
/-- A refusal passes only if the directory is there. -/
theorem settle_ok {action : Action Unit}
    (run : (makeIfMissing.settle path action).runOn s = (.ok (), s')) :
    action.runOn s = (.ok (), s') ∨ s'.fs.isDirectory path.text = .ok true := by
  rw [makeIfMissing.settle, Action.runOn_tryCatch] at run
  rcases first : action.runOn s with ⟨failure | _, between⟩
  · rw [first] at run
    dsimp only at run
    split at run
    · obtain ⟨found, next, looked, run⟩ := Action.runOn_bind_eq_ok.mp run
      rw [Action.runOn_query] at looked
      obtain ⟨isThere, rfl⟩ := Prod.mk.inj looked
      cases found with
      | true =>
        obtain ⟨-, rfl⟩ := Prod.mk.inj run
        exact .inr isThere
      | false => cases run
    · cases run
  · rw [first] at run
    exact .inl run

omit [Platform] in
theorem isDirectory_of_change (tree : s.fs.IsTree)
    (run : (Action.change (·.makeDirectory path.text mode)).runOn s = (.ok (), s')) :
    s'.fs.isDirectory path.text = .ok true := by
  rw [Action.runOn_change] at run
  cases made : s.fs.makeDirectory path.text mode with
  | error failure =>
    rw [made] at run
    cases run
  | ok fs =>
    rw [made] at run
    obtain ⟨-, rfl⟩ := Prod.mk.inj run
    exact (makeDirectory_grows tree made).2.2

omit [Platform] in
theorem makeIfMissing_ok (tree : s.fs.IsTree)
    (leaves : Action.Leaves (Extends openMode) makeAbove)
    (run : (makeIfMissing path makeAbove).runOn s = (.ok (), s')) :
    s'.fs.isDirectory path.text = .ok true := by
  rw [makeIfMissing, Action.runOn_tryCatch] at run
  rcases first : (Action.change (·.makeDirectory path.text openMode)).runOn s with
    ⟨failure | _, between⟩
  · have start := leaves_makeDirectory path.text openMode s tree
    rw [first] at run start
    dsimp only at run
    split at run
    next place =>
      -- Once those above are made, the second attempt must leave the directory there.
      have onward {next : Session} (treeHere : next.fs.IsTree)
          (run : Action.runOn (do
            makeAbove
            makeIfMissing.settle path (Action.change (·.makeDirectory path.text openMode)))
            next = (.ok (), s')) : s'.fs.isDirectory path.text = .ok true := by
        obtain ⟨_, later, above, run⟩ := Action.runOn_bind_eq_ok.mp run
        have treeThere := leaves next treeHere
        rw [above] at treeThere
        exact (settle_ok run).elim (isDirectory_of_change treeThere.2) id
      by_cases bare : path.names.isEmpty = true
      · simp only [bare, if_true] at run
        obtain ⟨_, later, thrown, _⟩ := Action.runOn_bind_eq_ok.mp run
        cases thrown
      · simp only [bare] at run
        exact onward start.2 run
    next =>
      rcases settle_ok run with thrown | found
      · cases thrown
      · exact found
  · rw [first] at run
    obtain ⟨-, rfl⟩ := Prod.mk.inj run
    exact isDirectory_of_change tree first

/-- A directory that was asked for is there. -/
theorem ensure_ok (tree : s.fs.IsTree) (run : (ensure path).runOn s = (.ok (), s')) :
    s'.fs.isDirectory path.text = .ok true := by
  rw [ensure] at run
  cases names : path.names.reverse with
  | nil =>
    rw [names] at run
    have found := makeIfMissing_ok tree (.pure (composes_extends openMode) ()) run
    have same : path.names = [] := by simpa using names
    obtain ⟨root, _⟩ := path
    obtain rfl := same
    exact found
  | cons name above =>
    rw [names] at run
    have leaves := leaves_ensureNames path.root (Platform.openLimit - 1) above
    have found := makeIfMissing_ok tree (leaves_within leaves Platform.openLimit) run
    rw [← names, List.reverse_reverse] at found
    exact found

/-- A directory that is there needs not be made. -/
theorem ensure_of_directory (found : s.fs.isDirectory path.text = .ok true) :
    (ensure path).runOn s = (.ok (), s) := by
  obtain ⟨mode, there⟩ := isDirectory_eq_true_iff.mp found
  have passes (makeAbove : Action Unit) : (makeIfMissing path makeAbove).runOn s = (.ok (), s) := by
    simp only [makeIfMissing, makeIfMissing.settle, Action.runOn_tryCatch, Action.runOn_change,
      makeDirectory_of_stat there, refuse, Action.runOn_throw, Action.runOn_bind,
      Action.runOn_query, found, if_true, Action.runOn_pure]
  have isPath : ({ root := path.root, names := path.names.reverse.reverse } : Path) = path := by
    rw [List.reverse_reverse]
  rw [ensure]
  cases names : path.names.reverse with
  | nil =>
    rw [names, List.reverse_nil] at isPath
    rw [ensureNames, isPath]
    exact passes _
  | cons name above =>
    rw [names] at isPath
    rw [ensureNames, isPath]
    exact passes _

/-! ## Choosing the path of a file -/

/-- The path of a file is what its destination says, or a name in the directory that it says. -/
theorem resolve_ok {destination : String} {info : FileInfo} {chosen : Path}
    (run : (resolve destination info).runOn s = (.ok chosen, s')) :
    (chosen = .ofText destination ∧ endsInSlash destination = false ∧
        s.fs.isDirectory (Path.ofText destination).text = .ok false) ∨
      ∃ name, info.chooseName.1 = .ok name ∧ chosen = (Path.ofText destination).child name := by
  -- Both ways to a directory end with the choice of a name.
  have named {s : Session} (run : Action.runOn (do
      let name ← Action.reporting info.chooseName
      return (Path.ofText destination).child name) s = (.ok chosen, s')) :
      ∃ name, info.chooseName.1 = .ok name ∧ chosen = (Path.ofText destination).child name := by
    obtain ⟨name, next, chooses, run⟩ := Action.runOn_bind_eq_ok.mp run
    rw [Action.runOn_reporting] at chooses
    exact ⟨name, (Prod.mk.inj chooses).1, (Except.ok.inj (Prod.mk.inj run).1).symm⟩
  rw [resolve] at run
  dsimp only at run
  split at run
  next slash => exact .inr (named run)
  next slash =>
    obtain ⟨isDirectory, next, looks, run⟩ := Action.runOn_bind_eq_ok.mp run
    rw [Action.runOn_query] at looks
    obtain ⟨looked, rfl⟩ := Prod.mk.inj looks
    cases isDirectory with
    | true => exact .inr (named run)
    | false =>
      exact .inl ⟨(Except.ok.inj (Prod.mk.inj run).1).symm, by simpa using slash, looked⟩

/-- The path of a file depends on nothing of a session but what its destination leads to. -/
theorem fst_resolve (destination : String) (info : FileInfo) (s : Session) :
    ((resolve destination info).runOn s).1 =
      (if endsInSlash destination then .ok true
        else s.fs.isDirectory (Path.ofText destination).text).bind fun isDirectory =>
          if isDirectory then info.chooseName.1.map (Path.ofText destination).child
          else .ok (Path.ofText destination) := by
  have named (s : Session) : (Action.runOn (do
      let name ← Action.reporting info.chooseName
      return (Path.ofText destination).child name) s).1 =
        info.chooseName.1.map (Path.ofText destination).child := by
    rw [Action.runOn_bind, Action.runOn_reporting]
    cases info.chooseName.1 <;> rfl
  rw [resolve]
  dsimp only
  split
  · exact named s
  · rw [Action.runOn_bind, Action.runOn_query]
    rcases s.fs.isDirectory (Path.ofText destination).text with failure | isDirectory
    · rfl
    · cases isDirectory with
      | true => exact named s
      | false => rfl

/-- A file has no path if nobody can tell whether its destination is a directory, or if it goes into
one and has no name. -/
theorem fst_resolve_eq_error_iff {destination : String} {info : FileInfo} {failure : Failure} :
    ((resolve destination info).runOn s).1 = .error failure ↔
      (endsInSlash destination = false ∧
          s.fs.isDirectory (Path.ofText destination).text = .error failure) ∨
        (endsInSlash destination = true ∨
            s.fs.isDirectory (Path.ofText destination).text = .ok true) ∧
          info.chooseName.1 = .error failure := by
  rw [fst_resolve]
  cases endsInSlash destination with
  | true => cases info.chooseName.1 <;> simp [Except.bind, Except.map]
  | false =>
    rcases s.fs.isDirectory (Path.ofText destination).text with other | _ | _
    · simp [Except.bind]
    · simp [Except.bind]
    · cases info.chooseName.1 <;> simp [Except.bind, Except.map]

/-- A file that goes into a directory gets the name that is chosen for it. -/
theorem resolve_of_directory {destination name : String} {info : FileInfo}
    (found : s.fs.isDirectory (Path.ofText destination).text = .ok true)
    (chooses : info.chooseName.1 = .ok name) :
    ((resolve destination info).runOn s).1 = .ok ((Path.ofText destination).child name) := by
  rw [fst_resolve, found, chooses, ite_self]
  rfl

/-- The path of a file has proper names. -/
theorem isProper_of_resolve {destination : String} {info : FileInfo} {chosen : Path}
    (run : (resolve destination info).runOn s = (.ok chosen, s')) : chosen.IsProper := by
  rcases resolve_ok run with ⟨rfl, -, -⟩ | ⟨name, -, rfl⟩
  · exact Path.isProper_ofText destination
  · exact (Path.isProper_ofText destination).child name

end SafeFetch.Destination
