import SafeFetch.Proofs.Download.Stages

/-!
# Files that are already there

Downloads that do not replace files should leave alone every file that is there, over any number of
them and whatever becomes of each. They do, except for one way in: whether a file is there is looked
at before the missing directories are made. A path that leads up again below a missing directory
leads nowhere then, and to a file once the directory is made; that file is emptied.

## Main definitions

* `Call`: a download as it is called for, and the file system after it;
* `Reenters`: a path that led nowhere leads to a file once its directories are made.

## Main results

* `isTree_afterCalls`: downloads keep a file system a tree;
* `file_after_calls`: what becomes of a file over a sequence of downloads;
* `file_kept_of_level`: every file is kept if no path leads up;
* `file_lost_below_missing_directory`: a download that empties a file that was there.
-/

namespace SafeFetch.Download

open SafeFetch.FileSystem SafeFetch.Transfer SafeFetch.Destination

/-- A download as it is called for. -/
structure Call where
  transport : Http.Transport
  options : DownloadOptions
  signal : Option CancelSignal

namespace Call

/-- The session that a call starts on a file system. -/
def start (call : Call) (fs : FileSystem) : Session := .start fs call.signal

/-- The file system after a call. -/
def after [Platform] (call : Call) (fs : FileSystem) : FileSystem :=
  ((run call.transport call.options).runOn (call.start fs)).2.fs

end Call

section

variable [Platform]

/-- The file system after a sequence of calls. -/
def afterCalls (fs : FileSystem) (calls : List Call) : FileSystem :=
  calls.foldl (fun fs call => call.after fs) fs

/-- The path of a call leads nowhere, and once the directories on it are made, it leads to the file
at a place. -/
inductive Reenters (call : Call) (fs : FileSystem) (delivery : Delivery) (place : Place) : Prop
  | intro {located ready : Session} {hasher : Option Hasher} {contents : List UInt8}
      {modified : Option Int}
      (locates : (locate call.transport call.options).runOn (call.start fs) =
        (.ok delivery, located))
      (nowhere : located.fs.leadsSomewhere delivery.path.text = .ok false)
      (setsUp : (setUp call.options delivery.path).runOn located = (.ok hasher, ready))
      (leads : ready.fs.spotAt .followsLink delivery.path.text =
        .ok (.entry place (.file contents modified)))

variable {call : Call} {fs : FileSystem} {delivery : Delivery} {place : Place}
  {contents : List UInt8} {modified : Option Int}

/-- Only a path that leads up can re-enter a file. -/
theorem Reenters.leadsUp (tree : fs.IsTree) (reenters : Reenters call fs delivery place) :
    ['.', '.'] ∈ delivery.path.names := by
  obtain @⟨located, ready, hasher, contents, modified, locates, nowhere, setsUp, leads⟩ := reenters
  by_cases level : ['.', '.'] ∈ delivery.path.names
  · exact level
  have same : located.fs = fs := fs_of_locate locates
  rw [← same] at tree
  have grown := leaves_setUp call.options delivery.path located tree
  rw [setsUp] at grown
  obtain ⟨-, prepared, prepares, same⟩ := setUp_ok setsUp
  have proper := isProper_of_locate locates
  have digs := prepare_digs tree proper level prepares
  rw [← same] at digs
  obtain ⟨above, name, isFurther, isAbove, notUp⟩ :=
    (opens_of_spotAt grown.2 leads).exists_eq_further grown.2 level
  rw [isAbove] at digs
  rw [isFurther] at nowhere leads proper
  -- Below a new directory there is no file, and without a new one the path led to it before.
  rcases digs.spot_of_further tree grown.2 proper notUp leads with same | ⟨_, vacant, -⟩
  · rw [same] at leads
    exact absurd (stat_eq_ok_iff.mpr ⟨place, leads⟩) (stat_ne_ok_of_leadsSomewhere nowhere _)
  · cases vacant

/-! ## One call -/

/-- What a call does to a file system: it adds directories at most, or it comes to writing a body,
and then no file is opened, or the one that is opened is rewritten. -/
theorem after_cases (tree : fs.IsTree) (unforced : call.options.force = false) :
    (Extends directoryMode fs (call.after fs) ∧
        ∀ delivery place, ¬ Reenters call fs delivery place) ∨
      ∃ delivery located ready hasher,
        (locate call.transport call.options).runOn (call.start fs) = (.ok delivery, located) ∧
          located.fs.leadsSomewhere delivery.path.text = .ok false ∧
          (setUp call.options delivery.path).runOn located = (.ok hasher, ready) ∧
          Extends directoryMode fs ready.fs ∧
          ((∃ failure, ready.fs.create delivery.path.text = .error failure ∧
              (ready.fs.removeIfPresent delivery.path.text = .ok (call.after fs) ∨
                call.after fs = ready.fs)) ∨
            ∃ place, Opens ready.fs delivery.path.text place ∧
              Rewrites delivery.response.bodyItems ready.fs delivery.path place
                (call.after fs)) := by
  have composes := composes_extends directoryMode
  rcases running : (run call.transport call.options).runOn (call.start fs) with ⟨outcome, s'⟩
  have isAfter : call.after fs = s'.fs := by rw [Call.after, running]
  rw [isAfter]
  cases runs running with
  | unlocated unlocated =>
    have same : s'.fs = fs := by
      have same := leaves_locate call.transport call.options (call.start fs)
      rwa [unlocated] at same
    refine .inl ⟨same ▸ composes.refl s'.fs, ?_⟩
    rintro delivery place ⟨locates, -⟩
    cases unlocated.symm.trans locates
  | unclear locates looks =>
    refine .inl ⟨fs_of_locate locates ▸ composes.refl s'.fs, ?_⟩
    rintro delivery place ⟨locates', nowhere, -⟩
    obtain ⟨rfl, rfl⟩ := Action.ok_inj locates locates'
    cases looks.symm.trans nowhere
  | skipped locates looks _ same =>
    refine .inl ⟨(same.trans (fs_of_locate locates)) ▸ composes.refl s'.fs, ?_⟩
    rintro delivery place ⟨locates', nowhere, -⟩
    obtain ⟨rfl, rfl⟩ := Action.ok_inj locates locates'
    cases looks.symm.trans nowhere
  | @completed delivery located _ isThere _ locates looks unskipped completes =>
    -- What is there is skipped, so nothing was there when the path was looked at.
    have isFree : isThere = false := by
      cases isThere with
      | true => exact absurd (unskipped rfl) (by simp [unforced])
      | false => rfl
    subst isFree
    have same : located.fs = fs := fs_of_locate locates
    have grown := leaves_setUp call.options delivery.path located
    rcases complete_cases (same ▸ tree) completes with
      ⟨failure, rfl, setsUp⟩ | ⟨hasher, ready, setsUp, writes⟩
    · rw [setsUp, same] at grown
      refine .inl ⟨grown, ?_⟩
      rintro delivery place ⟨locates', -, setsUp', -⟩
      obtain ⟨rfl, rfl⟩ := Action.ok_inj locates locates'
      cases setsUp.symm.trans setsUp'
    · rw [setsUp, same] at grown
      exact .inr ⟨delivery, located, ready, hasher, locates, looks, setsUp, grown, writes.cases⟩

/-- A call keeps a file system a tree. -/
theorem isTree_after (tree : fs.IsTree) (unforced : call.options.force = false) :
    (call.after fs).IsTree := by
  rcases after_cases tree unforced with
    ⟨grown, -⟩ | ⟨delivery, located, ready, hasher, -, -, -, grown, shut | ⟨place, opens, rewrites⟩⟩
  · exact (grown tree).2
  · obtain ⟨failure, shut, removed | same⟩ := shut
    · rcases removeIfPresent_of_shut (grown tree).2 shut removed with same | ⟨_, _, link, same⟩
      · rw [same]
        exact (grown tree).2
      · rw [same]
        exact (grown tree).2.erase (get?_of_spotAt link (by simp)) (by simp)
    · rw [same]
      exact (grown tree).2
  · generalize call.after fs = after at rewrites ⊢
    cases rewrites with
    | @kept bytes modified => exact (opens.written (grown tree).2 bytes modified).1
    | @removed bytes modified _ _ removed =>
      have ⟨tree', _, file⟩ := opens.written (grown tree).2 bytes modified
      exact removed.isTree tree' file

omit [Platform] in
/-- A place that is rewritten is free in the end, or holds what arrived of the body. -/
theorem get?_of_rewrites {body : List Item} {path : Path} {fs' : FileSystem} (tree : fs.IsTree)
    (opens : Opens fs path.text place) (rewrites : Rewrites body fs path place fs') :
    fs'.get? place = none ∨
      ∃ bytes modified, fs'.get? place = some (.file bytes modified) ∧ bytes <+: arriving body := by
  cases rewrites with
  | @kept bytes modified received =>
    have ⟨_, _, file⟩ := opens.written tree bytes modified
    exact .inr ⟨bytes, modified, file, arriving_of_received? received ▸ List.prefix_rfl⟩
  | @removed bytes modified _ begins removed =>
    have ⟨_, _, file⟩ := opens.written tree bytes modified
    rcases removed.get?_eq file with stays | ⟨-, gone⟩
    · exact .inr ⟨bytes, modified, stays, begins⟩
    · exact .inl gone

/-- What becomes of a file over a call: it stays as it is, unless the call re-enters it; then it is
gone, or holds what arrived of a body. -/
theorem file_after (tree : fs.IsTree) (unforced : call.options.force = false)
    (file : fs.get? place = some (.file contents modified)) :
    ((∀ delivery, ¬ Reenters call fs delivery place) →
        (call.after fs).get? place = some (.file contents modified)) ∧
      ∀ delivery, Reenters call fs delivery place →
        ['.', '.'] ∈ delivery.path.names ∧
          ((call.after fs).get? place = none ∨
            ∃ bytes modified, (call.after fs).get? place = some (.file bytes modified) ∧
              bytes <+: arriving delivery.response.bodyItems) := by
  rcases after_cases tree unforced with
    ⟨grown, none⟩ | ⟨delivery, located, ready, hasher, locates, nowhere, setsUp, grown, ends⟩
  · exact ⟨fun _ => (grown tree).1.get?_of_some file,
      fun delivery reenters => absurd reenters (none delivery place)⟩
  obtain ⟨grows, tree'⟩ := grown tree
  have fileReady := grows.get?_of_some file
  -- A call that re-enters the file has made ready for it as this one has.
  have found (other : Delivery) (reenters : Reenters call fs other place) :
      delivery = other ∧ ∃ contents modified, ready.fs.spotAt .followsLink delivery.path.text =
        .ok (.entry place (.file contents modified)) := by
    obtain ⟨locates', -, setsUp', leads⟩ := reenters
    obtain ⟨rfl, rfl⟩ := Action.ok_inj locates locates'
    obtain ⟨-, rfl⟩ := Action.ok_inj setsUp setsUp'
    exact ⟨rfl, _, _, leads⟩
  -- The file was opened, or another one, or none.
  rcases ends with ⟨failure, shut, left⟩ | ⟨opened, opens, rewrites⟩
  · constructor
    · exact fun _ => get?_of_shut tree' shut left fileReady
    · intro other reenters
      obtain ⟨rfl, contents, modified, leads⟩ := found other reenters
      exact absurd (stat_eq_ok_iff.mpr ⟨place, leads⟩) (stat_ne_file_of_shut tree' shut _ _)
  · by_cases same : opened = place
    · subst same
      have leads := opens.spotAt_followsLink
      rw [fileReady, Spot.of] at leads
      have reenters : Reenters call fs delivery opened := ⟨locates, nowhere, setsUp, leads⟩
      refine ⟨fun none => absurd reenters (none delivery), fun other reenters' => ?_⟩
      obtain ⟨rfl, -⟩ := found other reenters'
      exact ⟨reenters.leadsUp tree, get?_of_rewrites tree' opens rewrites⟩
    · refine ⟨fun _ => get?_of_rewrites_of_ne rewrites (Ne.symm same) fileReady, ?_⟩
      intro other reenters
      obtain ⟨rfl, contents, modified, leads⟩ := found other reenters
      have isOpened := congrArg Spot.place
        (Except.ok.inj (opens.spotAt_followsLink.symm.trans leads))
      rw [Spot.place_of] at isOpened
      exact absurd isOpened same

/-! ## Sequences of calls -/

variable {calls done rest : List Call}

theorem afterCalls_append (fs : FileSystem) (done rest : List Call) :
    afterCalls fs (done ++ rest) = afterCalls (afterCalls fs done) rest := by
  simp [afterCalls, List.foldl_append]

/-- Calls keep a file system a tree. -/
theorem isTree_afterCalls (tree : fs.IsTree)
    (unforced : ∀ call ∈ calls, call.options.force = false) : (afterCalls fs calls).IsTree := by
  -- Each call starts on the tree that the calls before it have left.
  induction calls generalizing fs with
  | nil => exact tree
  | cons call rest ih =>
    exact ih (isTree_after tree (unforced call List.mem_cons_self))
      fun other isCall => unforced other (List.mem_cons_of_mem _ isCall)

/-- What becomes of a file over a sequence of calls that do not replace files: every call leaves
every file alone that is there before it, except that a call whose path leads up below a missing
directory may re-enter one; of that file nothing is left but what arrived of the body. -/
theorem file_after_calls (tree : fs.IsTree)
    (unforced : ∀ call ∈ calls, call.options.force = false) (sequence : calls = done ++ call :: rest)
    (file : (afterCalls fs done).get? place = some (.file contents modified)) :
    ((∀ delivery, ¬ Reenters call (afterCalls fs done) delivery place) →
        (afterCalls fs (done ++ [call])).get? place = some (.file contents modified)) ∧
      ∀ delivery, Reenters call (afterCalls fs done) delivery place →
        ['.', '.'] ∈ delivery.path.names ∧
          ((afterCalls fs (done ++ [call])).get? place = none ∨
            ∃ bytes modified,
              (afterCalls fs (done ++ [call])).get? place = some (.file bytes modified) ∧
                bytes <+: arriving delivery.response.bodyItems) := by
  subst sequence
  have treeHere : (afterCalls fs done).IsTree := isTree_afterCalls tree fun other isCall =>
    unforced other (List.mem_append_left _ isCall)
  rw [afterCalls_append]
  exact file_after treeHere (unforced call (by simp)) file

/-- Calls whose paths do not lead up keep every file, over a sequence of any length. -/
theorem file_kept_of_level (tree : fs.IsTree)
    (unforced : ∀ call ∈ calls, call.options.force = false)
    (level : ∀ call ∈ calls, ∀ fs delivery place,
      Reenters call fs delivery place → ['.', '.'] ∉ delivery.path.names)
    (file : fs.get? place = some (.file contents modified)) :
    (afterCalls fs calls).get? place = some (.file contents modified) := by
  induction calls generalizing fs with
  | nil => exact file
  | cons call rest ih =>
    have first := unforced call List.mem_cons_self
    refine ih (isTree_after tree first)
      (fun other isCall => unforced other (List.mem_cons_of_mem _ isCall))
      (fun other isCall => level other (List.mem_cons_of_mem _ isCall)) ?_
    refine (file_after tree first file).1 fun delivery reenters => ?_
    exact level call List.mem_cons_self fs delivery place reenters (reenters.leadsUp tree)

end

/-! ## A file that is lost -/

/-- A file system with one file. -/
def oldFile : FileSystem := (FileSystem.empty [] 0o022).put ["old".toList] (.file [7] (some 0))

theorem isTree_oldFile : oldFile.IsTree :=
  (isTree_empty [] 0o022).put (hasDirectory_nil _) rfl _

/-- A call for a file with one byte. -/
def callFor (destination : String) : Call where
  transport := serving [.chunk [1]]
  options := plain destination
  signal := none

/-- A call for a file that is there leaves everything as it is. -/
theorem afterCalls_old : afterCalls oldFile [callFor "old"] = oldFile := by decide +kernel

/-- A path that leads up below a missing directory may come to a free name. -/
theorem not_reenters_out (delivery : Delivery) :
    ¬ Reenters (callFor "missing/../out") oldFile delivery ["old".toList] := by
  rintro ⟨locates, -, setsUp, leads⟩
  have located : (locate (serving [.chunk [1]]) (plain "missing/../out")).runOn
      ((callFor "missing/../out").start oldFile) =
        (.ok (served [.chunk [1]] (.ofText "missing/../out")),
          asked ((callFor "missing/../out").start oldFile)) := rfl
  obtain ⟨rfl, rfl⟩ := Action.ok_inj located locates
  -- The path leads to nothing after the directory is made, either.
  have nowhere : (((setUp (plain "missing/../out") (.ofText "missing/../out")).runOn
      (asked ((callFor "missing/../out").start oldFile))).2.fs.stat
        (Path.ofText "missing/../out").text).toOption = none := by decide +kernel
  have ready : ((setUp (plain "missing/../out") (.ofText "missing/../out")).runOn
      (asked ((callFor "missing/../out").start oldFile))).2 = _ := congrArg Prod.snd setsUp
  have there := stat_eq_ok_iff.mpr ⟨_, leads⟩
  rw [ready] at nowhere
  cases nowhere.symm.trans (congrArg Except.toOption there)

/-- A file stays that one path names, and that another path does not come to, although it leads up
below a missing directory. -/
theorem file_kept_beside_other :
    (∀ call ∈ [callFor "old", callFor "missing/../out"], call.options.force = false) ∧
      (afterCalls oldFile [callFor "old"]).get? ["old".toList] = some (.file [7] (some 0)) ∧
        (afterCalls oldFile [callFor "old", callFor "missing/../out"]).get? ["old".toList] =
          some (.file [7] (some 0)) := by
  have unforced : ∀ call ∈ [callFor "old", callFor "missing/../out"],
      call.options.force = false := by
    intro call isCall
    rcases List.mem_cons.mp isCall with rfl | isCall
    · rfl
    · rw [List.mem_singleton.mp isCall]
      rfl
  have file : (afterCalls oldFile [callFor "old"]).get? ["old".toList] =
      some (.file [7] (some 0)) := by
    rw [afterCalls_old]
    rfl
  have kept := @file_after_calls _ (callFor "missing/../out") oldFile ["old".toList] [7] (some 0)
    [callFor "old", callFor "missing/../out"] [callFor "old"] [] isTree_oldFile unforced rfl file
  refine ⟨unforced, file, kept.1 fun delivery => ?_⟩
  rw [afterCalls_old]
  exact not_reenters_out delivery

/-- A path that leads up below a missing directory leads nowhere, until the directory is made: the
file that it leads to then is overwritten. -/
theorem file_lost_below_missing_directory :
    oldFile.IsTree ∧ (callFor "missing/../old").options.force = false ∧
      oldFile.get? ["old".toList] = some (.file [7] (some 0)) ∧
        (afterCalls oldFile [callFor "missing/../old"]).get? ["old".toList] =
          some (.file [1] none) := by
  refine ⟨isTree_oldFile, rfl, rfl, ?_⟩
  decide +kernel

end SafeFetch.Download
