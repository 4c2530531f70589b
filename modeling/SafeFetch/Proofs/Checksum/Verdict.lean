import SafeFetch.Proofs.Checksum.Coverage
import SafeFetch.Proofs.Failure

/-!
# The check of a file

A check compares the digest of a file with the one that is expected. It ends in one of four ways:
the expected digest cannot be read, which is found out before anything else is done, the other one
cannot be computed, the two are the same, or they differ. Only the last of these may touch the file
system, and then it takes away the entry that the path names and nothing else.

## Main definitions

* `Verdict`: the ways in which a check ends;
* `HasDigest`: a file can be read to its end and has a digest;
* `Loses`: the entry that a path names is gone, and nothing else;
* `IsExact`: a check passes, rejects and removes a file exactly as it should.

## Main results

* `verdict_verify`: there are no other ways;
* `ofFile_named_error`: what keeps a digest from being computed;
* `runOn_failMismatch`: a file that was read can be removed;
* `verify_isExact`: every check is exact.
-/

namespace SafeFetch

open SafeFetch.Transfer

variable {failure : Failure}

/-! ## What keeps a digest from being computed -/

namespace Transfer

/-- A copy that finds its signal set is cancelled. -/
theorem Course.outcome_of_set {asked? : Option (Option Int)} {items : List Item}
    {p last : Progress} {moves : List Move} {outcome : Except Failure Nat}
    (course : Course asked? items p moves outcome last) (set : .look true ∈ moves) :
    ∃ written, outcome = .error (.cancelled written) := by
  obtain ⟨earlier, final, rfl, goesOn, isEnd⟩ := course.ends
  -- Such a look ends a copy, so it is the last move.
  rcases List.mem_append.mp set with isIn | isIn
  · cases goesOn _ isIn 0
  · obtain rfl := List.mem_singleton.mp isIn
    exact ⟨_, (Option.some.inj isEnd).symm⟩

/-- A copy of a file into a hasher fails because it is cancelled or because of the size of the
pieces. -/
theorem copy_file_error [Platform] {algorithm : Algorithm} {contents : List UInt8} {chunkSize : Int}
    {signal : Option CancelSignal}
    (fails : (copy (.file contents chunkSize) (.hash (.standard algorithm [])) signal).1 =
      .error failure) :
    (∃ written, failure = .cancelled written) ∨ Source.fileFault? chunkSize = some failure := by
  obtain ⟨moves, course⟩ := exists_course (Source.file contents chunkSize).asked?
    (Source.file contents chunkSize).items (.start (.hash (.standard algorithm [])) signal)
  rw [← copy_eq_copyFrom, fails] at course
  by_cases set : .look true ∈ moves
  · obtain ⟨written, isCancelled⟩ := course.outcome_of_set set
    exact .inl ⟨written, Except.error.inj isCancelled⟩
  · rcases course.breaks set with ⟨count, succeeds⟩ | ⟨other, isOther, broken⟩
    · cases succeeds
    obtain rfl := Except.error.inj isOther
    -- A hasher of an algorithm refuses nothing, and the only fault of a file is the size.
    rcases broken with ⟨chunks, chunk, refused⟩ | ⟨-, isFault⟩
    · cases (Hasher.takesAll_standard algorithm chunks chunk).symm.trans refused
    · exact .inr (fileFault?_of_mem isFault)

end Transfer

namespace Checksum

variable [Platform] {s s' : Session} {path : Path} {name text : String} {expected : Expected}
  {removes : Bool} {chunkSize : Int} {digest wanted actual : List UInt8}
  {outcome : Except Failure (List UInt8)}

/-- What keeps a digest from being computed: the name of the algorithm, the file, the size of the
pieces, a cancellation, or an algorithm without a length of its digests. -/
theorem ofFile_named_error
    (fails : (ofFile text (.named name) chunkSize).runOn s = (.error failure, s')) :
    Algorithm.ofName name = .error failure ∨ s.fs.read text = .error failure ∨
      Source.fileFault? chunkSize = some failure ∨ (∃ written, failure = .cancelled written) ∨
        failure = .digestLengthRequired := by
  rcases ofFile_error fails with
    starts | unread | ⟨hasher, contents, starts, -, broken | ⟨chunks, undigested⟩⟩
  · exact .inl (map_eq_error_iff.mp starts)
  · exact .inr (.inl unread)
  · obtain ⟨algorithm, -, rfl⟩ := HasherChoice.start_named_eq_ok_iff.mp starts
    rcases copy_file_error broken with cancelled | faulty
    · exact .inr (.inr (.inr (.inl cancelled)))
    · exact .inr (.inr (.inl faulty))
  · obtain ⟨algorithm, -, rfl⟩ := HasherChoice.start_named_eq_ok_iff.mp starts
    rw [Download.digest_hasherAfter] at undigested
    exact .inr (.inr (.inr (.inr (Algorithm.error_of_digest undigested))))

/-- A computation that fails compares nothing. -/
theorem ne_mismatch_of_ofFile {other : String}
    (fails : (ofFile text (.named name) chunkSize).runOn s = (.error failure, s')) :
    failure ≠ .mismatch other wanted actual := by
  rintro rfl
  rcases ofFile_named_error fails with unknown | unread | faulty | ⟨written, cancelled⟩ | endless
  · rcases Algorithm.error_of_ofName unknown with same | same <;> cases same
  · rcases FileSystem.isAbout_of_read unread with same | ⟨error, same⟩ <;> cases same
  · simpa using Source.error_of_fileFault? faulty
  · cases cancelled
  · cases endless

/-! ## How a check ends -/

/-- How a check ends, and the session that it leaves. -/
inductive Verdict (path : Path) (choice : HasherChoice) (expected : Expected) (removes : Bool)
    (chunkSize : Int) (s : Session) : Except Failure (List UInt8) → Session → Prop
  /-- The expected digest cannot be read. -/
  | undecoded {failure : Failure} (undecodes : expected.decode = .error failure) :
      Verdict path choice expected removes chunkSize s (.error failure) s
  /-- The digest of the file cannot be computed. -/
  | uncomputed {wanted : List UInt8} {failure : Failure} {s' : Session}
      (decodes : expected.decode = .ok wanted)
      (fails : (ofFile path.text choice chunkSize).runOn s = (.error failure, s')) :
      Verdict path choice expected removes chunkSize s (.error failure) s'
  /-- They are the same. -/
  | passed {digest : List UInt8} {s' : Session} (decodes : expected.decode = .ok digest)
      (computes : (ofFile path.text choice chunkSize).runOn s = (.ok digest, s')) :
      Verdict path choice expected removes chunkSize s (.ok digest) s'
  /-- They differ. -/
  | rejected {wanted actual : List UInt8} {outcome : Except Failure (List UInt8)}
      {between s' : Session} (decodes : expected.decode = .ok wanted)
      (computes : (ofFile path.text choice chunkSize).runOn s = (.ok actual, between))
      (differ : wanted ≠ actual)
      (rejects : (failMismatch path wanted actual removes).runOn between = (outcome, s')) :
      Verdict path choice expected removes chunkSize s outcome s'

/-- Every check ends in one of these ways. -/
theorem verdict_verify (path : Path) (choice : HasherChoice) (expected : Expected)
    (removes : Bool) (chunkSize : Int) (s : Session) :
    Verdict path choice expected removes chunkSize s
      ((verify path choice expected removes chunkSize).runOn s).1
      ((verify path choice expected removes chunkSize).runOn s).2 := by
  rw [verify, Action.runOn_bind, Action.runOn_ofExcept]
  cases decodes : expected.decode with
  | error failure => exact .undecoded decodes
  | ok wanted =>
    dsimp only
    rw [Action.runOn_bind]
    rcases computes : (ofFile path.text choice chunkSize).runOn s with ⟨failure | actual, between⟩
    · exact .uncomputed decodes computes
    · dsimp only
      split
      next same =>
        subst same
        exact .passed decodes computes
      next differ => exact .rejected decodes computes (Ne.symm differ) rfl

/-! ## What a check removes -/

/-- The entry that a path names is gone, and nothing else has changed. -/
def Loses (fs : FileSystem) (text : String) (fs' : FileSystem) : Prop :=
  ∃ place entry, fs.spotAt .keepsLink text = .ok (.entry place entry) ∧
    fs.get? place = some entry ∧ fs'.get? place = none ∧ FileSystem.AgreesOff place fs fs'

omit [Platform] in
/-- A path along which a file is read names the file, or a link. -/
theorem spotAt_of_read {fs : FileSystem} {contents : List UInt8}
    (read : fs.read text = .ok contents) :
    ∃ place entry, fs.spotAt .keepsLink text = .ok (.entry place entry) ∧
      ∀ mode, entry ≠ .directory mode := by
  obtain ⟨modified, there⟩ := FileSystem.read_eq_ok_iff.mp read
  obtain ⟨place, found⟩ := FileSystem.stat_eq_ok_iff.mp there
  obtain ⟨sendable, leads⟩ := FileSystem.spotAt_eq_ok_iff.mp found
  -- The walk of a removal does not follow a link at its end, where the reading did.
  rcases leads.toKeepsLink with kept | ⟨other, target, kept⟩
  · exact ⟨place, _, FileSystem.spotAt_eq_ok_iff.mpr ⟨sendable, kept⟩, by simp⟩
  · exact ⟨other, _, FileSystem.spotAt_eq_ok_iff.mpr ⟨sendable, kept⟩, by simp⟩

omit [Platform] in
/-- A file that can be read can be removed. -/
theorem loses_of_read {fs : FileSystem} {contents : List UInt8}
    (read : fs.read text = .ok contents) :
    ∃ fs', fs.removeIfPresent text = .ok fs' ∧ Loses fs text fs' := by
  obtain ⟨place, entry, found, leaf⟩ := spotAt_of_read read
  have standing := FileSystem.get?_of_spotAt found leaf
  -- The root is a directory, so it is not what is removed.
  have more : place ≠ [] :=
    FileSystem.ne_nil_of_not_hasDirectory (FileSystem.not_hasDirectory_of_some standing leaf)
  refine ⟨fs.erase place, ?_, place, entry, found, standing, FileSystem.get?_erase_self fs more,
    FileSystem.agreesOff_erase fs place⟩
  rw [FileSystem.removeIfPresent, FileSystem.remove_eq found leaf]

omit [Platform] in
/-- A file that was read and has another digest is reported, and removed on request. -/
theorem runOn_failMismatch {contents : List UInt8} (read : s.fs.read path.text = .ok contents)
    (wanted actual : List UInt8) (removes : Bool) :
    ∃ s', (failMismatch path wanted actual removes : Action (List UInt8)).runOn s =
        (.error (.mismatch path.text wanted actual), s') ∧
      (removes = true → Loses s.fs path.text s'.fs) ∧ (removes = false → s'.fs = s.fs) := by
  cases removes with
  | false => exact ⟨_, rfl, by simp, fun _ => rfl⟩
  | true =>
    obtain ⟨fs', removed, loses⟩ := loses_of_read read
    simp only [failMismatch, Action.runOn_bind, Action.runOn_report, Action.runOn_change, if_true,
      removed, Action.runOn_throw]
    exact ⟨_, rfl, fun _ => loses, by simp⟩

/-! ## Exact checks -/

/-- A file can be read to its end, and its contents have a digest under the algorithm of a name. -/
def HasDigest (s : Session) (text name : String) (chunkSize : Int) (digest : List UInt8) : Prop :=
  ∃ algorithm contents, Algorithm.ofName name = .ok algorithm ∧ s.fs.read text = .ok contents ∧
    Source.fileFault? chunkSize = none ∧ Spares (looksAt contents chunkSize) s.signal ∧
      algorithm.digest contents = .ok digest

/-- The digest that is computed is the one that the file has. -/
theorem hasDigest_iff (nonzero : chunkSize ≠ 0) :
    HasDigest s text name chunkSize digest ↔
      ((ofFile text (.named name) chunkSize).runOn s).1 = .ok digest := by
  simp only [HasDigest, fst_ofFile_eq_ok_iff, covered, if_neg nonzero]

/-- A file has one digest. -/
theorem hasDigest_iff_eq (nonzero : chunkSize ≠ 0)
    (computes : (ofFile text (.named name) chunkSize).runOn s = (.ok digest, s'))
    (other : List UInt8) : HasDigest s text name chunkSize other ↔ digest = other := by
  rw [hasDigest_iff nonzero, computes, Except.ok.injEq]

/-- A file whose digest cannot be computed has none. -/
theorem not_hasDigest (nonzero : chunkSize ≠ 0)
    (fails : (ofFile text (.named name) chunkSize).runOn s = (.error failure, s'))
    (digest : List UInt8) : ¬ HasDigest s text name chunkSize digest := by
  rw [hasDigest_iff nonzero, fails]
  nofun

/-- A check passes if the expected digest is the one that the file has, rejects the file if the two
differ, and removes it then on request. Otherwise it changes nothing, and if the expected digest
cannot be read, nothing is even looked at. -/
structure IsExact (s : Session) (path : Path) (name : String) (expected : Expected)
    (removes : Bool) (chunkSize : Int) (outcome : Except Failure (List UInt8)) (s' : Session) :
    Prop where
  passes_iff : ∀ digest, outcome = .ok digest ↔
    expected.decode = .ok digest ∧ HasDigest s path.text name chunkSize digest
  rejects_iff : ∀ text wanted actual, outcome = .error (.mismatch text wanted actual) ↔
    text = path.text ∧ expected.decode = .ok wanted ∧
      HasDigest s path.text name chunkSize actual ∧ wanted ≠ actual
  loses : removes = true → ∀ text wanted actual,
    outcome = .error (.mismatch text wanted actual) → Loses s.fs path.text s'.fs
  keeps : (removes = true → ∀ text wanted actual,
    outcome ≠ .error (.mismatch text wanted actual)) → s'.fs = s.fs
  early : ∀ failure, expected.decode = .error failure → outcome = .error failure ∧ s' = s

/-- A check that rejects nothing, and has no reason to, is exact if it passes rightly and leaves the
file system alone. -/
theorem isExact_of_unrejected
    (passes_iff : ∀ digest, outcome = .ok digest ↔
      expected.decode = .ok digest ∧ HasDigest s path.text name chunkSize digest)
    (unrejected : ∀ text wanted actual, outcome ≠ .error (.mismatch text wanted actual))
    (agree : ∀ wanted actual, expected.decode = .ok wanted →
      HasDigest s path.text name chunkSize actual → wanted = actual)
    (same : s'.fs = s.fs)
    (early : ∀ failure, expected.decode = .error failure → outcome = .error failure ∧ s' = s) :
    IsExact s path name expected removes chunkSize outcome s' where
  passes_iff := passes_iff
  rejects_iff text wanted actual := by
    refine iff_of_false (unrejected text wanted actual) ?_
    rintro ⟨-, decodes, hasDigest, differ⟩
    exact differ (agree wanted actual decodes hasDigest)
  loses _ text wanted actual rejected := absurd rejected (unrejected text wanted actual)
  keeps _ := same
  early := early

/-- A check that rejects a file with another digest than the expected one is exact if it removes the
file on request, and otherwise leaves the file system alone. -/
theorem isExact_of_rejected (decodes : expected.decode = .ok wanted)
    (only : ∀ other, HasDigest s path.text name chunkSize other ↔ actual = other)
    (differ : wanted ≠ actual) (loses : removes = true → Loses s.fs path.text s'.fs)
    (keeps : removes = false → s'.fs = s.fs) :
    IsExact s path name expected removes chunkSize (.error (.mismatch path.text wanted actual))
      s' where
  passes_iff other := by
    refine iff_of_false nofun ?_
    rintro ⟨decodes', hasDigest⟩
    rw [only] at hasDigest
    exact differ ((Except.ok.inj (decodes.symm.trans decodes')).trans hasDigest.symm)
  rejects_iff text wanted' actual' := by
    rw [decodes, only]
    simp only [Except.error.injEq, Failure.mismatch.injEq, Except.ok.injEq]
    constructor
    · rintro ⟨rfl, rfl, rfl⟩
      exact ⟨rfl, rfl, rfl, differ⟩
    · rintro ⟨rfl, rfl, rfl, -⟩
      exact ⟨rfl, rfl, rfl⟩
  loses isRemoving _ _ _ _ := loses isRemoving
  keeps unrejected := by
    cases removes with
    | false => exact keeps rfl
    | true => exact absurd rfl (unrejected rfl path.text wanted actual)
  early failure undecodes := by cases decodes.symm.trans undecodes

/-- However a check ends, it is exact. -/
theorem Verdict.isExact (nonzero : chunkSize ≠ 0)
    (verdict : Verdict path (.named name) expected removes chunkSize s outcome s') :
    IsExact s path name expected removes chunkSize outcome s' := by
  -- The computation of the digest leaves the file system as it is.
  have untouched := leaves_ofFile Action.composes_eq path.text (.named name) chunkSize s
  cases verdict with
  | undecoded undecodes =>
    apply isExact_of_unrejected
    · intro digest
      refine iff_of_false nofun ?_
      rintro ⟨decodes, -⟩
      cases undecodes.symm.trans decodes
    · -- What keeps an expected digest from being decoded is no mismatch.
      intro text wanted actual rejected
      obtain rfl := Except.error.inj rejected
      rcases Expected.error_of_decode undecodes with ⟨position, other⟩ | other <;> cases other
    · intro wanted actual decodes
      cases undecodes.symm.trans decodes
    · rfl
    · intro failure undecodes'
      exact ⟨undecodes.symm.trans undecodes', rfl⟩
  | uncomputed decodes fails =>
    have none := not_hasDigest nonzero fails
    rw [fails] at untouched
    apply isExact_of_unrejected
    · intro digest
      exact iff_of_false nofun fun passes => none digest passes.2
    · -- Nor is what keeps the other digest from being computed.
      intro text wanted actual rejected
      exact ne_mismatch_of_ofFile fails (Except.error.inj rejected)
    · intro wanted actual _ hasDigest
      exact absurd hasDigest (none actual)
    · exact untouched
    · intro failure undecodes
      cases decodes.symm.trans undecodes
  | passed decodes computes =>
    have only := hasDigest_iff_eq nonzero computes
    rw [computes] at untouched
    apply isExact_of_unrejected
    · intro other
      rw [decodes, only, Except.ok.injEq, and_self]
    · intro text wanted actual
      nofun
    · intro wanted actual decodes' hasDigest
      rw [only] at hasDigest
      exact (Except.ok.inj (decodes.symm.trans decodes')).symm.trans hasDigest
    · exact untouched
    · intro failure undecodes
      cases decodes.symm.trans undecodes
  | @rejected wanted actual _ _ _ decodes computes differ rejects =>
    rw [computes] at untouched
    obtain ⟨_, contents, _, _, read, -⟩ := ofFile_ok computes
    -- The file that was read is still there to be removed.
    rw [← untouched] at read
    obtain ⟨last, ends, loses, keeps⟩ := runOn_failMismatch read wanted actual removes
    obtain ⟨rfl, rfl⟩ := Prod.mk.inj (rejects.symm.trans ends)
    rw [untouched] at loses keeps
    exact isExact_of_rejected decodes (hasDigest_iff_eq nonzero computes) differ loses keeps

/-- Every check is exact, whatever is set. -/
theorem verify_isExact (s : Session) (path : Path) (name : String) (expected : Expected)
    (removes : Bool) (environment : List (String × String)) :
    IsExact s path name expected removes (Settings.ofEnvironment environment).chunkSize
      ((verify path (.named name) expected removes
        (Settings.ofEnvironment environment).chunkSize).runOn s).1
      ((verify path (.named name) expected removes
        (Settings.ofEnvironment environment).chunkSize).runOn s).2 := by
  have positive := Settings.chunkSize_pos environment
  apply Verdict.isExact (by omega)
  exact verdict_verify _ _ _ _ _ _

end Checksum

end SafeFetch
