import SafeFetch.Proofs.Download.Stages

/-!
# Verified downloads

A download that knows the digest of its file should leave the file only with that digest. It does,
unless the body was copied to its end and one of two things fails after that outside of every
clean-up: reading the date of the last modification, or reading the expected digest. Then the file
stays, and nobody has compared its digest.

## Main results

* `isVerified_iff`: when a download leaves no file unverified;
* `not_isVerified_of_odd_digit`: an expected digest that is not hexadecimal leaves the file.
-/

namespace SafeFetch.Download

open SafeFetch.FileSystem SafeFetch.Transfer SafeFetch.Destination

variable {s located : Session} {transport : Http.Transport} {options : DownloadOptions}
  {delivery : Delivery} {name : String} {algorithm : Algorithm} {expected : Expected}

/-- A download leaves no file unverified at a path: if it succeeds, the file there has the expected
digest, and if it fails, there is no file. -/
def IsVerified (algorithm : Algorithm) (expected : Expected) (path : Path)
    (outcome : Except Failure DownloadResult) (fs : FileSystem) : Prop :=
  match outcome with
  | .ok result => result.isSkipped = false ∧ result.path = path ∧
      ∃ contents modified digest, fs.stat path.text = .ok (.file contents modified) ∧
        algorithm.digest contents = .ok digest ∧ expected.decode = .ok digest
  | .error _ => ∀ contents modified, fs.stat path.text ≠ .ok (.file contents modified)

/-- What fails only after a body was copied to its end. -/
def FailsLate [Platform] (transport : Http.Transport) (options : DownloadOptions) (s : Session)
    (delivery : Delivery) (expected : Expected) : Prop :=
  (∃ count, Copies transport options s delivery (.ok count)) ∧
    ((∃ failure, delivery.info.modifiedAt.1 = .error failure) ∨
      ∃ failure, expected.decode = .error failure)

/-- There is no file where the directory above could not be made. -/
theorem stat_ne_file_of_prepare_error [Platform] {path : Path} {s' : Session} {failure : Failure}
    (tree : s.fs.IsTree) (proper : path.IsProper)
    (prepares : (prepare path).runOn s = (.error failure, s')) (contents : List UInt8)
    (modified : Option Int) : s'.fs.stat path.text ≠ .ok (.file contents modified) := by
  intro file
  have grown := leaves_prepare path s tree
  rw [prepares] at grown
  have found := isDirectory_parent grown.2 proper file
  exact absurd ((prepare_ok_iff tree proper prepares).mpr found) (by simp)

/-- There is no file where none could be opened, nor after what was there instead is removed. -/
theorem stat_ne_file_of_refused {fs fs' : FileSystem} {path : String} {failure : Failure}
    (tree : fs.IsTree) (shut : fs.create path = .error failure)
    (left : fs.removeIfPresent path = .ok fs' ∨ fs' = fs) (contents : List UInt8)
    (modified : Option Int) : fs'.stat path ≠ .ok (.file contents modified) := by
  have unopened := stat_ne_file_of_shut tree shut contents modified
  rcases left with removed | rfl
  · rcases removeIfPresent_eq_ok removed with rfl | ⟨place, entry, found, leaf, rfl⟩
    · exact unopened
    · exact stat_ne_ok_of_removed tree found leaf _
  · exact unopened

/-- An algorithm whose digests have a length of their own. -/
def HasDigests (algorithm : Algorithm) : Prop :=
  ∀ message, ∃ digest, algorithm.digest message = .ok digest

/-- Stamping and checking a complete file leaves none unverified, unless the date or the expected
digest cannot be read. -/
theorem Finishes.isVerified {hasher : Option Hasher} {fs fs' : FileSystem} {place : Place}
    {bytes digest : List UInt8} {outcome : Except Failure DownloadResult} (tree : fs.IsTree)
    (opens : Opens fs delivery.path.text place) (isDigest : algorithm.digest bytes = .ok digest)
    (digests : digestOf? hasher = .ok (some digest)) (expects : options.expected = some expected)
    (removes : options.removesMismatch = true)
    (finishes : Finishes options delivery.info delivery.path hasher fs place bytes outcome fs') :
    IsVerified algorithm expected delivery.path outcome fs' ↔
      ¬ ((∃ failure, delivery.info.modifiedAt.1 = .error failure) ∨
        ∃ failure, expected.decode = .error failure) := by
  have file (modified : Option Int) :
      (fs.put place (.file bytes modified)).stat delivery.path.text = .ok (.file bytes modified) :=
    have ⟨_, opens', standing⟩ := opens.written tree bytes modified
    opens'.stat_eq standing
  -- The file stays, and what decides is whether its digest was compared before the download ended.
  cases finishes with
  | @finished _ modified digest' dated digested checked =>
    obtain rfl := Except.ok.inj (digests.symm.trans digested)
    have decoded := checked digest rfl expected expects
    obtain ⟨instant, dated⟩ := dated
    simp only [dated, decoded, reduceCtorEq, exists_false, or_self, not_false_iff, iff_true]
    exact ⟨rfl, rfl, bytes, modified, digest, file modified, isDigest, decoded⟩
  | @undated failure undated =>
    refine iff_of_false (fun verified => verified bytes none (file none)) (not_not_intro ?_)
    exact .inl ⟨failure, undated⟩
  | undigested _ undigested => cases digests.symm.trans undigested
  | @undecoded failure modified actual expected' dated digested expects' undecoded =>
    obtain rfl := Option.some.inj (expects.symm.trans expects')
    refine iff_of_false (fun verified => verified bytes modified (file modified))
      (not_not_intro ?_)
    exact .inr ⟨failure, undecoded⟩
  | mismatched dated digested expects' decoded differs left =>
    obtain rfl := Option.some.inj (expects.symm.trans expects')
    obtain ⟨instant, dated⟩ := dated
    rw [if_pos removes] at left
    simp only [dated, decoded, reduceCtorEq, exists_false, or_self, not_false_iff, iff_true]
    exact fun contents modified => left.1 _

/-- A body that is written leaves no file unverified, unless it is copied to its end and the date or
the expected digest cannot be read. -/
theorem Writes.isVerified [Platform] {hasher : Option Hasher} {ready : Session}
    {outcome : Except Failure DownloadResult} {fs' : FileSystem} (tree : ready.fs.IsTree)
    (fixed : HasDigests algorithm) (fresh : hasher = some (.standard algorithm []))
    (expects : options.expected = some expected) (removes : options.removesMismatch = true)
    (writes : Writes options delivery hasher ready outcome fs') :
    IsVerified algorithm expected delivery.path outcome fs' ↔
      ¬ ((∃ opened count, ready.fs.create delivery.path.text = .ok opened ∧
          (copyOf delivery.path hasher delivery.response.bodyItems ready.signal).1 = .ok count) ∧
        ((∃ failure, delivery.info.modifiedAt.1 = .error failure) ∨
          ∃ failure, expected.decode = .error failure)) := by
  -- A body that is not copied to its end leaves no file, and nothing can fail late.
  cases writes with
  | unfilled fills =>
    cases fills with
    | interrupted opens copied begins removed =>
      refine iff_of_true (fun contents modified => removed.1 _) ?_
      rintro ⟨⟨opened, count, -, copied'⟩, -⟩
      cases copied.symm.trans copied'
    | refused shut left =>
      refine iff_of_true (stat_ne_file_of_refused tree shut left) ?_
      rintro ⟨⟨opened, count, opens, -⟩, -⟩
      cases shut.symm.trans opens
  | @filled place chunks count outcome fs' opens copied received finishes =>
    obtain ⟨digest, isDigest⟩ := fixed chunks.flatten
    have digests : digestOf? (hasher.map (hasherAfter · chunks)) = .ok (some digest) := by
      rw [fresh, Option.map_some, digestOf?, digest_hasherAfter, isDigest]
      rfl
    have opened := (create_eq_ok_iff tree).mpr ⟨opens, rfl⟩
    rw [finishes.isVerified tree opens isDigest digests expects removes]
    refine not_congr ⟨fun late => ⟨⟨_, count, opened, copied⟩, late⟩, fun late => late.2⟩

/-- A download of a file that is not there yet, with an expected digest, leaves no file unverified,
unless it fails late. -/
theorem isVerified_iff [Platform] (tree : s.fs.IsTree)
    (locates : (locate transport options).runOn s = (.ok delivery, located))
    (absent : ∀ place entry, s.fs.spotAt .keepsLink delivery.path.text ≠ .ok (.entry place entry))
    (named : options.hasher = some (.named name)) (known : Algorithm.ofName name = .ok algorithm)
    (fixed : HasDigests algorithm) (expects : options.expected = some expected)
    (removes : options.removesMismatch = true) :
    IsVerified algorithm expected delivery.path ((run transport options).runOn s).1
        ((run transport options).runOn s).2.fs ↔
      ¬ FailsLate transport options s delivery expected := by
  have same := fs_of_locate locates
  have unstated (entry : Entry) : located.fs.stat delivery.path.text ≠ .ok entry := by
    intro there
    obtain ⟨place, named, kept⟩ := spotAt_keepsLink_of_stat there
    exact absent place named (same ▸ kept)
  have started : startHasher? options.hasher = .ok (some (.standard algorithm [])) := by
    rw [named, startHasher?, HasherChoice.start, known]
    rfl
  rw [← same] at tree
  rcases running : (run transport options).runOn s with ⟨outcome, s'⟩
  -- Before the file is opened there is none, so only a body that is written matters.
  cases runs running with
  | unlocated unlocated => cases locates.symm.trans unlocated
  | unclear locates' looks =>
    obtain ⟨rfl, rfl⟩ := Action.ok_inj locates locates'
    refine iff_of_true (fun contents modified => unstated _) ?_
    rintro ⟨⟨count, copies⟩, -⟩
    obtain ⟨isThere, _, _, _, looks', -⟩ := (copies_iff locates).mp copies
    cases looks.symm.trans looks'
  | skipped locates' looks =>
    obtain ⟨rfl, rfl⟩ := Action.ok_inj locates locates'
    obtain ⟨entry, there⟩ := leadsSomewhere_eq_true_iff.mp looks
    exact absurd there (unstated entry)
  | completed locates' looks unskipped completes =>
    obtain ⟨rfl, rfl⟩ := Action.ok_inj locates locates'
    rcases complete_cases tree completes with ⟨failure, rfl, setsUp⟩ | ⟨hasher, ready, setsUp, writes⟩
    · have prepares := (setUp_error setsUp).resolve_right (by simp [started])
      refine iff_of_true
        (stat_ne_file_of_prepare_error tree (isProper_of_locate locates) prepares) ?_
      rintro ⟨⟨count, copies⟩, -⟩
      obtain ⟨_, _, _, _, _, _, setsUp', -⟩ := (copies_iff locates).mp copies
      cases setsUp.symm.trans setsUp'
    · have grown := leaves_setUp options delivery.path located tree
      rw [setsUp] at grown
      have fresh := Except.ok.inj (started.symm.trans (setUp_ok setsUp).1)
      rw [writes.isVerified grown.2 fixed fresh.symm expects removes, FailsLate]
      simp only [copies_iff_of_setUp locates looks unskipped setsUp]
      rw [exists_comm]

/-- A download with an expected digest. -/
def expecting (expected : Expected) (destination : String) : DownloadOptions :=
  { plain destination with hasher := some (.named "blake2b"), expected := some expected }

/-- Nothing is there yet in a new file system. -/
theorem spotAt_out (place : Place) (entry : Entry) :
    (FileSystem.empty [] 0o022).spotAt .keepsLink (Path.ofText "out").text ≠
      .ok (.entry place entry) := by
  have vacant : (FileSystem.empty [] 0o022).spotAt .keepsLink (Path.ofText "out").text =
    .ok (.vacant ["out".toList]) := rfl
  intro found
  cases vacant.symm.trans found

/-- A file with another digest than the expected one is removed. -/
theorem isVerified_of_other_digest :
    IsVerified .blake2b (.bytes [0]) (served [.chunk [1, 2]] (.ofText "out")).path
      ((run (serving [.chunk [1, 2]]) (expecting (.bytes [0]) "out")).runOn
        (.start (.empty [] 0o022) none)).1
      ((run (serving [.chunk [1, 2]]) (expecting (.bytes [0]) "out")).runOn
        (.start (.empty [] 0o022) none)).2.fs := by
  have locates : (locate (serving [.chunk [1, 2]]) (expecting (.bytes [0]) "out")).runOn
      (.start (.empty [] 0o022) none) = (.ok (served [.chunk [1, 2]] (.ofText "out")), _) := rfl
  have iff := @isVerified_iff (.start (.empty [] 0o022) none) _ _ _ _ "blake2b" .blake2b
    (.bytes [0]) _ (isTree_empty [] 0o022) locates spotAt_out rfl rfl (fun message => ⟨_, rfl⟩) rfl
    rfl
  rw [iff]
  rintro ⟨-, ⟨failure, undated⟩ | ⟨failure, undecoded⟩⟩
  · cases undated
  · cases undecoded

/-- An expected digest that is not hexadecimal is found out too late: the file stays. -/
theorem not_isVerified_of_odd_digit :
    (FileSystem.empty [] 0o022).IsTree ∧
      (∀ place entry, (FileSystem.empty [] 0o022).spotAt .keepsLink (Path.ofText "out").text ≠
        .ok (.entry place entry)) ∧
      HasDigests .blake2b ∧
      (∃ located, (locate (serving [.chunk [1, 2]]) (expecting (.text "0g") "out")).runOn
        (.start (.empty [] 0o022) none) = (.ok (served [.chunk [1, 2]] (.ofText "out")), located)) ∧
      ¬ IsVerified .blake2b (.text "0g") (.ofText "out")
        ((run (serving [.chunk [1, 2]]) (expecting (.text "0g") "out")).runOn
          (.start (.empty [] 0o022) none)).1
        ((run (serving [.chunk [1, 2]]) (expecting (.text "0g") "out")).runOn
          (.start (.empty [] 0o022) none)).2.fs := by
  refine ⟨isTree_empty [] 0o022, spotAt_out, fun message => ⟨_, rfl⟩, ⟨_, rfl⟩, ?_⟩
  have runs := @runOn_run_of_locate (.start (.empty [] 0o022) none) (serving [.chunk [1, 2]])
    (expecting (.text "0g") "out") _ (served [.chunk [1, 2]] (.ofText "out")) _ false rfl rfl nofun
  rw [runs, runOn_complete_of_setUp rfl]
  exact fun verified => verified [1, 2] none rfl

end SafeFetch.Download
