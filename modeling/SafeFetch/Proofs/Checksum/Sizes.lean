import SafeFetch.Proofs.Checksum.Coverage
import SafeFetch.Proofs.Settings

/-!
# Sizes of pieces that digests are computed in

Every file has its digest computed in pieces of one size, or none has: what keeps a size from being
used is the room that a read makes for a whole piece, before anybody looks at the file. A size that
the environment sets is never zero, for which the digest of no bytes would come out, but it may be
one that a read refuses, because there is no room for it or no machine could have it.

## Main definitions

* `DigestsFiles`: every file has its digest computed in pieces of a size;
* `RefusesFiles`: no file has, for one reason.

## Main results

* `digestsFiles_iff`: every file has its digest computed in the sizes that a read accepts;
* `digestsFiles_of_environment`: what becomes of the size that an environment sets.
-/

namespace SafeFetch.Checksum

open Transfer

variable {size : Int} {failure : Failure}

section

variable [Platform]

/-- Every file that can be read has the digest of its contents computed in pieces of a size, if
nobody cancels. -/
def DigestsFiles (size : Int) : Prop :=
  ∀ (s : Session) (path name : String) (algorithm : Algorithm) (contents : List UInt8),
    IsQuiet s.signal → Algorithm.ofName name = .ok algorithm → s.fs.read path = .ok contents →
      ((ofFile path (.named name) size).runOn s).1 = algorithm.digest contents

/-- For no file that can be read a digest is computed in pieces of a size. -/
def RefusesFiles (failure : Failure) (size : Int) : Prop :=
  ∀ (s : Session) (path name : String) (algorithm : Algorithm) (contents : List UInt8),
    IsQuiet s.signal → Algorithm.ofName name = .ok algorithm → s.fs.read path = .ok contents →
      ((ofFile path (.named name) size).runOn s).1 = .error failure

/-- A size that a read refuses is refused for every file. -/
theorem refusesFiles_of_fault (refused : Source.fileFault? size = some failure) :
    RefusesFiles failure size := by
  intro s path name algorithm contents quiet known read
  exact fst_ofFile_of_fault known read quiet refused

/-- A size that is refused for every file is not one that digests are computed in. -/
theorem RefusesFiles.not_digestsFiles (refuses : RefusesFiles failure size) : ¬DigestsFiles size := by
  intro digests
  have read := read_singleByte none
  have computed := digests _ _ _ _ _ isQuiet_none ofName_md5 read
  cases computed.symm.trans (refuses _ _ _ _ _ isQuiet_none ofName_md5 read)

/-- Every file has its digest computed in pieces of a positive size exactly if a read accepts it. -/
theorem digestsFiles_iff (positive : 0 < size) :
    DigestsFiles size ↔ Source.fileFault? size = none := by
  constructor
  · intro digests
    rw [Option.eq_none_iff_forall_ne_some]
    intro failure refused
    exact (refusesFiles_of_fault refused).not_digestsFiles digests
  · intro accepted s path name algorithm contents quiet known read
    obtain ⟨signal, computes⟩ := runOn_ofFile positive accepted quiet known read
    exact congrArg Prod.fst computes

/-- The size that an environment makes is positive: the one that it sets, or else the default. Every
file has its digest computed in pieces of it if a read accepts it; otherwise no file has, for the
reason that the read gives. -/
theorem digestsFiles_of_environment (environment : List (String × String)) :
    0 < (Settings.ofEnvironment environment).chunkSize ∧
      (∀ size, Settings.SetsChunkSize environment size →
        (Settings.ofEnvironment environment).chunkSize = size) ∧
      ((∀ size, ¬Settings.SetsChunkSize environment size) →
        (Settings.ofEnvironment environment).chunkSize = Settings.default.chunkSize) ∧
      (DigestsFiles (Settings.ofEnvironment environment).chunkSize ↔
        Source.fileFault? (Settings.ofEnvironment environment).chunkSize = none) ∧
      ∀ failure, Source.fileFault? (Settings.ofEnvironment environment).chunkSize = some failure →
        RefusesFiles failure (Settings.ofEnvironment environment).chunkSize := by
  have positive := Settings.chunkSize_pos environment
  exact ⟨positive, fun size => Settings.chunkSize_of_sets, Settings.chunkSize_of_unset,
    digestsFiles_iff (Int.natCast_pos.mpr positive), fun failure => refusesFiles_of_fault⟩

end

/-- An environment in which a user sets the size of chunks only. -/
def sized (text : String) : List (String × String) := [(Settings.chunkSizeVariable, text)]

/-- A size in groups of digits of several scripts, with a sign and white space around it, is one that
every file has its digest computed in. -/
theorem digestsFiles_of_grouped :
    Settings.SetsChunkSize (sized " +1_0٢٤\n") 1024 ∧
      DigestsFiles (Settings.ofEnvironment (sized " +1_0٢٤\n")).chunkSize := by
  have sets : Settings.SetsChunkSize (sized " +1_0٢٤\n") 1024 :=
    ⟨by decide, _, rfl, by decide +kernel⟩
  obtain ⟨-, inForce, -, digests, -⟩ := digestsFiles_of_environment (sized " +1_0٢٤\n")
  refine ⟨sets, digests.mpr ?_⟩
  rw [inForce 1024 sets]
  decide

/-- A size beyond a machine word is set, which a read refuses on every platform: then a file of one
byte has no digest. -/
theorem not_digestsFiles_of_large :
    Settings.SetsChunkSize (sized "9223372036854775808") 0x8000000000000000 ∧
      ((ofFile "a" (.named "md5")
        (Settings.ofEnvironment (sized "9223372036854775808")).chunkSize).runOn
          (singleByte none)).1 = .error .sizeBeyondWord ∧
      ¬DigestsFiles (Settings.ofEnvironment (sized "9223372036854775808")).chunkSize := by
  have sets : Settings.SetsChunkSize (sized "9223372036854775808") 0x8000000000000000 :=
    ⟨by decide, _, rfl, by decide +kernel⟩
  rw [Settings.chunkSize_of_sets sets]
  have refuses : RefusesFiles .sizeBeyondWord ((0x8000000000000000 : Nat) : Int) :=
    refusesFiles_of_fault rfl
  have read := read_singleByte none
  exact ⟨sets, refuses _ _ _ _ _ isQuiet_none ofName_md5 read, refuses.not_digestsFiles⟩

end SafeFetch.Checksum
