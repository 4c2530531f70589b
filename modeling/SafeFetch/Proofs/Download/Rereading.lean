import SafeFetch.Proofs.Checksum.Coverage
import SafeFetch.Proofs.Download.Completion
import SafeFetch.Proofs.Hex

/-!
# Digests of downloads, computed again

The digest of a download is computed from the chunks of the body as they arrive, the checksum of a
file from the pieces that the file is read in. Both are digests of the same bytes, however these are
cut. A read makes room for a whole piece before it looks at the file, so it refuses sizes that there
is no room for.

## Main results

* `digest_of_unskipped`: the digest of a download is that of the contents of its file;
* `ofFile_of_unskipped`: the file gives the same digest when it is read again.
-/

namespace SafeFetch.Download

open SafeFetch.FileSystem SafeFetch.Text SafeFetch.Transfer

variable {s s' : Session} {transport : Http.Transport} {options : DownloadOptions} {name : String}
  {result : DownloadResult}

section

variable [Platform]

/-- The digest of a download that was not skipped is that of the contents of its file. -/
theorem digest_of_unskipped (tree : s.fs.IsTree) (named : options.hasher = some (.named name))
    (run : (run transport options).runOn s = (.ok result, s'))
    (unskipped : result.isSkipped = false) :
    ∃ algorithm contents digest, Algorithm.ofName name = .ok algorithm ∧
      s'.fs.read result.path.text = .ok contents ∧ algorithm.digest contents = .ok digest ∧
        result.digest = some digest := by
  obtain ⟨delivery, located, locates, completes⟩ := completes_of_run tree run unskipped
  have same := fs_of_locate locates
  rw [← same] at tree
  generalize s'.fs = fs' at completes ⊢
  obtain ⟨modified, -, isPath, -, filled⟩ := completes.isFilled tree
  obtain @⟨hasher, ready, place, chunks, _, digest, setsUp, -, received, -, digested⟩ := completes
  have whole := Http.Response.eq_contents_of_received? received
  -- The hasher was started for the algorithm, and was handed all of the chunks.
  have starts := (setUp_ok setsUp).1
  rw [named, startHasher?] at starts
  obtain ⟨fresh, begins, rfl⟩ := map_eq_ok_iff.mp starts
  obtain ⟨algorithm, known, rfl⟩ := HasherChoice.start_named_eq_ok_iff.mp begins
  rw [Option.map_some, digestOf?, digest_hasherAfter, whole] at digested
  obtain ⟨bytes, isDigest, rfl⟩ := map_eq_ok_iff.mp digested
  exact ⟨algorithm, _, bytes, known, filled.read_eq, isDigest, rfl⟩

/-- The file of a download gives the digest of the download when it is read again, in pieces of any
size that a read accepts, and the digest passes as the expected one, in any spelling. A size that a
read refuses is all that keeps the file from being read again. -/
theorem ofFile_of_unskipped (tree : s.fs.IsTree) (named : options.hasher = some (.named name))
    (run : (run transport options).runOn s = (.ok result, s'))
    (unskipped : result.isSkipped = false) :
    ∃ digest, result.digest = some digest ∧
      ∀ (later : Session) (size : Int), later.fs = s'.fs → later.signal = none → 1 ≤ size →
        (Source.fileFault? size = none →
          ((Checksum.ofFile result.path.text (.named name) size).runOn later).1 = .ok digest ∧
          ∀ expected removes, Expected.Spells digest expected →
            ((Checksum.verify result.path (.named name) expected removes size).runOn later).1 =
              .ok digest) ∧
        ∀ failure, Source.fileFault? size = some failure →
          ((Checksum.ofFile result.path.text (.named name) size).runOn later).1 =
            .error failure := by
  obtain ⟨algorithm, contents, digest, known, read, isDigest, isResult⟩ :=
    digest_of_unskipped tree named run unskipped
  refine ⟨digest, isResult, ?_⟩
  intro later size same silent positive
  have positive : 0 < size := by omega
  have quiet : IsQuiet later.signal := silent ▸ isQuiet_none
  rw [← same] at read
  constructor
  · intro accepted
    obtain ⟨signal, computes⟩ := Checksum.runOn_ofFile positive accepted quiet known read
    rw [isDigest] at computes
    refine ⟨congrArg Prod.fst computes, ?_⟩
    intro expected removes spells
    exact congrArg Prod.fst (Checksum.verify_of_ofFile removes spells.decode_eq computes)
  · intro failure refused
    exact Checksum.fst_ofFile_of_fault known read quiet refused

end

/-! ## A file of three bytes -/

/-- A download of a file into the working directory, with its digest. -/
def hashing : DownloadOptions := { plain "out" with hasher := some (.named "md5") }

/-- A server that sends three bytes in two chunks. -/
def inTwoChunks : Http.Transport := serving [.chunk [1], .chunk [2, 3]]

/-- The digest of three bytes. -/
def md5Of123 : List UInt8 := [0x52, 0x89, 0xdf, 0x73, 0x7d, 0xf5, 0x73, 0x26, 0xfc, 0xdd, 0x22, 0x59,
  0x7a, 0xfb, 0x1f, 0xac]

/-- What the download leads to. -/
def hashed : DownloadResult where
  path := .ofText "out"
  bytesWritten := 3
  digest := some md5Of123
  isSkipped := false

/-- The download succeeds with them. -/
theorem run_hashing :
    ∃ s', (run inTwoChunks hashing).runOn (.start (.empty [] 0o022) none) = (.ok hashed, s') := by
  have computed : ((run inTwoChunks hashing).runOn
      (.start (.empty [] 0o022) none)).1.toOption = some hashed := by decide +kernel
  exact ⟨_, Action.runOn_of_toOption computed⟩

/-- The digest of two chunks is that of the file in single bytes, and may be expected in capitals. -/
theorem ofFile_of_two_chunks :
    (FileSystem.empty [] 0o022).IsTree ∧ hashing.hasher = some (.named "md5") ∧
      hashed.isSkipped = false ∧
      ∃ s', (run inTwoChunks hashing).runOn (.start (.empty [] 0o022) none) = (.ok hashed, s') ∧
        ((Checksum.ofFile hashed.path.text (.named "md5") 1).runOn (.start s'.fs none)).1 =
          .ok md5Of123 ∧
        ((Checksum.verify hashed.path (.named "md5") (.text "5289DF737DF57326FCDD22597AFB1FAC")
          false 1).runOn (.start s'.fs none)).1 = .ok md5Of123 := by
  have tree := isTree_empty [] 0o022
  have named : hashing.hasher = some (.named "md5") := rfl
  obtain ⟨s', runs⟩ := run_hashing
  obtain ⟨digest, isDigest, rereads⟩ := ofFile_of_unskipped tree named runs rfl
  obtain rfl : md5Of123 = digest := Option.some.inj isDigest
  obtain ⟨accepts, -⟩ := rereads (.start s'.fs none) 1 rfl rfl (by omega)
  obtain ⟨computes, verifies⟩ := accepts (by decide)
  have spells : Expected.Spells md5Of123 (.text "5289DF737DF57326FCDD22597AFB1FAC") := by
    rw [Expected.Spells]
    decide +kernel
  exact ⟨tree, named, rfl, s', runs, computes, verifies _ false spells⟩

/-- A file cannot be read in pieces beyond a machine word, although the download has a digest. -/
theorem ofFile_beyond_word :
    (FileSystem.empty [] 0o022).IsTree ∧ hashing.hasher = some (.named "md5") ∧
      hashed.isSkipped = false ∧ hashed.digest = some md5Of123 ∧
      (1 : Int) ≤ 0x8000000000000000 ∧
      ∃ s', (run inTwoChunks hashing).runOn (.start (.empty [] 0o022) none) = (.ok hashed, s') ∧
        ((Checksum.ofFile hashed.path.text (.named "md5") 0x8000000000000000).runOn
          (.start s'.fs none)).1 ≠ .ok md5Of123 := by
  obtain ⟨s', runs⟩ := run_hashing
  have tree := isTree_empty [] 0o022
  refine ⟨tree, rfl, rfl, rfl, by omega, s', runs, ?_⟩
  obtain ⟨algorithm, contents, -, known, read, -⟩ := digest_of_unskipped tree rfl runs rfl
  have beyond : Source.fileFault? 0x8000000000000000 = some .sizeBeyondWord := rfl
  have fails := Checksum.fst_ofFile_of_fault (s := .start s'.fs none) known read isQuiet_none beyond
  rw [fails]
  exact nofun

end SafeFetch.Download
