import SafeFetch.Proofs.Download.Stages
import SafeFetch.Proofs.Transfer.Source

/-!
# Checksums of files

What computing and checking the digest of a file gives. Neither changes any file, unless one with
another digest is to be removed, and a digest that is given is that of the whole contents: a read
that is cut off, refused or cancelled gives none.

## Main results

* `leaves_ofFile` and `leaves_verify`: no file changes;
* `ofFile_ok`: the digest that is given;
* `runOn_ofFile`: it is given for every file that nobody keeps from being read;
* `ofFile_of_verify` and `verify_of_ofFile`: a digest that is checked is the one of the file.
-/

namespace SafeFetch

open SafeFetch.Transfer

/-- What a result is turned into is there if the result is. -/
theorem map_eq_ok_iff {α β : Type} {r : Except Failure α} {f : α → β} {b : β} :
    r.map f = .ok b ↔ ∃ a, r = .ok a ∧ f a = b := by
  cases r <;> simp [Except.map]

/-- A failure stays what it is. -/
theorem map_eq_error_iff {α β : Type} {r : Except Failure α} {f : α → β} {failure : Failure} :
    r.map f = .error failure ↔ r = .error failure := by
  cases r <;> simp [Except.map]

/-- A hasher of a name that is known is the one of the algorithm, handed nothing yet. -/
theorem HasherChoice.start_named_eq_ok_iff {name : String} {hasher : Hasher} :
    (HasherChoice.named name).start = .ok hasher ↔
      ∃ algorithm, Algorithm.ofName name = .ok algorithm ∧ .standard algorithm [] = hasher :=
  map_eq_ok_iff

namespace Transfer

/-- A hasher on its own is handed every chunk. -/
theorem Sink.after_hash (hasher : Hasher) (chunks : List (List UInt8)) :
    (Sink.hash hasher).after chunks = .hash (Download.hasherAfter hasher chunks) := by
  induction chunks generalizing hasher with
  | nil => rfl
  | cons chunk chunks ih => exact ih (hasher.update chunk).sink

/-- A hasher on its own is fed. -/
theorem feeds_hash (hasher : Hasher) : Download.Feeds (.hash hasher) hasher := by
  intro chunks chunk
  rw [Sink.after_hash]
  exact ⟨rfl, rfl⟩

/-- A hasher that a name stands for, or one that was announced and not given. -/
def Hasher.IsNamed (hasher : Hasher) : Prop :=
  (∃ algorithm, hasher = .standard algorithm []) ∨ hasher = .withheld

/-- A sink that feeds such a hasher sets no signal, and refuses a chunk only if the hasher was not
given. -/
theorem Hasher.IsNamed.calm {hasher : Hasher} {sink : Sink} (named : hasher.IsNamed)
    (feeds : Download.Feeds sink hasher) :
    sink.IsCalm ∧ ∀ chunks chunk failure,
      ((sink.after chunks).write chunk).failure = some failure →
        hasher = .withheld ∧ failure = .valueWithheld "update" := by
  have ends (chunks : List (List UInt8)) (chunk : List UInt8) :
      ((Download.hasherAfter hasher chunks).update chunk).isCancelling = false ∧
        ∀ failure, ((Download.hasherAfter hasher chunks).update chunk).failure = some failure →
          hasher = .withheld ∧ failure = .valueWithheld "update" := by
    rcases named with ⟨algorithm, rfl⟩ | rfl
    · rw [Download.hasherAfter_standard]
      exact ⟨rfl, nofun⟩
    · rw [Download.hasherAfter_withheld]
      refine ⟨rfl, ?_⟩
      rintro failure refused
      exact ⟨rfl, (Option.some.inj refused).symm⟩
  constructor
  · intro chunks chunk
    exact (feeds chunks chunk).2.trans (ends chunks chunk).1
  · intro chunks chunk failure refused
    exact (ends chunks chunk).2 failure ((feeds chunks chunk).1.symm.trans refused)

/-- A copy into such a sink, which nobody cancels, comes to its end, unless the hasher was not given
or the source breaks off. -/
theorem Hasher.IsNamed.copy [Platform] {hasher : Hasher} {sink : Sink} {source : Source}
    {signal : Option CancelSignal} (named : hasher.IsNamed) (feeds : Download.Feeds sink hasher)
    (quiet : IsQuiet signal) (unsignalled : .signal ∉ source.items) :
    (∃ count, (copy source sink signal).1 = .ok count) ∨
      ∃ failure, (copy source sink signal).1 = .error failure ∧
        (hasher = .withheld ∧ failure = .valueWithheld "update" ∨
          received? source.items = none ∧ .fault failure ∈ source.items) := by
  obtain ⟨calm, refuses⟩ := named.calm feeds
  rcases (copy_of_quiet quiet calm unsignalled).2 with
    copied | ⟨failure, isFailure, ⟨chunks, chunk, refused⟩ | broken⟩
  · exact .inl copied
  · exact .inr ⟨failure, isFailure, .inl (refuses chunks chunk failure refused)⟩
  · exact .inr ⟨failure, isFailure, .inr broken⟩

end Transfer

namespace Checksum

variable [Platform] {R : FileSystem → FileSystem → Prop} {s s' : Session} {choice : HasherChoice}
  {chunkSize : Int} {digest : List UInt8}

/-- A copy changes no file by itself. -/
theorem leaves_copyInto (composes : Action.Composes R) (source : Source) (sink : Sink) :
    Action.Leaves R (copyInto source sink) :=
  fun s => composes.refl s.fs

/-- The digest of a file is computed without a change. -/
theorem leaves_ofFile (composes : Action.Composes R) (path : String) (choice : HasherChoice)
    (chunkSize : Int) : Action.Leaves R (ofFile path choice chunkSize) :=
  .bind composes (.ofExcept composes _) fun _ =>
    .bind composes (.query composes _) fun _ =>
      .bind composes (leaves_copyInto composes _ _) fun _ =>
        .bind composes (.ofExcept composes _) fun _ => .ofExcept composes _

/-- The digest of a file is checked without a change, unless the file is to be removed. -/
theorem leaves_verify (composes : Action.Composes R) (path : Path) (choice : HasherChoice)
    (expected : Expected) (chunkSize : Int) :
    Action.Leaves R (verify path choice expected false chunkSize) := by
  refine .bind composes (.ofExcept composes _) fun wanted => ?_
  refine .bind composes (leaves_ofFile composes _ _ _) fun actual => ?_
  split
  · exact .pure composes _
  · exact .bind composes (.report composes _ _) fun _ =>
      .bind composes (.pure composes ()) fun _ => .throw composes _

/-! ## The digest that is given -/

/-- A copy gives its count and the sink, and changes nothing but the signal. -/
theorem runOn_copyInto (source : Source) (sink : Sink) (s : Session) :
    (copyInto source sink).runOn s =
      (.ok ((copy source sink s.signal).1, (copy source sink s.signal).2.sink),
        { s with signal := (copy source sink s.signal).2.signal }) := rfl

/-- A digest that is given is that of a hasher that was handed what the file gives. -/
theorem ofFile_ok {path : String}
    (run : (ofFile path choice chunkSize).runOn s = (.ok digest, s')) :
    ∃ hasher contents chunks, choice.start = .ok hasher ∧ s.fs.read path = .ok contents ∧
      received? (Source.fileItems contents chunkSize) = some chunks.flatten ∧
        (Download.hasherAfter hasher chunks).digest = .ok digest := by
  obtain ⟨hasher, started, starts, run⟩ := Action.runOn_bind_eq_ok.mp run
  obtain ⟨begins, rfl⟩ := Prod.mk.inj starts
  obtain ⟨contents, asked, asks, run⟩ := Action.runOn_bind_eq_ok.mp run
  obtain ⟨read, rfl⟩ := Prod.mk.inj asks
  obtain ⟨chunks, sink, -, counts⟩ :=
    copy_after (.file contents chunkSize) (.hash hasher) s.signal
  rw [Action.runOn_bind, runOn_copyInto, sink] at run
  obtain ⟨count, counted, succeeds, run⟩ := Action.runOn_bind_eq_ok.mp run
  obtain ⟨taken, rfl⟩ := Prod.mk.inj succeeds
  obtain ⟨digested, -⟩ := Prod.mk.inj run
  rw [Sink.after_hash] at digested
  exact ⟨hasher, contents, chunks, begins, read, (counts count taken).1, digested⟩

/-- A digest is given only if nobody has set the signal before. -/
theorem not_isRaised_of_ofFile {path : String}
    (run : (ofFile path choice chunkSize).runOn s = (.ok digest, s')) : ¬ IsRaised s.signal := by
  intro raised
  obtain ⟨hasher, started, starts, run⟩ := Action.runOn_bind_eq_ok.mp run
  obtain ⟨-, rfl⟩ := Prod.mk.inj starts
  obtain ⟨contents, asked, asks, run⟩ := Action.runOn_bind_eq_ok.mp run
  obtain ⟨-, rfl⟩ := Prod.mk.inj asks
  rw [Action.runOn_bind, runOn_copyInto, copy_of_raised raised] at run
  cases run

/-- The digest of a file that nobody interrupts is that of its contents. -/
theorem runOn_ofFile {path name : String} {algorithm : Algorithm} {contents : List UInt8}
    (positive : 0 < chunkSize) (fits : Source.fileFault? chunkSize = none)
    (quiet : IsQuiet s.signal) (known : Algorithm.ofName name = .ok algorithm)
    (read : s.fs.read path = .ok contents) :
    ∃ signal, (ofFile path (.named name) chunkSize).runOn s =
      (algorithm.digest contents, { s with signal }) := by
  have start : (HasherChoice.named name).start = .ok (.standard algorithm []) :=
    HasherChoice.start_named_eq_ok_iff.mpr ⟨algorithm, known, rfl⟩
  have whole : received? (Source.fileItems contents chunkSize) = some contents :=
    (received?_fileItems_iff positive).mpr ⟨fits, rfl⟩
  have named : (Hasher.standard algorithm []).IsNamed := .inl ⟨algorithm, rfl⟩
  obtain ⟨chunks, sink, -, counts⟩ :=
    copy_after (.file contents chunkSize) (.hash (.standard algorithm [])) s.signal
  rcases named.copy (feeds_hash _) quiet (signal_notMem_file contents chunkSize) with
    ⟨count, copied⟩ | ⟨failure, -, ⟨withheld, -⟩ | ⟨broken, -⟩⟩
  · obtain ⟨received, -⟩ := counts count copied
    obtain isWhole : contents = chunks.flatten := Option.some.inj (whole.symm.trans received)
    refine ⟨(copy (.file contents chunkSize) (.hash (.standard algorithm [])) s.signal).2.signal,
      ?_⟩
    simp only [ofFile, Action.runOn_bind, Action.runOn_ofExcept, Action.runOn_query,
      runOn_copyInto, start, read, copied, sink, Sink.after_hash]
    rw [isWhole, ← Download.digest_hasherAfter]
    rfl
  · cases withheld
  · cases whole.symm.trans broken

/-- What keeps a digest from being given: the hasher, the file, or the copy between them. -/
theorem ofFile_error {path : String} {failure : Failure}
    (run : (ofFile path choice chunkSize).runOn s = (.error failure, s')) :
    choice.start = .error failure ∨ s.fs.read path = .error failure ∨
      ∃ hasher contents, choice.start = .ok hasher ∧ s.fs.read path = .ok contents ∧
        ((copy (.file contents chunkSize) (.hash hasher) s.signal).1 = .error failure ∨
          ∃ chunks, (Download.hasherAfter hasher chunks).digest = .error failure) := by
  rcases Action.runOn_bind_eq_error.mp run with starts | ⟨hasher, started, starts, run⟩
  · exact .inl (Prod.mk.inj starts).1
  obtain ⟨begins, rfl⟩ := Prod.mk.inj starts
  rcases Action.runOn_bind_eq_error.mp run with reads | ⟨contents, asked, reads, run⟩
  · exact .inr (.inl (Prod.mk.inj reads).1)
  obtain ⟨read, rfl⟩ := Prod.mk.inj reads
  refine .inr (.inr ⟨hasher, contents, begins, read, ?_⟩)
  obtain ⟨chunks, sink, -, -⟩ := copy_after (.file contents chunkSize) (.hash hasher) s.signal
  rw [Action.runOn_bind, runOn_copyInto, sink] at run
  rcases Action.runOn_bind_eq_error.mp run with breaks | ⟨count, counted, counts, run⟩
  · exact .inl (Prod.mk.inj breaks).1
  · obtain ⟨-, rfl⟩ := Prod.mk.inj counts
    obtain ⟨digested, -⟩ := Prod.mk.inj run
    rw [Sink.after_hash] at digested
    exact .inr ⟨chunks, digested⟩

omit [Platform] in
/-- Another digest is a failure, whether the file can be removed or not. -/
theorem failMismatch_ne_ok {α : Type} {path : Path} {wanted actual : List UInt8} {removes : Bool}
    {a : α} : (failMismatch path wanted actual removes).runOn s ≠ (.ok a, s') := by
  intro run
  obtain ⟨_, reported, -, run⟩ := Action.runOn_bind_eq_ok.mp run
  cases removes with
  | false => cases run
  | true =>
    obtain ⟨_, removed, -, run⟩ := Action.runOn_bind_eq_ok.mp run
    cases run

/-- A digest that is checked is the one of the file. -/
theorem ofFile_of_verify {path : Path} {expected : Expected} {removes : Bool}
    (run : (verify path choice expected removes chunkSize).runOn s = (.ok digest, s')) :
    expected.decode = .ok digest ∧
      (ofFile path.text choice chunkSize).runOn s = (.ok digest, s') := by
  obtain ⟨wanted, decoded, decodes, run⟩ := Action.runOn_bind_eq_ok.mp run
  obtain ⟨isWanted, rfl⟩ := Prod.mk.inj decodes
  obtain ⟨actual, computed, computes, run⟩ := Action.runOn_bind_eq_ok.mp run
  split at run
  next same =>
    obtain ⟨given, rfl⟩ := Prod.mk.inj run
    obtain rfl := Except.ok.inj given
    exact ⟨same ▸ isWanted, computes⟩
  · exact absurd run failMismatch_ne_ok

/-- What keeps a file from passing: the expected digest, the computation of the other one, or a
difference between them. -/
theorem verify_error {path : Path} {expected : Expected} {failure : Failure}
    (run : (verify path choice expected false chunkSize).runOn s = (.error failure, s')) :
    expected.decode = .error failure ∨
      (ofFile path.text choice chunkSize).runOn s = (.error failure, s') ∨
        ∃ wanted actual, failure = .mismatch path.text wanted actual := by
  rcases Action.runOn_bind_eq_error.mp run with decodes | ⟨wanted, decoded, decodes, run⟩
  · exact .inl (Prod.mk.inj decodes).1
  obtain ⟨-, rfl⟩ := Prod.mk.inj decodes
  rcases Action.runOn_bind_eq_error.mp run with computes | ⟨actual, computed, -, run⟩
  · exact .inr (.inl computes)
  split at run
  · cases run
  · obtain ⟨isMismatch, -⟩ := Prod.mk.inj run
    exact .inr (.inr ⟨wanted, actual, (Except.error.inj isMismatch).symm⟩)

/-- A file that has the expected digest passes. -/
theorem verify_of_ofFile {path : Path} {expected : Expected} (removes : Bool)
    (decoded : expected.decode = .ok digest)
    (computes : (ofFile path.text choice chunkSize).runOn s = (.ok digest, s')) :
    (verify path choice expected removes chunkSize).runOn s = (.ok digest, s') := by
  simp only [verify, Action.runOn_bind, Action.runOn_ofExcept, decoded, computes, if_true,
    Action.runOn_pure]

end Checksum

end SafeFetch
