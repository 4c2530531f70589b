import SafeFetch.Proofs.Transfer.Delivery

/-!
# How much of a file its digest covers

A file is read in pieces up to the first piece that is empty. In pieces of no bytes that is the
first one, so the digest that such a reading gives is the one of no bytes at all. In pieces of any
other size a digest that is given covers the whole file, and whether one is given depends on the
file, the size and the signal alone: the signal is looked at before each piece, and once more at the
end.

## Main definitions

* `Spares`: a signal lets a number of looks pass;
* `looksAt` and `covered`: how often a reading looks at its signal, and which bytes it hands over;
* `IsWhole`: a digest that is given is the one of the whole file.

## Main results

* `copyFrom_chunks_iff`: whether a copy of chunks comes to its end;
* `fst_ofFile_eq_ok_iff`: which digest is given, and when;
* `isWhole_iff`: when the digest is the one of the whole file.
-/

namespace SafeFetch

namespace Transfer

variable {asked? : Option (Option Int)} {p next : Progress} {looks : Nat}
  {signal : Option CancelSignal}

/-! ## Signals that let looks pass -/

/-- Nobody has set a signal, and it lets a number of looks pass before it is set by itself. -/
def Spares (looks : Nat) : Option CancelSignal → Prop
  | none => True
  | some set => set.isRaised = false ∧ ∀ threshold ∈ set.threshold, set.polls + looks < threshold

instance (looks : Nat) : (signal : Option CancelSignal) → Decidable (Spares looks signal)
  | none => .isTrue trivial
  | some set => inferInstanceAs (Decidable (set.isRaised = false ∧ _))

/-- A signal that lets looks pass lets fewer of them pass as well. -/
theorem Spares.mono {fewer : Nat} (spares : Spares looks signal) (less : fewer ≤ looks) :
    Spares fewer signal := by
  cases signal with
  | none => trivial
  | some set =>
    obtain ⟨unraised, unreached⟩ := spares
    refine ⟨unraised, fun threshold isThreshold => ?_⟩
    have := unreached threshold isThreshold
    omega

/-- A signal is found unset by a look that it lets pass. -/
theorem poll_eq_false_iff (set : CancelSignal) : set.poll.1 = false ↔ Spares 1 (some set) := by
  simp only [Spares, CancelSignal.poll, Bool.or_eq_false_iff]
  cases set.threshold <;> simp

/-- A look is one of those that a signal lets pass. -/
theorem spares_poll_iff (set : CancelSignal) :
    Spares looks (some set.poll.2) ↔ Spares (looks + 1) (some set) := by
  simp only [Spares, CancelSignal.poll, Nat.add_right_comm, Nat.add_assoc]

/-- A copy asks for a chunk if its signal lets a look pass. -/
theorem request_eq_ok_iff (asked? : Option (Option Int)) (p : Progress) :
    (∃ next, request asked? p = (.ok (), next)) ↔ Spares 1 p.signal := by
  cases present : p.signal with
  | none => simp [request, Progress.poll, present, Spares]
  | some set =>
    rw [← poll_eq_false_iff]
    cases isSet : set.poll.1 <;> simp [request, Progress.poll, present, isSet]

/-- A copy that has asked for a chunk has spent one of the looks. -/
theorem spares_iff_of_request (asks : request asked? p = (.ok (), next)) :
    Spares looks next.signal ↔ Spares (looks + 1) p.signal := by
  have unchanged (p : Progress) : (p.ask asked?).signal = p.signal := by
    cases asked? <;> rfl
  cases present : p.signal with
  | none =>
    -- Nobody can stop a copy without a signal, so any number of looks is left.
    simp only [request, Progress.poll, present, Prod.mk.injEq, true_and] at asks
    rw [← asks, unchanged, present]
    exact Iff.rfl
  | some set =>
    -- A look that finds the signal set does not end in a request.
    rw [← spares_poll_iff]
    cases isSet : set.poll.1 <;>
      simp only [request, Progress.poll, present, isSet, Prod.mk.injEq, reduceCtorEq, false_and,
        true_and] at asks
    rw [← asks, unchanged]

/-- A chunk for a sink that takes everything and sets no signal is taken or passed over, and the
copy goes on with the looks that it had. -/
theorem takeUp_chunk (asked? : Option (Option Int)) (takesAll : p.sink.TakesAll)
    (calm : p.sink.IsCalm) (bytes : List UInt8) (rest : List Item) :
    ∃ after chunks, takeUp asked? (.chunk bytes) rest p = copyFrom asked? rest after ∧
      after.sink = p.sink.after chunks ∧ after.signal = p.signal := by
  by_cases empty : bytes = []
  · refine ⟨p, [], ?_, rfl, rfl⟩
    simp only [takeUp, empty, List.isEmpty_nil, if_true]
  · -- Only the sink could refuse the chunk, or set the signal over it.
    have taken : (p.deliver bytes).1 = none := (fst_deliver bytes p).trans (takesAll [] bytes)
    have stays : (p.deliver bytes).2.signal = p.signal := by
      have unset : (p.sink.write bytes).isCancelling = false := calm [] bytes
      simp only [Progress.deliver, unset]
      cases (p.sink.write bytes).failure <;> rfl
    refine ⟨(p.deliver bytes).2, [bytes], ?_, sink_deliver bytes p, stays⟩
    rcases hands : p.deliver bytes with ⟨refusal, after⟩
    obtain rfl : refusal = none := (congrArg Prod.fst hands).symm.trans taken
    simp only [takeUp, List.isEmpty_iff, empty, if_false, hands]

/-- Chunks are copied to their end into a sink that takes everything and sets no signal exactly if
the signal lets a look pass before each of them, and one more. -/
theorem copyFrom_chunks_iff (takesAll : p.sink.TakesAll) (calm : p.sink.IsCalm)
    (chunks : List (List UInt8)) :
    (∃ count, (copyFrom asked? (chunks.map .chunk) p).1 = .ok count) ↔
      Spares (chunks.length + 1) p.signal := by
  -- One look is spent on each chunk. The last one is left for the turn that finds the end.
  induction chunks generalizing p with
  | nil =>
    rw [List.length_nil, ← request_eq_ok_iff asked?]
    rcases asks : request asked? p with ⟨failure | _, next⟩
    · simp [copyFrom, asks]
    · simp [copyFrom, asks, copyItems]
  | cons bytes rest ih =>
    rcases asks : request asked? p with ⟨failure | _, next⟩
    · have stops : ¬ Spares 1 p.signal := by
        rw [← request_eq_ok_iff asked?]
        rintro ⟨next', asks'⟩
        cases asks.symm.trans asks'
      refine iff_of_false ?_ fun spares => stops (spares.mono (by omega))
      simp [copyFrom, asks]
    · have obtains : Obtains asked? ((bytes :: rest).map .chunk) p (.chunk bytes)
          (rest.map .chunk) next := ⟨next, asks, rfl⟩
      have takesAll := obtains.sink_eq ▸ takesAll
      have calm := obtains.sink_eq ▸ calm
      -- The sink is as it has to be for the other chunks as well.
      obtain ⟨after, taken, onward, isAfter, stays⟩ :=
        takeUp_chunk asked? takesAll calm bytes (rest.map .chunk)
      rw [obtains.copyFrom_eq, onward, List.length_cons, ← spares_iff_of_request asks, ← stays]
      exact ih (isAfter ▸ takesAll.after taken) (isAfter ▸ calm.after taken)

end Transfer

namespace Checksum

open Transfer

variable {s : Session} {path name : String} {chunkSize : Int} {algorithm : Algorithm}
  {contents digest : List UInt8}

section

variable [Platform]

/-! ## Readings of a file -/

/-- How often the reading of a file looks at its signal. -/
def looksAt (contents : List UInt8) (chunkSize : Int) : Nat :=
  (Source.fileItems contents chunkSize).length + 1

/-- The bytes of a file that are read in pieces of a size. -/
def covered (contents : List UInt8) (chunkSize : Int) : List UInt8 :=
  if chunkSize = 0 then [] else contents

/-- A file that can be read in pieces of a size gives what they cover. -/
theorem fileItems_eq (contents : List UInt8) (fits : Source.fileFault? chunkSize = none) :
    ∃ chunks : List (List UInt8), Source.fileItems contents chunkSize = chunks.map .chunk ∧
      chunks.flatten = covered contents chunkSize := by
  rw [covered]
  by_cases zero : chunkSize = 0
  · subst zero
    exact ⟨[], rfl, rfl⟩
  · rcases Source.fileItems_cases contents chunkSize with
      ⟨failure, faulty, -⟩ | ⟨-, chunks, isChunks, whole⟩
    · cases fits.symm.trans faulty
    · rw [if_neg zero]
      exact ⟨chunks, isChunks, whole zero⟩

omit [Platform] in
/-- A hasher of an algorithm sets no signal. -/
theorem isCalm_standard (algorithm : Algorithm) : (Sink.hash (.standard algorithm [])).IsCalm :=
  (Hasher.IsNamed.calm (.inl ⟨algorithm, rfl⟩) (feeds_hash _)).1

/-- A file is copied into a hasher to its end if it can be read in pieces of the size, and if the
signal lets all looks pass. -/
theorem copy_file_iff (algorithm : Algorithm) (contents : List UInt8)
    (signal : Option CancelSignal) :
    (∃ count, (copy (.file contents chunkSize) (.hash (.standard algorithm [])) signal).1 =
        .ok count) ↔
      Source.fileFault? chunkSize = none ∧ Spares (looksAt contents chunkSize) signal := by
  cases faulty : Source.fileFault? chunkSize with
  | some failure =>
    -- A copy that came to its end would have got past the fault, which is the first item.
    refine iff_of_false ?_ nofun
    rintro ⟨count, copied⟩
    obtain ⟨chunks, -, -, counts⟩ :=
      copy_after (.file contents chunkSize) (.hash (.standard algorithm [])) signal
    obtain ⟨received, -⟩ := counts count copied
    rw [Source.items, Source.fileItems, faulty] at received
    cases received
  | none =>
    obtain ⟨chunks, isChunks, -⟩ := fileItems_eq contents faulty
    rw [copy_eq_copyFrom, Source.items, looksAt, isChunks, List.length_map]
    simp only [true_and]
    exact copyFrom_chunks_iff (p := .start _ signal) (Hasher.takesAll_standard algorithm)
      (isCalm_standard algorithm) chunks

/-- A reading that comes to its end gives the digest of what the pieces cover. -/
theorem fst_ofFile_of_copied (known : Algorithm.ofName name = .ok algorithm)
    (read : s.fs.read path = .ok contents) (fits : Source.fileFault? chunkSize = none)
    (spares : Spares (looksAt contents chunkSize) s.signal) :
    ((ofFile path (.named name) chunkSize).runOn s).1 =
      algorithm.digest (covered contents chunkSize) := by
  have start : (HasherChoice.named name).start = .ok (.standard algorithm []) :=
    HasherChoice.start_named_eq_ok_iff.mpr ⟨algorithm, known, rfl⟩
  obtain ⟨count, copied⟩ := (copy_file_iff algorithm contents s.signal).mpr ⟨fits, spares⟩
  obtain ⟨chunks, sink, -, counts⟩ :=
    copy_after (.file contents chunkSize) (.hash (.standard algorithm [])) s.signal
  obtain ⟨received, -⟩ := counts count copied
  -- The hasher need not have been handed the pieces as they came: empty ones are passed over.
  have same : chunks.flatten = covered contents chunkSize := by
    obtain ⟨pieces, isPieces, flat⟩ := fileItems_eq contents fits
    rw [Source.items, isPieces, received?_map_chunk] at received
    exact (Option.some.inj received).symm.trans flat
  simp only [ofFile, Action.runOn_bind, Action.runOn_ofExcept, Action.runOn_query,
    runOn_copyInto, start, read, copied, sink, Sink.after_hash]
  rw [← same, ← Download.digest_hasherAfter]
  rfl

/-- A reading that does not come to its end passes on what broke it off. -/
theorem fst_ofFile_of_uncopied {failure : Failure} (known : Algorithm.ofName name = .ok algorithm)
    (read : s.fs.read path = .ok contents)
    (fails : (copy (.file contents chunkSize) (.hash (.standard algorithm [])) s.signal).1 =
      .error failure) :
    ((ofFile path (.named name) chunkSize).runOn s).1 = .error failure := by
  have start : (HasherChoice.named name).start = .ok (.standard algorithm []) :=
    HasherChoice.start_named_eq_ok_iff.mpr ⟨algorithm, known, rfl⟩
  simp only [ofFile, Action.runOn_bind, Action.runOn_ofExcept, Action.runOn_query,
    runOn_copyInto, start, read, fails]

/-- A size that a read refuses is refused for every file that is there. -/
theorem fst_ofFile_of_fault {failure : Failure} (known : Algorithm.ofName name = .ok algorithm)
    (read : s.fs.read path = .ok contents) (quiet : IsQuiet s.signal)
    (faulty : Source.fileFault? chunkSize = some failure) :
    ((ofFile path (.named name) chunkSize).runOn s).1 = .error failure := by
  apply fst_ofFile_of_uncopied known read
  apply (copy_of_fault quiet ?_).1
  rw [Source.items, Source.fileItems, faulty]

/-- A digest of a file that is there is given if it can be read in pieces of the size, and if the
signal lets all looks pass. It is the one of what the pieces cover. -/
theorem fst_ofFile_eq_ok_iff_of_read (known : Algorithm.ofName name = .ok algorithm)
    (read : s.fs.read path = .ok contents) :
    ((ofFile path (.named name) chunkSize).runOn s).1 = .ok digest ↔
      Source.fileFault? chunkSize = none ∧ Spares (looksAt contents chunkSize) s.signal ∧
        algorithm.digest (covered contents chunkSize) = .ok digest := by
  rw [← and_assoc, ← copy_file_iff algorithm]
  cases copied :
      (copy (.file contents chunkSize) (.hash (.standard algorithm [])) s.signal).1 with
  | error failure =>
    rw [fst_ofFile_of_uncopied known read copied]
    simp
  | ok count =>
    obtain ⟨fits, spares⟩ := (copy_file_iff algorithm contents s.signal).mp ⟨count, copied⟩
    rw [fst_ofFile_of_copied known read fits spares]
    simp

/-- A digest is given only of a file that is there, under an algorithm that is known. -/
theorem fst_ofFile_eq_ok_iff :
    ((ofFile path (.named name) chunkSize).runOn s).1 = .ok digest ↔
      ∃ algorithm contents, Algorithm.ofName name = .ok algorithm ∧ s.fs.read path = .ok contents ∧
        Source.fileFault? chunkSize = none ∧ Spares (looksAt contents chunkSize) s.signal ∧
          algorithm.digest (covered contents chunkSize) = .ok digest := by
  constructor
  · intro computed
    rcases run : (ofFile path (.named name) chunkSize).runOn s with ⟨outcome, s'⟩
    obtain rfl : outcome = .ok digest := by rwa [run] at computed
    obtain ⟨hasher, contents, chunks, begins, read, -⟩ := ofFile_ok run
    obtain ⟨algorithm, known, -⟩ := HasherChoice.start_named_eq_ok_iff.mp begins
    exact ⟨algorithm, contents, known, read,
      (fst_ofFile_eq_ok_iff_of_read known read).mp computed⟩
  · rintro ⟨algorithm, contents, known, read, computes⟩
    exact (fst_ofFile_eq_ok_iff_of_read known read).mpr computes

/-! ## Whole files -/

/-- A digest of a file that is given is the one of all its contents. -/
def IsWhole (s : Session) (path name : String) (chunkSize : Int) : Prop :=
  ∀ algorithm contents digest, Algorithm.ofName name = .ok algorithm →
    s.fs.read path = .ok contents →
      ((ofFile path (.named name) chunkSize).runOn s).1 = .ok digest →
        algorithm.digest contents = .ok digest

omit [Platform] in
/-- Whether a message has a digest depends on the algorithm alone. -/
theorem digest_eq_error {failure : Failure} {message : List UInt8}
    (fails : algorithm.digest message = .error failure) (other : List UInt8) :
    algorithm.digest other = .error failure := by
  cases algorithm <;> first | exact fails | cases fails

omit [Platform] in
/-- Two messages have the same digest if the second has each that the first has. -/
theorem digest_eq_iff {message other : List UInt8} :
    algorithm.digest other = algorithm.digest message ↔
      ∀ digest, algorithm.digest message = .ok digest → algorithm.digest other = .ok digest := by
  constructor
  · intro same digest isDigest
    exact same.trans isDigest
  · intro follows
    cases isDigest : algorithm.digest message with
    | ok digest => exact follows digest isDigest
    | error failure => exact digest_eq_error isDigest other

/-- The digest that is given is the one of the whole file, unless the file is asked for in pieces of
no bytes: then it is the one of no bytes at all, if the signal lets one look pass. -/
theorem isWhole_iff (known : Algorithm.ofName name = .ok algorithm)
    (read : s.fs.read path = .ok contents) :
    IsWhole s path name chunkSize ↔
      chunkSize ≠ 0 ∨ algorithm.digest contents = algorithm.digest [] ∨ ¬ Spares 1 s.signal := by
  -- The name and the path settle the algorithm and the contents; only the digest is left open.
  have whole_iff : IsWhole s path name chunkSize ↔ ∀ digest,
      ((ofFile path (.named name) chunkSize).runOn s).1 = .ok digest →
        algorithm.digest contents = .ok digest := by
    constructor
    · intro whole digest computed
      exact whole algorithm contents digest known read computed
    · intro whole algorithm' contents' digest known' read' computed
      obtain rfl := Except.ok.inj (known.symm.trans known')
      obtain rfl := Except.ok.inj (read.symm.trans read')
      exact whole digest computed
  simp only [whole_iff, fst_ofFile_eq_ok_iff_of_read known read]
  by_cases zero : chunkSize = 0
  · -- The reading looks once, and is at its end.
    subst zero
    have fits : Source.fileFault? 0 = none := rfl
    have once : looksAt contents 0 = 1 := rfl
    have nothing : covered contents 0 = [] := rfl
    rw [once, nothing, digest_eq_iff]
    by_cases spares : Spares 1 s.signal
    · simp [fits, spares]
    · simp [spares]
  · -- The pieces cover the file, whether or not the reading comes to its end.
    refine iff_of_true ?_ (.inl zero)
    rintro digest ⟨-, -, isDigest⟩
    rwa [covered, if_neg zero] at isDigest

end

/-! ## A file of one byte -/

/-- A file of one byte in the working directory. -/
def singleByte (signal : Option CancelSignal) : Session :=
  .start ((FileSystem.empty [] 0o022).put ["a".toList] (.file [1] none)) signal

theorem read_singleByte (signal : Option CancelSignal) :
    (singleByte signal).fs.read "a" = .ok [1] := rfl

theorem ofName_md5 : Algorithm.ofName "md5" = .ok .md5 := rfl

/-- In pieces of seven bytes, more than there are, the file has the digest of its byte, though the
signal is set from its third look on. -/
theorem isWhole_of_large_pieces :
    Algorithm.ofName "md5" = .ok .md5 ∧
      (singleByte (some (.fresh (some 3)))).fs.read "a" = .ok [1] ∧
      ((ofFile "a" (.named "md5") 7).runOn (singleByte (some (.fresh (some 3))))).1 =
        .ok (Digest.Md5.digest [1]) ∧
      IsWhole (singleByte (some (.fresh (some 3)))) "a" "md5" 7 := by
  have read := read_singleByte (some (.fresh (some 3)))
  refine ⟨ofName_md5, read, ?_, (isWhole_iff ofName_md5 read).mpr (.inl (by omega))⟩
  rw [fst_ofFile_eq_ok_iff_of_read ofName_md5 read]
  have spares : Spares (looksAt [1] 7) (some (.fresh (some 3))) := by decide +kernel
  exact ⟨rfl, spares, rfl⟩

/-- In pieces of no bytes it has the digest of an empty file. -/
theorem not_isWhole_of_empty_pieces : ¬ IsWhole (singleByte none) "a" "md5" 0 := by
  intro whole
  have read := read_singleByte none
  have given : ((ofFile "a" (.named "md5") 0).runOn (singleByte none)).1 =
      .ok (Digest.Md5.digest []) := by
    rw [fst_ofFile_eq_ok_iff_of_read ofName_md5 read]
    exact ⟨rfl, trivial, rfl⟩
  have other : Digest.Md5.digest [1] ≠ Digest.Md5.digest [] := by decide +kernel
  exact other (Except.ok.inj (whole .md5 [1] _ ofName_md5 read given))

end Checksum

end SafeFetch
