import SafeFetch.Proofs.Checksum
import SafeFetch.Proofs.Transfer.Order

/-!
# Complete copies

A copy that nobody cancels, from a source that gives bytes without a fault into a sink that refuses
nothing, hands over exactly these bytes, however they are cut. Asked for more at once than a word can
say, bytes in memory fail before anything is handed over.

## Main definitions

* `IsUntroubled`: nobody cancels a copy, and its sink refuses nothing;
* `IsComplete`: a copy hands over bytes, all of them and nothing else, and counts them.

## Main results

* `copy_of_gives`: such a copy is complete.
-/

namespace SafeFetch.Transfer

variable {data : List UInt8} {source : Source} {sink : Sink} {signal : Option CancelSignal}
  {buffer : Buffer}

/-! ## Sinks that take everything -/

/-- A buffer without a write to refuse takes everything. -/
theorem Buffer.takesAll (unrefusing : buffer.failAt = none) : (Sink.buffer buffer).TakesAll := by
  intro chunks chunk
  induction chunks generalizing buffer with
  | nil => simp [Sink.after, Sink.write, Written.map, Buffer.write, unrefusing]
  | cons first later ih =>
    have unrefusing' : (buffer.write first).sink.failAt = none := by
      simp [Buffer.write, unrefusing]
    exact ih unrefusing'

/-- A buffer without a write to cancel at sets no signal. -/
theorem Buffer.isCalm (uncancelling : buffer.cancelAt = none) : (Sink.buffer buffer).IsCalm := by
  intro chunks chunk
  induction chunks generalizing buffer with
  | nil =>
    rw [Sink.after, List.foldl_nil, Sink.write, Written.map, Buffer.write]
    split <;> simp [uncancelling]
  | cons first later ih =>
    have uncancelling' : (buffer.write first).sink.cancelAt = none := by
      rw [Buffer.write]
      split <;> exact uncancelling
    exact ih uncancelling'

/-- A buffer that takes everything keeps it. -/
theorem Buffer.after_of_takesAll (takesAll : (Sink.buffer buffer).TakesAll)
    (chunks : List (List UInt8)) : ∃ full, (Sink.buffer buffer).after chunks = .buffer full ∧
      full.contents = buffer.contents ++ chunks.flatten := by
  induction chunks generalizing buffer with
  | nil => exact ⟨buffer, rfl, (List.append_nil _).symm⟩
  | cons chunk later ih =>
    have takes : (buffer.write chunk).failure = none := takesAll [] chunk
    have contents := Buffer.contents_write buffer chunk
    rw [if_pos takes] at contents
    obtain ⟨full, isFull, filled⟩ := ih (takesAll.after [chunk])
    refine ⟨full, isFull, ?_⟩
    rw [filled, contents, List.flatten_cons, List.append_assoc]

/-- A hasher of an algorithm takes everything. -/
theorem Hasher.takesAll_standard (algorithm : Algorithm) :
    (Sink.hash (.standard algorithm [])).TakesAll := by
  intro chunks chunk
  have named : (Hasher.standard algorithm []).IsNamed := .inl ⟨algorithm, rfl⟩
  cases refusal : (((Sink.hash (.standard algorithm [])).after chunks).write chunk).failure with
  | none => rfl
  | some failure => cases ((named.calm (feeds_hash _)).2 chunks chunk failure refusal).1

/-! ## Copies without trouble -/

/-- Nobody cancels a copy, and its sink refuses nothing. -/
structure IsUntroubled (sink : Sink) (signal : Option CancelSignal) : Prop where
  takesAll : sink.TakesAll
  quiet : IsQuiet signal
  calm : signal.isSome = true → sink.IsCalm

section

variable [Platform]

/-- A copy hands over bytes, all of them and nothing else, in chunks that are not empty, and counts
them. A buffer keeps them behind what it holds, and a hasher of an algorithm gives their digest. -/
structure IsComplete (data : List UInt8) (source : Source) (sink : Sink)
    (signal : Option CancelSignal) : Prop where
  outcome : (copy source sink signal).1 = .ok data.length
  handed : ∃ chunks : List (List UInt8), chunks.flatten = data ∧ (∀ chunk ∈ chunks, chunk ≠ []) ∧
    (copy source sink signal).2.sink = sink.after chunks
  buffer : ∀ buffer, sink = .buffer buffer → ∃ full,
    (copy source sink signal).2.sink = .buffer full ∧ full.contents = buffer.contents ++ data
  hasher : ∀ algorithm, sink = .hash (.standard algorithm []) → ∃ fed,
    (copy source sink signal).2.sink = .hash fed ∧ fed.digest = algorithm.digest data

omit [Platform] in
/-- A copy without trouble never finds its signal set. -/
theorem IsUntroubled.unset {asked? : Option (Option Int)} {items : List Item} {moves : List Move}
    {outcome : Except Failure Nat} {last : Progress} (untroubled : IsUntroubled sink signal)
    (course : Course asked? items (.start sink signal) moves outcome last)
    (unsignalled : .signal ∉ items) : .look true ∉ moves := by
  cases present : signal.isSome with
  | false => exact course.look_notMem present true
  | true => exact (course.isQuiet untroubled.quiet (untroubled.calm present) unsignalled).2

/-- A copy without trouble of a source without faults comes to its end and hands over what the
source gives. -/
theorem IsUntroubled.copy_eq (untroubled : IsUntroubled sink signal) (gives : Gives data source)
    (unfaulted : ∀ failure, .fault failure ∉ source.items) :
    (copy source sink signal).1 = .ok data.length ∧
      ∃ chunks : List (List UInt8), chunks.flatten = data ∧ (∀ chunk ∈ chunks, chunk ≠ []) ∧
        (copy source sink signal).2.sink = sink.after chunks := by
  obtain ⟨moves, course⟩ := exists_course source.asked? source.items (.start sink signal)
  rw [← copy_eq_copyFrom] at course
  have received : received? source.items = some data := by
    rcases gives.items_cases with ⟨failure, faulty⟩ | ⟨pieces, isPieces, whole⟩
    · rw [faulty] at unfaulted
      exact absurd List.mem_cons_self (unfaulted failure)
    · rw [isPieces, received?_map_chunk, whole]
  -- Neither the sink nor the source gives a reason to break, so the copy comes to its end.
  rcases course.breaks (untroubled.unset course gives.signal_notMem) with
    ⟨count, succeeds⟩ | ⟨failure, -, ⟨chunks, chunk, refused⟩ | ⟨-, isFault⟩⟩
  · have sink_eq := course.sink_eq
    have handed_eq := course.handed_eq
    rw [succeeds] at course ⊢
    obtain ⟨received', counted⟩ := course.received?_eq
    obtain rfl : data = (handed moves).flatten := Option.some.inj (received.symm.trans received')
    refine ⟨congrArg _ (counted.trans (Nat.zero_add _)), handed moves, rfl, ?_, sink_eq⟩
    intro chunk isIn
    rw [handed_eq] at isIn
    exact of_decide_eq_true (List.mem_filter.mp isIn).2
  · cases (untroubled.takesAll chunks chunk).symm.trans refused
  · exact absurd isFault (unfaulted failure)

/-- A copy that nobody cancels, from a source whose first read fails, hands nothing over. -/
theorem copy_of_fault {failure : Failure} (quiet : IsQuiet signal)
    (faulty : source.items = [.fault failure]) :
    (copy source sink signal).1 = .error failure ∧ (copy source sink signal).2.sink = sink := by
  obtain ⟨next, asks, -⟩ :=
    request_of_quiet (p := .start sink signal) source.asked? quiet
  have obtains : Obtains source.asked? source.items (.start sink signal) (.fault failure) [] next :=
    ⟨next, asks, by rw [faulty]; rfl⟩
  rw [copy_eq_copyFrom, obtains.copyFrom_eq]
  exact ⟨rfl, obtains.sink_eq⟩

/-- Bytes in memory have a fault exactly if more of them are asked for at once than a word can
say. -/
theorem Source.fault_mem_bytes_iff (data : List UInt8) (size : Int) :
    (∃ failure, .fault failure ∈ (Source.bytes data (some size)).items) ↔
      size < -0x8000000000000000 ∨ 0x8000000000000000 ≤ size := by
  have fits_iff : fitsWord size = false ↔ size < -0x8000000000000000 ∨ 0x8000000000000000 ≤ size := by
    rw [fitsWord, Bool.and_eq_false_iff, decide_eq_false_iff_not, decide_eq_false_iff_not]
    omega
  rw [← fits_iff, Source.items, bytesItems]
  cases fits : fitsWord size with
  | false => simp
  | true =>
    obtain ⟨chunks, isChunks, -⟩ := read_cases data size
    simp [isChunks]

/-- A copy that nobody cancels into a sink that refuses nothing is complete, if its source is made to
give bytes and no read fails. Otherwise the first read fails and nothing is handed over; from bytes
in memory no read fails unless more are asked for at once than a word can say. -/
theorem copy_of_gives (untroubled : IsUntroubled sink signal) (data : List UInt8) :
    (∀ source, Gives data source → (∀ failure, .fault failure ∉ source.items) →
        IsComplete data source sink signal) ∧
      (∀ source failure, Gives data source → .fault failure ∈ source.items →
        (copy source sink signal).1 = .error failure ∧ (copy source sink signal).2.sink = sink) ∧
      ∀ size, (∃ failure, .fault failure ∈ (Source.bytes data (some size)).items) ↔
        size < -0x8000000000000000 ∨ 0x8000000000000000 ≤ size := by
  refine ⟨fun source gives unfaulted => ?_, fun source failure gives isFault => ?_,
    Source.fault_mem_bytes_iff data⟩
  · obtain ⟨outcome, chunks, rfl, said, isAfter⟩ := untroubled.copy_eq gives unfaulted
    refine ⟨outcome, ⟨chunks, rfl, said, isAfter⟩, ?_, ?_⟩
    · rintro buffer rfl
      rw [isAfter]
      exact Buffer.after_of_takesAll untroubled.takesAll chunks
    · rintro algorithm rfl
      rw [isAfter, Sink.after_hash]
      exact ⟨_, rfl, Download.digest_hasherAfter algorithm chunks⟩
  · rcases gives.items_cases with ⟨fault, faulty⟩ | ⟨chunks, isChunks, -⟩
    · rw [faulty] at isFault
      obtain rfl := Item.fault.inj (List.mem_singleton.mp isFault)
      exact copy_of_fault untroubled.quiet faulty
    · simp [isChunks] at isFault

end

/-- A reader that gives three bytes in two chunks is copied completely into a buffer, though a signal
is there, and so is a stream of the same chunks into a hasher. -/
theorem isComplete_of_two_chunks :
    IsUntroubled (.buffer (.empty "b" none none)) (some (.fresh none)) ∧
      IsComplete [1, 2, 3] (.reader [.chunk [1], .chunk [2, 3], .chunk [], .chunk [4]] (some 2))
        (.buffer (.empty "b" none none)) (some (.fresh none)) ∧
      IsComplete [1, 2, 3] (.stream [.chunk [1], .chunk [], .chunk [2, 3]])
        (.hash (.standard .md5 [])) none := by
  have untroubled : IsUntroubled (.buffer (.empty "b" none none)) (some (.fresh none)) :=
    ⟨Buffer.takesAll rfl, isQuiet_fresh, fun _ => Buffer.isCalm rfl⟩
  have untroubled' : IsUntroubled (.hash (.standard .md5 [])) none :=
    ⟨Hasher.takesAll_standard .md5, nofun, nofun⟩
  have gives : Gives [1, 2, 3]
      (.reader ([[1], [2, 3]].map .chunk ++ [.chunk [], .chunk [4]]) (some 2)) :=
    .reader (by decide) (.inr ⟨_, rfl⟩) rfl
  have gives' : Gives [1, 2, 3] (.stream ([[1], [], [2, 3]].map .chunk)) := .stream rfl
  exact ⟨untroubled, (copy_of_gives untroubled [1, 2, 3]).1 _ gives (by simp [Source.items]),
    (copy_of_gives untroubled' [1, 2, 3]).1 _ gives' (by simp [Source.items])⟩

end SafeFetch.Transfer
