import SafeFetch.Proofs.Transfer

/-!
# What sources give

Bytes in memory and files give chunks that make them up, unless they are asked for more at once than
the interpreter can name or find room for. A reader is at its end with the first empty chunk, a
stream passes over it.

## Main definitions

* `Gives`: a source is made to give bytes, cut somehow.

## Main results

* `Gives.items_cases`: such a source gives the bytes in chunks, or nothing but a fault;
* `received?_fileItems_iff`: a file is read completely in pieces of the sizes that a read accepts;
* `Source.fileFault?_eq_none_iff`: the sizes of the pieces that a file can be read in.
-/

namespace SafeFetch.Transfer

variable {data : List UInt8} {source : Source}

/-- The chunks of a source without faults. -/
theorem received?_map_chunk (pieces : List (List UInt8)) :
    received? (pieces.map .chunk) = some pieces.flatten := by
  induction pieces with
  | nil => rfl
  | cons piece pieces ih => simp [received?, ih]

/-! ## Bytes and files -/

/-- Bytes that are not asked for in pieces of nothing come in chunks that make them up. -/
theorem Source.read_cases (data : List UInt8) (size : Int) : ∃ chunks : List (List UInt8),
    (if size < 0 then whole data else pieces data size.toNat) = chunks.map .chunk ∧
      (size ≠ 0 → chunks.flatten = data) := by
  by_cases negative : size < 0
  · rw [if_pos negative, whole]
    cases data with
    | nil => exact ⟨[], rfl, fun _ => rfl⟩
    | cons byte later => exact ⟨[byte :: later], rfl, fun _ => List.flatten_singleton⟩
  · rw [if_neg negative, pieces]
    split
    next zero => exact ⟨[], rfl, fun nonzero => by omega⟩
    next => exact ⟨_, rfl, fun _ => flatten_chunks _ data⟩

variable [Platform]

/-- A file gives chunks, unless it cannot be read in pieces of the size. -/
theorem Source.fileItems_cases (data : List UInt8) (size : Int) :
    (∃ failure, fileFault? size = some failure ∧ fileItems data size = [.fault failure]) ∨
      fileFault? size = none ∧ ∃ chunks : List (List UInt8),
        fileItems data size = chunks.map .chunk ∧ (size ≠ 0 → chunks.flatten = data) := by
  rw [fileItems]
  cases fileFault? size with
  | some failure => exact .inl ⟨failure, rfl, rfl⟩
  | none =>
    refine .inr ⟨rfl, ?_⟩
    exact read_cases data size

omit [Platform] in
/-- Bytes in memory give chunks, unless more of them are asked for than a word can say. -/
theorem Source.bytesItems_cases (data : List UInt8) {size : Option Int} (nonzero : size ≠ some 0) :
    (∃ asked, size = some asked ∧ fitsWord asked = false ∧
        bytesItems data size = [.fault .sizeBeyondWord]) ∨
      ∃ chunks : List (List UInt8), bytesItems data size = chunks.map .chunk ∧
        chunks.flatten = data := by
  cases size with
  | none =>
    obtain ⟨chunks, isChunks, whole⟩ := read_cases data (-1)
    exact .inr ⟨chunks, isChunks, whole (by decide)⟩
  | some asked =>
    rw [bytesItems]
    cases fits : fitsWord asked with
    | false => exact .inl ⟨asked, rfl, fits, rfl⟩
    | true =>
      obtain ⟨chunks, isChunks, whole⟩ := read_cases data asked
      exact .inr ⟨chunks, isChunks, whole fun zero => nonzero (congrArg some zero)⟩

/-- A file is read to its end in pieces of a positive size if a read accepts the size. Then it is
read completely. -/
theorem received?_fileItems_iff {data bytes : List UInt8} {size : Int} (positive : 0 < size) :
    received? (Source.fileItems data size) = some bytes ↔
      Source.fileFault? size = none ∧ bytes = data := by
  rcases Source.fileItems_cases data size with
    ⟨failure, refused, faulty⟩ | ⟨accepted, chunks, isChunks, whole⟩
  · rw [faulty]
    constructor
    · intro received
      cases received
    · rintro ⟨accepted, -⟩
      cases accepted.symm.trans refused
  · rw [isChunks, received?_map_chunk, whole (Int.ne_of_gt positive), Option.some.injEq, eq_comm]
    exact (and_iff_right accepted).symm

/-- A file is read in pieces of the sizes that a block of memory can have, as far as there is room. -/
theorem Source.fileFault?_eq_none_iff {size : Int} (positive : 0 < size) :
    fileFault? size = none ↔ size < 0x8000000000000000 - 33 ∧ size ≤ Platform.memory := by
  constructor
  · intro unfaulted
    rw [fileFault?] at unfaulted
    repeat' split at unfaulted
    -- Each branch but the last one names its fault.
    all_goals cases unfaulted
    omega
  · rintro ⟨small, room⟩
    have fits : fitsWord size = true := by
      rw [fitsWord, Bool.and_eq_true, decide_eq_true_eq, decide_eq_true_eq]
      omega
    rw [fileFault?, fits, if_neg (by decide), if_neg (by omega), if_neg (by omega),
      if_neg (by omega)]

/-- Nobody sets the signal while a file is read. -/
theorem signal_notMem_file (data : List UInt8) (size : Int) :
    .signal ∉ (Source.file data size).items := by
  rw [Source.items]
  rcases Source.fileItems_cases data size with ⟨failure, -, faulty⟩ | ⟨-, chunks, isChunks, -⟩
  · simp [faulty]
  · simp [isChunks]

/-- A fault of a file is the one of the size of its pieces. -/
theorem fileFault?_of_mem {data : List UInt8} {size : Int} {failure : Failure}
    (isFault : .fault failure ∈ (Source.file data size).items) :
    Source.fileFault? size = some failure := by
  rw [Source.items] at isFault
  rcases Source.fileItems_cases data size with ⟨fault, faulty, isFaulty⟩ | ⟨-, chunks, isChunks, -⟩
  · rw [isFaulty] at isFault
    obtain rfl := Item.fault.inj (List.mem_singleton.mp isFault)
    exact faulty
  · simp [isChunks] at isFault

/-! ## Sources of bytes -/

/-- A source is made to give bytes: from memory or a file, asked for in pieces that are not empty,
or in chunks that make them up, none of them empty before the end of a reader. -/
inductive Gives (data : List UInt8) : Source → Prop
  | bytes {size : Option Int} (nonzero : size ≠ some 0) : Gives data (.bytes data size)
  | file {size : Int} (nonzero : size ≠ 0) : Gives data (.file data size)
  | reader {chunks : List (List UInt8)} {later : List Item} {size : Option Int}
      (said : ∀ chunk ∈ chunks, chunk ≠ []) (ends : later = [] ∨ ∃ rest, later = .chunk [] :: rest)
      (whole : chunks.flatten = data) : Gives data (.reader (chunks.map .chunk ++ later) size)
  | stream {chunks : List (List UInt8)} (whole : chunks.flatten = data) :
      Gives data (.stream (chunks.map .chunk))

omit [Platform] in
/-- A reader is at its end with the first empty chunk. -/
theorem takeWhile_chunk {chunks : List (List UInt8)} {later : List Item}
    (said : ∀ chunk ∈ chunks, chunk ≠ [])
    (ends : later = [] ∨ ∃ rest, later = .chunk [] :: rest) :
    (chunks.map Item.chunk ++ later).takeWhile (· ≠ .chunk []) = chunks.map .chunk := by
  induction chunks with
  | nil =>
    rcases ends with rfl | ⟨rest, rfl⟩
    · rfl
    · exact List.takeWhile_cons_of_neg (by simp)
  | cons chunk chunks ih =>
    obtain ⟨said, saidLater⟩ := List.forall_mem_cons.mp said
    rw [List.map_cons, List.cons_append, List.takeWhile_cons_of_pos (by simpa using said),
      ih saidLater]

/-- A source that is made to give bytes gives them in chunks, or nothing but a fault. -/
theorem Gives.items_cases (gives : Gives data source) :
    (∃ failure, source.items = [.fault failure]) ∨
      ∃ chunks : List (List UInt8), source.items = chunks.map .chunk ∧ chunks.flatten = data := by
  cases gives with
  | bytes nonzero =>
    rcases Source.bytesItems_cases data nonzero with ⟨_, -, -, faulty⟩ | gives
    · exact .inl ⟨_, faulty⟩
    · exact .inr gives
  | @file size nonzero =>
    rcases Source.fileItems_cases data size with ⟨failure, -, faulty⟩ | ⟨-, chunks, isChunks, whole⟩
    · exact .inl ⟨failure, faulty⟩
    · exact .inr ⟨chunks, isChunks, whole nonzero⟩
  | reader said ends whole => exact .inr ⟨_, takeWhile_chunk said ends, whole⟩
  | stream whole => exact .inr ⟨_, rfl, whole⟩

/-- Nobody sets the signal while such a source gives its bytes. -/
theorem Gives.signal_notMem (gives : Gives data source) : .signal ∉ source.items := by
  rcases gives.items_cases with ⟨failure, faulty⟩ | ⟨chunks, isChunks, -⟩
  · simp [faulty]
  · simp [isChunks]

end SafeFetch.Transfer
