import Mathlib.Data.List.Induction
import SafeFetch.Proofs.Transfer.Order

/-!
# Sinks of many parts

A sink may be a tree of sinks, with buffers and hashers at its ends. It does with a chunk what these
parts do one after another, up to the first that refuses it; how they are grouped makes no
difference. So a copy gives all parts the same chunks, and if one of them refuses a chunk, the parts
before it have that chunk as well, and neither it nor the parts behind it do.

## Main definitions

* `Sink.parts`: the buffers and hashers of a sink;
* `Sink.Takes`: a sink refuses none of some chunks;
* `Sink.Holds`: all parts of a sink hold the same chunks;
* `Stop` and `Stop.Occurs`: the first refusal, of the first part, of some chunks;
* `IsServed` and `IsStopped`: what a copy leaves behind, without a refusal and with one.

## Main results

* `Sink.parts_write`: a sink hands a chunk to its parts in order;
* `Sink.takes_or_stop`: a sink takes some chunks, or there is a first refusal;
* `copy_fansOut`: what a copy leaves in the parts of its sink.
-/

namespace SafeFetch.Transfer

variable {sink : Sink} {chunk : List UInt8} {chunks : List (List UInt8)}

namespace Sink

variable {sinks first later before behind : List Sink} {failure : Failure}

/-! ## Parts -/

/-- The buffers and hashers of a sink, in order, each of them as a sink. -/
def parts (sink : Sink) : List Sink := sink.leaves.map (Sum.elim .buffer .hash)

/-- The parts of sinks, in order. -/
def partsOfAll (sinks : List Sink) : List Sink :=
  (leavesOfAll sinks).map (Sum.elim .buffer .hash)

@[simp]
theorem parts_buffer (b : Buffer) : (Sink.buffer b).parts = [.buffer b] := rfl

@[simp]
theorem parts_hash (h : Hasher) : (Sink.hash h).parts = [.hash h] := rfl

@[simp]
theorem parts_fan (sinks : List Sink) : (Sink.fan sinks).parts = partsOfAll sinks := by
  rw [parts, leaves, partsOfAll]

@[simp]
theorem partsOfAll_nil : partsOfAll [] = [] := rfl

@[simp]
theorem partsOfAll_cons (sink : Sink) (rest : List Sink) :
    partsOfAll (sink :: rest) = sink.parts ++ partsOfAll rest := by
  rw [partsOfAll, leavesOfAll, List.map_append, parts, partsOfAll]

/-! ## One chunk -/

theorem writeAll_cons_of_taken (taken : (sink.write chunk).failure = none) (rest : List Sink) :
    writeAll chunk (sink :: rest) = (sink.write chunk).append (writeAll chunk rest) := by
  rw [writeAll, taken]

theorem writeAll_cons_of_refused (refused : (sink.write chunk).failure = some failure)
    (rest : List Sink) : writeAll chunk (sink :: rest) = (sink.write chunk).map (· :: rest) := by
  rw [writeAll, refused]

/-- Sinks that all take a chunk let those behind them have it. -/
theorem writeAll_append_of_taken (taken : (writeAll chunk first).failure = none) :
    writeAll chunk (first ++ later) =
      { sink := (writeAll chunk first).sink ++ (writeAll chunk later).sink
        events := (writeAll chunk first).events ++ (writeAll chunk later).events
        isCancelling := (writeAll chunk first).isCancelling || (writeAll chunk later).isCancelling
        failure := (writeAll chunk later).failure } := by
  induction first with
  | nil => simp [writeAll, Written.nothing]
  | cons sink rest ih =>
    cases takes : (sink.write chunk).failure with
    | none =>
      rw [writeAll_cons_of_taken takes] at taken
      rw [List.cons_append, writeAll_cons_of_taken takes, writeAll_cons_of_taken takes, ih taken]
      simp [Written.append, Bool.or_assoc]
    | some failure =>
      rw [writeAll_cons_of_refused takes] at taken
      cases takes.symm.trans taken

/-- Sinks one of which refuses a chunk keep it from those behind them. -/
theorem writeAll_append_of_refused (refused : (writeAll chunk first).failure = some failure) :
    writeAll chunk (first ++ later) = (writeAll chunk first).map (· ++ later) := by
  induction first with
  | nil => cases refused
  | cons sink rest ih =>
    cases takes : (sink.write chunk).failure with
    | none =>
      rw [writeAll_cons_of_taken takes] at refused
      rw [List.cons_append, writeAll_cons_of_taken takes, writeAll_cons_of_taken takes, ih refused]
      simp [Written.append, Written.map]
    | some failure =>
      rw [List.cons_append, writeAll_cons_of_refused takes, writeAll_cons_of_refused takes]
      simp [Written.map]

/-- A part of its own is handed a chunk like a sink of one part. -/
theorem writeAll_singleton (sink : Sink) :
    writeAll chunk [sink] = (sink.write chunk).map ([·]) := by
  cases takes : (sink.write chunk).failure with
  | none =>
    rw [writeAll_cons_of_taken takes]
    simp [Written.append, Written.map, writeAll, Written.nothing, takes]
  | some failure => rw [writeAll_cons_of_refused takes]

mutual

/-- A sink hands a chunk to its parts in order, up to the first that refuses it. -/
theorem parts_write (chunk : List UInt8) :
    ∀ sink : Sink, (sink.write chunk).map parts = writeAll chunk sink.parts
  | .buffer b => by
    rw [parts_buffer, writeAll_singleton]
    simp [write, Written.map]
  | .hash h => by
    rw [parts_hash, writeAll_singleton]
    simp [write, Written.map]
  | .fan sinks => by
    rw [parts_fan, ← parts_writeAll chunk sinks]
    simp [write, Written.map]

/-- Sinks hand a chunk to their parts in order, up to the first that refuses it. -/
theorem parts_writeAll (chunk : List UInt8) :
    ∀ sinks : List Sink, (writeAll chunk sinks).map partsOfAll = writeAll chunk (partsOfAll sinks)
  | [] => by simp [writeAll, Written.map, Written.nothing]
  | sink :: rest => by
    have here := parts_write chunk sink
    have there := parts_writeAll chunk rest
    rw [partsOfAll_cons]
    -- The other sinks get the chunk if the first one takes it, that is, if all of its parts do.
    cases takes : (sink.write chunk).failure with
    | none =>
      have taken : (writeAll chunk sink.parts).failure = none := by rw [← here]; exact takes
      rw [writeAll_cons_of_taken takes, writeAll_append_of_taken taken, ← here, ← there]
      simp [Written.append, Written.map]
    | some failure =>
      have refused : (writeAll chunk sink.parts).failure = some failure := by
        rw [← here]; exact takes
      rw [writeAll_cons_of_refused takes, writeAll_append_of_refused refused, ← here]
      simp [Written.map]

end

/-- A sink that has parts which all take a chunk takes it, and each of them has it then. -/
theorem writeAll_of_takes (takes : ∀ sink ∈ sinks, (sink.write chunk).failure = none) :
    (writeAll chunk sinks).failure = none ∧
      (writeAll chunk sinks).sink = sinks.map fun sink => (sink.write chunk).sink := by
  induction sinks with
  | nil => exact ⟨rfl, rfl⟩
  | cons sink rest ih =>
    obtain ⟨taken, takes⟩ := List.forall_mem_cons.mp takes
    obtain ⟨unfailing, sinks⟩ := ih takes
    rw [writeAll_cons_of_taken taken]
    simp [Written.append, unfailing, sinks]

/-- The first sink that refuses a chunk is the last one that is handed it. -/
theorem writeAll_of_refuses (takes : ∀ other ∈ before, (other.write chunk).failure = none)
    (refuses : (sink.write chunk).failure = some failure) (behind : List Sink) :
    (writeAll chunk (before ++ sink :: behind)).failure = some failure ∧
      (writeAll chunk (before ++ sink :: behind)).sink =
        (before.map fun other => (other.write chunk).sink) ++
          (sink.write chunk).sink :: behind := by
  obtain ⟨taken, sinks⟩ := writeAll_of_takes takes
  rw [writeAll_append_of_taken taken, writeAll_cons_of_refused refuses, sinks]
  exact ⟨refuses, rfl⟩

/-- Either all of some sinks take a chunk, or one of them is the first that refuses it. -/
theorem takes_or_refuses (chunk : List UInt8) (sinks : List Sink) :
    (∀ sink ∈ sinks, (sink.write chunk).failure = none) ∨
      ∃ before sink behind failure, sinks = before ++ sink :: behind ∧
        (∀ other ∈ before, (other.write chunk).failure = none) ∧
          (sink.write chunk).failure = some failure := by
  induction sinks with
  | nil => exact .inl nofun
  | cons first rest ih =>
    cases takes : (first.write chunk).failure with
    | some failure => exact .inr ⟨[], first, rest, failure, rfl, nofun, takes⟩
    | none =>
      rcases ih with all | ⟨before, sink, behind, failure, rfl, earlier, refuses⟩
      · exact .inl (List.forall_mem_cons.mpr ⟨takes, all⟩)
      · exact .inr ⟨first :: before, sink, behind, failure, rfl,
          List.forall_mem_cons.mpr ⟨takes, earlier⟩, refuses⟩

/-- A sink refuses what its parts refuse. -/
theorem failure_write (sink : Sink) (chunk : List UInt8) :
    (sink.write chunk).failure = (writeAll chunk sink.parts).failure := by
  rw [← parts_write]
  rfl

/-- The parts of a sink change as if they were handed the chunk themselves. -/
theorem parts_sink_write (sink : Sink) (chunk : List UInt8) :
    (sink.write chunk).sink.parts = (writeAll chunk sink.parts).sink := by
  rw [← parts_write]
  rfl

/-- A sink takes a chunk if all of its parts do. -/
theorem failure_write_eq_none_iff :
    (sink.write chunk).failure = none ↔
      ∀ part ∈ sink.parts, (part.write chunk).failure = none := by
  rw [failure_write]
  rcases takes_or_refuses chunk sink.parts with
    takes | ⟨before, part, behind, failure, parts, takes, refuses⟩
  · exact ⟨fun _ => takes, fun _ => (writeAll_of_takes takes).1⟩
  · rw [parts, (writeAll_of_refuses takes refuses behind).1]
    constructor
    · nofun
    · intro all
      cases refuses.symm.trans (all part (by simp))

/-! ## Chunk after chunk -/

theorem after_concat (sink : Sink) (earlier : List (List UInt8)) (chunk : List UInt8) :
    sink.after (earlier ++ [chunk]) = ((sink.after earlier).write chunk).sink :=
  (after_append sink earlier [chunk]).symm

/-- A sink refuses none of some chunks that it is handed in order. -/
def Takes : Sink → List (List UInt8) → Prop
  | _, [] => True
  | sink, chunk :: rest => (sink.write chunk).failure = none ∧ (sink.write chunk).sink.Takes rest

/-- A sink that takes chunks takes the first of them, and the others then. -/
theorem takes_append_iff {earlier later : List (List UInt8)} :
    sink.Takes (earlier ++ later) ↔ sink.Takes earlier ∧ (sink.after earlier).Takes later := by
  induction earlier generalizing sink with
  | nil => simp [Takes, after]
  | cons chunk rest ih =>
    rw [List.cons_append, Takes, Takes, ih, and_assoc]
    rfl

theorem takes_singleton_iff : sink.Takes [chunk] ↔ (sink.write chunk).failure = none := by
  simp [Takes]

/-- A sink that takes chunks takes those that they begin with. -/
theorem Takes.ofBegins {earlier : List (List UInt8)} (takes : sink.Takes chunks)
    (begins : earlier <+: chunks) : sink.Takes earlier := by
  obtain ⟨later, rfl⟩ := begins
  exact (takes_append_iff.mp takes).1

/-- A sink that takes everything takes whatever it is handed. -/
theorem TakesAll.takes (takesAll : sink.TakesAll) (chunks : List (List UInt8)) :
    sink.Takes chunks := by
  induction chunks generalizing sink with
  | nil => trivial
  | cons chunk rest ih => exact ⟨takesAll [] chunk, ih (takesAll.after [chunk])⟩

/-- A sink takes chunks if all of its parts do. -/
theorem takes_iff_parts :
    sink.Takes chunks ↔ ∀ part ∈ sink.parts, part.Takes chunks := by
  -- A chunk that all parts take changes each of them by itself.
  induction chunks generalizing sink with
  | nil => simp [Takes]
  | cons chunk rest ih =>
    rw [Takes, failure_write_eq_none_iff]
    constructor
    · rintro ⟨taken, takes⟩ part isIn
      rw [ih, parts_sink_write, (writeAll_of_takes taken).2] at takes
      exact ⟨taken part isIn, takes _ (List.mem_map_of_mem isIn)⟩
    · intro all
      have taken : ∀ part ∈ sink.parts, (part.write chunk).failure = none :=
        fun part isIn => (all part isIn).1
      refine ⟨taken, ih.mpr ?_⟩
      rw [parts_sink_write, (writeAll_of_takes taken).2]
      intro later isIn
      obtain ⟨part, isPart, rfl⟩ := List.mem_map.mp isIn
      exact (all part isPart).2

/-- The parts of a sink that takes chunks are handed each of them. -/
theorem Takes.parts_after (takes : sink.Takes chunks) :
    (sink.after chunks).parts = sink.parts.map (·.after chunks) := by
  induction chunks generalizing sink with
  | nil => simp [after]
  | cons chunk rest ih =>
    obtain ⟨taken, takes⟩ := takes
    have all := failure_write_eq_none_iff.mp taken
    rw [after_cons, ih takes, parts_sink_write, (writeAll_of_takes all).2, List.map_map]
    rfl

end Sink

/-! ## What parts hold -/

theorem Buffer.kept_write (b : Buffer) (chunk : List UInt8) :
    (b.write chunk).sink.kept.reverse =
      b.kept.reverse ++ if (b.write chunk).failure.isNone then [chunk] else [] := by
  rw [Buffer.write]
  split <;> simp

/-- The lengths of the chunks that a tally has taken: it counts the one that it refuses as well. -/
def Tally.taken (t : Tally) : List Nat :=
  match t.failAt with
  | some (n + 1) => t.lengths.reverse.eraseIdx n
  | _ => t.lengths.reverse

theorem Tally.taken_update (t : Tally) (chunk : List UInt8) :
    (t.update chunk).sink.taken =
      t.taken ++ if (t.update chunk).failure.isNone then [chunk.length] else [] := by
  rcases number : t.failAt with _ | _ | n
  · simp [taken, update, number]
  · simp [taken, update, number]
  · simp only [taken, update, number, Option.some.injEq, List.length_cons, List.reverse_cons]
    -- The chunk to refuse is this one, one before it or one after it.
    rcases Nat.lt_trichotomy n t.lengths.length with less | same | more
    · rw [List.eraseIdx_append_of_lt_length (by simpa using less)]
      simp [Nat.ne_of_lt less]
    · simp [same, List.eraseIdx_append_of_length_le, List.eraseIdx_of_length_le]
    · rw [List.eraseIdx_of_length_le (by simpa using Nat.succ_le_of_lt more),
        List.eraseIdx_of_length_le (by simpa using Nat.le_of_lt more)]
      simp [Nat.ne_of_gt more]

/-- A hasher holds chunks as far as it can tell them apart: a tally knows their lengths. -/
def Hasher.Holds : Hasher → List (List UInt8) → Prop
  | .standard _ taken, chunks => taken.reverse = chunks
  | .tally t, chunks => t.taken = chunks.map List.length
  | .withheld, chunks => chunks = []

theorem Hasher.holds_update {isTaken : Bool} {held : List (List UInt8)} (h : Hasher)
    (holds : h.Holds held) (taken : (h.update chunk).failure.isNone = isTaken) :
    (h.update chunk).sink.Holds (held ++ if isTaken then [chunk] else []) := by
  subst taken
  cases h with
  | standard algorithm chunks =>
    have same : chunks.reverse = held := holds
    simp [Hasher.update, Written.nothing, Hasher.Holds, same]
  | tally t =>
    have same : t.taken = held.map List.length := holds
    show (t.update chunk).sink.taken = _
    rw [Tally.taken_update, same, List.map_append]
    cases refused : (t.update chunk).failure <;> simp [Hasher.update, Written.map, refused]
  | withheld =>
    have none : held = [] := holds
    simp [Hasher.update, Written.nothing, Hasher.Holds, none]

namespace Sink

variable {part : Sink} {held : List (List UInt8)} {failure : Failure}

/-- All parts of a sink hold chunks, in order and nothing else. -/
structure Holds (sink : Sink) (chunks : List (List UInt8)) : Prop where
  buffer : ∀ b, .buffer b ∈ sink.parts → b.kept.reverse = chunks
  hasher : ∀ h, .hash h ∈ sink.parts → h.Holds chunks

/-- A sink that is its own part. -/
def IsPart (sink : Sink) : Prop := (∃ b, sink = .buffer b) ∨ ∃ h, sink = .hash h

theorem isPart_of_mem (isIn : part ∈ sink.parts) : part.IsPart := by
  obtain ⟨leaf, -, rfl⟩ := List.mem_map.mp isIn
  cases leaf with
  | inl b => exact .inl ⟨b, rfl⟩
  | inr h => exact .inr ⟨h, rfl⟩

theorem IsPart.write (isPart : part.IsPart) (chunk : List UInt8) :
    (part.write chunk).sink.IsPart := by
  rcases isPart with ⟨b, rfl⟩ | ⟨h, rfl⟩
  · exact .inl ⟨_, rfl⟩
  · exact .inr ⟨_, rfl⟩

theorem IsPart.after (isPart : part.IsPart) (chunks : List (List UInt8)) :
    (part.after chunks).IsPart := by
  induction chunks generalizing part with
  | nil => exact isPart
  | cons chunk rest ih => exact ih (isPart.write chunk)

/-- A part that holds chunks holds one more if it takes it, and the same if it refuses it. -/
theorem IsPart.holds_write {isTaken : Bool} (isPart : part.IsPart) (holds : part.Holds held)
    (taken : (part.write chunk).failure.isNone = isTaken) :
    (part.write chunk).sink.Holds (held ++ if isTaken then [chunk] else []) := by
  rcases isPart with ⟨b, rfl⟩ | ⟨h, rfl⟩
  · have taken : (b.write chunk).failure.isNone = isTaken := taken
    have kept := holds.buffer b (by simp)
    constructor
    · simp only [Sink.write, Written.map, parts_buffer, List.mem_singleton, Sink.buffer.injEq]
      rintro _ rfl
      rw [Buffer.kept_write, kept, taken]
    · simp [Sink.write, Written.map]
  · have taken : (h.update chunk).failure.isNone = isTaken := taken
    have knows := holds.hasher h (by simp)
    constructor
    · simp [Sink.write, Written.map]
    · simp only [Sink.write, Written.map, parts_hash, List.mem_singleton, Sink.hash.injEq]
      rintro _ rfl
      exact h.holds_update knows taken

/-- What a sink holds, another one holds with chunks behind it. -/
def Gains (chunks : List (List UInt8)) (sink next : Sink) : Prop :=
  ∀ held, sink.Holds held → next.Holds (held ++ chunks)

/-- A part holds the chunks that it takes. -/
theorem Takes.gains (takes : part.Takes chunks) (isPart : part.IsPart) :
    Gains chunks part (part.after chunks) := by
  induction chunks generalizing part with
  | nil =>
    intro held holds
    rw [List.append_nil]
    exact holds
  | cons chunk rest ih =>
    obtain ⟨taken, takes⟩ := takes
    intro held holds
    have next := isPart.holds_write holds (Option.isNone_iff_eq_none.mpr taken)
    have all := ih takes (isPart.write chunk) _ next
    simpa using all

/-- A part holds no more after a chunk that it refuses. -/
theorem Takes.gains_of_refuses (takes : part.Takes chunks) (isPart : part.IsPart)
    (refuses : ((part.after chunks).write chunk).failure = some failure) :
    Gains chunks part (part.after (chunks ++ [chunk])) := by
  intro held holds
  have before := takes.gains isPart held holds
  have unchanged := (isPart.after chunks).holds_write before (congrArg Option.isNone refuses)
  rw [after_concat]
  simpa using unchanged

end Sink

/-! ## The first refusal -/

/-- A part of a sink refuses a chunk. -/
structure Stop where
  /-- The parts in front of the one that refuses. -/
  before : List Sink
  part : Sink
  behind : List Sink
  /-- The chunks in front of the one that is refused. -/
  earlier : List (List UInt8)
  chunk : List UInt8
  failure : Failure

namespace Stop

variable {stop : Stop}

/-- The chunks up to the one that is refused. -/
def upTo (stop : Stop) : List (List UInt8) := stop.earlier ++ [stop.chunk]

/-- The refusal is the first one: all parts take the chunks in front, and the parts in front take
the chunk as well. -/
structure Occurs (stop : Stop) (sink : Sink) (chunks : List (List UInt8)) : Prop where
  parts_eq : sink.parts = stop.before ++ stop.part :: stop.behind
  begins : stop.upTo <+: chunks
  takes : ∀ part ∈ sink.parts, part.Takes stop.earlier
  takesUpTo : ∀ part ∈ stop.before, part.Takes stop.upTo
  refuses : ((stop.part.after stop.earlier).write stop.chunk).failure = some stop.failure

theorem Occurs.isIn (occurs : stop.Occurs sink chunks) : stop.part ∈ sink.parts := by
  rw [occurs.parts_eq]
  simp

/-- The part that refuses a chunk does not take it. -/
theorem Occurs.not_takes (occurs : stop.Occurs sink chunks) : ¬ stop.part.Takes stop.upTo := by
  intro takes
  obtain ⟨-, taken⟩ := Sink.takes_append_iff.mp takes
  cases occurs.refuses.symm.trans (Sink.takes_singleton_iff.mp taken)

/-- A sink that takes chunks up to a refusal refuses the next one; the parts in front have it. -/
theorem Occurs.write (occurs : stop.Occurs sink chunks) :
    ((sink.after stop.earlier).write stop.chunk).failure = some stop.failure ∧
      (sink.after stop.upTo).parts = stop.before.map (·.after stop.upTo) ++
        stop.part.after stop.upTo :: stop.behind.map (·.after stop.earlier) := by
  have takes : ∀ other ∈ stop.before.map (·.after stop.earlier),
      (other.write stop.chunk).failure = none := by
    intro other isIn
    obtain ⟨part, isBefore, rfl⟩ := List.mem_map.mp isIn
    obtain ⟨-, taken⟩ := Sink.takes_append_iff.mp (occurs.takesUpTo part isBefore)
    exact Sink.takes_singleton_iff.mp taken
  obtain ⟨refuses, parts⟩ :=
    Sink.writeAll_of_refuses takes occurs.refuses (stop.behind.map (·.after stop.earlier))
  have after : (sink.after stop.earlier).parts = stop.before.map (·.after stop.earlier) ++
      stop.part.after stop.earlier :: stop.behind.map (·.after stop.earlier) := by
    rw [(Sink.takes_iff_parts.mpr occurs.takes).parts_after, occurs.parts_eq]
    simp
  rw [Sink.failure_write, after]
  refine ⟨refuses, ?_⟩
  rw [upTo, Sink.after_concat, Sink.parts_sink_write, after, parts]
  simp [Sink.after_concat, Function.comp_def]

end Stop

/-- The parts of a sink take some chunks, or there is a first refusal. -/
theorem Sink.takes_or_stop (sink : Sink) (chunks : List (List UInt8)) :
    (∀ part ∈ sink.parts, part.Takes chunks) ∨ ∃ stop : Stop, stop.Occurs sink chunks := by
  -- From the end of the chunks: a refusal of an earlier one stays the first.
  induction chunks using List.reverseRecOn with
  | nil => exact .inl fun _ _ => trivial
  | append_singleton earlier chunk ih =>
    rcases ih with takes | ⟨stop, occurs⟩
    · rcases takes_or_refuses chunk (sink.parts.map (·.after earlier)) with
        all | ⟨before, part, behind, failure, parts, all, refuses⟩
      · refine .inl fun part isIn => takes_append_iff.mpr ⟨takes part isIn, ?_⟩
        exact takes_singleton_iff.mpr (all _ (List.mem_map_of_mem isIn))
      · -- The parts that were handed the earlier chunks stand as those of the sink do.
        obtain ⟨first, others, isParts, rfl, rest⟩ := List.map_eq_append_iff.mp parts
        obtain ⟨last, behind, rfl, rfl, rfl⟩ := List.map_eq_cons_iff.mp rest
        refine .inr ⟨⟨first, last, behind, earlier, chunk, failure⟩, isParts, List.prefix_rfl,
          takes, ?_, refuses⟩
        intro part isBefore
        have isIn : part ∈ sink.parts := by
          rw [isParts]
          exact List.mem_append_left _ isBefore
        exact takes_append_iff.mpr ⟨takes part isIn,
          takes_singleton_iff.mpr (all _ (List.mem_map_of_mem isBefore))⟩
    · exact .inr ⟨stop, { occurs with begins := occurs.begins.trans (List.prefix_append _ _) }⟩

/-! ## Copies -/

variable {asked? : Option (Option Int)} {items : List Item} {p last : Progress}
  {moves : List Move} {outcome : Except Failure Nat}

/-- The sink of a copy takes all chunks that it is handed, or refuses the last one, and that ends
the copy. -/
theorem Course.takes_or_refuses (course : Course asked? items p moves outcome last) :
    p.sink.Takes (handed moves) ∧ (∀ chunk failure, .hand chunk (some failure) ∉ moves) ∨
      ∃ earlier chunk failure previous, p.sink.Takes earlier ∧
        ((p.sink.after earlier).write chunk).failure = some failure ∧
          handed moves = earlier ++ [chunk] ∧
            moves = previous ++ [.hand chunk (some failure)] ∧ outcome = .error failure := by
  have unhanded (p : Progress) (chunk : List UInt8) (failure : Failure) :
      Move.hand chunk (some failure) ∉ p.looks := by
    rw [Progress.looks]
    split <;> simp
  -- A turn that goes on puts its chunk in front of what the later turns hand over.
  induction course with
  | stopped => exact .inl ⟨trivial, by simp⟩
  | ended | broken =>
    rw [handed_looks]
    exact .inl ⟨trivial, by simp [unhanded]⟩
  | @passed _ _ p _ _ _ _ obtains _ ih =>
    rw [handed_looks, ← obtains.sink_eq]
    rcases ih with ⟨takes, unrefused⟩ |
      ⟨earlier, chunk, failure, previous, takes, refuses, isHanded, rfl, isOutcome⟩
    · exact .inl ⟨takes, by simpa [unhanded] using unrefused⟩
    · exact .inr ⟨earlier, chunk, failure, p.looks ++ .read (.chunk []) :: previous, takes, refuses,
        isHanded, by simp, isOutcome⟩
  | @refused _ _ p after _ bytes failure obtains _ hands =>
    have refuses := fst_deliver bytes after
    rw [hands, obtains.sink_eq] at refuses
    exact .inr ⟨[], bytes, failure, p.looks ++ [.read (.chunk bytes)], trivial, refuses.symm,
      by rw [handed_looks]; rfl, by simp, rfl⟩
  | @taken _ _ p after _ _ bytes _ _ obtains _ hands _ ih =>
    have taken := fst_deliver bytes after
    rw [hands, obtains.sink_eq] at taken
    rw [(deliver_eq_none hands).1, obtains.sink_eq] at ih
    rw [handed_looks]
    rcases ih with ⟨takes, unrefused⟩ |
      ⟨earlier, chunk, failure, previous, takes, refuses, isHanded, rfl, isOutcome⟩
    · exact .inl ⟨⟨taken.symm, takes⟩, by simpa [unhanded] using unrefused⟩
    · exact .inr ⟨bytes :: earlier, chunk, failure,
        p.looks ++ .read (.chunk bytes) :: .hand bytes none :: previous, ⟨taken.symm, takes⟩,
        refuses, congrArg (bytes :: ·) isHanded, by simp, isOutcome⟩

/-- All parts of a sink have taken the same chunks and hold them behind what they held. -/
structure IsServed (sink last : Sink) (chunks : List (List UInt8)) : Prop where
  takes : ∀ part ∈ sink.parts, part.Takes chunks
  parts_eq : last.parts = sink.parts.map (·.after chunks)
  gains : ∀ part ∈ sink.parts, Sink.Gains chunks part (part.after chunks)

theorem Sink.Takes.isServed (takes : sink.Takes chunks) :
    IsServed sink (sink.after chunks) chunks where
  takes := takes_iff_parts.mp takes
  parts_eq := takes.parts_after
  gains part isIn := (takes_iff_parts.mp takes part isIn).gains (isPart_of_mem isIn)

/-- A copy ends with the first refusal, which it passes on. The parts in front hold the chunk, and
neither the one that refused it nor those behind do. -/
structure IsStopped (stop : Stop) (moves : List Move) (outcome : Except Failure Nat)
    (last : Sink) : Prop where
  handed_eq : handed moves = stop.upTo
  isLast : ∃ previous, moves = previous ++ [.hand stop.chunk (some stop.failure)]
  outcome_eq : outcome = .error stop.failure
  parts_eq : last.parts = stop.before.map (·.after stop.upTo) ++
    stop.part.after stop.upTo :: stop.behind.map (·.after stop.earlier)
  before : ∀ part ∈ stop.before, Sink.Gains stop.upTo part (part.after stop.upTo)
  itself : Sink.Gains stop.earlier stop.part (stop.part.after stop.upTo)
  behind : ∀ part ∈ stop.behind, Sink.Gains stop.earlier part (part.after stop.earlier)

/-- A copy that hands over chunks up to the first refusal, and fails with it, is stopped by it. -/
theorem Stop.Occurs.isStopped {stop : Stop} (occurs : stop.Occurs sink chunks)
    (isHanded : handed moves = stop.upTo)
    (isLast : ∃ previous, moves = previous ++ [.hand stop.chunk (some stop.failure)]) :
    IsStopped stop moves (.error stop.failure) (sink.after (handed moves)) := by
  have isIn {part : Sink} (isOne : part ∈ stop.before ∨ part = stop.part ∨ part ∈ stop.behind) :
      part ∈ sink.parts := by
    rw [occurs.parts_eq, List.mem_append, List.mem_cons]
    exact isOne
  rw [isHanded]
  exact {
    handed_eq := isHanded
    isLast := isLast
    outcome_eq := rfl
    parts_eq := occurs.write.2
    before := fun part isBefore =>
      (occurs.takesUpTo part isBefore).gains (Sink.isPart_of_mem (isIn (.inl isBefore)))
    itself := (occurs.takes _ occurs.isIn).gains_of_refuses (Sink.isPart_of_mem occurs.isIn)
      occurs.refuses
    behind := fun part isBehind =>
      (occurs.takes part (isIn (.inr (.inr isBehind)))).gains
        (Sink.isPart_of_mem (isIn (.inr (.inr isBehind)))) }

/-- Chunks that begin others, and are no more than their first ones, begin these. -/
theorem begins_of_unreached {earlier chunks all : List (List UInt8)} {chunk : List UInt8}
    (begins : chunks <+: all) (begins' : earlier ++ [chunk] <+: all)
    (off : ¬ earlier ++ [chunk] <+: chunks) : chunks <+: earlier := by
  have shorter : chunks.length ≤ earlier.length := by
    apply Nat.le_of_not_lt
    intro longer
    have fits : (earlier ++ [chunk]).length ≤ chunks.length := by
      rw [List.length_append, List.length_singleton]
      omega
    exact off (List.prefix_of_prefix_length_le begins' begins fits)
  exact List.prefix_of_prefix_length_le begins ((List.prefix_append _ _).trans begins') shorter

/-- A sink that takes chunks has not been handed the one of a refusal. -/
theorem Stop.Occurs.not_begins {stop : Stop} {taken : List (List UInt8)}
    (occurs : stop.Occurs sink chunks) (takes : sink.Takes taken) : ¬ stop.upTo <+: taken := by
  intro begins
  exact occurs.not_takes ((Sink.takes_iff_parts.mp takes _ occurs.isIn).ofBegins begins)

/-- There is only one first refusal. -/
theorem Stop.Occurs.eq_of_refuses {stop : Stop} {earlier : List (List UInt8)}
    {failure : Failure} (occurs : stop.Occurs sink chunks) (begins : earlier ++ [chunk] <+: chunks)
    (takes : sink.Takes earlier)
    (refuses : ((sink.after earlier).write chunk).failure = some failure) :
    earlier = stop.earlier ∧ chunk = stop.chunk ∧ failure = stop.failure := by
  have partsTake : sink.Takes stop.earlier := Sink.takes_iff_parts.mpr occurs.takes
  have before : earlier <+: stop.earlier :=
    begins_of_unreached ((List.prefix_append _ _).trans begins) occurs.begins
      (occurs.not_begins takes)
  have behind : stop.earlier <+: earlier := by
    apply begins_of_unreached ((List.prefix_append _ _).trans occurs.begins) begins
    intro reached
    have taken := (Sink.takes_append_iff.mp (partsTake.ofBegins reached)).2
    cases refuses.symm.trans (Sink.takes_singleton_iff.mp taken)
  obtain rfl : earlier = stop.earlier := before.eq_of_length_le behind.length_le
  have same : stop.earlier ++ [chunk] = stop.upTo := by
    have fits : (stop.earlier ++ [chunk]).length = stop.upTo.length := by simp [Stop.upTo]
    have within := List.prefix_of_prefix_length_le begins occurs.begins (Nat.le_of_eq fits)
    exact within.eq_of_length fits
  obtain rfl : chunk = stop.chunk := by simpa [Stop.upTo] using same
  exact ⟨rfl, rfl, Option.some.inj (refuses.symm.trans occurs.write.1)⟩

/-- A copy gives all parts of its sink the same chunks in the same order, unless one of them refuses
one. Then the first refusal ends the copy: it is passed on, nothing is read or handed over after it,
and only the parts in front hold the chunk. A copy may also be cancelled before. -/
theorem copy_fansOut [Platform] (source : Source) (sink : Sink) (signal : Option CancelSignal) :
    ∃ moves, Course source.asked? source.items (.start sink signal) moves
        (copy source sink signal).1 (copy source sink signal).2 ∧
      (signal = none → .look true ∉ moves) ∧
      ((∀ part ∈ sink.parts, part.Takes (offered source.items)) ∨
        ∃ stop : Stop, stop.Occurs sink (offered source.items)) ∧
      ((∀ part ∈ sink.parts, part.Takes (offered source.items)) →
        IsServed sink (copy source sink signal).2.sink (handed moves) ∧
          (.look true ∉ moves → handed moves = offered source.items)) ∧
      ∀ stop : Stop, stop.Occurs sink (offered source.items) →
        IsStopped stop moves (copy source sink signal).1 (copy source sink signal).2.sink ∨
          .look true ∈ moves ∧
            IsServed sink (copy source sink signal).2.sink (handed moves) ∧
              handed moves <+: stop.earlier := by
  obtain ⟨moves, course⟩ := exists_course source.asked? source.items (.start sink signal)
  rw [← copy_eq_copyFrom] at course
  have sink_eq : (copy source sink signal).2.sink = sink.after (handed moves) := course.sink_eq
  have begins := course.handed_prefix
  refine ⟨moves, course, ?_, sink.takes_or_stop _, ?_, ?_⟩
  · rintro rfl
    exact course.look_notMem rfl true
  · intro all
    have takes := Sink.takes_iff_parts.mpr all
    rw [sink_eq]
    refine ⟨(takes.ofBegins begins).isServed, fun unset => ?_⟩
    rcases course.takes_or_refuses with
      ⟨-, unrefused⟩ | ⟨earlier, chunk, failure, -, -, refuses, isHanded, -, -⟩
    · exact course.handed_eq_offered unset unrefused
    · -- A sink whose parts take all chunks refuses none.
      rw [isHanded] at begins
      have taken := (Sink.takes_append_iff.mp (takes.ofBegins begins)).2
      cases refuses.symm.trans (Sink.takes_singleton_iff.mp taken)
  · intro stop occurs
    rcases course.takes_or_refuses with
      ⟨takes, unrefused⟩ | ⟨earlier, chunk, failure, previous, takes, refuses, isHanded, isMoves,
        isOutcome⟩
    · -- Without a refusal the chunk was not handed over, so something else has ended the copy.
      have unhanded := occurs.not_begins takes
      have set : .look true ∈ moves := by
        by_contra unset
        rw [course.handed_eq_offered unset unrefused] at unhanded
        exact unhanded occurs.begins
      rw [sink_eq]
      exact .inr ⟨set, takes.isServed, begins_of_unreached begins occurs.begins unhanded⟩
    · rw [isHanded] at begins
      obtain ⟨rfl, rfl, rfl⟩ := occurs.eq_of_refuses begins takes refuses
      rw [sink_eq, isOutcome]
      exact .inl (occurs.isStopped isHanded ⟨previous, isMoves⟩)

/-! ## A fan within a fan -/

/-- A buffer, a fan of a hasher and another buffer, and one more buffer. -/
def branching (failAt : Option Nat) : Sink :=
  .fan [.buffer (.empty "a" none none),
    .fan [.hash (.standard .md5 []), .buffer (.empty "b" failAt none)],
    .buffer (.empty "c" none none)]

/-- The second buffer of them refuses the second chunk. -/
def stopInside : Stop where
  before := [.buffer (.empty "a" none none), .hash (.standard .md5 [])]
  part := .buffer (.empty "b" (some 2) none)
  behind := [.buffer (.empty "c" none none)]
  earlier := [[1]]
  chunk := [2]
  failure := .trouble .device "sink failed"

/-- Three chunks reach all of the parts, unless the second buffer refuses the second chunk: then the
first buffer and the hasher have two chunks, and the other buffers one. -/
theorem fansOut_of_refusal_inside :
    (∀ part ∈ (branching none).parts, part.Takes [[1], [2], [3]]) ∧
      IsServed (branching none)
        (copy (.stream [.chunk [1], .chunk [2], .chunk [3]]) (branching none) none).2.sink
        [[1], [2], [3]] ∧
      stopInside.Occurs (branching (some 2)) [[1], [2], [3]] ∧
      ∃ moves, IsStopped stopInside moves
        (copy (.stream [.chunk [1], .chunk [2], .chunk [3]]) (branching (some 2)) none).1
        (copy (.stream [.chunk [1], .chunk [2], .chunk [3]]) (branching (some 2)) none).2.sink := by
  have takes : ∀ part ∈ (branching none).parts, part.Takes [[1], [2], [3]] := by
    rw [← Sink.takes_iff_parts]
    exact ⟨rfl, rfl, rfl, trivial⟩
  have occurs : stopInside.Occurs (branching (some 2)) [[1], [2], [3]] := {
    parts_eq := rfl
    begins := ⟨[[3]], rfl⟩
    takes := by
      rw [← Sink.takes_iff_parts]
      exact ⟨rfl, trivial⟩
    takesUpTo := by
      intro part isBefore
      simp only [stopInside, List.mem_cons, List.not_mem_nil, or_false] at isBefore
      rcases isBefore with rfl | rfl
      · exact ⟨rfl, rfl, trivial⟩
      · exact ⟨rfl, rfl, trivial⟩
    refuses := rfl }
  refine ⟨takes, ?_, occurs, ?_⟩
  · obtain ⟨moves, -, silent, -, serves, -⟩ :=
      copy_fansOut (.stream [.chunk [1], .chunk [2], .chunk [3]]) (branching none) none
    obtain ⟨served, whole⟩ := serves takes
    rw [whole (silent rfl)] at served
    exact served
  · obtain ⟨moves, -, silent, -, -, stops⟩ :=
      copy_fansOut (.stream [.chunk [1], .chunk [2], .chunk [3]]) (branching (some 2)) none
    rcases stops stopInside occurs with stopped | ⟨set, -⟩
    · exact ⟨moves, stopped⟩
    · exact absurd set (silent rfl)

end SafeFetch.Transfer
