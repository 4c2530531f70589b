import Mathlib.Data.List.Forall2
import SafeFetch.Proofs.Transfer.Delivery
import SafeFetch.Proofs.Transfer.FanOut

/-!
# Copies one after another

Copies into one sink leave in it what one copy of all the bytes leaves. A buffer holds the bytes
that it was handed and a hasher has their digest, and neither depends on where a chunk or a copy
ends: a copy keeps nothing back, and does nothing to its sink when it is through.

## Main definitions

* `Sink.shown`: the bytes in the buffers of a sink and the digests of its hashers;
* `Sink.Stores`: a sink of buffers that refuse nothing and hashers of algorithms;
* `copyEach`: copies into one sink, one after another;
* `Flows`: a source gives bytes without a fault, and nobody cancels its copy.

## Main results

* `Sink.Stores.shown_after`: what a sink shows depends on the bytes alone;
* `copyEach_eq_copy`: copies one after another come to one copy of all the bytes.
-/

namespace SafeFetch.Transfer

variable {sink : Sink} {chunks chunks' : List (List UInt8)}

/-! ## What a sink shows -/

namespace Sink

/-- The bytes in the buffers of a sink and the digests of its hashers, in order. -/
def shown (sink : Sink) : List (List UInt8 ⊕ Except Failure (List UInt8)) :=
  sink.leaves.map (Sum.map Buffer.contents Hasher.digest)

/-- A sink shows what its parts show. -/
theorem shown_eq (sink : Sink) : sink.shown = sink.parts.flatMap shown := by
  have part (leaf : Buffer ⊕ Hasher) : shown (Sum.elim .buffer .hash leaf) =
      [Sum.map Buffer.contents Hasher.digest leaf] := by
    cases leaf <;> rfl
  rw [parts, List.flatMap_map, shown, List.map_eq_flatMap]
  simp [part]

/-- All parts of a sink are buffers that refuse nothing and hashers of algorithms. -/
structure Stores (sink : Sink) : Prop where
  buffer : ∀ b, .buffer b ∈ sink.parts → b.failAt = none
  hasher : ∀ h, .hash h ∈ sink.parts → ∃ algorithm taken, h = .standard algorithm taken

/-- A hasher of an algorithm takes whatever it is handed. -/
theorem takes_standard (algorithm : Algorithm) (taken chunks : List (List UInt8)) :
    (Sink.hash (.standard algorithm taken)).Takes chunks := by
  induction chunks generalizing taken with
  | nil => trivial
  | cons chunk rest ih => exact ⟨rfl, ih (chunk :: taken)⟩

/-- A sink that stores what it is handed takes it. -/
theorem Stores.takes (stores : sink.Stores) (chunks : List (List UInt8)) :
    sink.Takes chunks := by
  apply takes_iff_parts.mpr
  intro part isIn
  rcases isPart_of_mem isIn with ⟨b, rfl⟩ | ⟨h, rfl⟩
  · exact (Buffer.takesAll (stores.buffer b isIn)).takes chunks
  · obtain ⟨algorithm, taken, rfl⟩ := stores.hasher h isIn
    exact takes_standard algorithm taken chunks

theorem Stores.takesAll (stores : sink.Stores) : sink.TakesAll := by
  intro chunks chunk
  have takes := takes_append_iff.mp (stores.takes (chunks ++ [chunk]))
  exact takes_singleton_iff.mp takes.2

/-- What a sink shows after chunks depends on their bytes alone. -/
theorem Stores.shown_after (stores : sink.Stores) (same : chunks.flatten = chunks'.flatten) :
    (sink.after chunks).shown = (sink.after chunks').shown := by
  -- A buffer puts the bytes behind those that it holds, and a hasher has their digest in the end.
  have parts {part : Sink} (isIn : part ∈ sink.parts) :
      (part.after chunks).shown = (part.after chunks').shown := by
    rcases isPart_of_mem isIn with ⟨b, rfl⟩ | ⟨h, rfl⟩
    · have takesAll := Buffer.takesAll (stores.buffer b isIn)
      obtain ⟨full, after, contents⟩ := Buffer.after_of_takesAll takesAll chunks
      obtain ⟨full', after', contents'⟩ := Buffer.after_of_takesAll takesAll chunks'
      rw [after, after']
      simp [shown, leaves, contents, contents', same]
    · obtain ⟨algorithm, taken, rfl⟩ := stores.hasher h isIn
      rw [after_hash, after_hash, Download.hasherAfter_standard, Download.hasherAfter_standard]
      simp [shown, leaves, Hasher.digest, same]
  rw [shown_eq, shown_eq, (stores.takes chunks).parts_after, (stores.takes chunks').parts_after,
    List.flatMap_map, List.flatMap_map]
  exact List.flatMap_congr fun part isIn => parts isIn

end Sink

section

variable [Platform]

/-! ## Copies in a row -/

/-- Copy one source after another into a sink, each under a signal of its own. -/
def copyEach : List (Source × Option CancelSignal) → Sink → List (Except Failure Nat) × Sink
  | [], sink => ([], sink)
  | (source, signal) :: rest, sink =>
    let first := copy source sink signal
    let later := copyEach rest first.2.sink
    (first.1 :: later.1, later.2)

/-- A source gives bytes without a fault, and nobody cancels its copy into a sink. -/
structure Flows (sink : Sink) (data : List UInt8) (copied : Source × Option CancelSignal) :
    Prop where
  gives : Gives data copied.1
  unfaulted : ∀ failure, .fault failure ∉ copied.1.items
  quiet : IsQuiet copied.2
  calm : copied.2.isSome = true → sink.IsCalm

variable {data : List UInt8} {copied single : Source × Option CancelSignal}
  {datas : List (List UInt8)} {copies : List (Source × Option CancelSignal)}

/-- What flows into a sink flows into it later as well. -/
theorem Flows.after (flows : Flows sink data copied) (chunks : List (List UInt8)) :
    Flows (sink.after chunks) data copied where
  gives := flows.gives
  unfaulted := flows.unfaulted
  quiet := flows.quiet
  calm present := (flows.calm present).after chunks

/-- A source that flows into a sink which takes everything is copied completely. -/
theorem Flows.copy_eq (flows : Flows sink data copied) (takesAll : sink.TakesAll) :
    (copy copied.1 sink copied.2).1 = .ok data.length ∧
      ∃ chunks : List (List UInt8), chunks.flatten = data ∧
        (copy copied.1 sink copied.2).2.sink = sink.after chunks := by
  have untroubled : IsUntroubled sink copied.2 := ⟨takesAll, flows.quiet, flows.calm⟩
  obtain ⟨outcome, chunks, whole, -, isAfter⟩ := untroubled.copy_eq flows.gives flows.unfaulted
  exact ⟨outcome, chunks, whole, isAfter⟩

/-- Copies in a row hand over all the bytes and count those of each. -/
theorem copyEach_eq (takesAll : sink.TakesAll) (flow : List.Forall₂ (Flows sink) datas copies) :
    (copyEach copies sink).1 = datas.map (fun data => .ok data.length) ∧
      ∃ chunks : List (List UInt8), chunks.flatten = datas.flatten ∧
        (copyEach copies sink).2 = sink.after chunks := by
  induction copies generalizing datas sink with
  | nil =>
    cases flow
    exact ⟨rfl, [], rfl, rfl⟩
  | cons copied rest ih =>
    cases flow with | @cons data _ datas _ flows flow =>
    obtain ⟨count, first, whole, isAfter⟩ := flows.copy_eq takesAll
    -- The other copies go into the sink that the first one leaves.
    have flowLater : List.Forall₂ (Flows (sink.after first)) datas rest :=
      flow.imp fun _ _ flows => flows.after first
    obtain ⟨counts, later, wholeLater, isLast⟩ := ih (takesAll.after first) flowLater
    rw [← isAfter] at counts isLast
    refine ⟨?_, first ++ later, ?_, ?_⟩
    · simp only [copyEach, count, counts, List.map_cons]
    · rw [List.flatten_append, whole, wholeLater, List.flatten_cons]
    · simp only [copyEach]
      rw [isLast, isAfter, Sink.after_append]

omit [Platform] in
/-- Lengths add up. -/
theorem length_flatten_eq (datas : List (List UInt8)) :
    datas.flatten.length = (datas.map List.length).foldr (· + ·) 0 := by
  induction datas with
  | nil => rfl
  | cons data rest ih =>
    rw [List.flatten_cons, List.length_append, ih, List.map_cons, List.foldr_cons]

/-- Sources that are copied one after another into a sink of buffers and hashers leave the contents
and digests that one copy of all their bytes leaves, whatever gives these and in whichever pieces.
The counts of the copies add up to that of the one copy. -/
theorem copyEach_eq_copy (stores : sink.Stores) (flow : List.Forall₂ (Flows sink) datas copies)
    (whole : Flows sink datas.flatten single) :
    (copyEach copies sink).1 = datas.map (fun data => .ok data.length) ∧
      (copy single.1 sink single.2).1 = .ok ((datas.map List.length).foldr (· + ·) 0) ∧
      (copyEach copies sink).2.shown = (copy single.1 sink single.2).2.sink.shown := by
  obtain ⟨counts, chunks, isWhole, isLast⟩ := copyEach_eq stores.takesAll flow
  obtain ⟨count, chunks', isWhole', isAfter⟩ := whole.copy_eq stores.takesAll
  refine ⟨counts, ?_, ?_⟩
  · rw [count, length_flatten_eq]
  · rw [isLast, isAfter]
    exact stores.shown_after (isWhole.trans isWhole'.symm)

end

/-- A reader of three bytes, bytes in memory and a stream are copied into a fan within a fan. -/
theorem shown_of_three_sources :
    (branching none).Stores ∧
      List.Forall₂ (Flows (branching none)) [[1, 2, 3], [4], [5]]
        [(.reader [.chunk [1], .chunk [2, 3], .chunk [], .chunk [9]] (some 2), none),
          (.bytes [4] (some 2), none), (.stream [.chunk [], .chunk [5]], none)] ∧
      Flows (branching none) [1, 2, 3, 4, 5] (.bytes [1, 2, 3, 4, 5] none, none) ∧
      (copyEach [(.reader [.chunk [1], .chunk [2, 3], .chunk [], .chunk [9]] (some 2), none),
          (.bytes [4] (some 2), none), (.stream [.chunk [], .chunk [5]], none)]
          (branching none)).2.shown =
        (copy (.bytes [1, 2, 3, 4, 5] none) (branching none) none).2.sink.shown := by
  have stores : (branching none).Stores := by
    have parts : (branching none).parts = [.buffer (.empty "a" none none),
      .hash (.standard .md5 []), .buffer (.empty "b" none none),
      .buffer (.empty "c" none none)] := rfl
    constructor
    · intro b isIn
      simp only [parts, List.mem_cons, Sink.buffer.injEq, reduceCtorEq, List.not_mem_nil, false_or,
        or_false] at isIn
      rcases isIn with rfl | rfl | rfl <;> rfl
    · intro h isIn
      simp only [parts, List.mem_cons, Sink.hash.injEq, reduceCtorEq, List.not_mem_nil, false_or,
        or_false] at isIn
      exact ⟨.md5, [], isIn⟩
  have flows {data : List UInt8} {source : Source} (gives : Gives data source)
      (unfaulted : ∀ failure, .fault failure ∉ source.items) :
      Flows (branching none) data (source, none) :=
    ⟨gives, unfaulted, by simp [IsQuiet], by simp⟩
  have first : Gives [1, 2, 3]
      (.reader ([[1], [2, 3]].map .chunk ++ [.chunk [], .chunk [9]]) (some 2)) :=
    .reader (by decide) (.inr ⟨_, rfl⟩) rfl
  have second : ∀ failure, .fault failure ∉ (Source.bytes [4] (some 2)).items := by
    intro failure isFault
    have large := (Source.fault_mem_bytes_iff [4] 2).mp ⟨failure, isFault⟩
    omega
  have third : Gives [5] (.stream ([[], [5]].map .chunk)) := .stream rfl
  have flow : List.Forall₂ (Flows (branching none)) [[1, 2, 3], [4], [5]]
      [(.reader [.chunk [1], .chunk [2, 3], .chunk [], .chunk [9]] (some 2), none),
        (.bytes [4] (some 2), none), (.stream [.chunk [], .chunk [5]], none)] :=
    .cons (flows first (by simp [Source.items])) (.cons (flows (.bytes (by simp)) second)
      (.cons (flows third (by simp [Source.items])) .nil))
  have whole : Flows (branching none) [1, 2, 3, 4, 5] (.bytes [1, 2, 3, 4, 5] none, none) :=
    flows (.bytes (by simp)) (by simp [Source.items, Source.bytesItems, Source.whole])
  exact ⟨stores, flow, whole, (copyEach_eq_copy stores flow whole).2.2⟩

end SafeFetch.Transfer
