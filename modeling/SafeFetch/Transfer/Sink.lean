import SafeFetch.Digest.Algorithm
import SafeFetch.Digest.Word
import SafeFetch.Failure
import SafeFetch.Transfer.Event

/-!
# Sinks

Where the chunks of a copy go: a buffer, a hasher, or several sinks that are handed every chunk in
order. A buffer or a hasher may refuse its write of a given number, and may set the cancel signal at
one. A refusal stops the write: sinks further on are not handed the chunk.
-/

namespace SafeFetch.Transfer

/-- What a write leaves behind. -/
structure Written (α : Type) where
  /-- The sink after the write. -/
  sink : α
  /-- The events of the write, in order. -/
  events : List Event
  /-- Whether the write set the cancel signal. -/
  isCancelling : Bool
  failure : Option Failure

namespace Written

variable {α β : Type}

/-- See the sink of a write as a part of another one. -/
def map (f : α → β) (w : Written α) : Written β :=
  { sink := f w.sink, events := w.events, isCancelling := w.isCancelling, failure := w.failure }

/-- A write that did nothing. -/
def nothing (sink : α) : Written α := { sink, events := [], isCancelling := false, failure := none }

/-- One write after another. -/
def append (first : Written α) (second : Written (List α)) : Written (List α) where
  sink := first.sink :: second.sink
  events := first.events ++ second.events
  isCancelling := first.isCancelling || second.isCancelling
  failure := second.failure

end Written

/-- A buffer that keeps the chunks it was handed. -/
structure Buffer where
  name : String
  /-- The number of the write to refuse. -/
  failAt : Option Nat
  /-- The number of the write that sets the cancel signal. -/
  cancelAt : Option Nat
  /-- How many writes there were. -/
  count : Nat
  /-- The chunks kept, latest first. -/
  kept : List (List UInt8)
  deriving DecidableEq, Repr

namespace Buffer

/-- A buffer that nothing was written to. -/
def empty (name : String) (failAt cancelAt : Option Nat) : Buffer :=
  { name, failAt, cancelAt, count := 0, kept := [] }

/-- The bytes that a buffer holds. -/
def contents (b : Buffer) : List UInt8 := b.kept.reverse.flatten

/-- Hand a chunk to a buffer. -/
def write (b : Buffer) (chunk : List UInt8) : Written Buffer :=
  let counted := { b with count := b.count + 1 }
  let events := [.write b.name chunk.length]
  if b.failAt = some counted.count then
    { sink := counted, events, isCancelling := false,
      failure := some (.trouble .device "sink failed") }
  else
    { sink := { counted with kept := chunk :: b.kept }, events,
      isCancelling := b.cancelAt = some counted.count, failure := none }

end Buffer

/-- A hasher that a caller brings along: its digest tells the length of every chunk. -/
structure Tally where
  /-- The number of the update to refuse. -/
  failAt : Option Nat
  /-- The number of the update that sets the cancel signal. -/
  cancelAt : Option Nat
  /-- The lengths of the chunks, latest first. -/
  lengths : List Nat
  deriving DecidableEq, Repr

namespace Tally

/-- Take a chunk into a tally; a chunk that is refused counts too. -/
def update (t : Tally) (chunk : List UInt8) : Written Tally :=
  let t := { t with lengths := chunk.length :: t.lengths }
  let isRefused := t.failAt = some t.lengths.length
  { sink := t, events := [],
    isCancelling := !isRefused && t.cancelAt = some t.lengths.length,
    failure := if isRefused then some (.trouble .device "hasher failed") else none }

/-- The lengths, each as the lowest two bytes. -/
def digest (t : Tally) : List UInt8 := t.lengths.reverse.flatMap (Digest.highBytes 2)

end Tally

/-- What computes a digest from chunks. -/
inductive Hasher where
  /-- A hasher of an algorithm with the chunks taken so far, latest first. -/
  | standard (algorithm : Algorithm) (taken : List (List UInt8))
  | tally (tally : Tally)
  /-- A hasher that was announced and not given. -/
  | withheld
  deriving DecidableEq, Repr

namespace Hasher

/-- Take a chunk into a hasher. -/
def update (h : Hasher) (chunk : List UInt8) : Written Hasher :=
  match h with
  | .standard algorithm taken => .nothing (.standard algorithm (chunk :: taken))
  | .tally t => (t.update chunk).map .tally
  | .withheld => { Written.nothing .withheld with failure := some (.valueWithheld "update") }

/-- The digest of the chunks taken so far. -/
def digest : Hasher → Except Failure (List UInt8)
  | .standard algorithm taken => algorithm.digest taken.reverse.flatten
  | .tally t => .ok t.digest
  | .withheld => .error (.valueWithheld "digest")

end Hasher

/-- Where chunks go. -/
inductive Sink where
  | buffer (buffer : Buffer)
  | hash (hasher : Hasher)
  | fan (sinks : List Sink)

namespace Sink

mutual

/-- Hand a chunk to a sink. -/
def write (chunk : List UInt8) : Sink → Written Sink
  | .buffer b => (b.write chunk).map .buffer
  | .hash h => (h.update chunk).map .hash
  | .fan sinks => (writeAll chunk sinks).map .fan

/-- Hand a chunk to sinks in order, up to the first that refuses it. -/
def writeAll (chunk : List UInt8) : List Sink → Written (List Sink)
  | [] => .nothing []
  | sink :: rest =>
    let first := write chunk sink
    match first.failure with
    | some _ => first.map (· :: rest)
    | none => first.append (writeAll chunk rest)

end

mutual

/-- The buffers and hashers of a sink, in order. -/
def leaves : Sink → List (Buffer ⊕ Hasher)
  | .buffer b => [.inl b]
  | .hash h => [.inr h]
  | .fan sinks => leavesOfAll sinks

/-- The buffers and hashers of sinks, in order. -/
def leavesOfAll : List Sink → List (Buffer ⊕ Hasher)
  | [] => []
  | sink :: rest => leaves sink ++ leavesOfAll rest

end

/-- The first buffer of a sink. -/
def firstBuffer? (sink : Sink) : Option Buffer :=
  sink.leaves.findSome? fun
    | .inl b => some b
    | .inr _ => none

/-- The first hasher of a sink. -/
def firstHasher? (sink : Sink) : Option Hasher :=
  sink.leaves.findSome? fun
    | .inl _ => none
    | .inr h => some h

end Sink

end SafeFetch.Transfer
