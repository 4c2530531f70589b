import SafeFetch.Transfer.Event
import SafeFetch.Transfer.Sink
import SafeFetch.Transfer.Source

/-!
# Copies

A copy moves chunks from a source into a sink. Before every chunk it looks at the cancel signal, so
it stops within one chunk of the signal; a chunk that is empty is passed over.
-/

namespace SafeFetch.Transfer

/-- How far a copy has come. -/
structure Progress where
  sink : Sink
  signal : Option CancelSignal
  /-- How many bytes the sink has taken. -/
  written : Nat
  /-- The events so far, latest first. -/
  trace : List Event

namespace Progress

/-- A copy before its first chunk. -/
def start (sink : Sink) (signal : Option CancelSignal) : Progress :=
  { sink, signal, written := 0, trace := [] }

/-- Set the cancel signal, if there is one. -/
def cancel (p : Progress) : Progress := { p with signal := p.signal.map (·.setRaised) }

/-- Look at the cancel signal. True means that the copy has to stop. -/
def poll (p : Progress) : Bool × Progress :=
  match p.signal with
  | none => (false, p)
  | some signal =>
    let (isSet, signal) := signal.poll
    (isSet, { p with signal := some signal, trace := .poll :: p.trace })

/-- Ask the source for a chunk. -/
def ask (asked? : Option (Option Int)) (p : Progress) : Progress :=
  match asked? with
  | none => p
  | some size => { p with trace := .read size :: p.trace }

/-- Hand a chunk to the sink. -/
def deliver (chunk : List UInt8) (p : Progress) : Option Failure × Progress :=
  let w := p.sink.write chunk
  let p := { p with sink := w.sink, trace := w.events.reverse ++ p.trace }
  let p := if w.isCancelling then p.cancel else p
  match w.failure with
  | some failure => (some failure, p)
  | none => (none, { p with written := p.written + chunk.length })

end Progress

/-- Look at the signal and ask for a chunk. A signal that is set stops the copy. -/
def request (asked? : Option (Option Int)) (p : Progress) : Except Failure Unit × Progress :=
  match p.poll with
  | (true, p) => (.error (.cancelled p.written), p)
  | (false, p) => (.ok (), p.ask asked?)

/-- Go on with a copy that has asked for the first of the items. -/
def copyItems (asked? : Option (Option Int)) : List Item → Progress → Except Failure Nat × Progress
  | [], p => (.ok p.written, p)
  | .missing :: _, p => (.ok p.written, p)
  | .fault failure :: _, p => (.error failure, p)
  | .signal :: rest, p => copyItems asked? rest p.cancel
  | .chunk bytes :: rest, p =>
    match if bytes.isEmpty then (none, p) else p.deliver bytes with
    | (some failure, p) => (.error failure, p)
    | (none, p) =>
      match request asked? p with
      | (.error failure, p) => (.error failure, p)
      | (.ok (), p) => copyItems asked? rest p

/-- Copy a source into a sink and count the bytes. -/
def copy [Platform] (source : Source) (sink : Sink) (signal : Option CancelSignal) :
    Except Failure Nat × Progress :=
  match request source.asked? (.start sink signal) with
  | (.error failure, p) => (.error failure, p)
  | (.ok (), p) => copyItems source.asked? source.items p

end SafeFetch.Transfer
