import SafeFetch.Transfer.Copy

/-!
# One step of a copy

A copy looks at its signal, asks its source for a chunk and hands the chunk to its sink. Only the
last of these reaches the sink, and none of them takes the signal away.

## Main definitions

* `Sink.after`: a sink after it was handed chunks;
* `IsQuiet` and `Sink.IsCalm`: a signal that nobody sets, and a sink that sets none;
* `IsRaised`: a signal that somebody has set;
* `Sink.TakesAll`: a sink that refuses nothing.
-/

namespace SafeFetch.Transfer

variable {asked? : Option (Option Int)} {p next : Progress}

/-! ## Sinks -/

/-- A sink after it was handed chunks, in order. -/
def Sink.after (sink : Sink) (chunks : List (List UInt8)) : Sink :=
  chunks.foldl (fun sink chunk => (sink.write chunk).sink) sink

@[simp]
theorem Sink.after_cons (sink : Sink) (chunk : List UInt8) (chunks : List (List UInt8)) :
    sink.after (chunk :: chunks) = (sink.write chunk).sink.after chunks := rfl

theorem Sink.after_append (sink : Sink) (first later : List (List UInt8)) :
    (sink.after first).after later = sink.after (first ++ later) := by
  simp [Sink.after, List.foldl_append]

/-- A sink that never sets the signal, whatever it is handed. -/
def Sink.IsCalm (sink : Sink) : Prop :=
  ∀ chunks chunk, ((sink.after chunks).write chunk).isCancelling = false

theorem Sink.IsCalm.after {sink : Sink} (calm : sink.IsCalm) (chunks : List (List UInt8)) :
    (sink.after chunks).IsCalm := by
  intro later chunk
  rw [Sink.after_append]
  exact calm (chunks ++ later) chunk

/-- A sink that takes whatever it is handed. -/
def Sink.TakesAll (sink : Sink) : Prop :=
  ∀ chunks chunk, ((sink.after chunks).write chunk).failure = none

theorem Sink.TakesAll.after {sink : Sink} (takesAll : sink.TakesAll)
    (chunks : List (List UInt8)) : (sink.after chunks).TakesAll := by
  intro later chunk
  rw [Sink.after_append]
  exact takesAll (chunks ++ later) chunk

/-! ## Looking, asking and handing over -/

/-- Looking at the signal hands nothing over. -/
theorem poll_idle (p : Progress) : p.poll.2.sink = p.sink ∧ p.poll.2.written = p.written := by
  rw [Progress.poll]
  split
  · exact ⟨rfl, rfl⟩
  · exact ⟨rfl, rfl⟩

/-- Asking for a chunk hands nothing over. -/
theorem request_idle (asked? : Option (Option Int)) (p : Progress) :
    (request asked? p).2.sink = p.sink ∧ (request asked? p).2.written = p.written := by
  have idle := poll_idle p
  rw [request]
  rcases polled : p.poll with ⟨_ | _, next⟩ <;> rw [polled] at idle
  · cases asked? <;> exact idle
  · exact idle

/-- A chunk that is handed over reaches the sink. -/
theorem sink_deliver (chunk : List UInt8) (p : Progress) :
    (p.deliver chunk).2.sink = (p.sink.write chunk).sink := by
  simp only [Progress.deliver]
  cases (p.sink.write chunk).failure <;> cases (p.sink.write chunk).isCancelling <;> rfl

/-- A chunk is refused by the sink alone. -/
theorem fst_deliver (chunk : List UInt8) (p : Progress) :
    (p.deliver chunk).1 = (p.sink.write chunk).failure := by
  simp only [Progress.deliver]
  cases (p.sink.write chunk).failure <;> rfl

/-- A chunk that is taken is counted. -/
theorem written_deliver {chunk : List UInt8} (taken : (p.deliver chunk).1 = none) :
    (p.deliver chunk).2.written = p.written + chunk.length := by
  simp only [Progress.deliver] at taken ⊢
  cases failure : (p.sink.write chunk).failure with
  | some failure =>
    rw [failure] at taken
    cases taken
  | none => cases (p.sink.write chunk).isCancelling <;> rfl

/-! ## Signals that stay -/

theorem isSome_signal_poll (p : Progress) : p.poll.2.signal.isSome = p.signal.isSome := by
  rw [Progress.poll]
  split
  next absent => rw [absent]
  next present =>
    rw [present]
    rfl

theorem isSome_signal_cancel (p : Progress) : p.cancel.signal.isSome = p.signal.isSome :=
  Option.isSome_map

theorem isSome_signal_request (asked? : Option (Option Int)) (p : Progress) :
    (request asked? p).2.signal.isSome = p.signal.isSome := by
  have stays := isSome_signal_poll p
  rw [request]
  rcases polled : p.poll with ⟨_ | _, next⟩ <;> rw [polled] at stays
  · cases asked? <;> exact stays
  · exact stays

theorem isSome_signal_deliver (chunk : List UInt8) (p : Progress) :
    (p.deliver chunk).2.signal.isSome = p.signal.isSome := by
  simp only [Progress.deliver]
  cases (p.sink.write chunk).failure <;> cases (p.sink.write chunk).isCancelling <;>
    simp [Progress.cancel]

/-- Only a signal that is there is found set. -/
theorem isSome_of_poll (isSet : p.poll.1 = true) : p.signal.isSome = true := by
  cases signal : p.signal with
  | none =>
    rw [Progress.poll, signal] at isSet
    cases isSet
  | some set => rfl

/-! ## Signals that nobody sets -/

/-- A signal that is not set, and is never set by itself. -/
def IsQuiet (signal : Option CancelSignal) : Prop :=
  ∀ set, signal = some set → set.isRaised = false ∧ set.threshold = none

/-- Nobody sets a signal that is not there. -/
theorem isQuiet_none : IsQuiet none := by
  intro set isSet
  cases isSet

/-- A new signal is quiet until somebody sets it. -/
theorem isQuiet_fresh : IsQuiet (some (.fresh none)) := by
  intro set same
  obtain rfl := Option.some.inj same
  exact ⟨rfl, rfl⟩

/-- Looking at a quiet signal does not stop a copy. -/
theorem poll_of_quiet (quiet : IsQuiet p.signal) :
    p.poll.1 = false ∧ IsQuiet p.poll.2.signal := by
  rw [Progress.poll]
  cases signal : p.signal with
  | none => exact ⟨rfl, quiet⟩
  | some set =>
    obtain ⟨unraised, endless⟩ := quiet set signal
    simp only [CancelSignal.poll, unraised, endless]
    refine ⟨rfl, ?_⟩
    rintro next isNext
    obtain rfl := Option.some.inj isNext
    exact ⟨rfl, rfl⟩

/-- Nothing stops a copy from asking for a chunk while the signal is quiet. -/
theorem request_of_quiet (asked? : Option (Option Int)) (quiet : IsQuiet p.signal) :
    ∃ next, request asked? p = (.ok (), next) ∧ IsQuiet next.signal := by
  obtain ⟨goesOn, stays⟩ := poll_of_quiet quiet
  rw [request]
  rcases polled : p.poll with ⟨stops, next⟩
  rw [polled] at goesOn stays
  obtain rfl : stops = false := goesOn
  refine ⟨next.ask asked?, rfl, ?_⟩
  cases asked? with
  | none => exact stays
  | some size => exact stays

/-- A chunk that is handed to a calm sink leaves the signal quiet. -/
theorem deliver_of_calm (quiet : IsQuiet p.signal) (calm : p.sink.IsCalm) (chunk : List UInt8) :
    IsQuiet (p.deliver chunk).2.signal := by
  have unset : (p.sink.write chunk).isCancelling = false := calm [] chunk
  simp only [Progress.deliver, unset]
  cases (p.sink.write chunk).failure with
  | some failure => exact quiet
  | none => exact quiet

/-- A signal that somebody has set. -/
def IsRaised (signal : Option CancelSignal) : Prop :=
  ∃ set, signal = some set ∧ set.isRaised = true

end SafeFetch.Transfer
