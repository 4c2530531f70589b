import SafeFetch.Proofs.Transfer.Course

/-!
# What a copy delivers

The sink of a copy is handed chunks that make up a part of what the source gives, from its
beginning. A copy that succeeds has handed over all of it and counted the bytes.

## Main definitions

* `arriving`: the bytes of items up to a fault;
* `received?`: the bytes of items that come without a fault;
* `gotten`, `handed` and `kept`: the chunks that a copy gets, that it hands over and that its sink
  takes;
* `offered`: the chunks that a source gives as long as nobody stops it;
* `Breaks`: a copy ends with a failure of its sink or its source.

## Main results

* `copy_after`: what the sink of a copy was handed;
* `copy_of_quiet`: how a copy ends that nobody cancels;
* `copy_of_raised`: how a copy ends that is cancelled before it begins;
* `isSome_signal_copy`: a copy that can be cancelled leaves the signal there.
-/

namespace SafeFetch.Transfer

/-! ## What a source gives -/

/-- The bytes of items up to their end or a fault. -/
def arriving : List Item → List UInt8
  | [] | .missing :: _ | .fault _ :: _ => []
  | .signal :: rest => arriving rest
  | .chunk bytes :: rest => bytes ++ arriving rest

/-- The bytes of items that come to their end without a fault. -/
def received? : List Item → Option (List UInt8)
  | [] | .missing :: _ => some []
  | .fault _ :: _ => none
  | .signal :: rest => received? rest
  | .chunk bytes :: rest => (received? rest).map (bytes ++ ·)

/-- Items without a fault give what arrives. -/
theorem arriving_of_received? {items : List Item} {bytes : List UInt8}
    (received : received? items = some bytes) : arriving items = bytes := by
  induction items generalizing bytes with
  | nil => exact Option.some.inj received
  | cons item rest ih =>
    cases item with
    | chunk first =>
      obtain ⟨later, receivedLater, rfl⟩ := Option.map_eq_some_iff.mp received
      rw [arriving, ih receivedLater]
    | missing => exact Option.some.inj received
    | fault failure => cases received
    | signal => exact ih received

/-- The chunks that a source gives as long as nobody stops it, but for the empty ones. -/
def offered : List Item → List (List UInt8)
  | [] | .missing :: _ | .fault _ :: _ => []
  | .signal :: rest => offered rest
  | .chunk bytes :: rest => if bytes = [] then offered rest else bytes :: offered rest

/-- The chunks that a source gives are those that arrive. -/
theorem flatten_offered (items : List Item) : (offered items).flatten = arriving items := by
  induction items with
  | nil => rfl
  | cons item rest ih =>
    cases item with
    | missing => rfl
    | fault failure => rfl
    | signal => exact ih
    | chunk bytes =>
      rw [offered, arriving, ← ih]
      by_cases empty : bytes = []
      · rw [if_pos empty, empty, List.nil_append]
      · rw [if_neg empty, List.flatten_cons]

variable {asked? : Option (Option Int)} {items rest : List Item} {item : Item}
  {p last after : Progress} {moves : List Move} {outcome : Except Failure Nat}

/-! ## What a copy hands over -/

/-- The chunks that a copy gets. -/
def gotten : List Move → List (List UInt8)
  | [] => []
  | .read (.chunk bytes) :: rest => bytes :: gotten rest
  | _ :: rest => gotten rest

/-- The chunks that a copy hands to its sink. -/
def handed : List Move → List (List UInt8)
  | [] => []
  | .hand chunk _ :: rest => chunk :: handed rest
  | _ :: rest => handed rest

/-- The chunks that the sink of a copy takes. -/
def kept : List Move → List (List UInt8)
  | [] => []
  | .hand chunk none :: rest => chunk :: kept rest
  | _ :: rest => kept rest

/-- A look gets no chunk. -/
@[simp]
theorem gotten_looks (p : Progress) (moves : List Move) :
    gotten (p.looks ++ moves) = gotten moves := by
  rw [Progress.looks]
  split <;> rfl

/-- A look hands no chunk over. -/
@[simp]
theorem handed_looks (p : Progress) (moves : List Move) :
    handed (p.looks ++ moves) = handed moves := by
  rw [Progress.looks]
  split <;> rfl

/-- A look gives the sink no chunk. -/
@[simp]
theorem kept_looks (p : Progress) (moves : List Move) :
    kept (p.looks ++ moves) = kept moves := by
  rw [Progress.looks]
  split <;> rfl

/-- What a source gives next is what it offers first. -/
theorem Obtains.offered_eq (obtains : Obtains asked? items p item rest after) :
    offered items = offered (item :: rest) :=
  obtains.eq_of_skips offered (fun _ => rfl) rfl

/-- A copy hands over the chunks that it gets, but for the empty ones. -/
theorem Course.handed_eq (course : Course asked? items p moves outcome last) :
    handed moves = (gotten moves).filter (· ≠ []) := by
  induction course with
  | stopped => rfl
  | ended | broken => simp [handed, gotten]
  | passed _ _ ih => simpa [handed, gotten] using ih
  | refused _ said => simp [handed, gotten, said]
  | taken _ said _ _ ih => simpa [handed, gotten, said] using ih

/-- The sink takes all chunks that it is handed, but for the last one, which it may refuse. -/
theorem Course.kept_prefix (course : Course asked? items p moves outcome last) :
    kept moves <+: handed moves := by
  induction course with
  | stopped => exact List.prefix_rfl
  | ended | broken =>
    rw [kept_looks, handed_looks]
    exact List.prefix_rfl
  | passed _ _ ih =>
    rw [kept_looks, handed_looks]
    exact ih
  | refused =>
    rw [kept_looks, handed_looks]
    exact List.nil_prefix
  | @taken _ _ _ _ _ _ bytes _ _ _ _ _ _ ih =>
    rw [kept_looks, handed_looks]
    exact (List.prefix_cons_inj bytes).mpr ih

/-- The sink of a copy is handed these chunks, and nothing else. -/
theorem Course.sink_eq (course : Course asked? items p moves outcome last) :
    last.sink = p.sink.after (handed moves) := by
  induction course with
  | @stopped _ p _ stops =>
    have idle := request_idle asked? p
    rw [stops] at idle
    exact idle.1
  | ended obtains | broken obtains =>
    rw [handed_looks]
    exact obtains.sink_eq
  | passed obtains _ ih =>
    rw [handed_looks, ← obtains.sink_eq]
    exact ih
  | @refused _ _ _ after last bytes _ obtains _ hands =>
    have sink := sink_deliver bytes after
    rw [hands] at sink
    rw [handed_looks, ← obtains.sink_eq]
    exact sink
  | taken obtains _ hands _ ih =>
    rw [handed_looks, ← obtains.sink_eq, ih, (deliver_eq_none hands).1]
    rfl

/-- The chunks that are handed over begin those that the source offers. -/
theorem Course.handed_prefix (course : Course asked? items p moves outcome last) :
    handed moves <+: offered items := by
  induction course with
  | stopped => exact List.nil_prefix
  | ended | broken =>
    rw [handed_looks]
    exact List.nil_prefix
  | passed obtains _ ih =>
    rw [handed_looks, obtains.offered_eq, offered, if_pos rfl]
    exact ih
  | @refused _ _ _ _ _ bytes _ obtains said =>
    rw [handed_looks, obtains.offered_eq, offered, if_neg said]
    exact (List.prefix_cons_inj bytes).mpr List.nil_prefix
  | @taken _ _ _ _ _ _ bytes _ _ obtains said _ _ ih =>
    rw [handed_looks, obtains.offered_eq, offered, if_neg said]
    exact (List.prefix_cons_inj bytes).mpr ih

/-- A copy that is not stopped, and whose sink refuses nothing, hands over all that its source
offers. -/
theorem Course.handed_eq_offered (course : Course asked? items p moves outcome last)
    (unset : .look true ∉ moves) (unrefused : ∀ chunk failure, .hand chunk (some failure) ∉ moves) :
    handed moves = offered items := by
  induction course with
  | stopped => exact absurd List.mem_cons_self unset
  | ended obtains | broken obtains =>
    rw [handed_looks, obtains.offered_eq]
    rfl
  | passed obtains _ ih =>
    simp only [List.mem_append, List.mem_cons, not_or] at unset unrefused
    rw [handed_looks, obtains.offered_eq, offered, if_pos rfl]
    exact ih unset.2.2 fun chunk failure => (unrefused chunk failure).2.2
  | @refused _ _ _ _ _ bytes failure => exact absurd (by simp) (unrefused bytes failure)
  | taken obtains said _ _ ih =>
    simp only [List.mem_append, List.mem_cons, not_or] at unset unrefused
    rw [handed_looks, obtains.offered_eq, offered, if_neg said]
    exact congrArg _ (ih unset.2.2.2 fun chunk failure => (unrefused chunk failure).2.2.2)

/-- A copy that succeeds has handed over all that its source gives, and counted the bytes. -/
theorem Course.received?_eq {count : Nat} (course : Course asked? items p moves (.ok count) last) :
    received? items = some (handed moves).flatten ∧
      count = p.written + (handed moves).flatten.length := by
  -- Only a source that is at its end lets a copy succeed; the turns before it add up.
  generalize succeeds : (Except.ok count : Except Failure Nat) = outcome at course
  induction course with
  | stopped | broken | refused => cases succeeds
  | ended obtains =>
    obtain rfl := Except.ok.inj succeeds
    rw [handed_looks, obtains.eq_of_skips received? (fun _ => rfl) rfl, obtains.written_eq]
    exact ⟨rfl, rfl⟩
  | @passed _ _ _ _ _ moves _ obtains _ ih =>
    obtain ⟨received, counted⟩ := ih succeeds
    have same : handed (.read (.chunk []) :: moves) = handed moves := rfl
    rw [obtains.written_eq] at counted
    rw [handed_looks, obtains.eq_of_skips received? (fun _ => rfl) rfl, received?, same, received]
    exact ⟨rfl, counted⟩
  | @taken _ _ _ _ _ _ bytes moves _ obtains _ hands _ ih =>
    obtain ⟨received, counted⟩ := ih succeeds
    have more : (handed (.read (.chunk bytes) :: .hand bytes none :: moves)).flatten =
        bytes ++ (handed moves).flatten := rfl
    rw [(deliver_eq_none hands).2.1, obtains.written_eq] at counted
    rw [handed_looks, obtains.eq_of_skips received? (fun _ => rfl) rfl, received?, more, received,
      List.length_append, counted]
    exact ⟨rfl, by omega⟩

/-- A copy hands chunks to its sink that begin what arrives. If it succeeds, they are all of it, and
their bytes are counted. -/
theorem copy_after [Platform] (source : Source) (sink : Sink) (signal : Option CancelSignal) :
    ∃ chunks, (copy source sink signal).2.sink = sink.after chunks ∧
      chunks.flatten <+: arriving source.items ∧
        ∀ count, (copy source sink signal).1 = .ok count →
          received? source.items = some chunks.flatten ∧ count = chunks.flatten.length := by
  obtain ⟨moves, course⟩ := exists_course source.asked? source.items (.start sink signal)
  rw [← copy_eq_copyFrom] at course
  refine ⟨handed moves, course.sink_eq, ?_, fun count succeeds => ?_⟩
  · obtain ⟨later, whole⟩ := course.handed_prefix
    rw [← flatten_offered, ← whole, List.flatten_append]
    exact List.prefix_append _ _
  · rw [succeeds] at course
    obtain ⟨received, counted⟩ := course.received?_eq
    exact ⟨received, counted.trans (Nat.zero_add _)⟩

/-! ## Copies that nobody cancels -/

/-- A copy that nobody cancels never finds its signal set. -/
theorem Course.isQuiet (course : Course asked? items p moves outcome last)
    (quiet : IsQuiet p.signal) (calm : p.sink.IsCalm) (unsignalled : .signal ∉ items) :
    IsQuiet last.signal ∧ .look true ∉ moves := by
  -- Each turn leaves the signal quiet, the sink calm and no signal among the items.
  induction course with
  | stopped stops =>
    obtain ⟨next, asks, -⟩ := request_of_quiet asked? quiet
    rw [stops] at asks
    cases asks
  | ended obtains | broken obtains =>
    exact ⟨(obtains.isQuiet quiet unsignalled).1, by simp [obtains.looks_eq]⟩
  | passed obtains _ ih =>
    obtain ⟨quiet, unsignalled⟩ := obtains.isQuiet quiet unsignalled
    obtain ⟨stays, unset⟩ := ih quiet (obtains.sink_eq ▸ calm) unsignalled
    exact ⟨stays, by simpa [obtains.looks_eq] using unset⟩
  | @refused _ _ _ _ _ bytes _ obtains _ hands =>
    obtain ⟨quiet, -⟩ := obtains.isQuiet quiet unsignalled
    have stays := deliver_of_calm quiet (obtains.sink_eq ▸ calm) bytes
    rw [hands] at stays
    exact ⟨stays, by simp [obtains.looks_eq]⟩
  | @taken _ _ _ _ _ _ bytes _ _ obtains _ hands _ ih =>
    obtain ⟨quiet, unsignalled⟩ := obtains.isQuiet quiet unsignalled
    have calm := obtains.sink_eq ▸ calm
    have quiet := deliver_of_calm quiet calm bytes
    have calm := calm.after [bytes]
    rw [hands] at quiet
    obtain ⟨stays, unset⟩ := ih quiet ((deliver_eq_none hands).1 ▸ calm) unsignalled
    exact ⟨stays, by simpa [obtains.looks_eq] using unset⟩

/-- A copy ends with a failure because its sink refuses a chunk or its source breaks off. -/
def Breaks (items : List Item) (sink : Sink) (outcome : Except Failure Nat) : Prop :=
  ∃ failure, outcome = .error failure ∧
    ((∃ chunks chunk, ((sink.after chunks).write chunk).failure = some failure) ∨
      received? items = none ∧ .fault failure ∈ items)

/-- A copy that breaks later breaks for the same reason. -/
theorem Breaks.chunk {sink : Sink} (chunks : List (List UInt8)) (bytes : List UInt8)
    (breaks : Breaks rest (sink.after chunks) outcome) :
    Breaks (.chunk bytes :: rest) sink outcome := by
  obtain ⟨failure, isFailure, ⟨later, chunk, refused⟩ | ⟨unreceived, isFault⟩⟩ := breaks
  · rw [Sink.after_append] at refused
    exact ⟨failure, isFailure, .inl ⟨chunks ++ later, chunk, refused⟩⟩
  · refine ⟨failure, isFailure, .inr ⟨?_, List.mem_cons_of_mem _ isFault⟩⟩
    rw [received?, unreceived, Option.map_none]

/-- A signal in front gives a copy no reason to break. -/
theorem Obtains.breaks_eq (obtains : Obtains asked? items p item rest after) (sink : Sink)
    (outcome : Except Failure Nat) :
    Breaks items sink outcome = Breaks (item :: rest) sink outcome :=
  obtains.eq_of_skips (Breaks · sink outcome) (by simp [Breaks, received?])
    (by simp [Breaks, received?])

/-- A copy that never finds its signal set comes to its end, unless its sink or its source fails. -/
theorem Course.breaks (course : Course asked? items p moves outcome last)
    (unset : .look true ∉ moves) : (∃ count, outcome = .ok count) ∨ Breaks items p.sink outcome := by
  induction course with
  | stopped => exact absurd List.mem_cons_self unset
  | ended => exact .inl ⟨_, rfl⟩
  | broken obtains =>
    rw [obtains.breaks_eq]
    exact .inr ⟨_, rfl, .inr ⟨rfl, List.mem_cons_self⟩⟩
  | passed obtains _ ih =>
    simp only [List.mem_append, List.mem_cons, not_or] at unset
    rw [obtains.breaks_eq]
    rw [obtains.sink_eq] at ih
    exact (ih unset.2.2).imp id (Breaks.chunk [] [])
  | @refused _ _ _ after _ bytes failure obtains _ hands =>
    have fails := fst_deliver bytes after
    rw [hands, obtains.sink_eq] at fails
    exact .inr ⟨failure, rfl, .inl ⟨[], bytes, fails.symm⟩⟩
  | @taken _ _ _ _ _ _ bytes _ _ obtains _ hands _ ih =>
    simp only [List.mem_append, List.mem_cons, not_or] at unset
    rw [obtains.breaks_eq]
    rw [(deliver_eq_none hands).1, obtains.sink_eq] at ih
    exact (ih unset.2.2.2).imp id (Breaks.chunk [bytes] bytes)

/-- A copy that nobody cancels comes to its end, unless its sink or its source fails. -/
theorem copy_of_quiet [Platform] {source : Source} {sink : Sink} {signal : Option CancelSignal}
    (quiet : IsQuiet signal) (calm : sink.IsCalm) (unsignalled : .signal ∉ source.items) :
    IsQuiet (copy source sink signal).2.signal ∧
      ((∃ count, (copy source sink signal).1 = .ok count) ∨
        Breaks source.items sink (copy source sink signal).1) := by
  obtain ⟨moves, course⟩ := exists_course source.asked? source.items (.start sink signal)
  rw [← copy_eq_copyFrom] at course
  obtain ⟨stays, unset⟩ := course.isQuiet quiet calm unsignalled
  exact ⟨stays, course.breaks unset⟩

/-! ## Copies that somebody cancels -/

/-- A copy whose signal is set hands nothing over. -/
theorem copy_of_raised [Platform] {signal : Option CancelSignal} (raised : IsRaised signal)
    (source : Source) (sink : Sink) : (copy source sink signal).1 = .error (.cancelled 0) := by
  obtain ⟨set, rfl, isSet⟩ := raised
  have polled : ((Progress.start sink (some set)).poll).1 = true := by
    simp [Progress.start, Progress.poll, CancelSignal.poll, isSet]
  obtain ⟨-, written⟩ := poll_idle (.start sink (some set))
  rcases polls : (Progress.start sink (some set)).poll with ⟨stops, next⟩
  rw [polls] at polled written
  obtain rfl : stops = true := polled
  obtain written : next.written = 0 := written
  simp only [copy, request, polls, written]

/-- A copy leaves a signal there, and brings none. -/
theorem Course.isSome_signal (course : Course asked? items p moves outcome last) :
    last.signal.isSome = p.signal.isSome := by
  induction course with
  | @stopped _ p _ stops =>
    have stays := isSome_signal_request asked? p
    rwa [stops] at stays
  | ended obtains | broken obtains => exact obtains.isSome_signal
  | passed obtains _ ih => exact ih.trans obtains.isSome_signal
  | @refused _ _ _ after _ bytes _ obtains _ hands =>
    have stays := isSome_signal_deliver bytes after
    rw [hands] at stays
    exact stays.trans obtains.isSome_signal
  | taken obtains _ hands _ ih =>
    exact ih.trans ((deliver_eq_none hands).2.2.trans obtains.isSome_signal)

/-- A copy that can be cancelled leaves the signal there. -/
theorem isSome_signal_copy [Platform] (source : Source) (sink : Sink)
    (signal : Option CancelSignal) :
    (copy source sink signal).2.signal.isSome = signal.isSome := by
  obtain ⟨moves, course⟩ := exists_course source.asked? source.items (.start sink signal)
  exact course.isSome_signal

end SafeFetch.Transfer
