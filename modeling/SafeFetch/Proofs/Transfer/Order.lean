import SafeFetch.Proofs.Transfer

/-!
# The order of a copy

A copy looks at its signal once before every read, hands over what it reads, and ends with the first
move that gives it a reason to. A signal that is never found set might as well not be there.

## Main definitions

* `IsPolled`: there is one look before every read, and no read after a look that found the signal
  set;
* `Ends`: the last move ends a copy, and none before it does;
* `Progress.asked` and `Move.events`: the looks and reads among the events of a copy;
* `Progress.Mutes`: a copy is as far as another one, and has no signal;
* `IsOrderly`: what holds of the moves of a copy.

## Main results

* `copy_isOrderly`: the moves of every copy are in order.
-/

namespace SafeFetch.Transfer

variable {asked? : Option (Option Int)} {items rest : List Item} {item : Item}
  {p next after last : Progress} {moves : List Move} {outcome : Except Failure Nat}

/-! ## Looks and reads -/

/-- Every read comes right after a look that found the signal unset, and nothing comes after a look
that found it set. -/
def IsPolled : List Move → Prop
  | [] => True
  | .hand _ _ :: rest => IsPolled rest
  | .look false :: .read _ :: rest => IsPolled rest
  | .look true :: rest => rest = []
  | _ => False

/-- A copy that can be cancelled looks at the signal once before every read. -/
theorem Course.isPolled (course : Course asked? items p moves outcome last)
    (present : p.signal.isSome = true) : IsPolled moves := by
  induction course with
  | stopped => exact rfl
  | ended obtains | broken obtains =>
    rw [obtains.looks_eq, if_pos present]
    exact trivial
  | passed obtains _ ih =>
    rw [obtains.looks_eq, if_pos present]
    exact ih (obtains.isSome_signal.trans present)
  | refused obtains =>
    rw [obtains.looks_eq, if_pos present]
    exact trivial
  | taken obtains _ hands _ ih =>
    rw [obtains.looks_eq, if_pos present]
    exact ih ((deliver_eq_none hands).2.2.trans (obtains.isSome_signal.trans present))

/-- A copy that cannot be cancelled looks at no signal. -/
theorem Course.look_notMem (course : Course asked? items p moves outcome last)
    (absent : p.signal.isSome = false) (isSet : Bool) : .look isSet ∉ moves := by
  induction course with
  | stopped stops =>
    have polled := (request_eq_error stops).2
    rw [Progress.looks, absent] at polled
    cases polled
  | ended obtains | broken obtains | refused obtains => simp [obtains.looks_eq, absent]
  | passed obtains _ ih =>
    simpa [obtains.looks_eq, absent] using ih (obtains.isSome_signal.trans absent)
  | taken obtains _ hands _ ih =>
    have absent' := (deliver_eq_none hands).2.2.trans (obtains.isSome_signal.trans absent)
    simpa [obtains.looks_eq, absent] using ih absent'

/-! ## The end -/

/-- How a copy ends with a move, once its sink has taken a number of bytes. Most moves end none. -/
def Move.ending? (delivered : Nat) : Move → Option (Except Failure Nat)
  | .look true => some (.error (.cancelled delivered))
  | .read .missing => some (.ok delivered)
  | .read (.fault failure) => some (.error failure)
  | .hand _ (some failure) => some (.error failure)
  | _ => none

/-- A move that ends no copy. -/
def Move.GoesOn (move : Move) : Prop := ∀ delivered, move.ending? delivered = none

/-- A copy that has delivered a number of bytes before goes on up to its last move, and that ends
it. -/
def Ends (moves : List Move) (written : Nat) (outcome : Except Failure Nat) : Prop :=
  ∃ earlier final, moves = earlier ++ [final] ∧ (∀ move ∈ earlier, move.GoesOn) ∧
    final.ending? (written + (kept moves).flatten.length) = some outcome

theorem ends_singleton {written : Nat} {move : Move}
    (isEnd : move.ending? (written + (kept [move]).flatten.length) = some outcome) :
    Ends [move] written outcome :=
  ⟨[], move, rfl, nofun, isEnd⟩

/-- A copy that ends after a move ends with that move in front as well. -/
theorem Ends.cons {written : Nat} {move : Move}
    (ends : Ends moves (written + (kept [move]).flatten.length) outcome) (goesOn : move.GoesOn) :
    Ends (move :: moves) written outcome := by
  obtain ⟨earlier, final, rfl, goesOn', isEnd⟩ := ends
  refine ⟨move :: earlier, final, rfl, ?_, ?_⟩
  · intro other isIn
    rcases List.mem_cons.mp isIn with rfl | isIn
    · exact goesOn
    · exact goesOn' other isIn
  · have counted : (kept (move :: (earlier ++ [final]))).flatten.length =
        (kept [move]).flatten.length + (kept (earlier ++ [final])).flatten.length := by
      rcases move with _ | _ | ⟨chunk, _ | _⟩ <;> simp [kept]
    rw [counted, ← Nat.add_assoc]
    exact isEnd

/-- The looks of a copy that obtains an item end nothing. -/
theorem Obtains.ends {written : Nat} (obtains : Obtains asked? items p item rest after)
    (ends : Ends moves written outcome) : Ends (p.looks ++ moves) written outcome := by
  rw [obtains.looks_eq]
  split
  · exact ends.cons fun _ => rfl
  · exact ends

/-- A copy ends with its last move. -/
theorem Course.ends (course : Course asked? items p moves outcome last) :
    Ends moves p.written outcome := by
  induction course with
  | stopped => exact ends_singleton rfl
  | ended obtains =>
    rw [obtains.written_eq]
    exact obtains.ends (ends_singleton rfl)
  | broken obtains => exact obtains.ends (ends_singleton rfl)
  | passed obtains _ ih =>
    rw [obtains.written_eq] at ih
    exact obtains.ends (ih.cons fun _ => rfl)
  | refused obtains => exact obtains.ends (Ends.cons (ends_singleton rfl) fun _ => rfl)
  | @taken _ _ _ _ _ _ bytes _ _ obtains _ hands _ ih =>
    have counted : (kept [.hand bytes none]).flatten.length = bytes.length := by simp [kept]
    rw [(deliver_eq_none hands).2.1, obtains.written_eq, ← counted] at ih
    exact obtains.ends (Ends.cons (ih.cons fun _ => rfl) fun _ => rfl)

/-! ## Events -/

/-- Whether an event is a write. -/
def Event.isWrite : Event → Bool
  | .write _ _ => true
  | .poll | .read _ => false

/-- The looks and reads of a copy among its events, in order. -/
def Progress.asked (p : Progress) : List Event := (p.trace.filter (!·.isWrite)).reverse

/-- The events that a move means, but for writes. -/
def Move.events (asked? : Option (Option Int)) : Move → List Event
  | .look _ => [.poll]
  | .read _ => asked?.toList.map .read
  | .hand _ _ => []

mutual

/-- The events of a write are writes. -/
theorem Sink.isWrite_of_write (chunk : List UInt8) :
    ∀ (sink : Sink), ∀ event ∈ (sink.write chunk).events, event.isWrite = true
  | .buffer b => by
    intro event isIn
    rw [Sink.write, Written.map, Buffer.write] at isIn
    split at isIn
    all_goals
      rw [List.mem_singleton.mp isIn]
      rfl
  | .hash h => by
    intro event isIn
    rw [Sink.write, Written.map] at isIn
    cases h <;> cases isIn
  | .fan sinks => by
    rw [Sink.write]
    exact isWrite_of_writeAll chunk sinks

/-- The events of writes to several sinks are writes. -/
theorem Sink.isWrite_of_writeAll (chunk : List UInt8) :
    ∀ (sinks : List Sink), ∀ event ∈ (Sink.writeAll chunk sinks).events, event.isWrite = true
  | [] => nofun
  | sink :: rest => by
    intro event isIn
    have first := isWrite_of_write chunk sink event
    have later := isWrite_of_writeAll chunk rest event
    rw [Sink.writeAll] at isIn
    split at isIn
    · exact first isIn
    · exact (List.mem_append.mp isIn).elim first later

end

/-- Handing a chunk over is neither a look nor a read. -/
theorem asked_deliver (chunk : List UInt8) (p : Progress) :
    (p.deliver chunk).2.asked = p.asked := by
  have silent : ((p.sink.write chunk).events.reverse.filter (!·.isWrite)) = [] := by
    rw [List.filter_eq_nil_iff]
    intro event isIn
    simp [Sink.isWrite_of_write chunk p.sink event (List.mem_reverse.mp isIn)]
  have trace : (p.deliver chunk).2.trace = (p.sink.write chunk).events.reverse ++ p.trace := by
    simp only [Progress.deliver]
    cases (p.sink.write chunk).failure <;> cases (p.sink.write chunk).isCancelling <;> rfl
  rw [Progress.asked, trace, List.filter_append, silent, List.nil_append, Progress.asked]

/-- A look is an event, if there is a signal to look at. -/
theorem asked_poll (p : Progress) :
    p.poll.2.asked = p.asked ++ p.looks.flatMap (Move.events asked?) := by
  rw [Progress.looks, Progress.poll]
  cases signal : p.signal with
  | none => simp
  | some set => simp [Progress.asked, Event.isWrite, Move.events]

/-- A copy that obtains an item has looked at the signal and read once. -/
theorem Obtains.asked_eq (obtains : Obtains asked? items p item rest after) :
    after.asked = p.asked ++ (p.looks ++ [Move.read item]).flatMap (Move.events asked?) := by
  obtain ⟨next, asks, gives⟩ := obtains
  have gave := (give_idle items next).2.2.1
  have polls := @asked_poll asked? p
  rw [gives] at gave
  rw [request] at asks
  rcases polled : p.poll with ⟨_ | _, polledTo⟩ <;> rw [polled] at asks polls
  · obtain ⟨-, rfl⟩ := Prod.mk.inj asks
    rw [List.flatMap_append, ← List.append_assoc, ← polls, Progress.asked, gave]
    cases asked? with
    | none => simp [Progress.asked, Progress.ask, Move.events]
    | some size => simp [Progress.asked, Progress.ask, Move.events, Event.isWrite]
  · cases asks

/-- The events of a copy are those of its moves. -/
theorem Course.asked_eq (course : Course asked? items p moves outcome last) :
    last.asked = p.asked ++ moves.flatMap (Move.events asked?) := by
  induction course with
  | @stopped _ p _ stops =>
    have polls := @asked_poll asked? p
    rw [(request_eq_error stops).2] at polls
    rw [request] at stops
    rcases polled : p.poll with ⟨_ | _, polledTo⟩ <;> rw [polled] at stops polls
    · cases stops
    · obtain ⟨-, rfl⟩ := Prod.mk.inj stops
      exact polls
  | ended obtains | broken obtains => exact obtains.asked_eq
  | passed obtains _ ih =>
    rw [ih, obtains.asked_eq]
    simp
  | @refused _ _ _ after _ bytes _ obtains _ hands =>
    have handing := asked_deliver bytes after
    rw [hands] at handing
    rw [handing, obtains.asked_eq]
    simp [Move.events]
  | @taken _ _ _ after _ _ bytes _ _ obtains _ hands _ ih =>
    have handing := asked_deliver bytes after
    rw [hands] at handing
    rw [ih, handing, obtains.asked_eq]
    simp [Move.events]

/-! ## Buffers -/

/-- A buffer keeps a chunk unless it refuses it. -/
theorem Buffer.contents_write (b : Buffer) (chunk : List UInt8) :
    (b.write chunk).sink.contents =
      b.contents ++ if (b.write chunk).failure = none then chunk else [] := by
  rw [Buffer.write]
  split <;> simp [Buffer.contents]

/-- A buffer that is the sink of a copy keeps the chunks that it takes. -/
theorem Course.contents_eq (course : Course asked? items p moves outcome last) {buffer : Buffer}
    (isSink : p.sink = .buffer buffer) :
    ∃ full, last.sink = .buffer full ∧
      full.contents = buffer.contents ++ (kept moves).flatten := by
  induction course generalizing buffer with
  | @stopped _ p _ stops =>
    have idle := request_idle asked? p
    rw [stops] at idle
    exact ⟨buffer, idle.1.trans isSink, (List.append_nil _).symm⟩
  | ended obtains | broken obtains =>
    rw [kept_looks]
    exact ⟨buffer, obtains.sink_eq.trans isSink, (List.append_nil _).symm⟩
  | passed obtains _ ih =>
    rw [kept_looks]
    exact ih (obtains.sink_eq.trans isSink)
  | @refused _ _ _ after last bytes failure obtains _ hands =>
    have sink := sink_deliver bytes after
    have fails := fst_deliver bytes after
    rw [hands, obtains.sink_eq, isSink] at sink fails
    have contents := Buffer.contents_write buffer bytes
    have fails : (buffer.write bytes).failure = some failure := fails.symm
    rw [fails] at contents
    rw [kept_looks]
    exact ⟨_, sink, contents⟩
  | @taken _ _ _ after next last bytes moves _ obtains _ hands _ ih =>
    have sink := sink_deliver bytes after
    have takes := fst_deliver bytes after
    rw [hands, obtains.sink_eq, isSink] at sink takes
    have contents := Buffer.contents_write buffer bytes
    have takes : (buffer.write bytes).failure = none := takes.symm
    rw [takes, if_pos rfl] at contents
    obtain ⟨full, isFull, filled⟩ := ih sink
    refine ⟨full, isFull, ?_⟩
    rw [kept_looks, filled, contents, List.append_assoc]
    rfl

/-! ## Signals that are never set -/

/-- What a source gives does not depend on the copy. -/
theorem give_eq (items : List Item) (p q : Progress) :
    (give items p).1 = (give items q).1 ∧ (give items p).2.1 = (give items q).2.1 := by
  induction items generalizing p q with
  | nil => exact ⟨rfl, rfl⟩
  | cons item rest ih =>
    cases item with
    | signal => exact ih p.cancel q.cancel
    | chunk bytes => exact ⟨rfl, rfl⟩
    | missing => exact ⟨rfl, rfl⟩
    | fault failure => exact ⟨rfl, rfl⟩

/-- A copy is as far as another one, and cannot be cancelled. -/
structure Progress.Mutes (q p : Progress) : Prop where
  sink : q.sink = p.sink
  written : q.written = p.written
  absent : q.signal.isSome = false

/-- A copy without a signal obtains the same as one that is not stopped. -/
theorem Obtains.mute {q : Progress} (obtains : Obtains asked? items p item rest after)
    (mutes : q.Mutes p) : ∃ after', Obtains asked? items q item rest after' ∧ after'.Mutes after := by
  obtain ⟨next, asks, gives⟩ := obtains
  obtain ⟨same, same'⟩ := give_eq items (q.ask asked?) next
  rw [gives] at same same'
  have unset : q.poll = (false, q) := by
    have absent := mutes.absent
    rw [Progress.poll]
    cases signal : q.signal with
    | none => rfl
    | some set => simp [signal] at absent
  have obtains' : Obtains asked? items q item rest (give items (q.ask asked?)).2.2 := by
    refine ⟨q.ask asked?, ?_, Prod.ext same (Prod.ext same' rfl)⟩
    rw [request, unset]
  have obtains : Obtains asked? items p item rest after := ⟨next, asks, gives⟩
  exact ⟨_, obtains', obtains'.sink_eq.trans (mutes.sink.trans obtains.sink_eq.symm),
    obtains'.written_eq.trans (mutes.written.trans obtains.written_eq.symm),
    obtains'.isSome_signal.trans mutes.absent⟩

/-- The sink of a copy without a signal does the same with a chunk. -/
theorem deliver_mute {q : Progress} {bytes : List UInt8} {refusal : Option Failure}
    (hands : p.deliver bytes = (refusal, next)) (mutes : q.Mutes p) :
    ∃ next', q.deliver bytes = (refusal, next') ∧ next'.sink = next.sink ∧
      (refusal = none → next'.Mutes next) := by
  have refusals := (fst_deliver bytes q).trans (mutes.sink ▸ (fst_deliver bytes p).symm)
  have sinks := (sink_deliver bytes q).trans (mutes.sink ▸ (sink_deliver bytes p).symm)
  have absent := (isSome_signal_deliver bytes q).trans mutes.absent
  rw [hands] at refusals sinks
  refine ⟨(q.deliver bytes).2, Prod.ext refusals rfl, sinks, ?_⟩
  rintro rfl
  have written := written_deliver refusals
  rw [mutes.written, ← (deliver_eq_none hands).2.1] at written
  exact ⟨sinks, written, absent⟩

/-- A copy that never finds its signal set ends like one without a signal. -/
theorem Course.mute {q : Progress} (course : Course asked? items p moves outcome last)
    (unset : .look true ∉ moves) (mutes : q.Mutes p) :
    ∃ moves' last', Course asked? items q moves' outcome last' ∧ last'.sink = last.sink := by
  -- Turn by turn, the copy without a signal makes the same moves but for the looks.
  induction course generalizing q with
  | stopped => exact absurd List.mem_cons_self unset
  | ended obtains =>
    obtain ⟨last', obtains', mutes'⟩ := obtains.mute mutes
    rw [← mutes'.written]
    exact ⟨_, last', .ended obtains', mutes'.sink⟩
  | broken obtains =>
    obtain ⟨last', obtains', mutes'⟩ := obtains.mute mutes
    exact ⟨_, last', .broken obtains', mutes'.sink⟩
  | passed obtains _ ih =>
    simp only [List.mem_append, List.mem_cons, not_or] at unset
    obtain ⟨after', obtains', mutes'⟩ := obtains.mute mutes
    obtain ⟨moves', last', onward, same⟩ := ih unset.2.2 mutes'
    exact ⟨_, last', .passed obtains' onward, same⟩
  | refused obtains said hands =>
    obtain ⟨after', obtains', mutes'⟩ := obtains.mute mutes
    obtain ⟨last', hands', same, -⟩ := deliver_mute hands mutes'
    exact ⟨_, last', .refused obtains' said hands', same⟩
  | taken obtains said hands _ ih =>
    simp only [List.mem_append, List.mem_cons, not_or] at unset
    obtain ⟨after', obtains', mutes'⟩ := obtains.mute mutes
    obtain ⟨next', hands', -, mutesNext⟩ := deliver_mute hands mutes'
    obtain ⟨moves', last', onward, same⟩ := ih unset.2.2.2 (mutesNext rfl)
    exact ⟨_, last', .taken obtains' said hands' onward, same⟩

/-! ## Sinks that refuse nothing -/

/-- A sink that takes whatever it is handed refuses no chunk of a copy. -/
theorem Course.unrefused (course : Course asked? items p moves outcome last)
    (takesAll : p.sink.TakesAll) (chunk : List UInt8) (failure : Failure) :
    .hand chunk (some failure) ∉ moves := by
  have unlooked (p : Progress) : Move.hand chunk (some failure) ∉ p.looks := by
    rw [Progress.looks]
    split <;> simp
  induction course with
  | stopped => simp
  | ended | broken => simp [unlooked]
  | passed obtains _ ih => simpa [unlooked] using ih (obtains.sink_eq ▸ takesAll)
  | @refused _ _ _ after _ bytes _ obtains _ hands =>
    have fails := fst_deliver bytes after
    rw [hands, obtains.sink_eq] at fails
    cases fails.trans (takesAll [] bytes)
  | @taken _ _ _ _ _ _ bytes _ _ obtains _ hands _ ih =>
    rw [(deliver_eq_none hands).1, obtains.sink_eq] at ih
    simpa [unlooked] using ih (takesAll.after [bytes])

/-- Without a signal, a sink that refuses nothing is handed all that a source offers. -/
theorem sink_copy_of_takesAll [Platform] {sink : Sink} (takesAll : sink.TakesAll)
    (source : Source) :
    (copy source sink none).2.sink = sink.after (offered source.items) := by
  obtain ⟨moves, course⟩ := exists_course source.asked? source.items (.start sink none)
  rw [copy_eq_copyFrom, course.sink_eq, course.handed_eq_offered (course.look_notMem rfl true)
    (course.unrefused takesAll)]
  rfl

/-! ## Every copy -/

/-- What holds of the moves of a copy. -/
structure IsOrderly [Platform] (source : Source) (sink : Sink) (signal : Option CancelSignal)
    (moves : List Move) : Prop where
  /-- There is one look before every read, and no read after a look that found the signal set. -/
  polled : signal.isSome = true → IsPolled moves
  unpolled : signal = none → ∀ isSet, .look isSet ∉ moves
  /-- The looks and reads are those among the events of the copy. -/
  asked : (copy source sink signal).2.asked = moves.flatMap (Move.events source.asked?)
  /-- The sink is handed the chunks that were read, once each and in order, but for empty ones. -/
  handed_eq : handed moves = (gotten moves).filter (· ≠ [])
  sink_eq : (copy source sink signal).2.sink = sink.after (handed moves)
  /-- What is handed over begins what a copy hands over that nobody interrupts. -/
  begins : handed moves <+: offered source.items
  contents : ∀ buffer, sink = .buffer buffer → ∃ full,
    (copy source sink signal).2.sink = .buffer full ∧
      full.contents = buffer.contents ++ (kept moves).flatten ∧ kept moves <+: handed moves
  /-- The last move ends the copy: the signal is set, and the bytes that the sink took are reported;
  or the source or the sink fails, and the failure is passed on; or the source is at its end. -/
  ends : Ends moves 0 (copy source sink signal).1
  /-- A signal that nobody sets is never found set. -/
  quiet : IsQuiet signal → sink.IsCalm → .signal ∉ source.items → .look true ∉ moves
  /-- A signal that is never found set makes no difference. -/
  unset : .look true ∉ moves → (copy source sink none).1 = (copy source sink signal).1 ∧
    (copy source sink none).2.sink = (copy source sink signal).2.sink

/-- The moves of every copy are in order, and without a signal and with a sink that refuses nothing,
all that the source offers is handed over. The first look that finds the signal set ends a copy, and
so does the first refusal, so a number for each stands for any plan that they may follow. -/
theorem copy_isOrderly [Platform] (source : Source) (sink : Sink) (signal : Option CancelSignal) :
    (∃ moves, Course source.asked? source.items (.start sink signal) moves
        (copy source sink signal).1 (copy source sink signal).2 ∧
          IsOrderly source sink signal moves) ∧
      ∀ other : Sink, other.TakesAll →
        (copy source other none).2.sink = other.after (offered source.items) := by
  -- All of it is read off the one course that the copy takes.
  refine ⟨?_, fun other takesAll => sink_copy_of_takesAll takesAll source⟩
  obtain ⟨moves, course⟩ := exists_course source.asked? source.items (.start sink signal)
  rw [← copy_eq_copyFrom] at course
  refine ⟨moves, course, ?_⟩
  have mutes : (Progress.start sink none).Mutes (.start sink signal) := ⟨rfl, rfl, rfl⟩
  exact {
    polled := course.isPolled
    unpolled := fun absent => course.look_notMem (by rw [Progress.start, absent, Option.isSome_none])
    asked := course.asked_eq
    handed_eq := course.handed_eq
    sink_eq := course.sink_eq
    begins := course.handed_prefix
    contents := by
      rintro buffer rfl
      obtain ⟨full, isFull, filled⟩ := course.contents_eq rfl
      exact ⟨full, isFull, filled, course.kept_prefix⟩
    ends := course.ends
    quiet := fun quiet calm unsignalled => (course.isQuiet quiet calm unsignalled).2
    unset := by
      intro unset
      obtain ⟨moves', last', muted, same⟩ := course.mute unset mutes
      have ends := muted.copyFrom_eq
      rw [← copy_eq_copyFrom] at ends
      rw [ends]
      exact ⟨rfl, same⟩ }

/-- A copy whose source has the signal set delivers the chunk that it has asked for, and stops. -/
theorem isOrderly_of_cancelled :
    (∃ moves, IsOrderly (.reader [.chunk [1], .signal, .chunk [2], .chunk [3]] none)
        (.buffer (.empty "b" none none)) (some (.fresh none)) moves) ∧
      (copy (.reader [.chunk [1], .signal, .chunk [2], .chunk [3]] none)
        (.buffer (.empty "b" none none)) (some (.fresh none))).1 = .error (.cancelled 2) := by
  obtain ⟨⟨moves, -, orderly⟩, -⟩ := copy_isOrderly
    (.reader [.chunk [1], .signal, .chunk [2], .chunk [3]] none)
    (.buffer (.empty "b" none none)) (some (.fresh none))
  exact ⟨⟨moves, orderly⟩, rfl⟩

end SafeFetch.Transfer
