import SafeFetch.Proofs.Transfer.Step

/-!
# The course of a copy

A copy goes round in turns: it looks at the signal, asks its source for a chunk, and hands the chunk
to its sink unless it is empty. Written down move by move, a copy is nothing but such turns, up to
the first move that ends it. What a copy promises about looks, reads and chunks follows by induction
on the turns.

## Main definitions

* `Move`: what a copy does;
* `Obtains`: a copy asks for a chunk and gets an item;
* `Course`: the moves of a copy, turn by turn, and how it ends.

## Main results

* `exists_course` and `course_iff`: what a copy comes to is the end of its course.
-/

namespace SafeFetch.Transfer

/-- What a copy does. -/
inductive Move where
  /-- It looks at the signal, which is set or not. -/
  | look (isSet : Bool)
  /-- It asks its source for a chunk and gets what the item says. -/
  | read (item : Item)
  /-- It hands a chunk to its sink, which may refuse it. -/
  | hand (chunk : List UInt8) (refusal : Option Failure)
  deriving DecidableEq, Repr

variable {asked? : Option (Option Int)} {items rest : List Item} {item : Item}
  {p next after last : Progress} {moves : List Move} {outcome : Except Failure Nat}

/-! ## Turns -/

/-- The look that a copy takes before it asks for a chunk, if it can be cancelled. -/
def Progress.looks (p : Progress) : List Move :=
  if p.signal.isSome then [.look p.poll.1] else []

/-- What a source gives when it is asked, and the items that are left then. Somebody may set the
signal before. -/
def give : List Item → Progress → Item × List Item × Progress
  | [], p => (.missing, [], p)
  | .signal :: rest, p => give rest p.cancel
  | item :: rest, p => (item, rest, p)

/-- Go on with a copy that has a number of items to come. -/
def copyFrom (asked? : Option (Option Int)) (items : List Item) (p : Progress) :
    Except Failure Nat × Progress :=
  match request asked? p with
  | (.error failure, p) => (.error failure, p)
  | (.ok (), p) => copyItems asked? items p

/-- Take up an item: hand a chunk over, unless it is empty, and go on, or end. -/
def takeUp (asked? : Option (Option Int)) (item : Item) (rest : List Item) (p : Progress) :
    Except Failure Nat × Progress :=
  match item with
  | .chunk bytes =>
    match if bytes.isEmpty then (none, p) else p.deliver bytes with
    | (some failure, p) => (.error failure, p)
    | (none, p) => copyFrom asked? rest p
  | .fault failure => (.error failure, p)
  | .missing | .signal => (.ok p.written, p)

/-- A copy that is not stopped asks for a chunk and gets an item. -/
def Obtains (asked? : Option (Option Int)) (items : List Item) (p : Progress) (item : Item)
    (rest : List Item) (after : Progress) : Prop :=
  ∃ next, request asked? p = (.ok (), next) ∧ give items next = (item, rest, after)

/-- The moves of a copy that has a number of items to come, what it comes to and how far it gets. -/
inductive Course (asked? : Option (Option Int)) :
    List Item → Progress → List Move → Except Failure Nat → Progress → Prop
  /-- The signal is set. -/
  | stopped {items : List Item} {p last : Progress}
      (stops : request asked? p = (.error (.cancelled p.written), last)) :
      Course asked? items p [.look true] (.error (.cancelled p.written)) last
  /-- The source is at its end. -/
  | ended {items rest : List Item} {p last : Progress}
      (obtains : Obtains asked? items p .missing rest last) :
      Course asked? items p (p.looks ++ [.read .missing]) (.ok last.written) last
  /-- The source breaks off. -/
  | broken {items rest : List Item} {p last : Progress} {failure : Failure}
      (obtains : Obtains asked? items p (.fault failure) rest last) :
      Course asked? items p (p.looks ++ [.read (.fault failure)]) (.error failure) last
  /-- The source gives an empty chunk, which is passed over. -/
  | passed {items rest : List Item} {p after last : Progress} {moves : List Move}
      {outcome : Except Failure Nat} (obtains : Obtains asked? items p (.chunk []) rest after)
      (onward : Course asked? rest after moves outcome last) :
      Course asked? items p (p.looks ++ .read (.chunk []) :: moves) outcome last
  /-- The sink refuses a chunk. -/
  | refused {items rest : List Item} {p after last : Progress} {bytes : List UInt8}
      {failure : Failure} (obtains : Obtains asked? items p (.chunk bytes) rest after)
      (said : bytes ≠ []) (hands : after.deliver bytes = (some failure, last)) :
      Course asked? items p (p.looks ++ [.read (.chunk bytes), .hand bytes (some failure)])
        (.error failure) last
  /-- The sink takes a chunk. -/
  | taken {items rest : List Item} {p after next last : Progress} {bytes : List UInt8}
      {moves : List Move} {outcome : Except Failure Nat}
      (obtains : Obtains asked? items p (.chunk bytes) rest after) (said : bytes ≠ [])
      (hands : after.deliver bytes = (none, next))
      (onward : Course asked? rest next moves outcome last) :
      Course asked? items p (p.looks ++ .read (.chunk bytes) :: .hand bytes none :: moves) outcome
        last

/-- A copy stops before it asks for a chunk only because the signal is set. -/
theorem request_eq_error {failure : Failure} (stops : request asked? p = (.error failure, last)) :
    failure = .cancelled p.written ∧ p.looks = [.look true] := by
  have idle := poll_idle p
  have present := @isSome_of_poll p
  rw [Progress.looks]
  rw [request] at stops
  rcases polled : p.poll with ⟨_ | _, polledTo⟩ <;> rw [polled] at stops idle present
  · cases stops
  · obtain ⟨isCancelled, -⟩ := Prod.mk.inj stops
    rw [present rfl, ← Except.error.inj isCancelled, idle.2]
    exact ⟨rfl, rfl⟩

/-- A copy that asks for a chunk has found the signal unset, if there is one. -/
theorem looks_of_request (asks : request asked? p = (.ok (), next)) :
    p.looks = if p.signal.isSome then [.look false] else [] := by
  rw [Progress.looks]
  rw [request] at asks
  rcases polled : p.poll with ⟨_ | _, polledTo⟩
  · rfl
  · rw [polled] at asks
    cases asks

/-- What is given is no signal. -/
theorem give_ne_signal (items : List Item) (p : Progress) : (give items p).1 ≠ .signal := by
  fun_induction give items p with
  | case1 => nofun
  | case2 _ _ ih => exact ih
  | case3 item rest p other => exact other

/-- A source that gives a chunk has fewer items left. -/
theorem length_of_give {bytes : List UInt8} (gives : give items p = (.chunk bytes, rest, after)) :
    rest.length < items.length := by
  fun_induction give items p with
  | case1 => cases gives
  | case2 later _ ih => exact Nat.lt_succ_of_lt (ih gives)
  | case3 =>
    obtain ⟨-, same⟩ := Prod.mk.inj gives
    obtain ⟨rfl, -⟩ := Prod.mk.inj same
    exact Nat.lt_succ_self _

/-- A turn of a copy hands over what it is given and goes on, or ends. -/
theorem copyItems_eq (asked? : Option (Option Int)) (items : List Item) (p : Progress) :
    copyItems asked? items p =
      takeUp asked? (give items p).1 (give items p).2.1 (give items p).2.2 := by
  induction items generalizing p with
  | nil => rfl
  | cons item rest ih =>
    cases item with
    | signal => exact ih p.cancel
    | chunk bytes => rfl
    | missing => rfl
    | fault failure => rfl

/-- A copy takes up the item that it obtains. -/
theorem Obtains.copyFrom_eq (obtains : Obtains asked? items p item rest after) :
    copyFrom asked? items p = takeUp asked? item rest after := by
  obtain ⟨next, asks, gives⟩ := obtains
  rw [copyFrom, asks]
  dsimp only
  rw [copyItems_eq, gives]

/-- A copy is gone on with from its start. -/
theorem copy_eq_copyFrom [Platform] (source : Source) (sink : Sink) (signal : Option CancelSignal) :
    copy source sink signal = copyFrom source.asked? source.items (.start sink signal) := rfl

/-- A copy comes to what its course comes to. -/
theorem Course.copyFrom_eq (course : Course asked? items p moves outcome last) :
    copyFrom asked? items p = (outcome, last) := by
  induction course with
  | stopped stops => rw [copyFrom, stops]
  | ended obtains | broken obtains => exact obtains.copyFrom_eq
  | passed obtains _ ih =>
    rw [obtains.copyFrom_eq]
    exact ih
  | refused obtains said hands =>
    simp only [obtains.copyFrom_eq, takeUp, List.isEmpty_iff, said, if_false, hands]
  | taken obtains said hands _ ih =>
    simp only [obtains.copyFrom_eq, takeUp, List.isEmpty_iff, said, if_false, hands]
    exact ih

/-- Every copy has a course. -/
theorem exists_course (asked? : Option (Option Int)) (items : List Item) (p : Progress) :
    ∃ moves, Course asked? items p moves (copyFrom asked? items p).1
      (copyFrom asked? items p).2 := by
  -- A turn that goes on leaves fewer items.
  induction remaining : items.length using Nat.strongRecOn generalizing items p with
  | _ n ih =>
    subst remaining
    rcases asks : request asked? p with ⟨failure | _, next⟩
    · obtain ⟨rfl, -⟩ := request_eq_error asks
      rw [copyFrom, asks]
      exact ⟨_, .stopped asks⟩
    rcases gives : give items next with ⟨item, rest, after⟩
    have obtains : Obtains asked? items p item rest after := ⟨next, asks, gives⟩
    rw [obtains.copyFrom_eq]
    cases item with
    | missing => exact ⟨_, .ended obtains⟩
    | fault failure => exact ⟨_, .broken obtains⟩
    | signal => exact absurd (congrArg Prod.fst gives) (give_ne_signal items next)
    | chunk bytes =>
      have shorter := length_of_give gives
      by_cases empty : bytes = []
      · subst empty
        obtain ⟨moves, onward⟩ := ih rest.length shorter rest after rfl
        exact ⟨_, .passed obtains onward⟩
      · simp only [takeUp, List.isEmpty_iff, empty, if_false]
        rcases hands : after.deliver bytes with ⟨_ | failure, last⟩
        · obtain ⟨moves, onward⟩ := ih rest.length shorter rest last rfl
          exact ⟨_, .taken obtains empty hands onward⟩
        · exact ⟨_, .refused obtains empty hands⟩

/-- What a copy comes to is the end of its course. -/
theorem course_iff : (∃ moves, Course asked? items p moves outcome last) ↔
    copyFrom asked? items p = (outcome, last) := by
  constructor
  · rintro ⟨moves, course⟩
    exact course.copyFrom_eq
  · intro ends
    have course := exists_course asked? items p
    rwa [ends] at course

/-! ## What a turn keeps -/

/-- Asking for a chunk and getting an item hands nothing over, and takes no signal away. -/
theorem give_idle (items : List Item) (p : Progress) :
    (give items p).2.2.sink = p.sink ∧ (give items p).2.2.written = p.written ∧
      (give items p).2.2.trace = p.trace ∧ (give items p).2.2.signal.isSome = p.signal.isSome := by
  fun_induction give items p with
  | case1 => exact ⟨rfl, rfl, rfl, rfl⟩
  | case2 _ p ih =>
    obtain ⟨sink, written, trace, signal⟩ := ih
    exact ⟨sink, written, trace, signal.trans (isSome_signal_cancel p)⟩
  | case3 => exact ⟨rfl, rfl, rfl, rfl⟩

/-- A copy that obtains an item has handed nothing over, and its signal stays there. -/
theorem Obtains.idle (obtains : Obtains asked? items p item rest after) :
    after.sink = p.sink ∧ after.written = p.written ∧
      after.signal.isSome = p.signal.isSome := by
  obtain ⟨next, asks, gives⟩ := obtains
  obtain ⟨sink, written⟩ := request_idle asked? p
  have stays := isSome_signal_request asked? p
  obtain ⟨sink', written', -, stays'⟩ := give_idle items next
  rw [asks] at sink written stays
  rw [gives] at sink' written' stays'
  exact ⟨sink'.trans sink, written'.trans written, stays'.trans stays⟩

theorem Obtains.sink_eq (obtains : Obtains asked? items p item rest after) :
    after.sink = p.sink := obtains.idle.1

theorem Obtains.written_eq (obtains : Obtains asked? items p item rest after) :
    after.written = p.written := obtains.idle.2.1

theorem Obtains.isSome_signal (obtains : Obtains asked? items p item rest after) :
    after.signal.isSome = p.signal.isSome := obtains.idle.2.2

theorem Obtains.looks_eq (obtains : Obtains asked? items p item rest after) :
    p.looks = if p.signal.isSome then [.look false] else [] :=
  have ⟨_, asks, _⟩ := obtains
  looks_of_request asks

/-- What a source gives next is what its items begin with, but for signals: nothing that passes over
signals tells the one from the other. -/
theorem Obtains.eq_of_skips {α : Type} (f : List Item → α)
    (skips : ∀ rest, f (.signal :: rest) = f rest) (ends : f [] = f [.missing])
    (obtains : Obtains asked? items p item rest after) : f items = f (item :: rest) := by
  obtain ⟨next, -, gives⟩ := obtains
  fun_induction give items next with
  | case1 =>
    obtain ⟨rfl, same⟩ := Prod.mk.inj gives
    obtain ⟨rfl, -⟩ := Prod.mk.inj same
    exact ends
  | case2 later _ ih => exact (skips later).trans (ih gives)
  | case3 =>
    obtain ⟨rfl, same⟩ := Prod.mk.inj gives
    obtain ⟨rfl, -⟩ := Prod.mk.inj same
    rfl

/-- A copy that obtains an item leaves the signal quiet, unless the source says otherwise. -/
theorem Obtains.isQuiet (obtains : Obtains asked? items p item rest after)
    (quiet : IsQuiet p.signal) (unsignalled : .signal ∉ items) :
    IsQuiet after.signal ∧ .signal ∉ rest := by
  obtain ⟨next, asks, gives⟩ := obtains
  obtain ⟨_, asks', stays⟩ := request_of_quiet asked? quiet
  rw [asks] at asks'
  obtain ⟨-, rfl⟩ := Prod.mk.inj asks'
  cases items with
  | nil =>
    obtain ⟨-, same⟩ := Prod.mk.inj gives
    obtain ⟨rfl, rfl⟩ := Prod.mk.inj same
    exact ⟨stays, List.not_mem_nil⟩
  | cons first later =>
    have unsignalled' : .signal ∉ later := fun isIn => unsignalled (List.mem_cons_of_mem _ isIn)
    cases first with
    | signal => exact absurd List.mem_cons_self unsignalled
    | chunk _ | missing | fault _ =>
      obtain ⟨-, same⟩ := Prod.mk.inj gives
      obtain ⟨rfl, rfl⟩ := Prod.mk.inj same
      exact ⟨stays, unsignalled'⟩

/-- A chunk that is taken reaches the sink, is counted, and leaves the signal there. -/
theorem deliver_eq_none {bytes : List UInt8} (hands : p.deliver bytes = (none, next)) :
    next.sink = (p.sink.write bytes).sink ∧ next.written = p.written + bytes.length ∧
      next.signal.isSome = p.signal.isSome := by
  have sink := sink_deliver bytes p
  have written := written_deliver (congrArg Prod.fst hands)
  have signal := isSome_signal_deliver bytes p
  rw [hands] at sink written signal
  exact ⟨sink, written, signal⟩

end SafeFetch.Transfer
