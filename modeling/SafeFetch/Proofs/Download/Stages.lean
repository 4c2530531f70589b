import SafeFetch.Download
import SafeFetch.Proofs.Destination
import SafeFetch.Proofs.Transfer

/-!
# The stages of a download

What every stage of a download does to the file system, by how it ends. Finding out where a file
goes changes nothing, and making ready only adds directories. After that the file at one place is
emptied, filled and perhaps removed, by its own name or by that of a link.

## Main definitions

* `Fills`, `Finishes`, `Writes`, `Runs`: the ways in which a stage and the whole download can end;
* `Rewrites`: what becomes of a place that a body is written to;
* `Copies`: a download comes to copying a body.

## Main results

* `leaves_locate`, `leaves_setUp`: the stages before the body change no file;
* `fills` and `finishes`: copying a body into a file, and stamping and checking it;
* `complete_cases` and `runs`: a download that is not skipped, and any download.
-/

namespace SafeFetch.Download

open SafeFetch.FileSystem SafeFetch.Transfer

variable {s s' : Session} {transport : Http.Transport} {options : DownloadOptions} {path : Path}
  {hasher : Option Hasher} {body : List Item} {failure : Failure} {url : String}

/-! ## Plain downloads -/

/-- A download with nothing asked for but a destination. -/
def plain (destination : String) : DownloadOptions where
  url := "http://h/a"
  destination := destination
  force := false
  hasher := none
  expected := none
  removesMismatch := true
  followsRedirects := true

/-- A server that answers every request with the same body. -/
def serving (body : List Item) : Http.Transport := fun _ =>
  .ok { status := 200, headers := ⟨[]⟩, body }

/-- What such a server delivers to a path. -/
def served (body : List Item) (path : Path) : Delivery where
  url := {
    scheme := "http".toList, userInfo := [], host := "h".toList, port := none, path := "/a".toList
    query := none, fragment := none }
  response := { status := 200, headers := ⟨[]⟩, body }
  path := path

/-- The session after the request of a plain download. -/
def asked (s : Session) : Session := { s with requests := "http://h/a" :: s.requests }

section

variable [Platform]

/-! ## Before the body -/

/-- Choosing the path of a file changes no file. -/
theorem leaves_resolve (destination : String) (info : FileInfo) :
    Action.Leaves (fun fs fs' => fs' = fs) (Destination.resolve destination info) := by
  have composes := Action.composes_eq
  have chosen (isDirectory : Bool) : Action.Leaves (fun fs fs' => fs' = fs) (
      if isDirectory = true then do
        let name ← Action.reporting info.chooseName
        return (Path.ofText destination).child name
      else return Path.ofText destination) := by
    split
    · exact .bind composes (.reporting composes _) fun _ => .pure composes _
    · exact .pure composes _
  rw [Destination.resolve]
  dsimp only
  split
  · exact .bind composes (.pure composes true) chosen
  · exact .bind composes (.query composes _) chosen

/-- Asking for a file and choosing its path changes no file. -/
theorem leaves_deliver (transport : Http.Transport) (options : DownloadOptions) :
    Action.Leaves (fun fs fs' => fs' = fs) (deliver transport options) := by
  have composes := Action.composes_eq
  have asked : Action.Leaves (fun fs fs' => fs' = fs) (request transport options) := by
    refine .bind composes (.elsewhere composes fun _ => rfl) fun _ => ?_
    refine .bind composes (.ofExcept composes _) fun answer => ?_
    dsimp only
    split
    · exact .throw composes _
    · exact .pure composes _
  exact .bind composes asked fun _ =>
    .bind composes (leaves_resolve _ _) fun _ => .pure composes _

/-- Finding out where a file goes changes no file. -/
theorem leaves_locate (transport : Http.Transport) (options : DownloadOptions) :
    Action.Leaves (fun fs fs' => fs' = fs) (locate transport options) := by
  have composes := Action.composes_eq
  rw [locate]
  split
  · exact .bind composes (.throw composes _) fun _ => leaves_deliver transport options
  · exact leaves_deliver transport options

omit [Platform] in
/-- A request that succeeds is answered by a response that is a success. -/
theorem request_ok {url : Http.Url} {response : Http.Response}
    (run : (request transport options).runOn s = (.ok (url, response), s')) :
    (Http.exchange transport options.followsRedirects options.url).answer = .ok (url, response) ∧
      response.refusal? url = none ∧ s'.fs = s.fs := by
  obtain ⟨_, told, tells, run⟩ := Action.runOn_bind_eq_ok.mp run
  obtain ⟨-, rfl⟩ := Prod.mk.inj tells
  obtain ⟨⟨url', response'⟩, answered, answers, run⟩ := Action.runOn_bind_eq_ok.mp run
  rw [Action.runOn_ofExcept] at answers
  obtain ⟨answer, rfl⟩ := Prod.mk.inj answers
  dsimp only at run
  split at run
  · cases run
  next accepted =>
    obtain ⟨same, rfl⟩ := Prod.mk.inj run
    obtain ⟨rfl, rfl⟩ := Prod.mk.inj (Except.ok.inj same)
    exact ⟨answer, accepted, rfl⟩

omit [Platform] in
/-- A request fails if no response comes, or if the response is no success. -/
theorem request_error (run : (request transport options).runOn s = (.error failure, s')) :
    (Http.exchange transport options.followsRedirects options.url).answer = .error failure ∨
      ∃ url response, (Http.exchange transport options.followsRedirects options.url).answer =
        .ok (url, response) ∧ response.refusal? url = some failure := by
  rcases Action.runOn_bind_eq_error.mp run with tells | ⟨_, told, -, run⟩
  · cases tells
  rcases Action.runOn_bind_eq_error.mp run with answers | ⟨⟨url, response⟩, answered, answers, run⟩
  · exact .inl (Prod.mk.inj answers).1
  · obtain ⟨answer, -⟩ := Prod.mk.inj answers
    dsimp only at run
    split at run
    next refusal =>
      obtain ⟨same, -⟩ := Prod.mk.inj run
      obtain rfl := Except.error.inj same
      exact .inr ⟨url, response, answer, refusal⟩
    · cases run

omit [Platform] in
/-- A response that is a success is taken. -/
theorem request_of_answer {url : Http.Url} {response : Http.Response}
    (answer : (Http.exchange transport options.followsRedirects options.url).answer =
      .ok (url, response))
    (accepted : response.refusal? url = none) (s : Session) :
    ∃ s', (request transport options).runOn s = (.ok (url, response), s') ∧ s'.fs = s.fs := by
  have taken : (request transport options).runOn s =
      (.ok (url, response), ((request transport options).runOn s).2) := by
    simp only [request, Action.runOn_bind, Action.runOn_modify, Action.runOn_ofExcept, answer,
      accepted, Action.runOn_pure]
  exact ⟨_, taken, (request_ok taken).2.2⟩

/-- The path of a file is chosen for the response, by the destination that is asked for. -/
theorem deliver_ok {delivery : Delivery}
    (run : (deliver transport options).runOn s = (.ok delivery, s')) :
    (Http.exchange transport options.followsRedirects options.url).answer =
        .ok (delivery.url, delivery.response) ∧
      delivery.response.refusal? delivery.url = none ∧
        ∃ asked, asked.fs = s.fs ∧
          (Destination.resolve options.destination delivery.info).runOn asked =
            (.ok delivery.path, s') := by
  obtain ⟨⟨url, response⟩, asked, asks, run⟩ := Action.runOn_bind_eq_ok.mp run
  obtain ⟨path, next, resolves, run⟩ := Action.runOn_bind_eq_ok.mp run
  obtain ⟨same, rfl⟩ := Prod.mk.inj run
  obtain rfl := Except.ok.inj same
  obtain ⟨answer, accepted, same⟩ := request_ok asks
  exact ⟨answer, accepted, asked, same, resolves⟩

/-- The path that is found out is chosen for the response. -/
theorem deliver_of_locate {delivery : Delivery}
    (run : (locate transport options).runOn s = (.ok delivery, s')) :
    (deliver transport options).runOn s = (.ok delivery, s') := by
  rw [locate] at run
  dsimp only at run
  split at run
  · obtain ⟨_, next, thrown, run⟩ := Action.runOn_bind_eq_ok.mp run
    cases thrown
  · exact run

/-- The path of a file has proper names. -/
theorem isProper_of_locate {delivery : Delivery}
    (run : (locate transport options).runOn s = (.ok delivery, s')) : delivery.path.IsProper := by
  obtain ⟨-, -, asked, -, resolves⟩ := deliver_ok (deliver_of_locate run)
  exact Destination.isProper_of_resolve resolves

/-- Making ready for a body only adds directories. -/
theorem leaves_setUp (options : DownloadOptions) (path : Path) :
    Action.Leaves (Destination.Extends Destination.directoryMode) (setUp options path) := by
  have composes := Destination.composes_extends Destination.directoryMode
  exact .bind composes (Destination.leaves_prepare path) fun _ =>
    .bind composes (.ofExcept composes _) fun _ =>
      .bind composes (.report composes _ _) fun _ => .pure composes _

/-- What is ready for a body: a directory for the file, and the hasher. -/
theorem setUp_ok (run : (setUp options path).runOn s = (.ok hasher, s')) :
    startHasher? options.hasher = .ok hasher ∧
      ∃ prepared, (Destination.prepare path).runOn s = (.ok (), prepared) ∧
        s'.fs = prepared.fs := by
  obtain ⟨_, prepared, prepares, run⟩ := Action.runOn_bind_eq_ok.mp run
  obtain ⟨_, next, starts, run⟩ := Action.runOn_bind_eq_ok.mp run
  rw [Action.runOn_ofExcept] at starts
  obtain ⟨started, rfl⟩ := Prod.mk.inj starts
  obtain ⟨_, reported, reports, run⟩ := Action.runOn_bind_eq_ok.mp run
  rw [Action.runOn_report] at reports
  obtain ⟨-, rfl⟩ := Prod.mk.inj reports
  obtain ⟨same, rfl⟩ := Prod.mk.inj run
  exact ⟨Except.ok.inj same ▸ started, prepared, prepares, rfl⟩

/-- What keeps a body from being copied before it comes: the directory, or the hasher. -/
theorem setUp_error (run : (setUp options path).runOn s = (.error failure, s')) :
    (Destination.prepare path).runOn s = (.error failure, s') ∨
      startHasher? options.hasher = .error failure := by
  rcases Action.runOn_bind_eq_error.mp run with prepares | ⟨_, prepared, prepares, run⟩
  · exact .inl prepares
  rcases Action.runOn_bind_eq_error.mp run with starts | ⟨_, started, starts, run⟩
  · rw [Action.runOn_ofExcept] at starts
    exact .inr (Prod.mk.inj starts).1
  · rcases Action.runOn_bind_eq_error.mp run with reports | ⟨_, _, reports, run⟩
    · cases reports
    · cases run

/-- A file in a directory that is there needs nothing to be made ready. -/
theorem fs_of_setUp {mode : Nat} {outcome : Except Failure (Option Hasher)}
    (there : s.fs.stat path.parent.text = .ok (.directory mode))
    (run : (setUp options path).runOn s = (outcome, s')) : s'.fs = s.fs := by
  simp only [setUp, Action.runOn_bind, Destination.prepare_of_directory there,
    Action.runOn_ofExcept] at run
  cases started : startHasher? options.hasher with
  | error failure =>
    rw [started] at run
    obtain ⟨-, rfl⟩ := Prod.mk.inj run
    rfl
  | ok hasher =>
    rw [started] at run
    obtain ⟨-, rfl⟩ := Prod.mk.inj run
    rfl

end

/-! ## The sink of a body -/

/-- A hasher after it was handed chunks, in order. -/
def hasherAfter (hasher : Hasher) (chunks : List (List UInt8)) : Hasher :=
  chunks.foldl (fun hasher chunk => (hasher.update chunk).sink) hasher

/-- A file that was handed chunks has all of them, and so has the hasher after it. -/
theorem sinkOf_after (file : Buffer) (steady : file.failAt = none) (hasher : Option Hasher)
    (chunks : List (List UInt8)) :
    ∃ full : Buffer,
      (sinkOf file hasher).after chunks = sinkOf full (hasher.map (hasherAfter · chunks)) ∧
        full.contents = file.contents ++ chunks.flatten ∧ full.failAt = none ∧
          full.cancelAt = file.cancelAt := by
  -- The file never fails, so it takes every chunk before the hasher is handed it.
  induction chunks generalizing file hasher with
  | nil => exact ⟨file, by cases hasher <;> rfl, by simp, steady, rfl⟩
  | cons chunk chunks ih =>
    let kept : Buffer := { file with count := file.count + 1, kept := chunk :: file.kept }
    have written : file.write chunk =
        { sink := kept, events := [.write file.name chunk.length],
          isCancelling := file.cancelAt = some (file.count + 1), failure := none } := by
      simp [Buffer.write, steady, kept]
    have step : ((sinkOf file hasher).write chunk).sink =
        sinkOf kept (hasher.map fun hasher => (hasher.update chunk).sink) := by
      cases hasher with
      | none => simp [sinkOf, Sink.write, written, Written.map]
      | some hasher =>
        cases failed : (hasher.update chunk).failure <;>
          simp [sinkOf, Sink.write, Sink.writeAll, written, Written.map, Written.append,
            Written.nothing, failed]
    obtain ⟨full, after, contents, steady, uncancelling⟩ :=
      ih kept steady (hasher.map fun h => (h.update chunk).sink)
    refine ⟨full, ?_, ?_, steady, uncancelling⟩
    · rw [Sink.after_cons, step, after]
      cases hasher <;> rfl
    · rw [contents]
      simp [kept, Buffer.contents]

/-- The file of a fresh sink holds the chunks that it was handed. -/
theorem contentsOf_after (path : Path) (hasher : Option Hasher) (chunks : List (List UInt8)) :
    contentsOf ((freshSink path hasher).after chunks) = chunks.flatten := by
  obtain ⟨full, after, contents, -⟩ := sinkOf_after (.empty path.text none none) rfl hasher chunks
  rw [freshSink, after]
  cases hasher <;>
    simpa [contentsOf, sinkOf, Sink.firstBuffer?, Sink.leaves, Sink.leavesOfAll,
      Buffer.contents, Buffer.empty] using contents

/-- The hasher of a fresh sink has the chunks that it was handed. -/
theorem firstHasher?_after (path : Path) (hasher : Option Hasher) (chunks : List (List UInt8)) :
    ((freshSink path hasher).after chunks).firstHasher? = hasher.map (hasherAfter · chunks) := by
  obtain ⟨full, after, -⟩ := sinkOf_after (.empty path.text none none) rfl hasher chunks
  rw [freshSink, after]
  cases hasher <;> simp [sinkOf, Sink.firstHasher?, Sink.leaves, Sink.leavesOfAll]

/-- A sink feeds a hasher: it refuses a chunk, or sets the signal at one, just as the hasher does. -/
def Feeds (sink : Sink) (hasher : Hasher) : Prop :=
  ∀ chunks chunk,
    ((sink.after chunks).write chunk).failure =
        ((hasherAfter hasher chunks).update chunk).failure ∧
      ((sink.after chunks).write chunk).isCancelling =
        ((hasherAfter hasher chunks).update chunk).isCancelling

/-- A fresh sink feeds the hasher after the file. -/
theorem feeds_freshSink (path : Path) (hasher : Hasher) :
    Feeds (freshSink path (some hasher)) hasher := by
  intro chunks chunk
  obtain ⟨full, after, -, steady, uncancelling⟩ :=
    sinkOf_after (.empty path.text none none) rfl (some hasher) chunks
  have written : (full.write chunk).failure = none ∧ (full.write chunk).isCancelling = false := by
    simp [Buffer.write, steady, uncancelling, Buffer.empty]
  rw [freshSink, after, Option.map_some]
  cases failed : ((hasherAfter hasher chunks).update chunk).failure <;>
    simp [sinkOf, Sink.write, Sink.writeAll, Written.map, Written.append, Written.nothing, written,
      failed]

/-- A hasher of an algorithm takes every chunk. -/
theorem hasherAfter_standard (algorithm : Algorithm) (earlier chunks : List (List UInt8)) :
    hasherAfter (.standard algorithm earlier) chunks =
      .standard algorithm (chunks.reverse ++ earlier) := by
  induction chunks generalizing earlier with
  | nil => rfl
  | cons chunk chunks ih =>
    have step : hasherAfter (.standard algorithm earlier) (chunk :: chunks) =
        hasherAfter (.standard algorithm (chunk :: earlier)) chunks := rfl
    rw [step, ih, List.reverse_cons, List.append_assoc, List.singleton_append]

/-- A hasher that was not given stays so. -/
theorem hasherAfter_withheld (chunks : List (List UInt8)) :
    hasherAfter .withheld chunks = .withheld := by
  induction chunks with
  | nil => rfl
  | cons chunk chunks ih => exact ih

/-- The digest of an algorithm is one of all the bytes. -/
theorem digest_hasherAfter (algorithm : Algorithm) (chunks : List (List UInt8)) :
    (hasherAfter (.standard algorithm []) chunks).digest = algorithm.digest chunks.flatten := by
  rw [hasherAfter_standard, List.append_nil, Hasher.digest, List.reverse_reverse]

section

variable [Platform]

/-! ## The body -/

/-- The copy of a body into a fresh sink. -/
def copyOf (path : Path) (hasher : Option Hasher) (body : List Item)
    (signal : Option CancelSignal) : Except Failure Nat × Progress :=
  copy (.stream body) (freshSink path hasher) signal

/-- Writing a body opens the file and leaves in it what the copy handed over. -/
theorem runOn_writeBody (path : Path) (hasher : Option Hasher) (body : List Item) (s : Session) :
    (writeBody path hasher body).runOn s =
      match s.fs.create path.text with
      | .error failure => (.error failure, s)
      | .ok (place, fs) =>
        let copied := copyOf path hasher body s.signal
        (copied.1.map (·, copied.2.sink),
          { s with
            fs := fs.store place (contentsOf copied.2.sink)
            signal := copied.2.signal }) := by
  rw [writeBody, Action.runOn_bind, Action.runOn_query]
  rcases s.fs.create path.text with failure | ⟨place, fs⟩
  · rfl
  · simp only [Checksum.copyInto, Action.runOn_bind, Action.runOn_modify, Action.runOn_get,
      Action.runOn_pure, Action.runOn_ofExcept, copyOf]
    rcases (copy (.stream body) (freshSink path hasher) s.signal).1 with failure | count <;> rfl

/-- How copying a body into a file ends: the file holds all of it, or the copy was interrupted and
the file is removed, or no file could be opened. -/
inductive Fills (path : Path) (hasher : Option Hasher) (body : List Item) (s : Session) :
    Except Failure (Nat × Sink) → FileSystem → Prop
  | filled {place : Place} {chunks : List (List UInt8)} {count : Nat}
      (opens : Opens s.fs path.text place)
      (copied : (copyOf path hasher body s.signal).1 = .ok count)
      (received : received? body = some chunks.flatten) :
      Fills path hasher body s (.ok (count, (freshSink path hasher).after chunks))
        (s.fs.store place chunks.flatten)
  | interrupted {place : Place} {bytes : List UInt8} {fs' : FileSystem} {failure : Failure}
      (opens : Opens s.fs path.text place)
      (copied : (copyOf path hasher body s.signal).1 = .error failure)
      (begins : bytes <+: arriving body)
      (removed : IsRemoved (s.fs.store place bytes) path.text place fs') :
      Fills path hasher body s (.error failure) fs'
  | refused {fs' : FileSystem} {failure failure' : Failure}
      (shut : s.fs.create path.text = .error failure)
      (left : s.fs.removeIfPresent path.text = .ok fs' ∨ fs' = s.fs)
      (fails : failure' = failure ∨ s.fs.removeIfPresent path.text = .error failure') :
      Fills path hasher body s (.error failure') fs'

omit [Platform] in
/-- Discarding a file removes what its path names. -/
theorem runOn_discard (url : String) (path : Path) (failure : Failure) (s : Session) :
    (discard url path failure).runOn s =
      let reported := { s with
        log := { level := .warning, message := removalMessage url path failure } :: s.log }
      match s.fs.removeIfPresent path.text with
      | .ok fs => (.ok (), { reported with fs })
      | .error later => (.error later, reported) := by
  rcases removed : s.fs.removeIfPresent path.text with later | fs <;>
    simp [discard, Action.runOn_bind, Action.runOn_change, removed]

/-- Copying a body into a file ends in one of these ways. -/
theorem fills {outcome : Except Failure (Nat × Sink)} (tree : s.fs.IsTree)
    (run : (fill url path hasher body).runOn s = (outcome, s')) :
    Fills path hasher body s outcome s'.fs := by
  rw [fill, Action.runOn_onFailure, runOn_writeBody] at run
  -- Without an open file, the clean-up may still remove what the path names.
  rcases opened : s.fs.create path.text with failure | ⟨place, fs⟩
  · rw [opened] at run
    simp only [runOn_discard] at run
    rcases removed : s.fs.removeIfPresent path.text with later | fs'
    · rw [removed] at run
      obtain ⟨rfl, rfl⟩ := Prod.mk.inj run
      exact .refused opened (.inr rfl) (.inr removed)
    · rw [removed] at run
      obtain ⟨rfl, rfl⟩ := Prod.mk.inj run
      exact .refused opened (.inl removed) (.inl rfl)
  · obtain ⟨opens, rfl⟩ := (create_eq_ok_iff tree).mp opened
    obtain ⟨chunks, sink, begins, counts⟩ :=
      copy_after (.stream body) (freshSink path hasher) s.signal
    -- The file was emptied when it was opened; what is written last counts.
    have stored : (s.fs.store place []).store place chunks.flatten =
        s.fs.store place chunks.flatten := put_put s.fs place _ _
    rw [opened] at run
    simp only [copyOf, sink, contentsOf_after, stored] at run
    rcases copied : (copy (.stream body) (freshSink path hasher) s.signal).1 with failure | count
    · rw [copied] at run
      obtain ⟨tree', opens', file⟩ := opens.written tree chunks.flatten none
      obtain ⟨fs', removes, removed⟩ := opens'.removeIfPresent tree' file
      simp only [Except.map, runOn_discard, store, removes] at run
      obtain ⟨rfl, rfl⟩ := Prod.mk.inj run
      exact .interrupted opens copied begins removed
    · rw [copied] at run
      obtain ⟨rfl, rfl⟩ := Prod.mk.inj run
      exact .filled opens copied (counts count copied).1

end

/-! ## The complete file -/

variable {fs : FileSystem} {place : Place} {bytes : List UInt8} {info : FileInfo} {count : Nat}
  {sink : Sink}

/-- Stamping a file fails only over a date, and changes nothing but its instant, which is the one of
the date, if there is one. -/
theorem stamp_cases {outcome : Except Failure Bool} (tree : fs.IsTree)
    (opens : Opens fs path.text place) (stored : s.fs = fs.store place bytes)
    (run : (Destination.stamp info path.text).runOn s = (outcome, s')) :
    (∃ failure, outcome = .error failure ∧ info.modifiedAt.1 = .error failure ∧
        s'.fs = fs.store place bytes) ∨
      ∃ isStamped modified, outcome = .ok isStamped ∧ info.modifiedAt.1 = .ok modified ∧
        s'.fs = fs.put place (.file bytes modified) := by
  rw [Destination.stamp, Action.runOn_bind, Action.runOn_reporting] at run
  rcases dated : info.modifiedAt.1 with failure | _ | instant
  · rw [dated] at run
    obtain ⟨rfl, rfl⟩ := Prod.mk.inj run
    exact .inl ⟨failure, rfl, rfl, stored⟩
  · rw [dated] at run
    obtain ⟨rfl, rfl⟩ := Prod.mk.inj run
    exact .inr ⟨false, none, rfl, rfl, stored⟩
  · obtain ⟨-, opens', file⟩ := opens.written tree bytes none
    have stamped : s.fs.setModified path.text instant =
        .ok (fs.put place (.file bytes (some instant))) := by
      rw [stored, store, opens'.setModified_eq file instant, put_put]
    simp only [dated, Action.runOn_bind, Action.runOn_change, stamped, Action.runOn_pure] at run
    obtain ⟨rfl, rfl⟩ := Prod.mk.inj run
    exact .inr ⟨true, some instant, rfl, rfl, rfl⟩

/-- How stamping and checking a complete file ends. -/
inductive Finishes (options : DownloadOptions) (info : FileInfo) (path : Path)
    (hasher : Option Hasher) (fs : FileSystem) (place : Place) (bytes : List UInt8) :
    Except Failure DownloadResult → FileSystem → Prop
  | finished {count : Nat} {modified : Option Int} {digest : Option (List UInt8)}
      (dated : ∃ instant, info.modifiedAt.1 = .ok instant)
      (digested : digestOf? hasher = .ok digest)
      (checked : ∀ actual, digest = some actual → ∀ expected, options.expected = some expected →
        expected.decode = .ok actual) :
      Finishes options info path hasher fs place bytes
        (.ok { path, bytesWritten := count, digest, isSkipped := false })
        (fs.put place (.file bytes modified))
  | undated {failure : Failure} (undated : info.modifiedAt.1 = .error failure) :
      Finishes options info path hasher fs place bytes (.error failure) (fs.store place bytes)
  | undigested {failure : Failure} {modified : Option Int}
      (dated : ∃ instant, info.modifiedAt.1 = .ok instant)
      (undigested : digestOf? hasher = .error failure) :
      Finishes options info path hasher fs place bytes (.error failure)
        (fs.put place (.file bytes modified))
  | undecoded {failure : Failure} {modified : Option Int} {actual : List UInt8}
      {expected : Expected} (dated : ∃ instant, info.modifiedAt.1 = .ok instant)
      (digested : digestOf? hasher = .ok (some actual))
      (expects : options.expected = some expected) (undecoded : expected.decode = .error failure) :
      Finishes options info path hasher fs place bytes (.error failure)
        (fs.put place (.file bytes modified))
  | mismatched {fs' : FileSystem} {modified : Option Int} {actual wanted : List UInt8}
      {expected : Expected} (dated : ∃ instant, info.modifiedAt.1 = .ok instant)
      (digested : digestOf? hasher = .ok (some actual))
      (expects : options.expected = some expected) (decoded : expected.decode = .ok wanted)
      (differs : actual ≠ wanted)
      (left : if options.removesMismatch = true then
          IsRemoved (fs.put place (.file bytes modified)) path.text place fs'
        else fs' = fs.put place (.file bytes modified)) :
      Finishes options info path hasher fs place bytes
        (.error (.mismatch path.text wanted actual)) fs'

/-- A digest that is not the expected one is reported, and the file is removed on request. -/
theorem failMismatch_left {α : Type} {outcome : Except Failure α} {wanted actual : List UInt8}
    {removes : Bool} {modified : Option Int} (tree : fs.IsTree) (opens : Opens fs path.text place)
    (stored : s.fs = fs.put place (.file bytes modified))
    (run : (Checksum.failMismatch path wanted actual removes).runOn s = (outcome, s')) :
    outcome = .error (.mismatch path.text wanted actual) ∧
      if removes = true then IsRemoved (fs.put place (.file bytes modified)) path.text place s'.fs
      else s'.fs = fs.put place (.file bytes modified) := by
  obtain ⟨tree', opens', file⟩ := opens.written tree bytes modified
  obtain ⟨fs', removal, removed⟩ := opens'.removeIfPresent tree' file
  rw [Checksum.failMismatch, Action.runOn_bind, Action.runOn_report] at run
  dsimp only at run
  cases removes with
  | true =>
    simp only [if_true, Action.runOn_bind, Action.runOn_change, stored, removal,
      Action.runOn_throw] at run
    obtain ⟨rfl, rfl⟩ := Prod.mk.inj run
    exact ⟨rfl, removed⟩
  | false =>
    obtain ⟨rfl, rfl⟩ := Prod.mk.inj run
    exact ⟨rfl, stored⟩

/-- How checking a digest ends: it is the expected one, or that cannot be read, or it is another
one. -/
theorem check_cases {outcome : Except Failure Unit} {actual : List UInt8} {modified : Option Int}
    (tree : fs.IsTree) (opens : Opens fs path.text place)
    (stored : s.fs = fs.put place (.file bytes modified))
    (run : (check path options actual).runOn s = (outcome, s')) :
    (outcome = .ok () ∧ s'.fs = fs.put place (.file bytes modified) ∧
        ∀ expected, options.expected = some expected → expected.decode = .ok actual) ∨
      ∃ expected, options.expected = some expected ∧
        ((∃ failure, outcome = .error failure ∧ expected.decode = .error failure ∧
            s'.fs = fs.put place (.file bytes modified)) ∨
          ∃ wanted, outcome = .error (.mismatch path.text wanted actual) ∧
            expected.decode = .ok wanted ∧ actual ≠ wanted ∧
              if options.removesMismatch = true then
                IsRemoved (fs.put place (.file bytes modified)) path.text place s'.fs
              else s'.fs = fs.put place (.file bytes modified)) := by
  rw [check] at run
  rcases expects : options.expected with _ | expected
  · rw [expects] at run
    obtain ⟨rfl, rfl⟩ := Prod.mk.inj run
    exact .inl ⟨rfl, stored, by simp⟩
  rw [expects] at run
  simp only [Action.runOn_bind, Action.runOn_ofExcept] at run
  rcases decoded : expected.decode with failure | wanted
  · rw [decoded] at run
    obtain ⟨rfl, rfl⟩ := Prod.mk.inj run
    exact .inr ⟨expected, rfl, .inl ⟨failure, rfl, decoded, stored⟩⟩
  rw [decoded] at run
  dsimp only at run
  by_cases same : actual = wanted
  · rw [if_neg (not_not_intro same)] at run
    obtain ⟨rfl, rfl⟩ := Prod.mk.inj run
    refine .inl ⟨rfl, stored, fun other isOther => ?_⟩
    rw [← Option.some.inj isOther, decoded, same]
  · rw [if_pos same] at run
    obtain ⟨rfl, left⟩ := failMismatch_left tree opens stored run
    exact .inr ⟨expected, rfl, .inr ⟨wanted, rfl, decoded, same, left⟩⟩

/-- Stamping and checking a complete file ends in one of these ways. -/
theorem finishes {outcome : Except Failure DownloadResult} (tree : fs.IsTree)
    (opens : Opens fs path.text place) (stored : s.fs = fs.store place bytes)
    (run : (finish options info path count sink).runOn s = (outcome, s')) :
    Finishes options info path sink.firstHasher? fs place bytes outcome s'.fs := by
  rw [finish, Action.runOn_bind] at run
  rcases stamping : (Destination.stamp info path.text).runOn s with ⟨stamped, between⟩
  rcases stamp_cases tree opens stored stamping with
    ⟨failure, rfl, undated, same⟩ | ⟨isStamped, modified, rfl, dated, same⟩
  · rw [stamping] at run
    obtain ⟨rfl, rfl⟩ := Prod.mk.inj run
    rw [same]
    exact .undated undated
  rw [stamping] at run
  simp only [Action.runOn_bind, Action.runOn_ofExcept] at run
  have dated : ∃ instant, info.modifiedAt.1 = .ok instant := ⟨modified, dated⟩
  -- From here on the file stays, unless its digest is known to be another one.
  rcases digested : digestOf? sink.firstHasher? with failure | _ | actual
  · rw [digested] at run
    obtain ⟨rfl, rfl⟩ := Prod.mk.inj run
    rw [same]
    exact .undigested dated digested
  · rw [digested] at run
    obtain ⟨rfl, rfl⟩ := Prod.mk.inj run
    rw [same]
    exact .finished dated digested (by simp)
  · rw [digested] at run
    simp only [Action.runOn_bind] at run
    rcases checking : (check path options actual).runOn between with ⟨checked, last⟩
    rw [checking] at run
    rcases check_cases tree opens same checking with
      ⟨rfl, same, isExpected⟩ | ⟨expected, expects, ⟨failure, rfl, undecoded, same⟩ |
        ⟨wanted, rfl, decoded, differs, left⟩⟩
    · obtain ⟨rfl, rfl⟩ := Prod.mk.inj run
      rw [same]
      refine .finished dated digested fun other isOther expected expects => ?_
      rw [← Option.some.inj isOther]
      exact isExpected expected expects
    · obtain ⟨rfl, rfl⟩ := Prod.mk.inj run
      rw [same]
      exact .undecoded dated digested expects undecoded
    · obtain ⟨rfl, rfl⟩ := Prod.mk.inj run
      exact .mismatched dated digested expects decoded differs left

/-! ## The whole download -/

variable [Platform] {delivery : Delivery} {outcome : Except Failure DownloadResult}

/-- How writing the body of a response ends, once it was set up for: the file could not be filled,
or it was filled and then finished in one way or another. -/
inductive Writes (options : DownloadOptions) (delivery : Delivery) (hasher : Option Hasher)
    (ready : Session) : Except Failure DownloadResult → FileSystem → Prop
  | unfilled {failure : Failure} {fs' : FileSystem}
      (fills : Fills delivery.path hasher delivery.response.bodyItems ready (.error failure) fs') :
      Writes options delivery hasher ready (.error failure) fs'
  | filled {place : Place} {chunks : List (List UInt8)} {count : Nat}
      {outcome : Except Failure DownloadResult} {fs' : FileSystem}
      (opens : Opens ready.fs delivery.path.text place)
      (copied :
        (copyOf delivery.path hasher delivery.response.bodyItems ready.signal).1 = .ok count)
      (received : received? delivery.response.bodyItems = some chunks.flatten)
      (finishes : Finishes options delivery.info delivery.path (hasher.map (hasherAfter · chunks))
        ready.fs place chunks.flatten outcome fs') :
      Writes options delivery hasher ready outcome fs'

/-- After it was set up for, a download fills its file and finishes it. -/
theorem runOn_complete_of_setUp {ready : Session}
    (setsUp : (setUp options delivery.path).runOn s = (.ok hasher, ready)) :
    (complete options delivery).runOn s =
      match (fill options.url delivery.path hasher delivery.response.bodyItems).runOn ready with
      | (.ok (count, sink), full) =>
        (finish options delivery.info delivery.path count sink).runOn full
      | (.error failure, s') => (.error failure, s') := by
  simp only [complete, Action.runOn_bind, setsUp]
  rcases (fill options.url delivery.path hasher delivery.response.bodyItems).runOn ready
    with ⟨failure | ⟨count, sink⟩, full⟩ <;> rfl

/-- A download whose path is known and free, or to be replaced, is not skipped. -/
theorem runOn_run_of_locate {located : Session} {isThere : Bool}
    (locates : (locate transport options).runOn s = (.ok delivery, located))
    (looks : located.fs.leadsSomewhere delivery.path.text = .ok isThere)
    (unskipped : isThere = true → options.force = true) :
    (run transport options).runOn s = (complete options delivery).runOn located := by
  have wanted : ¬ (isThere && !options.force) = true := by simpa using unskipped
  simp only [run, Action.runOn_bind, Action.runOn_query, locates, looks, if_neg wanted]

/-- A download whose path leads somewhere is skipped, unless the file is to be replaced. -/
theorem run_of_skip {located : Session}
    (locates : (locate transport options).runOn s = (.ok delivery, located))
    (looks : located.fs.leadsSomewhere delivery.path.text = .ok true)
    (unforced : options.force = false) :
    ∃ s', (run transport options).runOn s =
        (.ok { path := delivery.path, bytesWritten := 0, digest := none, isSkipped := true }, s') ∧
      s'.fs = located.fs ∧ s'.signal = located.signal := by
  have skips : (true && !options.force) = true := by
    rw [unforced]
    rfl
  refine ⟨{ located with
    log := ⟨.debug, "Skipping (exists): " ++ delivery.path.text⟩ :: located.log }, ?_, rfl, rfl⟩
  simp only [run, Action.runOn_bind, Action.runOn_query, locates, looks, if_pos skips, skip,
    Action.runOn_report, Action.runOn_pure]

/-- A download that is not skipped cannot be set up for, or writes the body of its response. -/
theorem complete_cases (tree : s.fs.IsTree)
    (run : (complete options delivery).runOn s = (outcome, s')) :
    (∃ failure, outcome = .error failure ∧
        (setUp options delivery.path).runOn s = (.error failure, s')) ∨
      ∃ hasher ready, (setUp options delivery.path).runOn s = (.ok hasher, ready) ∧
        Writes options delivery hasher ready outcome s'.fs := by
  have grown := leaves_setUp options delivery.path s tree
  rcases ready : (setUp options delivery.path).runOn s with ⟨failure | hasher, between⟩
  · rw [complete, Action.runOn_bind, ready] at run
    obtain ⟨rfl, rfl⟩ := Prod.mk.inj run
    exact .inl ⟨failure, rfl, rfl⟩
  rw [runOn_complete_of_setUp ready] at run
  rw [ready] at grown
  refine .inr ⟨hasher, between, rfl, ?_⟩
  rcases filling : (fill options.url delivery.path hasher delivery.response.bodyItems).runOn
    between with ⟨filled, full⟩
  rw [filling] at run
  have fills := fills grown.2 filling
  rcases filled with failure | ⟨count, sink⟩
  · obtain ⟨rfl, rfl⟩ := Prod.mk.inj run
    exact .unfilled fills
  · generalize same : full.fs = after at fills
    cases fills with
    | filled opens copied received =>
      have finishes := finishes grown.2 opens same run
      rw [firstHasher?_after] at finishes
      exact .filled opens copied received finishes

/-- What becomes of a place that a body is written to: it holds a file with all of the body, or the
file is removed, or just the link that names it. -/
inductive Rewrites (body : List Item) (fs : FileSystem) (path : Path) (place : Place) :
    FileSystem → Prop
  | kept {bytes : List UInt8} (modified : Option Int) (received : received? body = some bytes) :
      Rewrites body fs path place (fs.put place (.file bytes modified))
  | removed {bytes : List UInt8} {modified : Option Int} {fs' : FileSystem}
      (begins : bytes <+: arriving body)
      (removed : IsRemoved (fs.put place (.file bytes modified)) path.text place fs') :
      Rewrites body fs path place fs'

omit [Platform] in
/-- Files elsewhere stay as they are. -/
theorem get?_of_rewrites_of_ne {body : List Item} {fs' : FileSystem} {other : Place}
    {contents : List UInt8} {modified : Option Int} (rewrites : Rewrites body fs path place fs')
    (off : other ≠ place) (file : fs.get? other = some (.file contents modified)) :
    fs'.get? other = some (.file contents modified) := by
  cases rewrites with
  | kept _ _ => exact (get?_put_of_ne fs off _).trans file
  | removed _ removed =>
    exact (removed.get?_eq ((get?_put_of_ne fs off _).trans file)).resolve_right fun h => off h.1

/-- Writing the body of a response either opens no file, or rewrites the one that it opens. -/
theorem Writes.cases {ready : Session} {fs' : FileSystem}
    (writes : Writes options delivery hasher ready outcome fs') :
    (∃ failure, ready.fs.create delivery.path.text = .error failure ∧
        (ready.fs.removeIfPresent delivery.path.text = .ok fs' ∨ fs' = ready.fs)) ∨
      ∃ place, Opens ready.fs delivery.path.text place ∧
        Rewrites delivery.response.bodyItems ready.fs delivery.path place fs' := by
  cases writes with
  | unfilled fills =>
    cases fills with
    | interrupted opens _ begins removed => exact .inr ⟨_, opens, .removed begins removed⟩
    | refused shut left _ => exact .inl ⟨_, shut, left⟩
  | @filled place chunks _ _ _ opens _ received finishes =>
    refine .inr ⟨place, opens, ?_⟩
    cases finishes with
    | finished => exact .kept _ received
    | undated => exact .kept none received
    | undigested => exact .kept _ received
    | undecoded => exact .kept _ received
    | mismatched _ _ _ _ _ left =>
      split at left
      · have whole := arriving_of_received? received
        exact .removed (whole ▸ List.prefix_rfl) left
      · rw [left]
        exact .kept _ received

/-- How a download ends: before its path is known, or by leaving a file alone, or by writing one. -/
inductive Runs (transport : Http.Transport) (options : DownloadOptions) (s : Session) :
    Except Failure DownloadResult → Session → Prop
  | unlocated {failure : Failure} {s' : Session}
      (unlocated : (locate transport options).runOn s = (.error failure, s')) :
      Runs transport options s (.error failure) s'
  | unclear {delivery : Delivery} {located : Session} {failure : Failure}
      (locates : (locate transport options).runOn s = (.ok delivery, located))
      (looks : located.fs.leadsSomewhere delivery.path.text = .error failure) :
      Runs transport options s (.error failure) located
  | skipped {delivery : Delivery} {located s' : Session}
      (locates : (locate transport options).runOn s = (.ok delivery, located))
      (looks : located.fs.leadsSomewhere delivery.path.text = .ok true)
      (unforced : options.force = false) (same : s'.fs = located.fs) :
      Runs transport options s
        (.ok { path := delivery.path, bytesWritten := 0, digest := none, isSkipped := true }) s'
  | completed {delivery : Delivery} {located s' : Session} {isThere : Bool}
      {outcome : Except Failure DownloadResult}
      (locates : (locate transport options).runOn s = (.ok delivery, located))
      (looks : located.fs.leadsSomewhere delivery.path.text = .ok isThere)
      (unskipped : isThere = true → options.force = true)
      (completes : (complete options delivery).runOn located = (outcome, s')) :
      Runs transport options s outcome s'

/-- A download ends in one of these ways. -/
theorem runs (run : (run transport options).runOn s = (outcome, s')) :
    Runs transport options s outcome s' := by
  rw [Download.run, Action.runOn_bind] at run
  rcases locating : (locate transport options).runOn s with ⟨failure | delivery, located⟩
  · rw [locating] at run
    obtain ⟨rfl, rfl⟩ := Prod.mk.inj run
    exact .unlocated locating
  rw [locating] at run
  simp only [Action.runOn_bind, Action.runOn_query] at run
  rcases looked : located.fs.leadsSomewhere delivery.path.text with failure | isThere
  · rw [looked] at run
    obtain ⟨rfl, rfl⟩ := Prod.mk.inj run
    exact .unclear locating looked
  rw [looked] at run
  dsimp only at run
  by_cases skips : (isThere && !options.force) = true
  · rw [if_pos skips, skip, Action.runOn_bind, Action.runOn_report] at run
    obtain ⟨rfl, unforced⟩ : isThere = true ∧ options.force = false := by simpa using skips
    obtain ⟨rfl, rfl⟩ := Prod.mk.inj run
    exact .skipped locating looked unforced rfl
  · rw [if_neg skips] at run
    exact .completed locating looked (fun isThere => by simpa [isThere] using skips) run

/-- A download gets as far as copying a body, and the copy ends with a count or a failure. -/
inductive Copies (transport : Http.Transport) (options : DownloadOptions) (s : Session)
    (delivery : Delivery) (copied : Except Failure Nat) : Prop
  | intro {located ready : Session} {isThere : Bool} {hasher : Option Hasher} {place : Place}
      {fs : FileSystem}
      (locates : (locate transport options).runOn s = (.ok delivery, located))
      (looks : located.fs.leadsSomewhere delivery.path.text = .ok isThere)
      (unskipped : isThere = true → options.force = true)
      (setsUp : (setUp options delivery.path).runOn located = (.ok hasher, ready))
      (opens : ready.fs.create delivery.path.text = .ok (place, fs))
      (copies : (copyOf delivery.path hasher delivery.response.bodyItems ready.signal).1 = copied)

/-- What a download that copies a body does after its path is known. -/
theorem copies_iff {copied : Except Failure Nat} {located : Session}
    (locates : (locate transport options).runOn s = (.ok delivery, located)) :
    Copies transport options s delivery copied ↔
      ∃ isThere hasher ready opened,
        located.fs.leadsSomewhere delivery.path.text = .ok isThere ∧
          (isThere = true → options.force = true) ∧
          (setUp options delivery.path).runOn located = (.ok hasher, ready) ∧
          ready.fs.create delivery.path.text = .ok opened ∧
          (copyOf delivery.path hasher delivery.response.bodyItems ready.signal).1 = copied := by
  constructor
  · rintro ⟨locates', looks, unskipped, setsUp, opens, copies⟩
    obtain ⟨-, rfl⟩ := Action.ok_inj locates locates'
    exact ⟨_, _, _, _, looks, unskipped, setsUp, opens, copies⟩
  · rintro ⟨isThere, hasher, ready, ⟨place, fs⟩, looks, unskipped, setsUp, opens, copies⟩
    exact ⟨locates, looks, unskipped, setsUp, opens, copies⟩

/-- A download that was set up for copies its body as soon as the file is opened. -/
theorem copies_iff_of_setUp {copied : Except Failure Nat} {located ready : Session}
    {isThere : Bool} (locates : (locate transport options).runOn s = (.ok delivery, located))
    (looks : located.fs.leadsSomewhere delivery.path.text = .ok isThere)
    (unskipped : isThere = true → options.force = true)
    (setsUp : (setUp options delivery.path).runOn located = (.ok hasher, ready)) :
    Copies transport options s delivery copied ↔
      ∃ opened, ready.fs.create delivery.path.text = .ok opened ∧
        (copyOf delivery.path hasher delivery.response.bodyItems ready.signal).1 = copied := by
  rw [copies_iff locates]
  constructor
  · rintro ⟨_, _, _, opened, -, -, setsUp', opens, copies⟩
    obtain ⟨rfl, rfl⟩ := Action.ok_inj setsUp setsUp'
    exact ⟨opened, opens, copies⟩
  · rintro ⟨opened, opens, copies⟩
    exact ⟨isThere, hasher, ready, opened, looks, unskipped, setsUp, opens, copies⟩

/-- The session in which the path of a file is known has the file system of the first one. -/
theorem fs_of_locate {located : Session}
    (locates : (locate transport options).runOn s = (.ok delivery, located)) :
    located.fs = s.fs := by
  have same := leaves_locate transport options s
  rwa [locates] at same

end SafeFetch.Download
