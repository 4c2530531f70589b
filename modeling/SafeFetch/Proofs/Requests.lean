import SafeFetch.Download
import SafeFetch.Manifest
import SafeFetch.Proofs.Effect
import SafeFetch.Proofs.Transfer

/-!
# Requests and signals

Which actions ask a server for something, and which look at the cancel signal. Servers are asked by
downloads only, when they find out where a file goes, and the signal is looked at by copies. All else
that is done with files leaves both alone, and nothing takes the signal away.

## Main results

* `keeps_prepare` and `keeps_resolve`: directories are made, and paths chosen, without a request;
* `requests_locate` and `requests_run`: the requests of a download are those of its exchange;
* `signal_locate`: the signal is set before the body of a file comes if somebody sets it during the
  exchange;
* `isSome_signal_run`: a download that can be cancelled leaves the signal there;
* `keeps_ofFile`, `keeps_verify` and `keeps_write`: checksums and manifests make no request.
-/

namespace SafeFetch

open SafeFetch.Transfer

variable {β : Type} {view : Session → β}

namespace Destination

/-! ## Directories -/

theorem keeps_within {makeAbove : Action Unit} (keeps : Action.Keeps view makeAbove) (room : Nat) :
    Action.Keeps view (within room makeAbove) := by
  rw [within]
  split
  · exact .throw view _
  · exact keeps

theorem keeps_makeOne (aside : Action.IsAside view) {makeAbove : Action Unit}
    (keeps : Action.Keeps view makeAbove) (path : Path) :
    Action.Keeps view (makeDirectories.makeOne path makeAbove) := by
  refine .bind (.query view _) fun isThere => ?_
  split
  · exact .pure view _
  · refine .bind keeps fun _ => .tryCatch (.change aside _) fun failure => ?_
    split
    · refine .bind (.query view _) fun appeared => ?_
      split
      · exact .pure view _
      · exact .throw view _
    · exact .throw view _

theorem keeps_makeDirectories (aside : Action.IsAside view) (root : Root) (room : Nat)
    (names : List (List Char)) : Action.Keeps view (makeDirectories root room names) := by
  induction names generalizing room with
  | nil => exact keeps_makeOne aside (.pure view _) _
  | cons name above ih => exact keeps_makeOne aside (keeps_within (ih (room - 1)) room) _

/-- The directories above a file are made without a request. -/
theorem keeps_prepare [Platform] (aside : Action.IsAside view) (file : Path) :
    Action.Keeps view (prepare file) := by
  intro s
  rw [prepare, Action.runOn_bind, Action.runOn_get]
  dsimp only
  split
  · rfl
  · rfl
  · exact Action.Keeps.bind (.report aside _ _)
      (fun _ => keeps_makeDirectories aside _ _ _) s
  · rfl

/-! ## Files -/

/-- The path of a file is chosen without a request. -/
theorem keeps_resolve [Platform] (aside : Action.IsAside view) (destination : String)
    (info : FileInfo) :
    Action.Keeps view (resolve destination info) := by
  have chosen (isDirectory : Bool) : Action.Keeps view (
      if isDirectory = true then do
        let name ← Action.reporting info.chooseName
        return (Path.ofText destination).child name
      else return Path.ofText destination) := by
    split
    · exact .bind (.reporting aside _) fun _ => .pure view _
    · exact .pure view _
  rw [resolve]
  dsimp only
  split
  · exact .bind (.pure view true) chosen
  · exact .bind (.query view _) chosen

theorem keeps_stamp (aside : Action.IsAside view) (info : FileInfo) (path : String) :
    Action.Keeps view (stamp info path) := by
  refine .bind (.reporting aside _) fun modified => ?_
  split
  · exact .bind (.change aside _) fun _ => .pure view _
  · exact .pure view _

end Destination

/-! ## Checksums -/

namespace Checksum

/-- A part of a session that copies leave as it is. -/
def SparedByCopies [Platform] (view : Session → β) : Prop :=
  ∀ source sink, Action.Keeps view (copyInto source sink)

/-- A copy makes no request. -/
theorem sparedByCopies_requests [Platform] : SparedByCopies (·.requests) := fun _ _ _ => rfl

/-- A copy that can be cancelled leaves the signal there. -/
theorem sparedByCopies_isSome_signal [Platform] : SparedByCopies (·.signal.isSome) :=
  fun source sink s => isSome_signal_copy source sink s.signal

/-- The digest of a file is computed by a copy. -/
theorem keeps_ofFile [Platform] (spared : SparedByCopies view) (path : String)
    (choice : HasherChoice) (chunkSize : Int) : Action.Keeps view (ofFile path choice chunkSize) :=
  .bind (.ofExcept _ _) fun _ =>
    .bind (.query _ _) fun _ =>
      .bind (spared _ _) fun _ =>
        .bind (.ofExcept _ _) fun _ => .ofExcept _ _

theorem keeps_failMismatch {α : Type} (aside : Action.IsAside view) (path : Path)
    (expected actual : List UInt8) (removes : Bool) :
    Action.Keeps view (failMismatch path expected actual removes : Action α) := by
  refine .bind (.report aside _ _) fun _ => ?_
  dsimp only
  split
  · exact .bind (.change aside _) fun _ => .throw view _
  · exact .throw view _

/-- The digest of a file is checked when it was computed. -/
theorem keeps_verify [Platform] (aside : Action.IsAside view) (spared : SparedByCopies view)
    (path : Path) (choice : HasherChoice) (expected : Expected) (removes : Bool) (chunkSize : Int) :
    Action.Keeps view (verify path choice expected removes chunkSize) := by
  refine .bind (.ofExcept _ _) fun wanted => ?_
  refine .bind (keeps_ofFile spared _ _ _) fun actual => ?_
  split
  · exact .pure _ _
  · exact keeps_failMismatch aside _ _ _ _

end Checksum

/-! ## Manifests -/

/-- A manifest is written without a request. -/
theorem Manifest.keeps_write [Platform] (aside : Action.IsAside view) (target : Path)
    (sourceUrl downloadedAt : String) (files : List (Path × Option String)) (base : Path)
    (sources : List String) :
    Action.Keeps view (write target sourceUrl downloadedAt files base sources) :=
  .bind (.query view _) fun _ =>
    .bind (Destination.keeps_prepare aside target) fun _ =>
      .bind (.query view _) fun _ => .elsewhere fun s => aside s _ s.log

/-! ## Downloads -/

namespace Download

variable [Platform] {transport : Http.Transport} {options : DownloadOptions}

theorem keeps_setUp (aside : Action.IsAside view) (options : DownloadOptions) (path : Path) :
    Action.Keeps view (setUp options path) :=
  .bind (Destination.keeps_prepare aside path) fun _ =>
    .bind (.ofExcept view _) fun _ =>
      .bind (.report aside _ _) fun _ => .pure view _

theorem keeps_fill (aside : Action.IsAside view) (spared : Checksum.SparedByCopies view)
    (url : String) (path : Path) (hasher : Option Hasher) (body : List Item) :
    Action.Keeps view (fill url path hasher body) := by
  refine .onFailure ?_ fun failure => .bind (.report aside _ _) fun _ => .change aside _
  refine .bind (.query _ _) fun opened => ?_
  refine .bind (.elsewhere fun s => aside s _ s.log) fun _ => ?_
  refine .bind (spared _ _) fun copied => ?_
  refine .bind (.elsewhere fun s => aside s _ s.log) fun _ => ?_
  exact .bind (.ofExcept _ _) fun _ => .pure _ _

omit [Platform] in
theorem keeps_check (aside : Action.IsAside view) (path : Path) (options : DownloadOptions)
    (digest : List UInt8) : Action.Keeps view (check path options digest) := by
  rw [check]
  split
  · exact .pure view _
  · refine .bind (.ofExcept view _) fun wanted => ?_
    split
    · exact Checksum.keeps_failMismatch aside _ _ _ _
    · exact .pure view _

omit [Platform] in
theorem keeps_finish (aside : Action.IsAside view) (options : DownloadOptions) (info : FileInfo)
    (path : Path) (count : Nat) (sink : Sink) :
    Action.Keeps view (finish options info path count sink) := by
  refine .bind (Destination.keeps_stamp aside _ _) fun _ => .bind (.ofExcept view _) fun digest => ?_
  dsimp only
  split
  · exact .bind (keeps_check aside _ _ _) fun _ => .pure view _
  · exact .pure view _

/-- The body of a response is written by a copy, without another request. -/
theorem keeps_complete (aside : Action.IsAside view) (spared : Checksum.SparedByCopies view)
    (options : DownloadOptions) (delivery : Delivery) :
    Action.Keeps view (complete options delivery) :=
  .bind (keeps_setUp aside _ _) fun _ =>
    .bind (keeps_fill aside spared _ _ _ _) fun _ => keeps_finish aside _ _ _ _ _

/-- What is done after the path of a file is known leaves alone what a copy does. -/
theorem keeps_afterLocate (aside : Action.IsAside view) (spared : Checksum.SparedByCopies view)
    (options : DownloadOptions) (delivery : Delivery) :
    Action.Keeps view (do
      let isThere ← Action.query (·.leadsSomewhere delivery.path.text)
      if isThere && !options.force then skip delivery.path else complete options delivery) := by
  refine .bind (.query _ _) fun isThere => ?_
  split
  · exact .bind (.report aside _ _) fun _ => .pure _ _
  · exact keeps_complete aside spared options delivery

variable {s : Session}

/-! ## Requests -/

omit [Platform] in
/-- A request adds those of its exchange. -/
theorem requests_request (transport : Http.Transport) (options : DownloadOptions) (s : Session) :
    ((request transport options).runOn s).2.requests =
      (Http.exchange transport options.followsRedirects options.url).requests.reverse ++
        s.requests := by
  -- What follows on the exchange only looks at its answer.
  refine Action.view_bind (fun _ => .bind (.ofExcept (·.requests) _) fun answer => ?_) s
  dsimp only
  split
  · exact .throw _ _
  · exact .pure _ _

/-- The signal after an exchange, during which somebody may set it. -/
def signalAfter (outcome : Http.Outcome) (signal : Option CancelSignal) : Option CancelSignal :=
  if outcome.isSignalled then signal.map (·.setRaised) else signal

omit [Platform] in
/-- A request sets the signal if somebody does during the exchange. -/
theorem signal_request (transport : Http.Transport) (options : DownloadOptions) (s : Session) :
    ((request transport options).runOn s).2.signal =
      signalAfter (Http.exchange transport options.followsRedirects options.url) s.signal := by
  refine (Action.view_bind (fun _ => .bind (.ofExcept (·.signal) _) fun answer => ?_) s).trans rfl
  dsimp only
  split
  · exact .throw _ _
  · exact .pure _ _

/-- What is asked for with a digest does without the refusal that a missing hasher means. -/
theorem locate_eq_deliver (transport : Http.Transport) (hashed : options.hasher.isNone = false) :
    locate transport options = deliver transport options := by
  have wanted : ¬ (options.expected.isSome && options.hasher.isNone) = true := by
    rw [hashed, Bool.and_false]
    decide
  simp only [locate, if_neg wanted]

/-- Finding out where a file goes sets the signal if somebody does during the exchange. -/
theorem signal_locate (hashed : options.hasher.isNone = false) (s : Session) :
    ((locate transport options).runOn s).2.signal =
      signalAfter (Http.exchange transport options.followsRedirects options.url) s.signal := by
  have aside := Action.isAside_signal
  rw [locate_eq_deliver transport hashed, ← signal_request transport options s]
  exact Action.view_bind (fun _ =>
    .bind (Destination.keeps_resolve aside _ _) fun _ => .pure _ _) s

/-- Finding out where a file goes takes the requests of an exchange. -/
theorem requests_locate (hashed : options.hasher.isNone = false) (s : Session) :
    ((locate transport options).runOn s).2.requests =
      (Http.exchange transport options.followsRedirects options.url).requests.reverse ++
        s.requests := by
  have aside := Action.isAside_requests
  rw [locate_eq_deliver transport hashed, ← requests_request transport options s]
  exact Action.view_bind (fun _ =>
    .bind (Destination.keeps_resolve aside _ _) fun _ => .pure _ _) s

/-- A download makes the requests of its exchange, and no others. -/
theorem requests_run (hashed : options.hasher.isNone = false) (s : Session) :
    ((run transport options).runOn s).2.requests =
      (Http.exchange transport options.followsRedirects options.url).requests.reverse ++
        s.requests := by
  rw [← requests_locate hashed s]
  exact Action.view_bind (keeps_afterLocate Action.isAside_requests
    Checksum.sparedByCopies_requests options) s

/-- A download that can be cancelled leaves the signal there. -/
theorem isSome_signal_run (hashed : options.hasher.isNone = false) (s : Session) :
    ((run transport options).runOn s).2.signal.isSome = s.signal.isSome := by
  have aside : Action.IsAside (·.signal.isSome) := fun _ _ _ => rfl
  have located : ((locate transport options).runOn s).2.signal.isSome = s.signal.isSome := by
    rw [signal_locate hashed, signalAfter]
    split
    · exact Option.isSome_map
    · rfl
  rw [← located]
  exact Action.view_bind (keeps_afterLocate aside Checksum.sparedByCopies_isSome_signal options) s

end Download

end SafeFetch
