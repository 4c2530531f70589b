import SafeFetch.Proofs.CommandLine.Files
import SafeFetch.Proofs.Requests

/-!
# URLs one after the other

A job fetches its URLs in order, and the first failure ends it. So its course is a chain of sessions:
each URL is fetched in the session that the one before has left. What holds of one URL is carried
along the chain: which requests are made, that the directory is there for the next one, and, without
force, that all files are kept.

## Main definitions

* `requestsOf`: the requests that a URL takes;
* `Job.Visits`: the chain of the URLs that were fetched;
* `Job.IsReady`: the directory of a job is there.

## Main results

* `Job.fetchAll_cases`: all URLs are fetched, or a failure ends the chain;
* `Job.keepsFiles_of_fetch` and `Visits.keepsFiles`: without force all files are kept;
* `Job.requests_fetch` and `Visits.requests_eq`: the requests are those of the URLs in order.
-/

namespace SafeFetch.CommandLine

open SafeFetch.FileSystem SafeFetch.Transfer

/-- A URL that was fetched, with the file that it gave and the digest that was noted. -/
structure Visit where
  url : String
  file : Path × Option String

/-- The requests that a URL takes, in order. -/
def requestsOf (transport : Http.Transport) (url : String) : List String :=
  (Http.exchange transport true url).requests

variable {job : Job} {s s' between : Session} {url : String} {urls : List String}
  {visits earlier later : List Visit} {failure : Failure}

namespace Job

variable [Platform]

/-- URLs are fetched one after the other without a failure. -/
inductive Visits (job : Job) : Session → List Visit → Session → Prop
  | nil (s : Session) : Visits job s [] s
  | cons {s between s' : Session} {visit : Visit} {visits : List Visit}
      (fetches : (job.fetch visit.url).runOn s = (.ok visit.file, between))
      (onward : Visits job between visits s') : Visits job s (visit :: visits) s'

namespace Visits

/-- A chain goes on after any of its beginnings. -/
theorem of_append (all : job.Visits s (earlier ++ later) s') (first : job.Visits s earlier between) :
    job.Visits between later s' := by
  induction first with
  | nil => exact all
  | cons fetches _ ih =>
    cases all with
    | cons fetches' onward =>
      obtain ⟨-, rfl⟩ := Action.ok_inj fetches fetches'
      exact ih onward

/-- A chain is what a job does that fetches its URLs. -/
theorem runOn_fetchAll (all : job.Visits s visits s') :
    (job.fetchAll (visits.map Visit.url)).runOn s = (.ok (visits.map Visit.file), s') := by
  induction all with
  | nil => rfl
  | cons fetches _ ih =>
    refine Action.runOn_bind_eq_ok.mpr ⟨_, _, fetches, ?_⟩
    exact Action.runOn_bind_eq_ok.mpr ⟨_, _, ih, rfl⟩

/-- A failure after a chain ends a job, whatever URLs are left. -/
theorem runOn_fetchAll_of_error (all : job.Visits s visits between)
    (fails : (job.fetch url).runOn between = (.error failure, s')) (urls : List String) :
    (job.fetchAll (visits.map Visit.url ++ url :: urls)).runOn s = (.error failure, s') := by
  induction all with
  | nil => exact Action.runOn_bind_eq_error.mpr (.inl fails)
  | cons fetches _ ih =>
    refine Action.runOn_bind_eq_error.mpr (.inr ⟨_, _, fetches, ?_⟩)
    exact Action.runOn_bind_eq_error.mpr (.inl (ih fails))

end Visits

/-- All URLs are fetched one after the other, or one of them fails and none is fetched after it. -/
theorem fetchAll_cases {outcome : Except Failure (List (Path × Option String))}
    (run : (job.fetchAll urls).runOn s = (outcome, s')) :
    (∃ visits, job.Visits s visits s' ∧ urls = visits.map Visit.url ∧
        outcome = .ok (visits.map Visit.file)) ∨
      ∃ visits url rest between failure, job.Visits s visits between ∧
        urls = visits.map Visit.url ++ url :: rest ∧
          (job.fetch url).runOn between = (.error failure, s') ∧ outcome = .error failure := by
  induction urls generalizing s s' outcome with
  | nil =>
    obtain ⟨rfl, rfl⟩ := Prod.mk.inj run
    exact .inl ⟨[], .nil s, rfl, rfl⟩
  | cons url urls ih =>
    rw [fetchAll, Action.runOn_bind] at run
    rcases fetches : (job.fetch url).runOn s with ⟨failure | file, between⟩
    · rw [fetches] at run
      obtain ⟨rfl, rfl⟩ := Prod.mk.inj run
      exact .inr ⟨[], url, urls, s, failure, .nil s, rfl, fetches, rfl⟩
    · rw [fetches] at run
      dsimp only at run
      rw [Action.runOn_bind] at run
      rcases others : (job.fetchAll urls).runOn between with ⟨outcome', after⟩
      rw [others] at run
      -- The chain of the other URLs begins where this one ends.
      rcases ih others with ⟨visits, chain, rfl, rfl⟩ |
        ⟨visits, url', rest, between', failure, chain, rfl, fails, rfl⟩
      · obtain ⟨rfl, rfl⟩ := Prod.mk.inj run
        exact .inl ⟨⟨url, file⟩ :: visits, .cons fetches chain, rfl, rfl⟩
      · obtain ⟨rfl, rfl⟩ := Prod.mk.inj run
        exact .inr ⟨⟨url, file⟩ :: visits, url', rest, between', failure, .cons fetches chain, rfl,
          fails, rfl⟩

/-! ## Files -/

/-- The directory of a job is there. -/
structure IsReady (job : Job) (fs : FileSystem) : Prop where
  tree : fs.IsTree
  found : fs.isDirectory job.directory.text = .ok true

/-- Fetching a URL changes no file but by the download. -/
theorem fs_fetch (job : Job) (url : String) (s : Session) :
    ((job.fetch url).runOn s).2.fs =
      ((Download.run job.surroundings.transport (job.download url)).runOn s).2.fs := by
  have composes := Action.composes_eq
  -- Neither the records nor a second look at the file change anything.
  refine Action.view_bind (fun result => ?_) s
  dsimp only
  split
  · exact Action.Leaves.bind composes (.report composes _ _) fun _ =>
      .bind composes (leaves_present composes job _) fun _ => .pure composes _
  · exact Action.Leaves.bind composes (.report composes _ _) fun _ => .pure composes _

/-- Fetching a URL succeeds if its download does, which leaves the files as they are then. The digest
of a file that was left alone is computed after it. -/
theorem download_of_fetch {file : Path × Option String}
    (fetches : (job.fetch url).runOn s = (.ok file, s')) :
    ∃ result loaded,
      (Download.run job.surroundings.transport (job.download url)).runOn s = (.ok result, loaded) ∧
      s'.fs = loaded.fs ∧
        (result.isSkipped = true → ∃ reported digest, reported.fs = loaded.fs ∧
          reported.signal = loaded.signal ∧
            (job.present result.path).runOn reported = (.ok digest, s')) := by
  have left := fs_fetch job url s
  obtain ⟨result, loaded, downloads, run⟩ := Action.runOn_bind_eq_ok.mp fetches
  rw [fetches, downloads] at left
  refine ⟨result, loaded, downloads, left, fun skipped => ?_⟩
  rw [if_pos skipped] at run
  obtain ⟨_, reported, reports, run⟩ := Action.runOn_bind_eq_ok.mp run
  obtain ⟨-, rfl⟩ := Prod.mk.inj reports
  obtain ⟨digest, computed, computes, run⟩ := Action.runOn_bind_eq_ok.mp run
  obtain ⟨-, rfl⟩ := Prod.mk.inj run
  refine ⟨_, digest, ?_, ?_, computes⟩
  · rfl
  · rfl

/-- Fetching a URL leaves the directory there for the next one. -/
theorem isReady_of_fetch {file : Path × Option String} (proper : job.directory.IsProper)
    (ready : job.IsReady s.fs) (fetches : (job.fetch url).runOn s = (.ok file, s')) :
    job.IsReady s'.fs := by
  obtain ⟨result, loaded, downloads, left, -⟩ := download_of_fetch fetches
  obtain ⟨_, _, -, -, -, puts⟩ :=
    Download.puts_of_run ready.tree proper ready.found rfl downloads
  obtain ⟨tree, found⟩ := puts.stays ready.tree ready.found
  rw [left]
  exact ⟨tree, found⟩

/-- Without force fetching a URL keeps all files that are there, whatever becomes of it. -/
theorem keepsFiles_of_fetch (proper : job.directory.IsProper)
    (unforced : job.arguments.force = false) (ready : job.IsReady s.fs) (url : String) :
    KeepsFiles s.fs ((job.fetch url).runOn s).2.fs := by
  rw [fs_fetch]
  exact Download.keepsFiles_of_run ready.tree proper ready.found rfl unforced

namespace Visits

/-- A chain leaves the directory there. -/
theorem isReady (proper : job.directory.IsProper) (all : job.Visits s visits s')
    (ready : job.IsReady s.fs) : job.IsReady s'.fs := by
  induction all with
  | nil => exact ready
  | cons fetches _ ih => exact ih (isReady_of_fetch proper ready fetches)

/-- Without force a chain keeps all files that are there. -/
theorem keepsFiles (proper : job.directory.IsProper) (unforced : job.arguments.force = false)
    (all : job.Visits s visits s') (ready : job.IsReady s.fs) : KeepsFiles s.fs s'.fs := by
  induction all with
  | nil => exact .refl _
  | @cons s _ _ visit _ fetches _ ih =>
    have kept := keepsFiles_of_fetch proper unforced ready visit.url
    rw [fetches] at kept
    exact kept.trans (ih (isReady_of_fetch proper ready fetches))

end Visits

/-! ## Requests -/

/-- The digest of a file that is there is computed by a copy. -/
theorem keeps_present {β : Type} {view : Session → β} (aside : Action.IsAside view)
    (spared : Checksum.SparedByCopies view) (job : Job) (path : Path) :
    Action.Keeps view (job.present path) := by
  rw [present]
  split
  · exact Checksum.keeps_verify aside spared _ _ _ _ _
  · exact Checksum.keeps_ofFile spared _ _ _

/-- What is done with the result of a download leaves alone what a copy does. -/
theorem view_fetch {β : Type} {view : Session → β} (aside : Action.IsAside view)
    (spared : Checksum.SparedByCopies view) (job : Job) (url : String) (s : Session) :
    view ((job.fetch url).runOn s).2 =
      view ((Download.run job.surroundings.transport (job.download url)).runOn s).2 := by
  refine Action.view_bind (fun result => ?_) s
  dsimp only
  split
  · exact .bind (.report aside _ _) fun _ =>
      .bind (keeps_present aside spared job _) fun _ => .pure _ _
  · exact .bind (.report aside _ _) fun _ => .pure _ _

/-- Fetching a URL makes its requests, and no others. -/
theorem requests_fetch (job : Job) (url : String) (s : Session) :
    ((job.fetch url).runOn s).2.requests =
      (requestsOf job.surroundings.transport url).reverse ++ s.requests := by
  have hashed : (job.download url).hasher.isNone = false := rfl
  exact (view_fetch Action.isAside_requests Checksum.sparedByCopies_requests job url s).trans
    (Download.requests_run hashed s)

/-- Fetching a URL with a signal leaves the signal there. -/
theorem isSome_signal_fetch (job : Job) (url : String) (s : Session) :
    ((job.fetch url).runOn s).2.signal.isSome = s.signal.isSome := by
  have aside : Action.IsAside (·.signal.isSome) := fun _ _ _ => rfl
  have hashed : (job.download url).hasher.isNone = false := rfl
  exact (view_fetch aside Checksum.sparedByCopies_isSome_signal job url s).trans
    (Download.isSome_signal_run hashed s)

/-- The manifest is written without a request. -/
theorem keeps_writeManifest (job : Job) (files : List (Path × Option String)) :
    Action.Keeps (·.requests) (job.writeManifest files) := by
  have aside := Action.isAside_requests
  rw [writeManifest]
  split
  · exact .bind (Manifest.keeps_write aside _ _ _ _ _ _) fun _ => .report aside _ _
  · exact .pure _ _

/-- A chain makes the requests of its URLs in order. -/
theorem Visits.requests_eq (all : job.Visits s visits s') :
    s'.requests = ((visits.map Visit.url).flatMap
      (requestsOf job.surroundings.transport)).reverse ++ s.requests := by
  induction all with
  | nil => rfl
  | @cons s _ _ visit _ fetches _ ih =>
    have here := requests_fetch job visit.url s
    rw [fetches] at here
    rw [ih, here]
    simp

end Job

end SafeFetch.CommandLine
