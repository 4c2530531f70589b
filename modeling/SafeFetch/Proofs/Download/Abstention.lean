import SafeFetch.Proofs.Download.Upkeep

/-!
# Downloads that change nothing

A download asks its servers first, then chooses a path, then looks whether something is there. Until
then it has not touched the file system, so a download that ends by then, with a failure or because a
file is there already, leaves everything as it was. Only directories are made before the hasher is
started, so a download without one changes no file.

## Main definitions

* `Declines`: a download ends before its path is known.

## Main results

* `fst_locate_eq_error_iff`: finding out where a file goes fails exactly for these reasons;
* `run_abstains`: what a download leaves alone, by how it ends.
-/

namespace SafeFetch.Download

open SafeFetch.FileSystem

variable {s s' : Session} {transport : Http.Transport} {options : DownloadOptions}
  {failure : Failure}

/-- A digest is expected only if something computes one. -/
def IsHashed (options : DownloadOptions) : Prop :=
  options.expected.isSome = true → options.hasher.isSome = true

section

variable [Platform]

/-- The reasons for which a download ends before its path is known. -/
inductive Declines (transport : Http.Transport) (options : DownloadOptions) (s : Session) :
    Failure → Prop
  /-- A digest is expected, and nothing computes one. -/
  | unhashed (unhashed : ¬ IsHashed options) :
      Declines transport options s .checksumWithoutAlgorithm
  /-- No response comes to the end: the URL is invalid, the transport fails, a redirect cannot be
  followed, or there are too many of them. -/
  | unanswered {failure : Failure} (hashed : IsHashed options)
      (unanswered : (Http.exchange transport options.followsRedirects options.url).answer =
        .error failure) : Declines transport options s failure
  /-- The response is no success. -/
  | refused {url : Http.Url} {response : Http.Response} {failure : Failure}
      (hashed : IsHashed options)
      (answer : (Http.exchange transport options.followsRedirects options.url).answer =
        .ok (url, response)) (refusal : response.refusal? url = some failure) :
      Declines transport options s failure
  /-- Nobody can tell whether the destination is a directory. -/
  | unclear {url : Http.Url} {response : Http.Response} {failure : Failure}
      (hashed : IsHashed options)
      (answer : (Http.exchange transport options.followsRedirects options.url).answer =
        .ok (url, response)) (accepted : response.refusal? url = none)
      (unmarked : Destination.endsInSlash options.destination = false)
      (unclear : s.fs.isDirectory (Path.ofText options.destination).text = .error failure) :
      Declines transport options s failure
  /-- The file goes into a directory, and has no name there. -/
  | unnamed {url : Http.Url} {response : Http.Response} {failure : Failure}
      (hashed : IsHashed options)
      (answer : (Http.exchange transport options.followsRedirects options.url).answer =
        .ok (url, response)) (accepted : response.refusal? url = none)
      (inside : Destination.endsInSlash options.destination = true ∨
        s.fs.isDirectory (Path.ofText options.destination).text = .ok true)
      (unnamed : (FileInfo.ofResponse url response.headers).chooseName.1 = .error failure) :
      Declines transport options s failure

/-! ## Before the path is known -/

/-- Once the response is a success, a download fails as the choice of its path does. -/
theorem fst_deliver_of_answer {url : Http.Url} {response : Http.Response}
    (answer : (Http.exchange transport options.followsRedirects options.url).answer =
      .ok (url, response)) (accepted : response.refusal? url = none)
    (unresolved : ∀ asked : Session, asked.fs = s.fs →
      ((Destination.resolve options.destination (.ofResponse url response.headers)).runOn
        asked).1 = .error failure) :
    ((deliver transport options).runOn s).1 = .error failure := by
  obtain ⟨asked, asks, same⟩ := request_of_answer answer accepted s
  rw [deliver, Action.runOn_bind, asks]
  exact Action.fst_bind_of_error (unresolved asked same)

/-- A file is delivered nowhere for the reasons to decline, if its digest can be computed. -/
theorem declines_of_deliver (hashed : IsHashed options)
    (run : (deliver transport options).runOn s = (.error failure, s')) :
    Declines transport options s failure := by
  rcases Action.runOn_bind_eq_error.mp run with asks | ⟨⟨url, response⟩, asked, asks, run⟩
  · rcases request_error asks with unanswered | ⟨url, response, answer, refusal⟩
    · exact .unanswered hashed unanswered
    · exact .refused hashed answer refusal
  obtain ⟨answer, accepted, same⟩ := request_ok asks
  rcases Action.runOn_bind_eq_error.mp run with resolves | ⟨_, _, -, run⟩
  · rcases Destination.fst_resolve_eq_error_iff.mp (congrArg Prod.fst resolves) with
      ⟨unmarked, unclear⟩ | ⟨inside, unnamed⟩
    · exact .unclear hashed answer accepted unmarked (same ▸ unclear)
    · exact .unnamed hashed answer accepted (same ▸ inside) unnamed
  · cases run

omit [Platform] in
theorem lacks_hasher_iff :
    (options.expected.isSome && options.hasher.isNone) = true ↔ ¬ IsHashed options := by
  rw [IsHashed]
  cases options.expected <;> cases options.hasher <;> simp

/-- A download whose digest can be computed finds out where the file goes. -/
theorem locate_of_isHashed (hashed : IsHashed options) :
    locate transport options = deliver transport options := by
  rw [locate, if_neg fun lacks => lacks_hasher_iff.mp lacks hashed]

/-- A download whose digest nothing computes asks for nothing. -/
theorem runOn_locate_of_unhashed (unhashed : ¬ IsHashed options) :
    (locate transport options).runOn s = (.error .checksumWithoutAlgorithm, s) := by
  rw [locate, if_pos (lacks_hasher_iff.mpr unhashed)]
  rfl

/-- Finding out where a file goes fails exactly for the reasons to decline. -/
theorem fst_locate_eq_error_iff :
    ((locate transport options).runOn s).1 = .error failure ↔
      Declines transport options s failure := by
  constructor
  · intro fails
    rcases run : (locate transport options).runOn s with ⟨outcome, s'⟩
    rw [run] at fails
    obtain rfl : outcome = .error failure := fails
    by_cases hashed : IsHashed options
    · rw [locate_of_isHashed hashed] at run
      exact declines_of_deliver hashed run
    · rw [runOn_locate_of_unhashed hashed] at run
      obtain rfl := Except.error.inj (Prod.mk.inj run).1
      exact .unhashed hashed
  · rintro (unhashed | ⟨hashed, unanswered⟩ | ⟨hashed, answer, refusal⟩ |
      ⟨hashed, answer, accepted, unmarked, unclear⟩ | ⟨hashed, answer, accepted, inside, unnamed⟩)
    · rw [runOn_locate_of_unhashed unhashed]
    all_goals rw [locate_of_isHashed hashed]
    · refine Action.fst_bind_of_error ?_
      simp only [request, Action.runOn_bind, Action.runOn_modify, Action.runOn_ofExcept, unanswered]
    · refine Action.fst_bind_of_error ?_
      simp only [request, Action.runOn_bind, Action.runOn_modify, Action.runOn_ofExcept, answer,
        refusal, Action.runOn_throw]
    · refine fst_deliver_of_answer answer accepted fun asked same => ?_
      exact Destination.fst_resolve_eq_error_iff.mpr (.inl ⟨unmarked, same ▸ unclear⟩)
    · refine fst_deliver_of_answer answer accepted fun asked same => ?_
      exact Destination.fst_resolve_eq_error_iff.mpr (.inr ⟨same ▸ inside, unnamed⟩)

/-! ## The whole download -/

/-- A download that is completed is not one that was skipped. -/
theorem isSkipped_of_complete {delivery : Delivery} {result : DownloadResult}
    (run : (complete options delivery).runOn s = (.ok result, s')) : result.isSkipped = false := by
  obtain ⟨_, _, -, run⟩ := Action.runOn_bind_eq_ok.mp run
  obtain ⟨⟨count, sink⟩, _, -, run⟩ := Action.runOn_bind_eq_ok.mp run
  obtain ⟨_, _, -, run⟩ := Action.runOn_bind_eq_ok.mp run
  obtain ⟨digest, _, -, run⟩ := Action.runOn_bind_eq_ok.mp run
  cases digest with
  | none =>
    obtain ⟨same, -⟩ := Prod.mk.inj run
    rw [← Except.ok.inj same]
  | some digest =>
    obtain ⟨_, _, -, run⟩ := Action.runOn_bind_eq_ok.mp run
    obtain ⟨same, -⟩ := Prod.mk.inj run
    rw [← Except.ok.inj same]

/-- A download without a hasher to be had makes directories at most. -/
theorem complete_of_unstarted (delivery : Delivery) {choice : HasherChoice}
    (chosen : options.hasher = some choice) (unstarted : choice.start = .error failure)
    (tree : s.fs.IsTree) :
    Grows Destination.directoryMode s.fs ((complete options delivery).runOn s).2.fs := by
  -- The hasher is started after the directories are made, and before the file is opened.
  have grown := (leaves_setUp options delivery.path s tree).1
  rcases setsUp : (setUp options delivery.path).runOn s with ⟨other | hasher, ready⟩
  · rw [setsUp] at grown
    rw [complete, Action.runOn_bind, setsUp]
    exact grown
  · have starts := (setUp_ok setsUp).1
    rw [chosen, startHasher?, unstarted] at starts
    cases starts

/-- A download that is skipped, or that ends before its path is known, leaves the file system as it
was. Without a hasher to be had it changes no file, brings none and takes none away, however it
ends. -/
theorem run_abstains (transport : Http.Transport) (options : DownloadOptions) (s : Session) :
    (∀ result, ((run transport options).runOn s).1 = .ok result → result.isSkipped = true →
        ((run transport options).runOn s).2.fs = s.fs) ∧
      (∀ failure, Declines transport options s failure →
        ((run transport options).runOn s).1 = .error failure ∧
          ((run transport options).runOn s).2.fs = s.fs) ∧
      ∀ choice failure, options.hasher = some choice → choice.start = .error failure →
        s.fs.IsTree → KeepsFiles s.fs ((run transport options).runOn s).2.fs ∧
          KeepsFiles ((run transport options).runOn s).2.fs s.fs := by
  have found := leaves_locate transport options s
  refine ⟨fun result succeeds skipped => ?_, fun failure declines => ?_,
    fun choice failure chosen unstarted tree => ?_⟩
  · rcases run : (run transport options).runOn s with ⟨outcome, s'⟩
    rw [run] at succeeds
    obtain rfl : outcome = .ok result := succeeds
    cases runs run with
    | skipped locates _ _ same => exact same.trans (fs_of_locate locates)
    | completed _ _ _ completes => cases skipped.symm.trans (isSkipped_of_complete completes)
  · rw [← fst_locate_eq_error_iff] at declines
    rcases locating : (locate transport options).runOn s with ⟨outcome, located⟩
    rw [locating] at declines found
    obtain rfl : outcome = .error failure := declines
    rw [Download.run, Action.runOn_bind, locating]
    exact ⟨rfl, found⟩
  · have whole {fs : FileSystem} (same : fs = s.fs) : KeepsFiles s.fs fs ∧ KeepsFiles fs s.fs := by
      rw [same]
      exact ⟨.refl s.fs, .refl s.fs⟩
    rcases run : (run transport options).runOn s with ⟨outcome, s'⟩
    cases runs run with
    | unlocated unlocated =>
      rw [unlocated] at found
      exact whole found
    | unclear locates => exact whole (fs_of_locate locates)
    | skipped locates _ _ same => exact whole (same.trans (fs_of_locate locates))
    | @completed delivery located _ _ _ locates _ _ completes =>
      have same := fs_of_locate locates
      have grows := complete_of_unstarted delivery chosen unstarted (same ▸ tree)
      rw [completes, same] at grows
      exact ⟨grows.keepsFiles, grows.keepsFiles_back⟩

end

/-- A working directory with one file. -/
def holding : FileSystem := (FileSystem.empty [] 0o022).put ["x".toList] (.file [7] none)

theorem isTree_holding : holding.IsTree :=
  (isTree_empty [] 0o022).put (hasDirectory_nil _) rfl _

/-- A server that has nothing. -/
def lacking : Http.Transport := fun _ => .ok { status := 404, headers := ⟨[]⟩, body := [] }

/-- A download that replaces a file, under an algorithm that nobody knows. -/
def replacing : DownloadOptions := { plain "x" with force := true, hasher := some (.named "crc") }

/-- A file is left alone by a download that is skipped, by one that is refused, and by one under an
algorithm that nobody knows, though the file is to be replaced. -/
theorem run_abstains_of_holding :
    (∃ result, ((run (serving [.chunk [1]]) (plain "x")).runOn (.start holding none)).1 =
        .ok result ∧ result.isSkipped = true ∧
          ((run (serving [.chunk [1]]) (plain "x")).runOn (.start holding none)).2.fs = holding) ∧
      (∃ failure, Declines lacking (plain "y") (.start holding none) failure ∧
        ((run lacking (plain "y")).runOn (.start holding none)).1 = .error failure ∧
          ((run lacking (plain "y")).runOn (.start holding none)).2.fs = holding) ∧
      KeepsFiles holding ((run (serving [.chunk [1]]) replacing).runOn (.start holding none)).2.fs ∧
        KeepsFiles ((run (serving [.chunk [1]]) replacing).runOn (.start holding none)).2.fs
          holding := by
  have hashed : IsHashed (plain "y") := nofun
  have declines : Declines lacking (plain "y") (.start holding none) _ := .refused hashed rfl rfl
  exact ⟨⟨_, rfl, rfl, (run_abstains _ _ _).1 _ rfl rfl⟩,
    ⟨_, declines, (run_abstains _ _ _).2.1 _ declines⟩,
    (run_abstains (serving [.chunk [1]]) replacing (.start holding none)).2.2 _ _ rfl rfl
      isTree_holding⟩

end SafeFetch.Download
