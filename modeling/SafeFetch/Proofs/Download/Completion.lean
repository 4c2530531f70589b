import SafeFetch.Proofs.Ancestors
import SafeFetch.Proofs.Download.Stages
import SafeFetch.Proofs.Http.Exchange

/-!
# Completed downloads

A download that succeeds and was not skipped has copied the whole body of the last response. What it
leaves is the file at the path that was chosen for the response, which holds the chunks of the body
and nothing else, with the instant that the response tells, if it tells one. Of everything else, at
most the directories on the way to the file are new.

## Main definitions

* `Completes`: how a download that writes a file succeeds;
* `IsFilled`: a file has been filled, and nothing else has changed.

## Main results

* `complete_ok`: a download that writes a file and succeeds has done each of its stages;
* `run_of_unskipped`: what a download leaves that succeeds and was not skipped.
-/

namespace SafeFetch

/-- The instant that a date names, if it is a valid one. -/
def Http.Date.validInstant? (date : String) : Option Int := (instant? date).toOption.join

/-- The instant that is read from a header is the one of its date. -/
theorem FileInfo.eq_of_modifiedAt {info : FileInfo} {modified : Option Int}
    (dated : info.modifiedAt.1 = .ok modified) :
    modified = info.lastModified.bind Http.Date.validInstant? := by
  rw [modifiedAt] at dated
  cases header : info.lastModified with
  | none =>
    rw [header] at dated
    exact (Except.ok.inj dated).symm
  | some date =>
    rw [header] at dated
    by_cases empty : date = ""
    · subst empty
      exact (Except.ok.inj dated).symm
    · have said : (some date).filter (!·.isEmpty) = some date := by simpa using empty
      rw [said] at dated
      dsimp only at dated
      rw [Option.bind_some, Http.Date.validInstant?]
      rcases read : Http.Date.instant? date with fault | _ | instant
      all_goals
        rw [read] at dated
        cases dated
      · rfl
      · rfl

namespace Download

open SafeFetch.FileSystem SafeFetch.Transfer SafeFetch.Destination

variable {s s' : Session} {transport : Http.Transport} {options : DownloadOptions} {path : Path}
  {delivery : Delivery} {hasher : Option Hasher} {body : List Item} {info : FileInfo}
  {fs fs' : FileSystem} {place : Place} {bytes : List UInt8} {count : Nat} {sink : Sink}
  {result : DownloadResult}

section

variable [Platform]

/-! ## Stages that succeed -/

/-- A file that is filled takes the whole body, and its bytes are counted. -/
theorem fill_ok {url : String} (tree : s.fs.IsTree)
    (run : (fill url path hasher body).runOn s = (.ok (count, sink), s')) :
    ∃ place chunks, Opens s.fs path.text place ∧ received? body = some chunks.flatten ∧
      count = chunks.flatten.length ∧ sink = (freshSink path hasher).after chunks ∧
        s'.fs = s.fs.store place chunks.flatten := by
  have fills := fills tree run
  generalize s'.fs = after at fills ⊢
  cases fills with
  | @filled place chunks _ opens copied received =>
    -- The count is that of the chunks that were handed over, which are all that was received.
    obtain ⟨handed, -, -, counts⟩ := copy_after (.stream body) (freshSink path hasher) s.signal
    obtain ⟨received', counted⟩ := counts count copied
    obtain same := Option.some.inj (received.symm.trans received')
    exact ⟨place, chunks, opens, received, same ▸ counted, rfl, rfl⟩

omit [Platform] in
/-- A complete file that is finished has the instant that the response tells. -/
theorem finish_ok (tree : fs.IsTree) (opens : Opens fs path.text place)
    (stored : s.fs = fs.store place bytes)
    (run : (finish options info path count sink).runOn s = (.ok result, s')) :
    ∃ modified digest, info.modifiedAt.1 = .ok modified ∧
      digestOf? sink.firstHasher? = .ok digest ∧
        result = { path, bytesWritten := count, digest, isSkipped := false } ∧
          s'.fs = fs.put place (.file bytes modified) := by
  obtain ⟨isStamped, stamped, stamps, run⟩ := Action.runOn_bind_eq_ok.mp run
  rcases stamp_cases tree opens stored stamps with
    ⟨failure, failed, -, -⟩ | ⟨_, modified, -, dated, left⟩
  · cases failed
  obtain ⟨digest, digested, digests, run⟩ := Action.runOn_bind_eq_ok.mp run
  rw [Action.runOn_ofExcept] at digests
  obtain ⟨isDigest, rfl⟩ := Prod.mk.inj digests
  refine ⟨modified, digest, dated, isDigest, ?_⟩
  cases digest with
  | none =>
    obtain ⟨same, rfl⟩ := Prod.mk.inj run
    exact ⟨(Except.ok.inj same).symm, left⟩
  | some actual =>
    -- A digest that is checked and accepted leaves the file as it is.
    obtain ⟨_, checked, checks, run⟩ := Action.runOn_bind_eq_ok.mp run
    obtain ⟨same, rfl⟩ := Prod.mk.inj run
    rcases check_cases tree opens left checks with
      ⟨-, kept, -⟩ | ⟨_, _, ⟨_, failed, _⟩ | ⟨_, failed, _⟩⟩
    · exact ⟨(Except.ok.inj same).symm, kept⟩
    · cases failed
    · cases failed

/-- A download that writes a file succeeds: it was set up for, all of the body was received into the
file that its path opens, and the file was stamped and has its digest. -/
inductive Completes (options : DownloadOptions) (delivery : Delivery) (s : Session) :
    DownloadResult → FileSystem → Prop
  | intro {hasher : Option Hasher} {ready : Session} {place : Place}
      {chunks : List (List UInt8)} {modified : Option Int} {digest : Option (List UInt8)}
      (setsUp : (setUp options delivery.path).runOn s = (.ok hasher, ready))
      (opens : Opens ready.fs delivery.path.text place)
      (received : received? delivery.response.bodyItems = some chunks.flatten)
      (dated : delivery.info.modifiedAt.1 = .ok modified)
      (digested : digestOf? (hasher.map (hasherAfter · chunks)) = .ok digest) :
      Completes options delivery s
        { path := delivery.path, bytesWritten := chunks.flatten.length, digest, isSkipped := false }
        (ready.fs.put place (.file chunks.flatten modified))

/-- A download that writes a file and succeeds has done each of its stages. -/
theorem complete_ok (tree : s.fs.IsTree)
    (run : (complete options delivery).runOn s = (.ok result, s')) :
    Completes options delivery s result s'.fs := by
  obtain ⟨hasher, ready, setsUp, run⟩ := Action.runOn_bind_eq_ok.mp run
  have grown := leaves_setUp options delivery.path s tree
  rw [setsUp] at grown
  obtain ⟨⟨count, sink⟩, full, filling, run⟩ := Action.runOn_bind_eq_ok.mp run
  obtain ⟨place, chunks, opens, received, rfl, rfl, stored⟩ := fill_ok grown.2 filling
  obtain ⟨modified, digest, dated, digested, rfl, left⟩ := finish_ok grown.2 opens stored run
  rw [firstHasher?_after] at digested
  rw [left]
  exact ⟨setsUp, opens, received, dated, digested⟩

/-- A download that succeeds and was not skipped has found out where its file goes, and has written
it. -/
theorem completes_of_run (tree : s.fs.IsTree)
    (run : (run transport options).runOn s = (.ok result, s'))
    (unskipped : result.isSkipped = false) :
    ∃ delivery located, (locate transport options).runOn s = (.ok delivery, located) ∧
      Completes options delivery located result s'.fs := by
  cases runs run with
  | skipped => cases unskipped
  | completed locates _ _ completes =>
    have same := fs_of_locate locates
    exact ⟨_, _, locates, complete_ok (same ▸ tree) completes⟩

/-! ## What is left -/

/-- A file has been filled: its path leads to it, with the given bytes and instant, and nothing else
has changed, except that directories on the way to it may have been made. -/
structure IsFilled (fs fs' : FileSystem) (path : Path) (bytes : List UInt8)
    (modified : Option Int) : Prop where
  home : fs'.workingDirectory = fs.workingDirectory
  umask : fs'.umask = fs.umask
  others : ∃ place, fs'.spotAt .followsLink path.text = .ok (.entry place (.file bytes modified)) ∧
    ∀ other, other ≠ place → fs'.get? other = fs.get? other ∨ IsMadeFor fs fs' path other

omit [Platform] in
/-- A file that has been filled can be read. -/
theorem IsFilled.read_eq {modified : Option Int} (filled : IsFilled fs fs' path bytes modified) :
    fs'.read path.text = .ok bytes := by
  obtain ⟨place, found, -⟩ := filled.others
  exact read_eq_ok_iff.mpr ⟨modified, stat_eq_ok_iff.mpr ⟨place, found⟩⟩

/-- A download that writes a file leaves it filled with the whole body. -/
theorem Completes.isFilled (tree : s.fs.IsTree)
    (completes : Completes options delivery s result fs') :
    ∃ modified, delivery.info.modifiedAt.1 = .ok modified ∧
      result.path = delivery.path ∧
        result.bytesWritten = delivery.response.contents.length ∧
          IsFilled s.fs fs' delivery.path delivery.response.contents modified := by
  obtain @⟨hasher, ready, place, chunks, modified, digest, setsUp, opens, received, dated, -⟩ :=
    completes
  obtain ⟨-, prepared, prepares, same⟩ := setUp_ok setsUp
  have grown := leaves_prepare delivery.path s tree
  rw [prepares, ← same] at grown
  obtain ⟨grows, tree'⟩ := grown
  obtain ⟨-, opens', file⟩ := opens.written tree' chunks.flatten modified
  have whole := Http.Response.eq_contents_of_received? received
  rw [← whole]
  refine ⟨modified, dated, rfl, rfl, grows.home, grows.umask, place, ?_, ?_⟩
  · rw [opens'.spotAt_followsLink, file, Spot.of]
  · intro other off
    -- Elsewhere there is what making ready has left, on the way to the file or as before.
    rw [get?_put_of_ne ready.fs off]
    rcases prepare_isMadeFor tree prepares other with kept | made
    · rw [← same] at kept
      exact .inl kept
    · rw [← same] at made
      exact .inr (made.put tree' opens.takes)

/-- A download that succeeds and was not skipped leaves the whole body of the last response in the
file at the path that was to be chosen for it. The file has the instant that the response tells as
its last modification, if it tells a valid one, and nothing else changes but for directories on the
way. -/
theorem run_of_unskipped (tree : s.fs.IsTree)
    (run : (run transport options).runOn s = (.ok result, s'))
    (unskipped : result.isSkipped = false) :
    ∃ last response,
      (Http.exchange transport options.followsRedirects options.url).IsAnswered transport last
        response ∧
      ((Destination.resolve options.destination (.ofResponse last response.headers)).runOn s).1 =
        .ok result.path ∧
      s'.fs.read result.path.text = .ok response.contents ∧
      result.bytesWritten = response.contents.length ∧
      IsFilled s.fs s'.fs result.path response.contents
        ((response.headers.get? "last-modified").bind Http.Date.validInstant?) := by
  obtain ⟨delivery, located, locates, completes⟩ := completes_of_run tree run unskipped
  obtain ⟨answer, -, asked, sameAsked, resolves⟩ := deliver_ok (deliver_of_locate locates)
  have same := fs_of_locate locates
  obtain ⟨modified, dated, isPath, counted, filled⟩ := completes.isFilled (same ▸ tree)
  -- The header of the response tells the instant.
  obtain rfl := FileInfo.eq_of_modifiedAt dated
  rw [same] at filled
  rw [isPath]
  refine ⟨delivery.url, delivery.response, Http.exchange_answer answer, ?_, filled.read_eq, counted,
    filled⟩
  rw [fst_resolve, ← sameAsked, ← fst_resolve]
  exact congrArg Prod.fst resolves

end

/-! ## A file after a redirect -/

/-- A field of a header. -/
def fieldOf (name value : String) : Http.Field where
  name := Text.Utf8.encode name.toList
  value := Text.Utf8.encode value.toList

/-- A response of three bytes, with a date. -/
def dated : Http.Response where
  status := 200
  headers := ⟨[fieldOf "Last-Modified" "Thu, 01 Jan 1970 00:00:07 GMT"]⟩
  body := [.chunk [1], .chunk [], .chunk [2, 3]]

/-- A server that redirects to this response. -/
def redirecting : Http.Transport := .ofRoutes [
  ("http://h/a", .ok { status := 302, headers := ⟨[fieldOf "Location" "/b"]⟩, body := [] }),
  ("http://h/b", .ok dated)]

/-- The result of its download into a directory that is not there yet. -/
def redirected : DownloadResult where
  path := .ofText "d/out"
  bytesWritten := 3
  digest := none
  isSkipped := false

/-- The body after a redirect is in the file, and its date is that of the file. -/
theorem run_of_redirect :
    (FileSystem.empty [] 0o022).IsTree ∧ redirected.isSkipped = false ∧
      ∃ s', (run redirecting (plain "d/out")).runOn (.start (.empty [] 0o022) none) =
          (.ok redirected, s') ∧
        s'.fs.read "d/out" = .ok [1, 2, 3] ∧
          IsFilled (.empty [] 0o022) s'.fs (.ofText "d/out") [1, 2, 3] (some 7) := by
  have tree := isTree_empty [] 0o022
  have computed : ((run redirecting (plain "d/out")).runOn
      (.start (.empty [] 0o022) none)).1.toOption = some redirected := by decide +kernel
  have runs := Action.runOn_of_toOption computed
  obtain ⟨last, response, answered, -, read, -, filled⟩ := run_of_unskipped tree runs rfl
  -- The last response is the one that the server redirects to.
  have answer : (Http.exchange redirecting true "http://h/a").answer.toOption.map Prod.snd =
      some dated := by decide +kernel
  have ends : (Http.exchange redirecting true "http://h/a").answer = .ok (last, response) :=
    answered.ends
  rw [ends] at answer
  obtain rfl : response = dated := Option.some.inj answer
  have isDate : (dated.headers.get? "last-modified").bind Http.Date.validInstant? = some 7 := by
    decide +kernel
  rw [isDate] at filled
  exact ⟨tree, rfl, _, runs, read, filled⟩

end Download

end SafeFetch
