import SafeFetch.Proofs.Download.Stages
import SafeFetch.Proofs.FileInfo
import SafeFetch.Proofs.FileSystem.Member
import SafeFetch.Proofs.FileSystem.Unlinked

/-!
# Downloads in either order

Two downloads into one directory, whose files get different names there. Neither of them sees the
file of the other, however they end: whether a file is complete, is left alone, has another digest
than it should have, or cannot be completed and is removed. So it does not matter which of them runs
first.

## Main definitions

* `name?`: the name that is chosen for the response to a download.

## Main results

* `touches_run`: a download into a directory touches the place of its name there;
* `run_commutes`: downloads into a directory under different names can be run in either order.
-/

namespace SafeFetch.Download

open SafeFetch.FileSystem SafeFetch.Transfer

section

variable [Platform]

/-- The name that is chosen for the response to a download, if that is a success and has one. -/
def name? (transport : Http.Transport) (options : DownloadOptions) : Option String :=
  match (Http.exchange transport options.followsRedirects options.url).answer with
  | .ok (url, response) =>
    if (response.refusal? url).isSome then none
    else (FileInfo.ofResponse url response.headers).chooseName.1.toOption
  | .error _ => none

/-- The names that are chosen for the response to a download: one, or none. -/
def chosenNames (transport : Http.Transport) (options : DownloadOptions) : Set (List Char) :=
  {chars | ∃ name, name? transport options = some name ∧ name.toList = chars}

variable {s s' : Session} {transport transport' : Http.Transport}
  {options options' : DownloadOptions} {directory : Path} {above : Place}
  {names : Set (List Char)} {name : List Char} {places : Set Place}
  {isReady : FileSystem → Prop} {hasher : Option Hasher}

/-! ## Before the body -/

omit [Platform] in
/-- Asking for a file touches no place. -/
theorem touches_request (transport : Http.Transport) (options : DownloadOptions) :
    Action.Touches isReady places (request transport options) := by
  refine .bind (.of_idle (.ok ()) fun s ready => ⟨rfl, rfl, ?_⟩) fun _ _ => ?_
  · rw [Action.runOn_modify]
    dsimp only
    split <;> simp [ready.uncancelled]
  refine .bind (.ofExcept _) fun answer _ => ?_
  dsimp only
  split
  · exact .throw _
  · exact .pure _

/-- Choosing a path in a directory touches no place. -/
theorem touches_resolve {destination : String} (into : Path.ofText destination = directory)
    (info : FileInfo) :
    Action.Touches (Hosts directory above names) places (Destination.resolve destination info) := by
  have looks : Action.Touches (Hosts directory above names) places
      (Action.query (·.isDirectory directory.text)) := by
    refine .query fun fs fs' hosts hosts' _ => ?_
    rw [isDirectory_eq_true_iff.mpr hosts.stat_eq, isDirectory_eq_true_iff.mpr hosts'.stat_eq]
  have chosen (isDirectory : Bool) : Action.Touches (Hosts directory above names) places (
      if isDirectory = true then do
        let name ← Action.reporting info.chooseName
        return directory.child name
      else return directory) := by
    split
    · exact .bind (.reporting _) fun _ _ => .pure _
    · exact .pure _
  rw [Destination.resolve]
  dsimp only
  rw [into]
  split
  · exact .bind (.pure true) fun isDirectory _ => chosen isDirectory
  · exact .bind looks fun isDirectory _ => chosen isDirectory

/-- Finding out where a file goes in a directory touches no place. -/
theorem touches_locate (into : Path.ofText options.destination = directory) :
    Action.Touches (Hosts directory above names) places (locate transport options) := by
  have delivers : Action.Touches (Hosts directory above names) places
      (deliver transport options) :=
    .bind (touches_request transport options) fun _ _ =>
      .bind (touches_resolve into _) fun _ _ => .pure _
  rw [locate]
  split
  · exact .bind (.throw _) fun _ _ => delivers
  · exact delivers

/-- The path of a file in a directory ends in the name that is chosen for the response. -/
theorem exists_name_of_locate {delivery : Delivery}
    (there : s.fs.isDirectory directory.text = .ok true)
    (into : Path.ofText options.destination = directory)
    (run : (locate transport options).runOn s = (.ok delivery, s')) :
    ∃ name ∈ chosenNames transport options, delivery.path = directory.further name := by
  obtain ⟨answer, accepted, asked, same, resolves⟩ := deliver_ok (deliver_of_locate run)
  rcases Destination.resolve_ok resolves with ⟨-, -, isNone⟩ | ⟨name, chooses, chosen⟩
  · rw [same, into, there] at isNone
    cases isNone
  · obtain ⟨candidate, kept⟩ := FileInfo.exists_sanitize?_of_chooseName chooses
    refine ⟨name.toList, ⟨name, ?_, rfl⟩, ?_⟩
    · rw [Delivery.info] at chooses
      simp [name?, answer, accepted, chooses, Except.toOption]
    · rw [chosen, into, Path.child_eq_further _ (FileName.sanitize?_proper kept).1]

/-- The name that is chosen for a response names an entry of a directory. -/
theorem isPathName_of_chosen (chosen : name ∈ chosenNames transport options) :
    isPathName name = true ∧ name ≠ ['.', '.'] := by
  obtain ⟨name, isName, rfl⟩ := chosen
  rw [name?] at isName
  split at isName
  · split at isName
    · cases isName
    · obtain ⟨candidate, kept⟩ :=
        FileInfo.exists_sanitize?_of_chooseName (Action.eq_ok_of_toOption isName)
      exact FileName.sanitize?_proper kept
  · cases isName

/-! ## The file -/

/-- Making ready for a file in a directory touches no place. -/
theorem touches_setUp (options : DownloadOptions) :
    Action.Touches (Hosts directory above names) places
      (setUp options (directory.further name)) := by
  refine .bind (.of_idle (.ok ()) fun s ready => ?_) fun _ _ =>
    .bind (.ofExcept _) fun _ _ => .bind (.report _ _) fun _ _ => .pure _
  obtain ⟨mode, there⟩ := ready.ready.stat_eq
  rw [← Path.parent_further directory name] at there
  rw [Destination.prepare_of_directory there]
  exact ⟨rfl, rfl, ready.uncancelled⟩

/-- A copy that cannot be cancelled leaves no signal behind. -/
theorem signal_copyOf (path : Path) (hasher : Option Hasher) (body : List Item) :
    (copyOf path hasher body none).2.signal = none := by
  have stays := isSome_signal_copy (.stream body) (freshSink path hasher) none
  simpa [copyOf] using stays

/-- Write a body to a file in one change, as far as a copy comes that cannot be cancelled. -/
def writeAtOnce (path : Path) (hasher : Option Hasher) (body : List Item) :
    Action (Nat × Sink) := do
  let copied := copyOf path hasher body none
  Action.change fun fs => (fs.create path.text).map fun opened =>
    opened.2.store opened.1 (contentsOf copied.2.sink)
  Action.ofExcept (copied.1.map (·, copied.2.sink))

/-- Without a signal a body is written in one change. -/
theorem runOn_writeBody_of_uncancelled (path : Path) (hasher : Option Hasher) (body : List Item)
    (uncancelled : s.signal = none) :
    (writeBody path hasher body).runOn s = (writeAtOnce path hasher body).runOn s := by
  rw [runOn_writeBody, writeAtOnce]
  dsimp only
  rw [Action.runOn_bind, Action.runOn_change, uncancelled]
  rcases s.fs.create path.text with failure | ⟨place, fs⟩
  · rfl
  · simp only [Except.map, Action.runOn_ofExcept, signal_copyOf]

/-- Writing a body to a file in a directory touches the place of its name. -/
theorem touches_writeBody (isIn : name ∈ names) (isThere : name :: above ∈ places)
    (body : List Item) :
    Action.Touches (Hosts directory above names) places
      (writeBody (directory.further name) hasher body) := by
  refine .congr (fun s uncancelled => runOn_writeBody_of_uncancelled _ _ _ uncancelled) ?_
  exact .bind (.change (Hosts.isLocal_store isIn _) isThere) fun _ _ => .ofExcept _

omit [Platform] in
/-- Removing a file in a directory touches the place of its name. -/
theorem touches_removeIfPresent (isIn : name ∈ names) (isThere : name :: above ∈ places) :
    Action.Touches (Hosts directory above names) places
      (Action.change (·.removeIfPresent (directory.further name).text)) :=
  .change (Hosts.isLocal_removeIfPresent isIn) isThere

/-- Filling a file in a directory touches the place of its name. -/
theorem touches_fill (isIn : name ∈ names) (isThere : name :: above ∈ places) (url : String)
    (body : List Item) :
    Action.Touches (Hosts directory above names) places
      (fill url (directory.further name) hasher body) :=
  .onFailure (touches_writeBody isIn isThere body) fun _ =>
    .bind (.report _ _) fun _ _ => touches_removeIfPresent isIn isThere

omit [Platform] in
/-- Checking a digest touches the place of the file, which may be removed. -/
theorem touches_check (isIn : name ∈ names) (isThere : name :: above ∈ places)
    (options : DownloadOptions) (digest : List UInt8) :
    Action.Touches (Hosts directory above names) places
      (check (directory.further name) options digest) := by
  rw [check]
  split
  · exact .pure ()
  · refine .bind (.ofExcept _) fun wanted _ => ?_
    split
    · refine .bind (.report _ _) fun _ _ => ?_
      split
      · exact .bind (touches_removeIfPresent isIn isThere) fun _ _ => .throw _
      · exact .throw _
    · exact .pure ()

omit [Platform] in
/-- Finishing a file in a directory touches the place of its name. -/
theorem touches_finish (isIn : name ∈ names) (isThere : name :: above ∈ places)
    (options : DownloadOptions) (info : FileInfo) (count : Nat) (sink : Sink) :
    Action.Touches (Hosts directory above names) places
      (finish options info (directory.further name) count sink) := by
  have stamps : Action.Touches (Hosts directory above names) places
      (Destination.stamp info (directory.further name).text) := by
    refine .bind (.reporting _) fun modified _ => ?_
    split
    · exact .bind (.change (Hosts.isLocal_setModified isIn _) isThere) fun _ _ => .pure _
    · exact .pure _
  refine .bind stamps fun _ _ => .bind (.ofExcept _) fun digest _ => ?_
  dsimp only
  split
  · exact .bind (touches_check isIn isThere options _) fun _ _ => .pure _
  · exact .pure _

/-- Writing a file in a directory touches the place of its name. -/
theorem touches_complete {delivery : Delivery} (isIn : name ∈ names)
    (isThere : name :: above ∈ places) (options : DownloadOptions)
    (isPath : delivery.path = directory.further name) :
    Action.Touches (Hosts directory above names) places (complete options delivery) := by
  rw [complete]
  dsimp only
  rw [isPath]
  exact .bind (touches_setUp options) fun hasher _ =>
    .bind (touches_fill isIn isThere _ _) fun written _ =>
      touches_finish isIn isThere options _ written.1 written.2

/-! ## Whole downloads -/

/-- A download into a directory touches the place of the name that is chosen for its file. -/
theorem touches_run (into : Path.ofText options.destination = directory)
    (among : chosenNames transport options ⊆ names) :
    Action.Touches (Hosts directory above names) ((· :: above) '' chosenNames transport options)
      (run transport options) := by
  refine .bind (touches_locate into) fun delivery ⟨s, s', ready, located⟩ => ?_
  obtain ⟨name, chosen, isPath⟩ :=
    exists_name_of_locate (isDirectory_eq_true_iff.mpr ready.ready.stat_eq) into located
  have isThere : name :: above ∈ (· :: above) '' chosenNames transport options :=
    ⟨name, chosen, rfl⟩
  have looks : Action.Touches (Hosts directory above names)
      ((· :: above) '' chosenNames transport options)
      (Action.query (·.leadsSomewhere delivery.path.text)) := by
    refine .query fun fs fs' hosts hosts' agrees => ?_
    rw [isPath]
    exact hosts.leadsSomewhere_eq hosts' (among chosen) (agrees.get?_eq isThere)
  refine .bind looks fun isTaken _ => ?_
  split
  · exact .bind (.report _ _) fun _ _ => .pure _
  · exact touches_complete (among chosen) isThere options isPath

/-- Downloads into one directory can be run in either order if their files get different names and
no links stand there: each ends in the same way, and leaves the same file or none. -/
theorem run_commutes (tree : s.fs.IsTree) (uncancelled : s.signal = none)
    (there : s.fs.isDirectory directory.text = .ok true)
    (into : Path.ofText options.destination = directory)
    (into' : Path.ofText options'.destination = directory)
    (differ : ∀ name, name? transport options = some name →
      name? transport' options' ≠ some name)
    (unlinked : ∀ name,
      name? transport options = some name ∨ name? transport' options' = some name →
        ∀ place target,
          s.fs.spotAt .keepsLink (directory.child name).text ≠ .ok (.entry place (.link target))) :
    Action.Commutes (run transport options) (run transport' options') s := by
  obtain ⟨mode, leads⟩ := isDirectory_eq_true_iff.mp there
  obtain ⟨above, found⟩ := stat_eq_ok_iff.mp leads
  have named {name : List Char}
      (chosen : name ∈ chosenNames transport options ∪ chosenNames transport' options') :
      isPathName name = true ∧ name ≠ ['.', '.'] :=
    chosen.elim isPathName_of_chosen isPathName_of_chosen
  have hosts : Hosts directory above
      (chosenNames transport options ∪ chosenNames transport' options') s.fs := by
    refine ⟨tree, into ▸ Path.isProper_ofText _, named, ⟨mode, found⟩, fun {name} chosen => ?_⟩
    have isName := (named chosen).1
    rcases chosen with ⟨word, isWord, rfl⟩ | ⟨word, isWord, rfl⟩
    · rw [← Path.child_eq_further directory isName]
      exact unlinked word (.inl isWord)
    · rw [← Path.child_eq_further directory isName]
      exact unlinked word (.inr isWord)
  -- Different names stand at different places of the directory.
  have apart : ∀ place ∈ (· :: above) '' chosenNames transport options,
      place ∉ (· :: above) '' chosenNames transport' options' := by
    rintro _ ⟨_, ⟨name, isName, rfl⟩, rfl⟩ ⟨_, ⟨other, isOther, rfl⟩, same⟩
    obtain rfl := String.toList_inj.mp (List.cons.inj same).1
    exact differ other isName isOther
  exact (touches_run into Set.subset_union_left).commutes (touches_run into' Set.subset_union_right)
    apart ⟨uncancelled, hosts⟩

end

/-- A download whose body breaks off, and one of another file that is complete. -/
theorem commutes_of_interrupted :
    (FileSystem.empty [] 0o022).IsTree ∧
      (FileSystem.empty [] 0o022).isDirectory (Path.ofText ".").text = .ok true ∧
      name? (serving [.chunk [1], .fault .missingChunk]) (plain ".") = some "a" ∧
      name? (serving [.chunk [2]]) { plain "." with url := "http://h/b" } = some "b" ∧
      Action.Commutes (run (serving [.chunk [1], .fault .missingChunk]) (plain "."))
        (run (serving [.chunk [2]]) { plain "." with url := "http://h/b" })
        (.start (.empty [] 0o022) none) := by
  have tree := isTree_empty [] 0o022
  have there : (FileSystem.empty [] 0o022).isDirectory (Path.ofText ".").text = .ok true := by
    decide +kernel
  have first : name? (serving [.chunk [1], .fault .missingChunk]) (plain ".") = some "a" := by
    decide +kernel
  have second : name? (serving [.chunk [2]]) { plain "." with url := "http://h/b" } = some "b" := by
    decide +kernel
  refine ⟨tree, there, first, second, run_commutes tree rfl there rfl rfl ?_ ?_⟩
  · intro name isFirst isSecond
    rw [first] at isFirst
    rw [second, ← Option.some.inj isFirst] at isSecond
    exact absurd isSecond (by decide)
  · exact fun name _ place target => (isUnlinked_empty [] 0o022).spotAt_ne place target

end SafeFetch.Download
