import SafeFetch.Manifest
import SafeFetch.Proofs.Destination
import SafeFetch.Proofs.Json
import SafeFetch.Proofs.Utf8

/-!
# The document in a manifest

A manifest that was written stands at its path as plain ASCII, and holds a document that says what
was asked for: where the files come from and when, and for each file in order its path, its digest
and the size that it had before the manifest was written.

## Main definitions

* `Manifest.Weighs`: the size of the file that a path leads to, if it can be looked up;
* `Manifest.Tells`: what a document says of one file.

## Main results

* `Manifest.mapM_entryOf_eq_ok_iff`: files that are listed have one entry each, in order;
* `Manifest.write_ok` and `Manifest.stat_of_write`: what is left by writing a manifest;
* `Manifest.document_of_write`: the document that is read back from it.
-/

namespace SafeFetch

open SafeFetch.FileSystem SafeFetch.Text

namespace Manifest

variable {fs : FileSystem} {s s' : Session} {base path target : Path}
  {file : Path × Option String} {files : List (Path × Option String)}
  {entry : ManifestEntry} {entries : List ManifestEntry} {sourceUrl downloadedAt : String}
  {sources : List String}

section

variable [Platform]

/-! ## Entries -/

/-- The size of the file that a path leads to; none if the path cannot be looked up. -/
def Weighs (fs : FileSystem) (path : Path) : Option Nat → Prop
  | some size => ∃ entry, fs.stat path.text = .ok entry ∧ entrySize entry = size
  | none => ∃ error place, fs.stat path.text = .error (.system error place)

/-- What a document says of one file: its path as it is seen from a directory, its digest and its
size, null for what there is none of. -/
def Tells (fs : FileSystem) (base : Path) (file : Path × Option String) (document : JsonValue) :
    Prop :=
  ∃ size, Weighs fs file.1 size ∧ document = .object [
    ("path".toList, .text (shownPath base file.1).text.toList),
    ("file_hash".toList, (file.2.map fun digits => .text digits.toList).getD .null),
    ("size".toList, (size.map .number).getD .null)]

/-- A path has one size. -/
theorem Weighs.unique {size size' : Option Nat} (weighs : Weighs fs path size)
    (weighs' : Weighs fs path size') : size = size' :=
  match size, size', weighs, weighs' with
  | none, none, _, _ => rfl
  | some _, some _, ⟨_, there, rfl⟩, ⟨_, there', rfl⟩ =>
    congrArg (some <| entrySize ·) (Except.ok.inj (there.symm.trans there'))
  | none, some _, ⟨_, _, refused⟩, ⟨_, there, _⟩ => nomatch refused.symm.trans there
  | some _, none, ⟨_, there, _⟩, ⟨_, _, refused⟩ => nomatch there.symm.trans refused

theorem weighs_of_sizeOf {size : Option Nat} (sized : sizeOf fs path = .ok size) :
    Weighs fs path size := by
  rw [sizeOf] at sized
  split at sized
  next entry there =>
    obtain rfl := Except.ok.inj sized
    exact ⟨entry, there, rfl⟩
  next error place refused =>
    obtain rfl := Except.ok.inj sized
    exact ⟨error, place, refused⟩
  next => cases sized

/-- The entry of a file is known as soon as its size is. -/
theorem entryOf_eq_ok_iff :
    entryOf fs base file = .ok entry ↔
      ∃ size, sizeOf fs file.1 = .ok size ∧
        entry = { path := (shownPath base file.1).text, digest := file.2, size } := by
  rw [entryOf]
  cases sizeOf fs file.1 <;> simp [bind, Except.bind, pure, Except.pure, eq_comm]

/-- The entry of a file has its path and its digest. -/
theorem path_of_entryOf (isEntry : entryOf fs base file = .ok entry) :
    entry.path = (shownPath base file.1).text ∧ entry.digest = file.2 := by
  obtain ⟨size, -, rfl⟩ := entryOf_eq_ok_iff.mp isEntry
  exact ⟨rfl, rfl⟩

/-- The entry of a file says what there is to say of it. -/
theorem tells_of_entryOf (isEntry : entryOf fs base file = .ok entry) :
    Tells fs base file (entryValue entry) := by
  obtain ⟨size, sized, rfl⟩ := entryOf_eq_ok_iff.mp isEntry
  exact ⟨size, weighs_of_sizeOf sized, rfl⟩

/-- Files that are listed have one entry each, in order. -/
theorem mapM_entryOf_eq_ok_iff :
    files.mapM (entryOf fs base) = .ok entries ↔
      List.Forall₂ (fun file entry => entryOf fs base file = .ok entry) files entries := by
  induction files generalizing entries with
  | nil => cases entries <;> simp [pure, Except.pure]
  | cons file files ih =>
    rw [List.mapM_cons]
    cases first : entryOf fs base file with
    | error failure => cases entries <;> simp [bind, Except.bind, first]
    | ok entry =>
      cases others : files.mapM (entryOf fs base) with
      | error failure => cases entries <;> simp [bind, Except.bind, first, ← ih, others]
      | ok rest =>
        cases entries <;> simp [bind, Except.bind, pure, Except.pure, first, ← ih, others]

/-! ## Writing -/

/-- The manifest that a request asks for. -/
def requested (sourceUrl downloadedAt : String) (sources : List String)
    (entries : List ManifestEntry) : Manifest where
  sourceUrl := sourceUrl
  downloadedAt := downloadedAt
  sources := if sources.isEmpty then [sourceUrl] else sources
  files := entries

/-- Writing a manifest leaves its text where its path opens, once the directories on the way are
made. The files are looked up before that. -/
theorem write_ok (tree : s.fs.IsTree)
    (run : (write target sourceUrl downloadedAt files base sources).runOn s = (.ok (), s')) :
    ∃ entries prepared place, files.mapM (entryOf s.fs base) = .ok entries ∧
      (Destination.prepare target).runOn s = (.ok (), prepared) ∧ prepared.fs.IsTree ∧
        Opens prepared.fs target.text place ∧
          s'.fs = prepared.fs.put place (.file (Utf8.encode
            (requested sourceUrl downloadedAt sources entries).text.toList) none) := by
  obtain ⟨entries, listed, lists, writes⟩ := Action.runOn_bind_eq_ok.mp run
  obtain ⟨isListed, rfl⟩ := Prod.mk.inj lists
  obtain ⟨_, prepared, prepares, writes⟩ := Action.runOn_bind_eq_ok.mp writes
  obtain ⟨⟨place, fs⟩, opened, creates, writes⟩ := Action.runOn_bind_eq_ok.mp writes
  obtain ⟨created, rfl⟩ := Prod.mk.inj creates
  obtain ⟨-, rfl⟩ := Prod.mk.inj writes
  -- The directories on the way do not keep the file system from being a tree.
  have grows := Destination.leaves_prepare target s
  rw [prepares] at grows
  obtain ⟨-, tree'⟩ := grows tree
  obtain ⟨opens, rfl⟩ := (create_eq_ok_iff tree').mp created
  exact ⟨entries, prepared, place, isListed, prepares, tree', opens, put_put _ _ _ _⟩

/-- What stands at the path of a manifest that was written. -/
theorem stat_of_write (tree : s.fs.IsTree)
    (run : (write target sourceUrl downloadedAt files base sources).runOn s = (.ok (), s')) :
    ∃ entries, files.mapM (entryOf s.fs base) = .ok entries ∧
      s'.fs.stat target.text = .ok (.file (Utf8.encode
        ((requested sourceUrl downloadedAt sources entries).value.render 0)) none) := by
  obtain ⟨entries, prepared, place, isListed, -, tree', opens, left⟩ := write_ok tree run
  obtain ⟨-, opens', file⟩ := opens.written tree' (Utf8.encode
    (requested sourceUrl downloadedAt sources entries).text.toList) none
  refine ⟨entries, isListed, ?_⟩
  rw [left, opens'.stat_eq file, text, String.toList_ofList]

/-! ## Reading -/

/-- The document of a manifest says what was asked for. -/
theorem value_requested (sourceUrl downloadedAt : String) (sources : List String)
    (isListed : files.mapM (entryOf fs base) = .ok entries) :
    (requested sourceUrl downloadedAt sources entries).value = .object [
        ("source_url".toList, .text sourceUrl.toList),
        ("downloaded_at".toList, .text downloadedAt.toList),
        ("sources".toList, .array
          ((if sources = [] then [sourceUrl] else sources).map fun url => .text url.toList)),
        ("files".toList, .array (entries.map entryValue))] ∧
      List.Forall₂ (Tells fs base) files (entries.map entryValue) := by
  constructor
  · simp only [value, requested, List.isEmpty_iff]
    rfl
  · rw [List.forall₂_map_right_iff]
    exact (mapM_entryOf_eq_ok_iff.mp isListed).imp fun _ _ => tells_of_entryOf

/-- A manifest that was written is plain ASCII, and the document that is read back from it says
what was asked for. -/
theorem document_of_write (tree : s.fs.IsTree)
    (run : (write target sourceUrl downloadedAt files base sources).runOn s = (.ok (), s')) :
    ∃ contents chars listed, s'.fs.stat target.text = .ok (.file contents none) ∧
      (∀ byte ∈ contents, byte < 0x80) ∧ Utf8.decode? contents = some chars ∧
        JsonValue.read? chars = some (.object [
          ("source_url".toList, .text sourceUrl.toList),
          ("downloaded_at".toList, .text downloadedAt.toList),
          ("sources".toList, .array
            ((if sources = [] then [sourceUrl] else sources).map fun url => .text url.toList)),
          ("files".toList, .array listed)]) ∧
        List.Forall₂ (Tells s.fs base) files listed := by
  obtain ⟨entries, isListed, there⟩ := stat_of_write tree run
  obtain ⟨isValue, tells⟩ := value_requested sourceUrl downloadedAt sources isListed
  -- The text is decoded from its bytes, and the document is read from the text.
  refine ⟨_, _, entries.map entryValue, there, ?_, Utf8.decode?_encode _, ?_, tells⟩
  · exact Utf8.lt_of_mem_encode (JsonValue.ascii_render _ 0)
  · rw [← isValue]
    exact JsonValue.read?_render 0 _

end

/-- A working directory with a file of three bytes. -/
def withData : FileSystem :=
  (FileSystem.empty [] 0o022).put ["data.bin".toList] (.file [1, 2, 3] none)

theorem isTree_withData : withData.IsTree :=
  (isTree_empty [] 0o022).put (hasDirectory_nil _) rfl _

/-- A manifest in a new directory, of a file and of one that is gone. Its texts hold a quotation
mark, a backslash, a line feed and a character of two 16-bit units. -/
theorem document_of_gone :
    withData.IsTree ∧
      ∃ s' contents chars,
        (write (.ofText "out/manifest.json") "http://h/\"\\" "today\n"
          [(.ofText "./data.bin", some "😀"), (.ofText "gone", none)] (.ofText ".") []).runOn
            (.start withData none) = (.ok (), s') ∧
        s'.fs.stat "out/manifest.json" = .ok (.file contents none) ∧
        (∀ byte ∈ contents, byte < 0x80) ∧ Utf8.decode? contents = some chars ∧
        JsonValue.read? chars = some (.object [
          ("source_url".toList, .text "http://h/\"\\".toList),
          ("downloaded_at".toList, .text "today\n".toList),
          ("sources".toList, .array [.text "http://h/\"\\".toList]),
          ("files".toList, .array [
            .object [("path".toList, .text "data.bin".toList),
              ("file_hash".toList, .text "😀".toList), ("size".toList, .number 3)],
            .object [("path".toList, .text "gone".toList), ("file_hash".toList, .null),
              ("size".toList, .null)]])]) := by
  have computed : ((write (.ofText "out/manifest.json") "http://h/\"\\" "today\n"
      [(.ofText "./data.bin", some "😀"), (.ofText "gone", none)] (.ofText ".") []).runOn
        (.start withData none)).1.toOption = some () := by decide +kernel
  have run := Action.runOn_of_toOption computed
  obtain ⟨contents, chars, listed, there, ascii, decoded, read, tells⟩ :=
    document_of_write isTree_withData run
  have data : Weighs withData (.ofText "./data.bin") (some 3) := ⟨.file [1, 2, 3] none, rfl, rfl⟩
  have gone : Weighs withData (.ofText "gone") none := ⟨.noEntry, some "gone", rfl⟩
  -- The two files have one size each, so the document says no other.
  cases tells with
  | cons first tells =>
    obtain ⟨size, weighs, rfl⟩ := first
    obtain rfl := data.unique weighs
    cases tells with
    | cons second tells =>
      obtain ⟨size, weighs, rfl⟩ := second
      obtain rfl := gone.unique weighs
      cases tells
      exact ⟨isTree_withData, _, contents, chars, run, there, ascii, decoded, read⟩

end Manifest

end SafeFetch
