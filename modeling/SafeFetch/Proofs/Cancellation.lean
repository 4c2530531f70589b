import SafeFetch.Proofs.Checksum
import SafeFetch.Proofs.Effect
import SafeFetch.Proofs.Failure
import SafeFetch.Destination

/-!
# Failures without a cancellation

Which failures are no cancellations. Nothing is cancelled but a copy: neither a request to the file
system, nor a directory that is made, nor a digest. The digest of a file is no exception as long as
nobody sets the signal, although the file is copied for it.

## Main definitions

* `Failure.IsPlain`: a failure that is no cancellation;
* `Action.IsOnFiles`: an action that depends on files only, and cannot be cancelled.

## Main results

* `Failure.IsAbout.isPlain`: a request to a file system fails without a cancellation;
* `Destination.isOnFiles_ensure`: directories are made without one;
* `Checksum.isPlain_of_verify`: so are digests, while nobody sets the signal;
* `Checksum.isQuiet_ofFile`: nobody sets it for the digest of a file.
-/

namespace SafeFetch

open SafeFetch.Transfer

/-- A failure that is no cancellation. -/
def Failure.IsPlain (failure : Failure) : Prop := failure.category ≠ .cancelled

variable {failure : Failure}

/-- Only a cancellation is in the category of cancellations. -/
theorem Failure.category_eq_cancelled_iff :
    failure.category = .cancelled ↔ ∃ written, failure = .cancelled written := by
  constructor
  · intro cancelled
    cases failure with
    | cancelled written => exact ⟨written, rfl⟩
    -- Trouble has several categories, by its kind.
    | trouble kind text => cases kind <;> cases cancelled
    | _ => cases cancelled
  · rintro ⟨written, rfl⟩
    rfl

/-! ## Requests to a file system -/

/-- A failure of a request for a path is no cancellation. -/
theorem Failure.IsAbout.isPlain {path : String} (about : failure.IsAbout path) :
    failure.IsPlain := by
  rcases about with rfl | ⟨error, rfl⟩
  · rintro ⟨⟩
  · rintro ⟨⟩

/-! ## Actions on files -/

namespace Action

variable {α β : Type} {action : Action α}

/-- An action on files: it leaves alone whatever does not depend on them, and it is not cancelled. -/
structure IsOnFiles (action : Action α) : Prop where
  keeps : ∀ {γ : Type} {view : Session → γ}, IsAside view → Keeps view action
  plain : ∀ ⦃s s' : Session⦄ ⦃failure : Failure⦄,
    runOn action s = (.error failure, s') → failure.IsPlain

theorem IsOnFiles.pure (a : α) : IsOnFiles (Pure.pure a : Action α) where
  keeps _ := .pure _ a
  plain := by
    intro s s' failure fails
    cases fails

theorem IsOnFiles.throw (plain : failure.IsPlain) :
    IsOnFiles (MonadExcept.throw failure : Action α) where
  keeps _ := .throw _ failure
  plain := by
    intro s s' other fails
    obtain rfl := Except.error.inj (Prod.mk.inj fails).1
    exact plain

theorem IsOnFiles.query {request : FileSystem → Except Failure α}
    (plain : ∀ {fs failure}, request fs = .error failure → failure.IsPlain) :
    IsOnFiles (Action.query request) where
  keeps _ := .query _ request
  plain := by
    intro s s' other fails
    exact plain (Prod.mk.inj fails).1

theorem IsOnFiles.change {request : FileSystem → Except Failure FileSystem}
    (plain : ∀ {fs failure}, request fs = .error failure → failure.IsPlain) :
    IsOnFiles (Action.change request) where
  keeps aside := .change aside request
  plain := by
    intro s s' other fails
    rw [runOn_change] at fails
    cases changed : request s.fs with
    | error failure =>
      rw [changed] at fails
      obtain rfl := Except.error.inj (Prod.mk.inj fails).1
      exact plain changed
    | ok fs =>
      rw [changed] at fails
      cases fails

theorem IsOnFiles.bind {next : α → Action β} (first : IsOnFiles action)
    (second : ∀ a, IsOnFiles (next a)) : IsOnFiles (action >>= next) where
  keeps aside := .bind (first.keeps aside) fun a => (second a).keeps aside
  plain := by
    intro s s' failure fails
    rcases runOn_bind_eq_error.mp fails with fails | ⟨a, between, -, fails⟩
    · exact first.plain fails
    · exact (second a).plain fails

/-- What handles a failure may hand it on, because it is no cancellation. -/
theorem IsOnFiles.tryCatch {handle : Failure → Action α} (first : IsOnFiles action)
    (second : ∀ failure, failure.IsPlain → IsOnFiles (handle failure)) :
    IsOnFiles (MonadExcept.tryCatch action handle) where
  keeps {_ view} aside := by
    intro s
    have here := first.keeps aside s
    rw [runOn_tryCatch]
    rcases run : runOn action s with ⟨failure | a, between⟩
    · rw [run] at here
      exact ((second failure (first.plain run)).keeps aside between).trans here
    · rw [run] at here
      exact here
  plain := by
    intro s s' failure fails
    rw [runOn_tryCatch] at fails
    rcases run : runOn action s with ⟨other | a, between⟩
    · rw [run] at fails
      exact (second other (first.plain run)).plain fails
    · rw [run] at fails
      cases fails

end Action

/-! ## Directories -/

namespace Destination

variable {action makeAbove : Action Unit}

theorem isOnFiles_within (onFiles : makeAbove.IsOnFiles) (room : Nat) :
    (within room makeAbove).IsOnFiles := by
  rw [within]
  split
  · exact .throw (by rintro ⟨⟩)
  · exact onFiles

theorem isOnFiles_settle (onFiles : action.IsOnFiles) (path : Path) :
    (makeIfMissing.settle path action).IsOnFiles := by
  refine .tryCatch onFiles fun failure plain => ?_
  split
  · refine .bind (.query fun unseen => ?_) fun isThere => ?_
    · exact (FileSystem.isAbout_of_entryHas unseen).isPlain
    split
    · exact .pure _
    · exact .throw plain
  · exact .throw plain

theorem isOnFiles_makeIfMissing (onFiles : makeAbove.IsOnFiles) (path : Path) :
    (makeIfMissing path makeAbove).IsOnFiles := by
  have makes : (Action.change (·.makeDirectory path.text openMode)).IsOnFiles :=
    .change fun fails => (FileSystem.isAbout_of_makeDirectory fails).isPlain
  refine .tryCatch makes fun failure plain => ?_
  split
  · have onward : Action.IsOnFiles (do
        makeAbove
        makeIfMissing.settle path (Action.change (·.makeDirectory path.text openMode))) :=
      .bind onFiles fun _ => isOnFiles_settle makes path
    -- Nothing is above a path without names, so its failure is handed on.
    by_cases bare : path.names.isEmpty = true
    · simp only [bare, if_true]
      exact .bind (.throw plain) fun _ => onward
    · simp only [bare]
      exact onward
  · exact isOnFiles_settle (.throw plain) path

theorem isOnFiles_ensureNames (root : Root) (room : Nat) (names : List (List Char)) :
    (ensureNames root room names).IsOnFiles := by
  induction names generalizing room with
  | nil => exact isOnFiles_makeIfMissing (.pure _) _
  | cons name above ih =>
    exact isOnFiles_makeIfMissing (isOnFiles_within (ih (room - 1)) room) _

/-- Making a directory is not cancelled, and asks for nothing but files. -/
theorem isOnFiles_ensure [Platform] (path : Path) : (ensure path).IsOnFiles :=
  isOnFiles_ensureNames path.root Platform.openLimit path.names.reverse

end Destination

/-! ## Digests -/

/-- A hasher that does not start was not cancelled. -/
theorem HasherChoice.isPlain_of_start {choice : HasherChoice}
    (fails : choice.start = .error failure) : failure.IsPlain := by
  cases choice with
  | named name =>
    rcases Algorithm.error_of_ofName (map_eq_error_iff.mp fails) with rfl | rfl
    · rintro ⟨⟩
    · rintro ⟨⟩
  | given hasher => cases fails

/-- A hasher that gives no digest was not cancelled. -/
theorem Transfer.Hasher.isPlain_of_digest {hasher : Hasher}
    (fails : hasher.digest = .error failure) : failure.IsPlain := by
  cases hasher with
  | standard algorithm taken =>
    obtain rfl := Algorithm.error_of_digest fails
    rintro ⟨⟩
  | tally t => cases fails
  | withheld =>
    obtain rfl := Except.error.inj fails
    rintro ⟨⟩

/-- An expected digest that cannot be read was not cancelled. -/
theorem Expected.isPlain_of_decode {expected : Expected}
    (fails : expected.decode = .error failure) : failure.IsPlain := by
  rcases error_of_decode fails with ⟨position, rfl⟩ | rfl
  · rintro ⟨⟩
  · rintro ⟨⟩

/-- A size of pieces that a file cannot be read in is no cancellation. -/
theorem Transfer.Source.isPlain_of_fileFault? [Platform] {size : Int}
    (faulty : Source.fileFault? size = some failure) : failure.IsPlain := by
  have wrong := Source.error_of_fileFault? faulty
  simp only [List.mem_cons, List.not_mem_nil, or_false] at wrong
  rcases wrong with rfl | rfl | rfl | rfl <;> rintro ⟨⟩

namespace Checksum

variable [Platform] {s s' : Session} {choice : HasherChoice} {size : Int}

/-- The digest of a file is not cancelled while nobody sets the signal. -/
theorem isPlain_of_ofFile {path : String} (quiet : IsQuiet s.signal)
    (named : ∀ hasher, choice.start = .ok hasher → hasher.IsNamed)
    (run : (ofFile path choice size).runOn s = (.error failure, s')) : failure.IsPlain := by
  rcases ofFile_error run with fails | unread | ⟨hasher, contents, starts, -, broken | ⟨_, fails⟩⟩
  · exact HasherChoice.isPlain_of_start fails
  · exact (FileSystem.isAbout_of_read unread).isPlain
  -- Nothing but the size of the pieces, or a hasher that was not given, can stop the copy.
  · have unsignalled := signal_notMem_file contents size
    rcases (named hasher starts).copy (feeds_hash hasher) quiet unsignalled with
      ⟨count, copied⟩ | ⟨other, isOther, isWithheld | ⟨-, isFault⟩⟩
    · cases copied.symm.trans broken
    · obtain rfl := Except.error.inj (isOther.symm.trans broken)
      obtain ⟨-, rfl⟩ := isWithheld
      rintro ⟨⟩
    · obtain rfl := Except.error.inj (isOther.symm.trans broken)
      exact Source.isPlain_of_fileFault? (fileFault?_of_mem isFault)
  · exact Hasher.isPlain_of_digest fails

/-- The signal is still quiet when the digest of a file was computed, or was not. -/
theorem isQuiet_ofFile {path : String} (quiet : IsQuiet s.signal)
    (named : ∀ hasher, choice.start = .ok hasher → hasher.IsNamed) :
    IsQuiet ((ofFile path choice size).runOn s).2.signal := by
  simp only [ofFile, Action.runOn_bind, Action.runOn_ofExcept]
  cases starts : choice.start with
  | error failure => exact quiet
  | ok hasher =>
    simp only [Action.runOn_query]
    cases s.fs.read path with
    | error failure => exact quiet
    | ok contents =>
      have calm := ((named hasher starts).calm (feeds_hash hasher)).1
      have stays := (copy_of_quiet quiet calm (signal_notMem_file contents size)).1
      simp only [runOn_copyInto]
      cases (copy (.file contents size) (.hash hasher) s.signal).1 <;> exact stays

/-- A comparison of the digest is not cancelled either. -/
theorem isPlain_of_verify {path : Path} {expected : Expected} (quiet : IsQuiet s.signal)
    (named : ∀ hasher, choice.start = .ok hasher → hasher.IsNamed)
    (run : (verify path choice expected false size).runOn s = (.error failure, s')) :
    failure.IsPlain := by
  rcases verify_error run with fails | run | ⟨wanted, actual, rfl⟩
  · exact Expected.isPlain_of_decode fails
  · exact isPlain_of_ofFile quiet named run
  · rintro ⟨⟩

end Checksum

end SafeFetch
