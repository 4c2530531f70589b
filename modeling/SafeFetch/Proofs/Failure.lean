import SafeFetch.Checksum

/-!
# What failures tell

A failure tells what it is about: the path that could not be walked along, the name that stands for
no algorithm, the digit that is not hexadecimal. Which failures a request can have is said here
once, so that no later proof goes through its branches to tell them apart.

## Main definitions

* `Failure.IsAbout`: a failure of a request for a path.

## Main results

* `FileSystem.isAbout_of_spotAt` and those of the requests: a failure names its path;
* `Algorithm.error_of_ofName` and `Algorithm.error_of_digest`: failures of algorithms;
* `Expected.error_of_decode`: failures of expected digests;
* `Source.error_of_fileFault?`: failures of the sizes of pieces.
-/

namespace SafeFetch

open SafeFetch.Transfer

variable {failure : Failure}

/-! ## Files -/

/-- A failure of a request for a path: it names the path, unless that holds a NUL. -/
def Failure.IsAbout (path : String) (failure : Failure) : Prop :=
  failure = .nulInPath ∨ ∃ error, failure = .system error (some path)

/-- A request that is refused fails with the refusal. -/
theorem Failure.isAbout_of_refuse {α : Type} {path : String} {error : SystemError}
    (fails : (FileSystem.refuse path error : Except Failure α) = .error failure) :
    failure.IsAbout path :=
  .inr ⟨error, (Except.error.inj fails).symm⟩

namespace FileSystem

variable {fs : FileSystem} {path : String}

theorem isAbout_of_spotAt {ending : Ending} (fails : fs.spotAt ending path = .error failure) :
    failure.IsAbout path := by
  rw [spotAt] at fails
  split at fails
  · exact .inl (Except.error.inj fails).symm
  · cases resolved : fs.resolve ending path.toList with
    | error error =>
      rw [resolved] at fails
      exact .inr ⟨error, (Except.error.inj fails).symm⟩
    | ok spot =>
      rw [resolved] at fails
      cases fails

theorem isAbout_of_stat (fails : fs.stat path = .error failure) : failure.IsAbout path := by
  rw [stat] at fails
  split at fails
  next unfound =>
    obtain rfl := Except.error.inj fails
    exact isAbout_of_spotAt unfound
  · cases fails
  · exact Failure.isAbout_of_refuse fails

theorem isAbout_of_entryHas {property : Entry → Bool}
    (fails : fs.entryHas property path = .error failure) : failure.IsAbout path := by
  rw [entryHas] at fails
  split at fails
  · cases fails
  next unfound =>
    split at fails
    · cases fails
    · obtain rfl := Except.error.inj fails
      exact isAbout_of_stat unfound

theorem isAbout_of_read (fails : fs.read path = .error failure) : failure.IsAbout path := by
  rw [read] at fails
  split at fails
  next unfound =>
    obtain rfl := Except.error.inj fails
    exact isAbout_of_stat unfound
  · cases fails
  · exact Failure.isAbout_of_refuse fails

theorem isAbout_of_makeDirectory {mode : Nat}
    (fails : fs.makeDirectory path mode = .error failure) : failure.IsAbout path := by
  rw [makeDirectory] at fails
  split at fails
  next unfound =>
    obtain rfl := Except.error.inj fails
    exact isAbout_of_spotAt unfound
  · exact Failure.isAbout_of_refuse fails
  · cases fails

theorem isAbout_of_create (fails : fs.create path = .error failure) : failure.IsAbout path := by
  rw [create] at fails
  split at fails
  next unfound =>
    obtain rfl := Except.error.inj fails
    exact isAbout_of_spotAt unfound
  · cases fails
  · exact Failure.isAbout_of_refuse fails
  · cases fails

theorem isAbout_of_removeIfPresent (fails : fs.removeIfPresent path = .error failure) :
    failure.IsAbout path := by
  rw [removeIfPresent] at fails
  split at fails
  · cases fails
  · rw [remove] at fails
    split at fails
    next unfound =>
      obtain rfl := Except.error.inj fails
      exact isAbout_of_spotAt unfound
    · exact Failure.isAbout_of_refuse fails
    · exact Failure.isAbout_of_refuse fails
    · cases fails

end FileSystem

namespace Transfer

/-- The size of the pieces is wrong in one of four ways. -/
theorem Source.error_of_fileFault? [Platform] {size : Int}
    (faulty : fileFault? size = some failure) :
    failure ∈ [.sizeBeyondWord, .negativeSize, .sizeBeyondBlock, .outOfMemory] := by
  rw [fileFault?] at faulty
  repeat' split at faulty
  -- Each branch but the last one names its fault.
  all_goals cases faulty
  all_goals decide

end Transfer

/-! ## Digests -/

/-- A name that stands for no algorithm is named by the failure, unless it holds a NUL. -/
theorem Algorithm.error_of_ofName {name : String} (fails : ofName name = .error failure) :
    failure = .nulInAlgorithm ∨ failure = .unsupportedAlgorithm name := by
  rw [ofName] at fails
  split at fails
  · exact .inl (Except.error.inj fails).symm
  · split at fails
    · cases fails
    · exact .inr (Except.error.inj fails).symm

/-- A message has no digest only under an algorithm without a length of its digests. -/
theorem Algorithm.error_of_digest {algorithm : Algorithm} {message : List UInt8}
    (fails : algorithm.digest message = .error failure) : failure = .digestLengthRequired := by
  cases algorithm with
  | shake128 | shake256 => exact (Except.error.inj fails).symm
  | _ => cases fails

/-- A text that cannot be decoded is not hexadecimal. -/
theorem Expected.error_of_decode_text {digits : String}
    (fails : (Expected.text digits).decode = .error failure) :
    ∃ position, failure = .notHexadecimal position := by
  rw [decode] at fails
  cases decoded : Text.Hex.decode (Text.trim digits.toList) with
  | error position =>
    rw [decoded] at fails
    exact ⟨position, (Except.error.inj fails).symm⟩
  | ok given =>
    rw [decoded] at fails
    cases fails

/-- An expected digest that cannot be decoded is not hexadecimal, or was not given. -/
theorem Expected.error_of_decode {expected : Expected} (fails : expected.decode = .error failure) :
    (∃ position, failure = .notHexadecimal position) ∨ failure = .valueWithheld "hex" := by
  cases expected with
  | bytes given => cases fails
  | text digits => exact .inl (error_of_decode_text fails)
  | withheld => exact .inr (Except.error.inj fails).symm

end SafeFetch
