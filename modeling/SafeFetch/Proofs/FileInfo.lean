import SafeFetch.FileInfo
import SafeFetch.Proofs.Disposition.DeclaredName
import SafeFetch.Proofs.FileName

/-!
# Choosing a name for a file

The name of a file is the one in the header, if that can be used, and else the last one on the path
of the URL. It is safe in either case. A header of any shape leaves the choice of a name to the
path, with one exception: a character set whose label holds a NUL ends the choice with a failure of
its own.

## Main definitions

* `offeredName?`: the name in the header, if it can be used;
* `DeclaresNul`: the name in the header is looked for under a label that holds a NUL;
* `IsNaming`: a name, or the finding that there is none.

## Main results

* `chooseName_of_offered` and `chooseName_of_unoffered`: the header goes before the path;
* `isNaming_chooseName_iff`: when a name is chosen, or found missing;
* `chooseName_safe`: what is chosen, and from where.
-/

namespace SafeFetch.FileInfo

open SafeFetch.Text

variable {info : FileInfo} {name : String}

section

variable [Platform]

/-- The name in the header, if it can be used. -/
def offeredName? (info : FileInfo) : Option String :=
  match info.hintedName with
  | .ok (some hinted) => FileName.sanitize? hinted
  | _ => none

/-- The name in the header is looked for under a label that holds a NUL. -/
def DeclaresNul (info : FileInfo) : Prop :=
  ∃ value, info.contentDisposition = some value ∧
    ∃ ps, Disposition.parse? value = some ps ∧ Disposition.StopsAtNul ps

/-- A name, or the finding that a text has none. -/
def IsNaming (outcome : Except Failure String) : Prop :=
  (∃ name, outcome = .ok name) ∨ ∃ candidate, outcome = .error (.unusableName candidate)

/-- The name in the header is read, or there is none, unless it is looked for under such a label. -/
theorem hintedName_eq_error_iff {fault : Charset.Fault} :
    info.hintedName = .error fault ↔ info.DeclaresNul ∧ fault = .nulInLabel := by
  rw [hintedName, DeclaresNul]
  rcases info.contentDisposition with _ | value
  · simp
  · simp only [Option.some.injEq, exists_eq_left']
    by_cases empty : value = ""
    · have unread : Disposition.parse? "" = none := by decide +kernel
      simp [empty, unread]
    · rw [if_neg (by simpa using empty), Disposition.fileNameOf]
      rcases Disposition.parse? value with _ | ps
      · simp
      · simp only [Option.some.injEq, exists_eq_left']
        rw [← Disposition.fileName_eq_error_iff]
        cases Disposition.fileName ps <;> simp [Except.map]

/-- A name in the header that can be used is chosen. -/
theorem chooseName_of_offered (offered : info.offeredName? = some name) :
    info.chooseName.1 = .ok name := by
  rw [offeredName?] at offered
  rw [chooseName]
  rcases hinted : info.hintedName with fault | _ | name'
  all_goals rw [hinted] at offered
  · cases offered
  · cases offered
  · dsimp only at offered ⊢
    rw [offered]

/-- Without a name in the header that can be used, one is looked for on the path, unless the header
comes upon a NUL. -/
theorem chooseName_of_unoffered (unoffered : info.offeredName? = none)
    (nulFree : ¬ info.DeclaresNul) : info.chooseName.1 = safeName info.urlPath := by
  rw [offeredName?] at unoffered
  rw [chooseName]
  rcases hinted : info.hintedName with fault | _ | hinted
  · exact absurd (hintedName_eq_error_iff.mp hinted).1 nulFree
  · rfl
  · rw [hinted] at unoffered
    dsimp only at unoffered ⊢
    rw [unoffered]

/-- A header that comes upon a NUL ends the choice with a failure of its own. -/
theorem not_isNaming_of_declaresNul (nul : info.DeclaresNul) : ¬ IsNaming info.chooseName.1 := by
  rw [chooseName, hintedName_eq_error_iff.mpr ⟨nul, rfl⟩]
  rintro (⟨name, chosen⟩ | ⟨candidate, missing⟩)
  · cases chosen
  · cases missing

omit [Platform] in
/-- A text is reduced to a safe name, or has none. -/
theorem isNaming_safeName (candidate : String) : IsNaming (safeName candidate) := by
  rw [safeName]
  cases FileName.sanitize? candidate with
  | none => exact .inr ⟨candidate, rfl⟩
  | some name => exact .inl ⟨name, rfl⟩

/-- A name is chosen, or none is found, whatever the header says, unless its name is looked for under
a label that holds a NUL. A header without a name that can be used leaves the choice to the path. -/
theorem isNaming_chooseName_iff (info : FileInfo) :
    (IsNaming info.chooseName.1 ↔ ¬ info.DeclaresNul) ∧
      (¬ info.DeclaresNul → info.offeredName? = none →
        info.chooseName.1 = safeName info.urlPath) := by
  refine ⟨⟨fun naming nul => ?_, fun nulFree => ?_⟩, fun nulFree unoffered => ?_⟩
  · exact not_isNaming_of_declaresNul nul naming
  · rcases offered : info.offeredName? with _ | name
    · rw [chooseName_of_unoffered offered nulFree]
      exact isNaming_safeName info.urlPath
    · exact .inl ⟨name, chooseName_of_offered offered⟩
  · exact chooseName_of_unoffered unoffered nulFree

end

/-- What a response to a request for a file says with a header. -/
def under (header : Option String) : FileInfo where
  urlPath := "/x"
  contentDisposition := header
  lastModified := none

/-- A label that holds a NUL keeps a file from the name that its path has. -/
theorem not_isNaming_of_nul_in_label :
    ¬ IsNaming (under (some "attachment; filename*=\"a\x00''x\"")).chooseName.1 ∧
      (under none).chooseName.1 = .ok "x" := by
  let value := "a\x00''x".toList
  have parsed : Disposition.parse? "attachment; filename*=\"a\x00''x\"" =
      some [⟨"filename*".toList, value⟩] := by
    decide +kernel
  have nul : Disposition.HasNulLabel value := ⟨"a\x00".toList, "x".toList, rfl, by decide⟩
  have declares : (under (some "attachment; filename*=\"a\x00''x\"")).DeclaresNul :=
    ⟨_, rfl, _, parsed, .extended rfl nul⟩
  exact ⟨not_isNaming_of_declaresNul declares, by rfl⟩

variable [Platform]

/-- A name is kept of the path or of a name in the header. -/
theorem exists_sanitize?_of_chooseName (chooses : info.chooseName.1 = .ok name) :
    ∃ candidate, FileName.sanitize? candidate = some name := by
  have fallback (safe : safeName info.urlPath = .ok name) :
      ∃ candidate, FileName.sanitize? candidate = some name := by
    rw [safeName] at safe
    split at safe
    next kept =>
      obtain rfl := Except.ok.inj safe
      exact ⟨_, kept⟩
    · cases safe
  rw [chooseName] at chooses
  split at chooses
  · cases chooses
  · exact fallback chooses
  · split at chooses
    next kept =>
      obtain rfl := Except.ok.inj chooses
      exact ⟨_, kept⟩
    · exact fallback chooses

/-- The name that is chosen for a file is a proper one that does not lead up. -/
theorem chooseName_proper (chooses : info.chooseName.1 = .ok name) :
    isPathName name.toList = true ∧ name.toList ≠ ['.', '.'] := by
  obtain ⟨candidate, kept⟩ := exists_sanitize?_of_chooseName chooses
  exact FileName.sanitize?_proper kept

/-- What is chosen for a file, and from where. A name that is chosen is safe and is kept as it is. A
name in the header that can be used is chosen whatever the path is, and without one the outcome is
that of no header at all. -/
theorem chooseName_safe (info : FileInfo) :
    (∀ name, info.chooseName.1 = .ok name →
        FileName.IsSafe name ∧ FileName.sanitize? name = some name) ∧
      (∀ name, info.offeredName? = some name →
        ∀ urlPath, ({ info with urlPath } : FileInfo).chooseName.1 = .ok name) ∧
      (info.offeredName? = none → IsNaming info.chooseName.1 →
        info.chooseName.1 = ({ info with contentDisposition := none } : FileInfo).chooseName.1) := by
  refine ⟨fun name chooses => ?_, fun name offered urlPath => ?_, fun unoffered naming => ?_⟩
  · obtain ⟨candidate, kept⟩ := exists_sanitize?_of_chooseName chooses
    have safe := FileName.isSafe_of_sanitize? kept
    exact ⟨safe, FileName.sanitize?_eq_self_iff.mpr safe⟩
  -- The name in the header is the same one beside any path.
  · exact @chooseName_of_offered { info with urlPath } name _ offered
  · have nulFree : ¬ info.DeclaresNul := fun nul => not_isNaming_of_declaresNul nul naming
    rw [chooseName_of_unoffered unoffered nulFree]
    rfl

end SafeFetch.FileInfo
