import SafeFetch.Disposition.ExtendedValue

/-!
# Names in declared character sets

When the reading of a file name from parameters fails: the label of a character set that the name is
looked for under holds a NUL. Any other label, known or not, and any text in it gives a name or
none.

## Main definitions

* `HasNulLabel`: an extended value whose label holds a NUL;
* `StopsAtNul`: parameters whose file name is looked for under such a label.

## Main results

* `fileName_eq_error_iff`: when the file name in parameters cannot be looked for.
-/

namespace SafeFetch

variable [Platform]

/-- Bytes are looked at under every label that holds no NUL. -/
theorem Charset.decodeLabelled_eq_nulInLabel_iff {label : List Char} {bytes : List UInt8} :
    decodeLabelled label bytes = .error .nulInLabel ↔ '\x00' ∈ label := by
  by_cases nul : '\x00' ∈ label
  · simp [decodeLabelled, nul]
  · have read : label.contains '\x00' = false := by simpa using nul
    simp only [decodeLabelled, read, nul, iff_false, Bool.false_eq_true, if_false]
    split
    · simp
    · split
      · simp
      · split <;> simp

namespace Disposition

variable {ps : List Parameter} {label value : List Char} {bytes : List UInt8}
  {fault : Charset.Fault}

/-- Bytes in a declared character set are a text or none, unless the label holds a NUL. -/
theorem decodeDeclared_eq_error_iff :
    decodeDeclared label bytes = .error fault ↔ '\x00' ∈ label ∧ fault = .nulInLabel := by
  rw [decodeDeclared, ← @Charset.decodeLabelled_eq_nulInLabel_iff _ label bytes]
  rcases Charset.decodeLabelled label bytes with other | text
  · cases other <;> simp [eq_comm]
  · simp

/-- An empty label selects no character set, and holds no NUL either. -/
theorem decodeDeclared_unless_bare_eq_error_iff :
    (if label.isEmpty then .ok none else decodeDeclared label bytes) = .error fault ↔
      '\x00' ∈ label ∧ fault = .nulInLabel := by
  by_cases bare : label = []
  · simp [bare]
  · rw [if_neg (by simpa using bare), decodeDeclared_eq_error_iff]

/-- An extended value whose label holds a NUL. -/
def HasNulLabel (value : List Char) : Prop :=
  ∃ label text, labelAndText? value = some (label, text) ∧ '\x00' ∈ label

omit [Platform] in
/-- Whether the label of a value holds a NUL does not depend on what stands behind it. -/
theorem hasNulLabel_iff {text : List Char} (labelled : labelAndText? value = some (label, text)) :
    HasNulLabel value ↔ '\x00' ∈ label := by
  constructor
  · rintro ⟨label', text', labelled', nul⟩
    obtain ⟨rfl, rfl⟩ := Prod.mk.inj (Option.some.inj (labelled.symm.trans labelled'))
    exact nul
  · exact fun nul => ⟨label, text, labelled, nul⟩

omit [Platform] in
/-- A value without a label holds no NUL in one. -/
theorem not_hasNulLabel (unlabelled : labelAndText? value = none) : ¬ HasNulLabel value := by
  rintro ⟨label, text, labelled, -⟩
  cases unlabelled.symm.trans labelled

/-- An extended value is a text or none, unless its label holds a NUL. -/
theorem decodeExtended_eq_error_iff :
    decodeExtended value = .error fault ↔ HasNulLabel value ∧ fault = .nulInLabel := by
  rw [decodeExtended]
  rcases labelled : labelAndText? value with _ | ⟨label, text⟩
  · simp [not_hasNulLabel labelled]
  · rw [hasNulLabel_iff labelled]
    exact decodeDeclared_unless_bare_eq_error_iff

/-- The pieces of a continued name are a text or none, unless the label of the first holds a
NUL. -/
theorem continuedFileName_eq_error_iff :
    continuedFileName ps = .error fault ↔
      (∃ value, get? ps (escapedKey 0) = some value ∧ HasNulLabel value) ∧
        fault = .nulInLabel := by
  rw [continuedFileName]
  rcases escaped : get? ps (escapedKey 0) with _ | value
  · rcases plain : get? ps (plainKey 0) with _ | text
    · simp
    · -- Pieces that declare nothing are read under a label without a NUL.
      have nulFree : '\x00' ∉ defaultLabel := by decide
      simp [decodeDeclared_eq_error_iff, nulFree]
  · simp only [Option.some.injEq, exists_eq_left']
    rcases labelled : labelAndText? value with _ | ⟨label, text⟩
    · simp [not_hasNulLabel labelled]
    · rw [hasNulLabel_iff labelled]
      exact decodeDeclared_unless_bare_eq_error_iff

/-- The name of the parameter that holds an extended value. -/
def extendedKey : List Char := fileNameKey ++ ['*']

/-- The label under which a file name is looked for holds a NUL: that of an extended value, or, where
there is no name in one, that of the first continuation. -/
inductive StopsAtNul (ps : List Parameter) : Prop
  | extended {value : List Char} (found : get? ps extendedKey = some value)
      (nul : HasNulLabel value)
  | continued {value : List Char}
      (unextended : ∀ extended text, get? ps extendedKey = some extended →
        decodeExtended extended = .ok (some text) → text = [])
      (found : get? ps (escapedKey 0) = some value) (nul : HasNulLabel value)

/-- An extended value that is read holds no NUL in its label. -/
theorem not_hasNulLabel_of_ok {text : Option (List Char)} (decoded : decodeExtended value = .ok text) :
    ¬ HasNulLabel value := by
  intro nul
  cases decoded.symm.trans (decodeExtended_eq_error_iff.mpr ⟨nul, rfl⟩)

omit [Platform] in
/-- A text is empty if it gives no name. -/
theorem eq_nil_of_nonempty? {text : List Char} (unnamed : nonempty? (some text) = none) :
    text = [] := by
  simpa [nonempty?] using unnamed

/-- Without an extended name, the label of the first continuation counts. -/
theorem stopsAtNul_iff_of_unextended
    (unextended : ∀ extended, get? ps extendedKey = some extended →
      ∃ text, decodeExtended extended = .ok text ∧ nonempty? text = none) :
    StopsAtNul ps ↔ ∃ value, get? ps (escapedKey 0) = some value ∧ HasNulLabel value := by
  constructor
  · rintro (⟨found, nul⟩ | ⟨-, found, nul⟩)
    · obtain ⟨text, decoded, -⟩ := unextended _ found
      exact absurd nul (not_hasNulLabel_of_ok decoded)
    · exact ⟨_, found, nul⟩
  · rintro ⟨value, found, nul⟩
    refine .continued (fun extended text isExtended decoded => ?_) found nul
    obtain ⟨text', decoded', unnamed⟩ := unextended extended isExtended
    rw [← Except.ok.inj (decoded.symm.trans decoded')] at unnamed
    exact eq_nil_of_nonempty? unnamed

/-- Without an extended name, a failure is one of the continuations. -/
theorem fileName_eq_error_iff_of_unextended
    (unextended : ∀ extended, get? ps extendedKey = some extended →
      ∃ text, decodeExtended extended = .ok text ∧ nonempty? text = none) :
    fileName ps = .error fault ↔ continuedFileName ps = .error fault := by
  have noText : nonempty? none = none := rfl
  simp only [fileName, bind, Except.bind, pure, Except.pure]
  rcases found : get? ps (fileNameKey ++ ['*']) with _ | extended
  case' none => simp only [noText]
  case' some =>
    obtain ⟨text, decoded, unnamed⟩ := unextended extended found
    simp only [decoded, unnamed]
  -- There is no extended name now in either case.
  all_goals
    rcases continuedFileName ps with other | text
    · simp
    · dsimp only
      cases nonempty? text <;> simp

/-- A file name is read from parameters, or there is none, unless it is looked for under a label
that holds a NUL. -/
theorem fileName_eq_error_iff :
    fileName ps = .error fault ↔ StopsAtNul ps ∧ fault = .nulInLabel := by
  by_cases unextended : ∀ extended, get? ps extendedKey = some extended →
      ∃ text, decodeExtended extended = .ok text ∧ nonempty? text = none
  · rw [fileName_eq_error_iff_of_unextended unextended, continuedFileName_eq_error_iff,
      stopsAtNul_iff_of_unextended unextended]
  -- The extended value cannot be read, or it gives a name.
  obtain ⟨extended, others⟩ := Classical.not_forall.mp unextended
  obtain ⟨found, others⟩ := Classical.not_imp.mp others
  have search : get? ps (fileNameKey ++ ['*']) = some extended := found
  simp only [fileName, bind, Except.bind, pure, Except.pure, search]
  rcases decoded : decodeExtended extended with other | text
  · obtain ⟨nul, rfl⟩ := decodeExtended_eq_error_iff.mp decoded
    simp [StopsAtNul.extended found nul, eq_comm]
  · rcases named : nonempty? text with _ | name
    · exact absurd ⟨text, decoded, named⟩ others
    · have goesOn : ¬ StopsAtNul ps := by
        rintro (⟨found', nul⟩ | ⟨unextended, -, -⟩)
        · obtain rfl := Option.some.inj (found.symm.trans found')
          exact not_hasNulLabel_of_ok decoded nul
        · rcases text with _ | text
          · cases named
          · obtain rfl := unextended extended text found decoded
            cases named
      simp [named, goesOn]

end Disposition

end SafeFetch
