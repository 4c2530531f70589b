import SafeFetch.Session

/-!
# Effects of actions

What an action does to the file system of its session, however it ends, as a relation between the
file system that it runs on and the one that it leaves. A relation that composes holds of an action
as soon as it holds of its steps. Beside it stand the ways in which a sequence of two actions can
end, and the parts of a session that most actions leave alone.

## Main definitions

* `Action.Leaves`: an action relates the file system before to the file system after;
* `Composes`: a relation that holds over no steps, and over two if it holds over each;
* `Action.Keeps`: an action leaves a part of its session as it is.

## Main results

* `runOn_bind_eq_ok` and `runOn_bind_eq_error`: how a sequence of two actions ends;
* `Leaves.bind`, `Leaves.tryCatch` and `Leaves.onFailure`: steps compose;
* `Keeps.bind`, `Keeps.tryCatch` and `Keeps.onFailure`: what steps keep, all of them keep.
-/

namespace SafeFetch.Action

variable {α β : Type} {action : Action α} {next : α → Action β} {s s' : Session}

/-! ## Sequences -/

/-- A sequence of two actions succeeds if both of them do. -/
theorem runOn_bind_eq_ok {b : β} :
    runOn (action >>= next) s = (.ok b, s') ↔
      ∃ a between, runOn action s = (.ok a, between) ∧ runOn (next a) between = (.ok b, s') := by
  rw [runOn_bind]
  rcases runOn action s with ⟨failure | a, between⟩
  · simp
  · simp [and_assoc]

/-- A sequence of two actions fails if one of them does. -/
theorem runOn_bind_eq_error {failure : Failure} :
    runOn (action >>= next) s = (.error failure, s') ↔
      runOn action s = (.error failure, s') ∨
        ∃ a between,
          runOn action s = (.ok a, between) ∧ runOn (next a) between = (.error failure, s') := by
  rw [runOn_bind]
  rcases runOn action s with ⟨other | a, between⟩
  · simp
  · simp [and_assoc]

/-- The first of two actions keeps the second from running by its failure. -/
theorem fst_bind_of_error {failure : Failure} (fails : (runOn action s).1 = .error failure) :
    (runOn (action >>= next) s).1 = .error failure := by
  rw [Action.runOn_bind]
  rcases run : runOn action s with ⟨other | a, between⟩ <;> rw [run] at fails
  · exact congrArg _ (Except.error.inj fails)
  · cases fails

/-- An action that succeeds has one result and leaves one session. -/
theorem ok_inj {a b : α} {s'' : Session} (run : runOn action s = (.ok a, s'))
    (run' : runOn action s = (.ok b, s'')) : a = b ∧ s' = s'' := by
  obtain ⟨same, sameSession⟩ := Prod.mk.inj (run.symm.trans run')
  exact ⟨Except.ok.inj same, sameSession⟩

/-- A result that is computed is there. -/
theorem eq_ok_of_toOption {r : Except Failure α} {a : α} (computed : r.toOption = some a) :
    r = .ok a := by
  cases r with
  | error failure => cases computed
  | ok other => exact congrArg Except.ok (Option.some.inj computed)

/-- An action whose result is computed succeeds with it. -/
theorem runOn_of_toOption {a : α} (computed : (runOn action s).1.toOption = some a) :
    runOn action s = (.ok a, (runOn action s).2) :=
  Prod.ext (eq_ok_of_toOption computed) rfl

/-! ## Relations between file systems -/

/-- A relation holds over no steps, and over two if it holds over each. -/
structure Composes (R : FileSystem → FileSystem → Prop) : Prop where
  refl (fs : FileSystem) : R fs fs
  trans {fs fs' fs'' : FileSystem} : R fs fs' → R fs' fs'' → R fs fs''

/-- Nothing changes over any number of steps. -/
theorem composes_eq : Composes fun fs fs' => fs' = fs where
  refl _ := rfl
  trans h h' := h'.trans h

/-- What holds of a file system still holds after any number of steps that each keep it. -/
theorem composes_keeps (P : FileSystem → Prop) : Composes fun fs fs' => P fs → P fs' where
  refl _ := id
  trans h h' := h' ∘ h

/-- An action relates the file system that it runs on to the one that it leaves, however it
ends. -/
def Leaves (R : FileSystem → FileSystem → Prop) (action : Action α) : Prop :=
  ∀ s, R s.fs (runOn action s).2.fs

variable {R : FileSystem → FileSystem → Prop}

theorem Leaves.pure (composes : Composes R) (a : α) : Leaves R (Pure.pure a : Action α) :=
  fun s => composes.refl s.fs

theorem Leaves.throw (composes : Composes R) (failure : Failure) :
    Leaves R (MonadExcept.throw failure : Action α) :=
  fun s => composes.refl s.fs

theorem Leaves.ofExcept (composes : Composes R) (r : Except Failure α) :
    Leaves R (Action.ofExcept r) :=
  fun s => composes.refl s.fs

theorem Leaves.query (composes : Composes R) (request : FileSystem → Except Failure α) :
    Leaves R (Action.query request) :=
  fun s => composes.refl s.fs

theorem Leaves.report (composes : Composes R) (level : Level) (message : String) :
    Leaves R (Action.report level message) :=
  fun s => composes.refl s.fs

theorem Leaves.reporting (composes : Composes R) (r : Except Failure α × List LogRecord) :
    Leaves R (Action.reporting r) :=
  fun s => composes.refl s.fs

/-- Other parts of a session may change. -/
theorem Leaves.elsewhere (composes : Composes R) {f : Session → Session}
    (same : ∀ s, (f s).fs = s.fs) : Leaves R (modify f : Action Unit) := by
  intro s
  rw [runOn_modify, same]
  exact composes.refl s.fs

/-- A change is related if every change that is granted is. -/
theorem Leaves.change (composes : Composes R)
    {request : FileSystem → Except Failure FileSystem}
    (granted : ∀ fs fs', request fs = .ok fs' → R fs fs') : Leaves R (Action.change request) := by
  intro s
  rw [runOn_change]
  cases changed : request s.fs with
  | error failure => exact composes.refl s.fs
  | ok fs => exact granted s.fs fs changed

/-- Steps compose. -/
theorem Leaves.bind (composes : Composes R) (first : Leaves R action)
    (second : ∀ a, Leaves R (next a)) : Leaves R (action >>= next) := by
  intro s
  have here := first s
  rw [runOn_bind]
  rcases run : runOn action s with ⟨failure | a, between⟩
  · rw [run] at here
    exact here
  · rw [run] at here
    exact composes.trans here (second a between)

/-- What handles a failure runs on what the failed action leaves. -/
theorem Leaves.tryCatch (composes : Composes R) {handle : Failure → Action α}
    (first : Leaves R action) (second : ∀ failure, Leaves R (handle failure)) :
    Leaves R (MonadExcept.tryCatch action handle) := by
  intro s
  have here := first s
  rw [runOn_tryCatch]
  rcases run : runOn action s with ⟨failure | a, between⟩
  · rw [run] at here
    exact composes.trans here (second failure between)
  · rw [run] at here
    exact here

/-- What cleans up runs on what the failed action leaves. -/
theorem Leaves.onFailure (composes : Composes R) {cleanUp : Failure → Action Unit}
    (first : Leaves R action) (second : ∀ failure, Leaves R (cleanUp failure)) :
    Leaves R (onFailure action cleanUp) :=
  .tryCatch composes first fun failure =>
    .bind composes (second failure) fun _ => .throw composes failure

/-! ## Parts of a session -/

/-- A part of a session that does not depend on the file system, nor on the log. -/
def IsAside (view : Session → β) : Prop :=
  ∀ (s : Session) (fs : FileSystem) (log : List LogRecord), view { s with fs, log } = view s

/-- The requests stand aside. -/
theorem isAside_requests : IsAside (·.requests) := fun _ _ _ => rfl

/-- The signal stands aside. -/
theorem isAside_signal : IsAside (·.signal) := fun _ _ _ => rfl

/-- An action leaves a part of its session as it is, however it ends. -/
def Keeps (view : Session → β) (action : Action α) : Prop :=
  ∀ s, view (runOn action s).2 = view s

section Keeps

variable {γ : Type} {view : Session → γ}

theorem Keeps.pure (view : Session → γ) (a : α) : Keeps view (Pure.pure a : Action α) :=
  fun _ => rfl

theorem Keeps.throw (view : Session → γ) (failure : Failure) :
    Keeps view (MonadExcept.throw failure : Action α) :=
  fun _ => rfl

theorem Keeps.ofExcept (view : Session → γ) (r : Except Failure α) :
    Keeps view (Action.ofExcept r) :=
  fun _ => rfl

theorem Keeps.query (view : Session → γ) (request : FileSystem → Except Failure α) :
    Keeps view (Action.query request) :=
  fun _ => rfl

theorem Keeps.report (aside : IsAside view) (level : Level) (message : String) :
    Keeps view (Action.report level message) :=
  fun s => aside s s.fs _

theorem Keeps.reporting (aside : IsAside view) (r : Except Failure α × List LogRecord) :
    Keeps view (Action.reporting r) :=
  fun s => aside s s.fs _

/-- Other parts of a session may change. -/
theorem Keeps.elsewhere {f : Session → Session} (same : ∀ s, view (f s) = view s) :
    Keeps view (modify f : Action Unit) := by
  intro s
  rw [runOn_modify]
  exact same s

theorem Keeps.change (aside : IsAside view) (request : FileSystem → Except Failure FileSystem) :
    Keeps view (Action.change request) := by
  intro s
  rw [runOn_change]
  cases request s.fs with
  | error failure => rfl
  | ok fs => exact aside s fs s.log

/-- A part that the second of two actions keeps is as the first one left it. -/
theorem view_bind (second : ∀ a, Keeps view (next a)) (s : Session) :
    view (runOn (action >>= next) s).2 = view (runOn action s).2 := by
  rw [runOn_bind]
  rcases runOn action s with ⟨failure | a, between⟩
  · rfl
  · exact second a between

/-- What two steps keep, both of them keep. -/
theorem Keeps.bind (first : Keeps view action) (second : ∀ a, Keeps view (next a)) :
    Keeps view (action >>= next) :=
  fun s => (view_bind second s).trans (first s)

/-- What an action and its handler keep is kept. -/
theorem Keeps.tryCatch {handle : Failure → Action α} (first : Keeps view action)
    (second : ∀ failure, Keeps view (handle failure)) :
    Keeps view (MonadExcept.tryCatch action handle) := by
  intro s
  have here := first s
  rw [runOn_tryCatch]
  rcases run : runOn action s with ⟨failure | a, between⟩
  · rw [run] at here
    exact (second failure between).trans here
  · rw [run] at here
    exact here

/-- What an action and its clean-up keep is kept. -/
theorem Keeps.onFailure {cleanUp : Failure → Action Unit} (first : Keeps view action)
    (second : ∀ failure, Keeps view (cleanUp failure)) : Keeps view (onFailure action cleanUp) :=
  .tryCatch first fun failure => .bind (second failure) fun _ => .throw view failure

end Keeps

end SafeFetch.Action
