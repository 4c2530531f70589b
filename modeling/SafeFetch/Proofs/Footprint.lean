import Mathlib.Data.Set.Basic
import SafeFetch.Proofs.Effect
import SafeFetch.Proofs.FileSystem.Tree

/-!
# Footprints of actions

The places that an action touches. What stands elsewhere neither decides how the action ends nor is
changed by it, so two actions that touch different places can be run in either order. As with
effects, the footprint of an action is known as soon as those of its steps are.

Only sessions without a cancel signal are looked at: a signal is shared by all actions, and each of
them may set it off for the next one.

## Main definitions

* `FileSystem.AgreesOn`: two file systems have the same entries at some places;
* `Action.Touches`: an action touches nothing but some places;
* `FileSystem.IsLocal`: a change of a file system concerns one place only;
* `Action.Commutes`: two actions can be run in either order.

## Main results

* `Touches.change` and `Touches.query`: footprints of single steps;
* `Touches.goOn`, `Touches.bind` and `Touches.onFailure`: footprints of sequences;
* `Touches.commutes`: actions that touch different places commute.
-/

namespace SafeFetch

namespace FileSystem

variable {fs fs' fs'' : FileSystem} {places others : Set Place} {place : Place}

/-- Two file systems have the same working directory and umask, and the same entries at some
places. -/
structure AgreesOn (places : Set Place) (fs fs' : FileSystem) : Prop where
  home : fs'.workingDirectory = fs.workingDirectory
  umask : fs'.umask = fs.umask
  get?_eq {place : Place} : place ∈ places → fs'.get? place = fs.get? place

theorem AgreesOn.refl (places : Set Place) (fs : FileSystem) : AgreesOn places fs fs :=
  ⟨rfl, rfl, fun _ => rfl⟩

theorem AgreesOn.symm (h : AgreesOn places fs fs') : AgreesOn places fs' fs :=
  ⟨h.home.symm, h.umask.symm, fun isIn => (h.get?_eq isIn).symm⟩

theorem AgreesOn.trans (h : AgreesOn places fs fs') (h' : AgreesOn places fs' fs'') :
    AgreesOn places fs fs'' :=
  ⟨h'.home.trans h.home, h'.umask.trans h.umask,
    fun isIn => (h'.get?_eq isIn).trans (h.get?_eq isIn)⟩

/-- File systems that agree on places agree on fewer of them. -/
theorem AgreesOn.mono (h : AgreesOn places fs fs') (fewer : others ⊆ places) :
    AgreesOn others fs fs' :=
  ⟨h.home, h.umask, fun isIn => h.get?_eq (fewer isIn)⟩

/-- File systems that differ at one place at most agree on places elsewhere. -/
theorem AgreesOff.agreesOn (h : AgreesOff place fs fs') (off : place ∉ places) :
    AgreesOn places fs fs' := by
  refine ⟨h.home, h.umask, fun {other} isIn => h.get?_eq ?_⟩
  rintro rfl
  exact off isIn

/-- How two changes compare at a place: both are refused alike, or both are granted and leave the
same entry there. -/
inductive Alike (place : Place) :
    Except Failure FileSystem → Except Failure FileSystem → Prop
  | refused (failure : Failure) : Alike place (.error failure) (.error failure)
  | granted {fs fs' : FileSystem} (same : fs.get? place = fs'.get? place) :
      Alike place (.ok fs) (.ok fs')

/-- A change concerns one place: what stands there decides how it ends and what stands there
afterwards, and it leaves all other places and the invariant alone. -/
structure IsLocal (isReady : FileSystem → Prop) (place : Place)
    (request : FileSystem → Except Failure FileSystem) : Prop where
  alike {fs other : FileSystem} : isReady fs → isReady other →
    fs.get? place = other.get? place → Alike place (request fs) (request other)
  edits {fs fs' : FileSystem} : isReady fs → request fs = .ok fs' →
    isReady fs' ∧ AgreesOff place fs fs'

end FileSystem

open FileSystem

/-- A session without a cancel signal whose file system has a property. -/
structure Session.IsReady (isReady : FileSystem → Prop) (s : Session) : Prop where
  uncancelled : s.signal = none
  ready : isReady s.fs

namespace Action

variable {α β : Type} {action : Action α} {next : α → Action β} {isReady : FileSystem → Prop}
  {places others : Set Place} {place : Place} {s t : Session}

/-- An action touches nothing but some places, where file systems have a property that it keeps:
what stands elsewhere does not decide how it ends, and stays as it is. -/
structure Touches (isReady : FileSystem → Prop) (places : Set Place) (action : Action α) :
    Prop where
  agrees {s t : Session} : s.IsReady isReady → t.IsReady isReady → AgreesOn places s.fs t.fs →
    (runOn action t).1 = (runOn action s).1 ∧
      AgreesOn places (runOn action s).2.fs (runOn action t).2.fs
  leaves {s : Session} : s.IsReady isReady →
    (runOn action s).2.IsReady isReady ∧ AgreesOn placesᶜ s.fs (runOn action s).2.fs

/-! ## Single steps -/

/-- An action that does the same in every session, and nothing to the file system, touches no
place. -/
theorem Touches.of_idle (outcome : Except Failure α)
    (idle : ∀ s : Session, s.IsReady isReady → (runOn action s).1 = outcome ∧
      (runOn action s).2.fs = s.fs ∧ (runOn action s).2.signal = none) :
    Touches isReady places action where
  agrees {s t} ready ready' agrees := by
    obtain ⟨result, same, -⟩ := idle s ready
    obtain ⟨result', same', -⟩ := idle t ready'
    rw [result, result', same, same']
    exact ⟨rfl, agrees⟩
  leaves {s} ready := by
    obtain ⟨-, same, uncancelled⟩ := idle s ready
    refine ⟨⟨uncancelled, ?_⟩, ?_⟩
    · rw [same]
      exact ready.ready
    · rw [same]
      exact .refl _ _

theorem Touches.pure (a : α) : Touches isReady places (Pure.pure a : Action α) :=
  .of_idle (.ok a) fun _ ready => ⟨rfl, rfl, ready.uncancelled⟩

theorem Touches.throw (failure : Failure) :
    Touches isReady places (MonadExcept.throw failure : Action α) :=
  .of_idle (.error failure) fun _ ready => ⟨rfl, rfl, ready.uncancelled⟩

theorem Touches.ofExcept (r : Except Failure α) : Touches isReady places (Action.ofExcept r) :=
  .of_idle r fun _ ready => ⟨rfl, rfl, ready.uncancelled⟩

theorem Touches.report (level : Level) (message : String) :
    Touches isReady places (Action.report level message) :=
  .of_idle (.ok ()) fun _ ready => ⟨rfl, rfl, ready.uncancelled⟩

theorem Touches.reporting (r : Except Failure α × List LogRecord) :
    Touches isReady places (Action.reporting r) :=
  .of_idle r.1 fun _ ready => ⟨rfl, rfl, ready.uncancelled⟩

/-- A question touches the places that decide about its answer. -/
theorem Touches.query {request : FileSystem → Except Failure α}
    (decided : ∀ fs fs', isReady fs → isReady fs' → AgreesOn places fs fs' →
      request fs' = request fs) : Touches isReady places (Action.query request) where
  agrees ready ready' agrees := ⟨decided _ _ ready.ready ready'.ready agrees, agrees⟩
  leaves ready := ⟨ready, .refl _ _⟩

/-- A change that concerns one place touches that place. -/
theorem Touches.change {request : FileSystem → Except Failure FileSystem}
    (isLocal : IsLocal isReady place request) (isIn : place ∈ places) :
    Touches isReady places (Action.change request) where
  agrees {s t} ready ready' agrees := by
    have alike := isLocal.alike ready.ready ready'.ready (agrees.get?_eq isIn).symm
    rw [runOn_change, runOn_change]
    rcases changed : request s.fs with failure | fs <;>
      rcases changed' : request t.fs with failure' | fs' <;> rw [changed, changed'] at alike
    · cases alike
      exact ⟨rfl, agrees⟩
    · cases alike
    · cases alike
    · cases alike with
      | granted same =>
        -- Elsewhere both file systems are as they were.
        obtain ⟨-, edits⟩ := isLocal.edits ready.ready changed
        obtain ⟨-, edits'⟩ := isLocal.edits ready'.ready changed'
        refine ⟨rfl, edits'.home.trans (agrees.home.trans edits.home.symm),
          edits'.umask.trans (agrees.umask.trans edits.umask.symm), fun {other} isOther => ?_⟩
        by_cases isThere : other = place
        · rw [isThere]
          exact same.symm
        · calc
            fs'.get? other = t.fs.get? other := edits'.get?_eq isThere
            _ = s.fs.get? other := agrees.get?_eq isOther
            _ = fs.get? other := (edits.get?_eq isThere).symm
  leaves {s} ready := by
    rw [runOn_change]
    rcases changed : request s.fs with failure | fs
    · exact ⟨ready, .refl _ _⟩
    · obtain ⟨ready', edits⟩ := isLocal.edits ready.ready changed
      exact ⟨⟨ready.uncancelled, ready'⟩, edits.agreesOn (by simpa using isIn)⟩

/-! ## Sequences -/

/-- An action touches what another one does that runs in the same way. -/
theorem Touches.congr {action' : Action α}
    (same : ∀ s : Session, s.signal = none → runOn action' s = runOn action s)
    (touches : Touches isReady places action) : Touches isReady places action' where
  agrees {s t} ready ready' agrees := by
    rw [same s ready.uncancelled, same t ready'.uncancelled]
    exact touches.agrees ready ready' agrees
  leaves {s} ready := by
    rw [same s ready.uncancelled]
    exact touches.leaves ready

/-- An action that goes on as the outcome of its first step says touches what this step does, and
what may follow. What follows only matters after outcomes that the first step can have. -/
theorem Touches.goOn {whole : Action β} {follow : Except Failure α → Action β}
    (first : Touches isReady places action)
    (second : ∀ outcome, (∃ s : Session, s.IsReady isReady ∧ (runOn action s).1 = outcome) →
      Touches isReady places (follow outcome))
    (runs : ∀ s, runOn whole s = runOn (follow (runOn action s).1) (runOn action s).2) :
    Touches isReady places whole where
  agrees {s t} ready ready' agrees := by
    obtain ⟨results, between⟩ := first.agrees ready ready' agrees
    -- The first step ends alike in both sessions, so the same step follows.
    have later := second _ ⟨s, ready, rfl⟩
    rw [runs, runs, results]
    exact later.agrees (first.leaves ready).1 (first.leaves ready').1 between
  leaves {s} ready := by
    obtain ⟨readyBetween, stays⟩ := first.leaves ready
    obtain ⟨readyAfter, stays'⟩ := (second _ ⟨s, ready, rfl⟩).leaves readyBetween
    rw [runs]
    exact ⟨readyAfter, stays.trans stays'⟩

/-- What follows a step in a sequence. -/
def onward (next : α → Action β) : Except Failure α → Action β
  | .ok a => next a
  | .error failure => MonadExcept.throw failure

/-- What follows a step whose failures are handled. -/
def recovering (handle : Failure → Action α) : Except Failure α → Action α
  | .ok a => Pure.pure a
  | .error failure => handle failure

/-- Two steps touch what each of them does. -/
theorem Touches.bind (first : Touches isReady places action)
    (second : ∀ a, (∃ s s', s.IsReady isReady ∧ runOn action s = (.ok a, s')) →
      Touches isReady places (next a)) : Touches isReady places (action >>= next) := by
  have follows (outcome : Except Failure α)
      (reached : ∃ s : Session, s.IsReady isReady ∧ (runOn action s).1 = outcome) :
      Touches isReady places (onward next outcome) := by
    obtain ⟨s, ready, result⟩ := reached
    cases outcome with
    | ok a => exact second a ⟨s, _, ready, Prod.ext result rfl⟩
    | error failure => exact .throw failure
  refine first.goOn follows fun s => ?_
  rw [runOn_bind]
  rcases runOn action s with ⟨_ | _, s'⟩ <;> rfl

/-- An action and the handler of its failures touch what each of them does. -/
theorem Touches.tryCatch {handle : Failure → Action α} (first : Touches isReady places action)
    (second : ∀ failure, Touches isReady places (handle failure)) :
    Touches isReady places (MonadExcept.tryCatch action handle) := by
  have follows (outcome : Except Failure α)
      (_ : ∃ s : Session, s.IsReady isReady ∧ (runOn action s).1 = outcome) :
      Touches isReady places (recovering handle outcome) := by
    cases outcome with
    | ok a => exact .pure a
    | error failure => exact second failure
  refine first.goOn follows fun s => ?_
  rw [runOn_tryCatch]
  rcases runOn action s with ⟨_ | _, s'⟩ <;> rfl

/-- An action and its clean-up touch what each of them does. -/
theorem Touches.onFailure {cleanUp : Failure → Action Unit}
    (first : Touches isReady places action)
    (second : ∀ failure, Touches isReady places (cleanUp failure)) :
    Touches isReady places (onFailure action cleanUp) :=
  .tryCatch first fun failure => .bind (second failure) fun _ _ => .throw failure

/-! ## Either order -/

/-- Two actions commute on a session: in either order each of them ends in the same way, and the
same entries stand in the file system afterwards. -/
structure Commutes (first : Action α) (second : Action β) (s : Session) : Prop where
  first_eq : (runOn first (runOn second s).2).1 = (runOn first s).1
  second_eq : (runOn second (runOn first s).2).1 = (runOn second s).1
  same : AgreesOn Set.univ (runOn second (runOn first s).2).2.fs
    (runOn first (runOn second s).2).2.fs

/-- Actions that touch different places commute. -/
theorem Touches.commutes {first : Action α} {second : Action β}
    (touches : Touches isReady places first) (touches' : Touches isReady others second)
    (apart : ∀ place ∈ places, place ∉ others) (ready : s.IsReady isReady) :
    Commutes first second s := by
  obtain ⟨ready₁, stays₁⟩ := touches.leaves ready
  obtain ⟨ready₂, stays₂⟩ := touches'.leaves ready
  have off : places ⊆ othersᶜ := apart
  have off' : others ⊆ placesᶜ := fun place isIn isPlace => apart place isPlace isIn
  -- Each action finds its own places as it would have found them without the other one.
  obtain ⟨first_eq, first_same⟩ := touches.agrees ready ready₂ (stays₂.mono off)
  obtain ⟨second_eq, second_same⟩ := touches'.agrees ready ready₁ (stays₁.mono off')
  obtain ⟨-, stays₁₂⟩ := touches'.leaves ready₁
  obtain ⟨-, stays₂₁⟩ := touches.leaves ready₂
  refine ⟨first_eq, second_eq, ?_, ?_, fun {place} _ => ?_⟩
  · rw [first_same.home, stays₁₂.home]
  · rw [first_same.umask, stays₁₂.umask]
  by_cases isFirst : place ∈ places
  · rw [first_same.get?_eq isFirst, stays₁₂.get?_eq (off isFirst)]
  · rw [stays₂₁.get?_eq isFirst]
    by_cases isSecond : place ∈ others
    · rw [second_same.get?_eq isSecond]
    · rw [stays₂.get?_eq isSecond, stays₁₂.get?_eq isSecond, stays₁.get?_eq isFirst]

end Action

end SafeFetch
