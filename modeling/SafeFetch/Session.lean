import SafeFetch.FileSystem.Call
import SafeFetch.Log
import SafeFetch.Transfer.Event

/-!
# Sessions

What an operation works on: a file system, the log, the requests sent to servers and the cancel
signal. An action runs on a session and ends with a result or a failure; what it did up to a failure
stays done.
-/

namespace SafeFetch

open SafeFetch.Transfer

/-- What operations work on. -/
structure Session where
  fs : FileSystem
  /-- The records of the log, latest first. -/
  log : List LogRecord
  /-- The URLs that were asked for, latest first. -/
  requests : List String
  signal : Option CancelSignal
  deriving DecidableEq, Repr

/-- The session before its first action. -/
def Session.start (fs : FileSystem) (signal : Option CancelSignal) : Session :=
  { fs, log := [], requests := [], signal }

/-- A step of an operation. -/
abbrev Action (α : Type) := ExceptT Failure (StateM Session) α

namespace Action

variable {α : Type}

/-- Run an action on a session. -/
def runOn (action : Action α) (session : Session) : Except Failure α × Session :=
  (ExceptT.run action).run session

/-- Go on with a result, or fail. -/
def ofExcept (r : Except Failure α) : Action α := ExceptT.mk (pure r)

/-- Write a record to the log. -/
def report (level : Level) (message : String) : Action Unit :=
  modify fun s => { s with log := { level, message } :: s.log }

/-- Write records to the log and go on with a result. -/
def reporting (r : Except Failure α × List LogRecord) : Action α := do
  modify fun s => { s with log := r.2.reverse ++ s.log }
  ofExcept r.1

/-- Ask the file system. -/
def query (request : FileSystem → Except Failure α) : Action α := do
  ofExcept (request (← get).fs)

/-- Change the file system. -/
def change (request : FileSystem → Except Failure FileSystem) : Action Unit := do
  let fs ← query request
  modify fun s => { s with fs }

/-- Run an action, and after a failure a second one, whose own failure goes before the first. -/
def onFailure (action : Action α) (cleanUp : Failure → Action Unit) : Action α :=
  tryCatch action fun failure => do
    cleanUp failure
    throw failure

/-! ## Runs of actions -/

@[simp]
theorem runOn_pure (a : α) (s : Session) : runOn (pure a : Action α) s = (.ok a, s) := rfl

@[simp]
theorem runOn_throw (failure : Failure) (s : Session) :
    runOn (throw failure : Action α) s = (.error failure, s) := rfl

/-- A second action runs on the session that the first one leaves, unless that fails. -/
theorem runOn_bind {β : Type} (action : Action α) (next : α → Action β) (s : Session) :
    runOn (action >>= next) s =
      match runOn action s with
      | (.ok a, s) => runOn (next a) s
      | (.error failure, s) => (.error failure, s) := by
  simp only [runOn, ExceptT.run_bind, StateT.run_bind]
  generalize StateT.run (ExceptT.run action) s = p
  obtain ⟨a | a, s⟩ := p <;> rfl

@[simp]
theorem runOn_ofExcept (r : Except Failure α) (s : Session) : runOn (ofExcept r) s = (r, s) := rfl

@[simp]
theorem runOn_report (level : Level) (message : String) (s : Session) :
    runOn (report level message) s =
      (.ok (), { s with log := { level, message } :: s.log }) := rfl

@[simp]
theorem runOn_query (request : FileSystem → Except Failure α) (s : Session) :
    runOn (query request) s = (request s.fs, s) := rfl

@[simp]
theorem runOn_get (s : Session) : runOn (get : Action Session) s = (.ok s, s) := rfl

@[simp]
theorem runOn_modify (f : Session → Session) (s : Session) :
    runOn (modify f : Action Unit) s = (.ok (), f s) := rfl

@[simp]
theorem runOn_reporting (r : Except Failure α × List LogRecord) (s : Session) :
    runOn (reporting r) s = (r.1, { s with log := r.2.reverse ++ s.log }) := rfl

/-- A failure is handled on the session that the failed action leaves. -/
theorem runOn_tryCatch (action : Action α) (handle : Failure → Action α) (s : Session) :
    runOn (tryCatch action handle) s =
      match runOn action s with
      | (.ok a, s) => (.ok a, s)
      | (.error failure, s) => runOn (handle failure) s := by
  simp only [runOn, tryCatch, tryCatchThe, MonadExceptOf.tryCatch, ExceptT.tryCatch, ExceptT.run,
    ExceptT.mk, StateT.run_bind]
  generalize StateT.run action s = p
  obtain ⟨a | a, s⟩ := p <;> rfl

/-- A request that the file system refuses leaves the session as it was. -/
theorem runOn_change (request : FileSystem → Except Failure FileSystem) (s : Session) :
    runOn (change request) s =
      match request s.fs with
      | .ok fs => (.ok (), { s with fs })
      | .error failure => (.error failure, s) := by
  simp only [change, runOn_bind, runOn_query]
  cases request s.fs <;> rfl

/-- Cleaning up runs on the session that a failed action leaves. -/
theorem runOn_onFailure (action : Action α) (cleanUp : Failure → Action Unit) (s : Session) :
    runOn (onFailure action cleanUp) s =
      match runOn action s with
      | (.ok a, s) => (.ok a, s)
      | (.error failure, s) =>
        match runOn (cleanUp failure) s with
        | (.ok (), s) => (.error failure, s)
        | (.error later, s) => (.error later, s) := by
  rw [onFailure, runOn_tryCatch]
  rcases runOn action s with ⟨failure | a, s⟩
  · simp only [runOn_bind]
    rcases runOn (cleanUp failure) s with ⟨later | a, s⟩ <;> rfl
  · rfl

end Action

end SafeFetch
