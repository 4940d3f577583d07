import Diego.Executor.Container

/-!
# Steps and the run step

`executor/depot/steps`: the errors of steps, and `run_step.go`.  A step is an `ifrit.Runner`.
It reads from its signal channel as often as it likes and then returns.  A `Substep` is a step
as the step that runs it sees it: whether it takes a signal, what it does by itself, and
whether it has returned.

The run step starts a process in the container and waits for its end.  It takes one signal,
on which it terminates the process; from then on it does not read the channel any more.
-/

namespace Diego.Executor

/-! ## Errors -/

inductive StepError
  | cancelled
  | exceededGracefulShutdownInterval
  | exitTimeout
  | emittable (msg : GoString) (wrappedError : Option StepError)
  /-- A `multierror.Error` with the format of the steps. -/
  | multi (errors : List StepError)
  | other (message : GoString)

def StepError.isDisplayable : StepError → Bool
  | .cancelled | .exceededGracefulShutdownInterval => false
  | _ => true

mutual

def StepError.error : StepError → GoString
  | .cancelled => bytes "cancelled"
  | .exceededGracefulShutdownInterval => bytes "exceeded graceful shutdown interval"
  | .exitTimeout => bytes "process did not exit"
  | .emittable msg _ => msg
  | .multi errors => multiErrorFormat [] errors
  | .other message => message

/-- The loop of `multiErrorFormat`, with the text so far. -/
def multiErrorFormat (errStr : GoString) : List StepError → GoString
  | [] => errStr
  | e :: errors =>
    if !e.isDisplayable then multiErrorFormat errStr errors
    else if errStr = [] then multiErrorFormat e.error errors
    else if e.error ≠ [] then multiErrorFormat (errStr ++ bytes "; " ++ e.error) errors
    else multiErrorFormat errStr errors

end

/-! ## Steps that are run by other steps -/

inductive Signal
  | interrupt
  | other (number : Nat)
  deriving DecidableEq

/-- A step with states `σ` and moves of its own `ι`.  A step that has returned does nothing
more. -/
structure Substep (σ ι : Type*) where
  start : σ
  receive : Signal → σ → Option σ
  /-- The state after a move, if the step can make it. -/
  move : ι → σ → Option σ
  returned : σ → Option (Option StepError)
  receive_of_returned : ∀ signal state, (returned state).isSome → receive signal state = none
  move_of_returned : ∀ action state, (returned state).isSome → move action state = none

/-! ## The run step -/

/-- What the run step has done to its process when it ends. -/
inductive Stopping
  | untouched
  | terminated
  | killed
  deriving DecidableEq

/-- How the run step ends. -/
inductive RunExit
  /-- A signal came before the process was created. -/
  | cancelled
  /-- `Run` of the container or `Wait` of the process failed. -/
  | failed (err : StepError)
  | exited (exitStatus : Int) (outOfMemory : Bool) (stopping : Stopping)
  /-- The process did not even exit after it was killed. -/
  | notExited

structure RunStep where
  sourceName : GoString
  suppressExitStatusCode : Bool

/-- The text for a process that exits with another status than zero. -/
def RunStep.emittableExitErrorMessage (step : RunStep) (exitStatus : Int) (outOfMemory : Bool) :
    GoString :=
  (if step.suppressExitStatusCode then []
    else step.sourceName ++ bytes ": Exited with status " ++ bytes (toString exitStatus)) ++
  (if outOfMemory then bytes " (out of memory)" else [])

/-- What `Run` returns. -/
def RunStep.result (step : RunStep) : RunExit → Option StepError
  | .cancelled => some .cancelled
  | .failed err => some err
  | .exited _ _ .killed => some .exceededGracefulShutdownInterval
  | .exited _ _ .terminated => some .cancelled
  | .exited exitStatus outOfMemory .untouched =>
    if exitStatus ≠ 0 then
      some (.emittable (step.emittableExitErrorMessage exitStatus outOfMemory) none)
    else none
  | .notExited => some .exitTimeout

/-- The process exits with status zero, and nobody stopped it. -/
def RunExit.Clean (exit : RunExit) : Prop :=
  ∃ outOfMemory, exit = .exited 0 outOfMemory .untouched

variable {step : RunStep}

/-- The run step returns nil only after a clean exit. -/
theorem RunStep.result_eq_none_iff (exit : RunExit) : step.result exit = none ↔ exit.Clean := by
  unfold RunExit.Clean
  cases exit with
  | cancelled | failed _ | notExited => simp [RunStep.result]
  | exited exitStatus outOfMemory stopping =>
    cases stopping with
    | untouched | terminated | killed => simp [RunStep.result]

inductive RunState
  | starting
  | creating
  /-- The loop that waits for the process: which of the three channels `signals`, `killSwitch`
  and `exitTimeout` are not nil. -/
  | running (signals killSwitch exitTimeout : Bool)
  | returned (err : Option StepError)

/-- What happens to the run step, apart from signals. -/
inductive RunMove
  /-- No signal was there before the process is created. -/
  | create
  | createFailed (err : StepError)
  | created
  | exit (exitStatus : Int) (outOfMemory : Bool)
  | waitFailed (err : StepError)
  | kill
  | exitTimeout

namespace RunStep

/-- `<-signals` in the three places where `Run` reads it. -/
def receive : Signal → RunState → Option RunState
  | _, .starting | _, .creating => some (.returned (some .cancelled))
  | _, .running true _ exitTimeout => some (.running false true exitTimeout)
  | _, .running false _ _ | _, .returned _ => none

def stopping (signals killSwitch : Bool) : Stopping :=
  if signals then .untouched else if killSwitch then .terminated else .killed

def move (step : RunStep) : RunMove → RunState → Option RunState
  | .create, .starting => some .creating
  | .createFailed err, .creating => some (.returned (step.result (.failed err)))
  | .created, .creating => some (.running true false false)
  | .exit exitStatus outOfMemory, .running signals killSwitch _ =>
    some (.returned (step.result (.exited exitStatus outOfMemory (stopping signals killSwitch))))
  | .waitFailed err, .running _ _ _ => some (.returned (step.result (.failed err)))
  | .kill, .running signals true _ => some (.running signals false true)
  | .exitTimeout, .running _ _ true => some (.returned (step.result .notExited))
  | _, _ => none

def returned : RunState → Option (Option StepError)
  | .returned err => some err
  | _ => none

def toSubstep (step : RunStep) : Substep RunState RunMove where
  start := .starting
  receive := receive
  move := step.move
  returned := returned
  receive_of_returned := by
    intro signal state h
    cases state with
    | returned err => rfl
    | starting | creating | running _ _ _ => exact nomatch h
  move_of_returned := by
    intro action state h
    cases state with
    | returned err => cases action <;> rfl
    | starting | creating | running _ _ _ => exact nomatch h

end RunStep

end Diego.Executor
