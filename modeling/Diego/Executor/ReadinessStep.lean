import Diego.Executor.HealthCheck
import Diego.Machine
import Mathlib.Data.List.Chain

/-!
# The readiness check of a container

`transformReadinessCheckDefinition` of `executor/depot/transformer/transformer.go` and
`readiness_health_check_step.go`.  The step runs the until-ready checks in parallel and says on
`readinessChan` that the container is ready when they succeed.  It then runs the until-failure
checks as codependent steps, says that the container is not ready when they fail, and starts
again.

If the until-failure checks ended without an error, the step would start again without a
message, and the next message would be the same as the last one.  The transformer excludes this:
it makes a codependent step that turns an exit into an error, and it makes the step only if there
is a check.
-/

namespace Diego.Executor

open Option

/-! ## The transformer -/

inductive ReadinessCheckType
  | isUntilSuccessReadinessCheck
  | isUntilFailureReadinessCheck

/-- The names of the sidecars that run the checks, without the handle of the container. -/
inductive ReadinessSidecarName
  | untilReadyHealthcheck (index : Nat)
  | readinessHealthcheck (index : Nat)

/-- What `createCheck` makes of a readiness check, which has no prefix and emits no metric. -/
structure ReadinessCheckStep where
  path : String
  sidecarName : ReadinessSidecarName
  port : Nat
  timeout : Int
  checkProtocol : CheckProtocol
  checkType : ReadinessCheckType
  interval : Int

structure ReadinessHealthCheckStep where
  untilReadyCheck : List ReadinessCheckStep
  untilFailureCheck : List ReadinessCheckStep

namespace Transformer

variable (t : Transformer)

/-- One turn of the loop of `transformReadinessCheckDefinition`. -/
def readinessSteps (check : Check) (index : Nat) :
    Option (ReadinessCheckStep × ReadinessCheckStep) :=
  match check.validate, check.httpCheck, check.tcpCheck with
  | some _, _, _ => none
  | none, some httpCheck, _ =>
    let (timeout, interval, path) := t.applyCheckDefaults httpCheck.requestTimeoutMs
      (httpCheck.intervalMs * millisecond) httpCheck.path
    some (⟨path, .untilReadyHealthcheck index, httpCheck.port, timeout, .httpCheck,
        .isUntilSuccessReadinessCheck, t.unhealthyMonitoringInterval⟩,
      ⟨path, .readinessHealthcheck index, httpCheck.port, timeout, .httpCheck,
        .isUntilFailureReadinessCheck, interval⟩)
  | none, none, some tcpCheck =>
    let (timeout, interval, _) := t.applyCheckDefaults tcpCheck.connectTimeoutMs
      (tcpCheck.intervalMs * millisecond) ""
    -- both checks of a port have the name of the second
    some (⟨"", .readinessHealthcheck index, tcpCheck.port, timeout, .tcpCheck,
        .isUntilSuccessReadinessCheck, t.unhealthyMonitoringInterval⟩,
      ⟨"", .readinessHealthcheck index, tcpCheck.port, timeout, .tcpCheck,
        .isUntilFailureReadinessCheck, interval⟩)
  -- such a check is not valid
  | none, none, none => none

/-- The step, for which there is a channel, or an error. -/
def transformReadinessCheckDefinition (readinessChecks : List Check) :
    Except GoString ReadinessHealthCheckStep :=
  let checks := readinessChecks.zipIdx.filterMap fun (check, index) => t.readinessSteps check index
  if (checks.map Prod.fst).length = 0 then .error (bytes "no-valid-readiness-checks")
  else .ok { untilReadyCheck := checks.map Prod.fst, untilFailureCheck := checks.map Prod.snd }

theorem exists_readinessSteps {check : Check} (hvalid : check.validate = none) {index : Nat} :
    ∃ steps, t.readinessSteps check index = some steps := by
  unfold readinessSteps
  rw [hvalid]
  cases hhttp : check.httpCheck with
  | some httpCheck => exact ⟨_, rfl⟩
  | none =>
    cases htcp : check.tcpCheck with
    | some tcpCheck => exact ⟨_, rfl⟩
    | none => simp [Check.validate, hhttp, htcp, validatePort] at hvalid

/-- With a valid check there is a step, and it has a check that may fail. -/
theorem transformReadinessCheckDefinition_spec {readinessChecks : List Check}
    (h : ∃ check ∈ readinessChecks, check.validate = none) :
    ∃ monitor, t.transformReadinessCheckDefinition readinessChecks = .ok monitor ∧
      monitor.untilFailureCheck ≠ [] := by
  obtain ⟨check, hmem, hvalid⟩ := h
  obtain ⟨index, hcheck⟩ := List.mem_iff_getElem?.mp hmem
  obtain ⟨steps, hsteps⟩ := t.exists_readinessSteps hvalid
  have hne : (readinessChecks.zipIdx.filterMap
      fun (check, index) => t.readinessSteps check index) ≠ [] := by
    refine List.ne_nil_of_mem (List.mem_filterMap.mpr ⟨(check, index), ?_, hsteps⟩)
    exact List.mem_zipIdx_iff_getElem?.mpr hcheck
  refine ⟨_, if_neg ?_, ?_⟩
  · simpa using hne
  · simpa using hne

end Transformer

/-! ## The checks while they run -/

/-- A composite step with the substeps that it waits for. -/
inductive CheckProcess
  /-- `parallel_step.go`, which waits for its substeps in their order. -/
  | parallel (substeps : List ReadinessCheckStep) (aggregate : List StepError)
  /-- `codependent_step.go` with `errorOnExit` and `cancelOthersOnExit`, which hears of its
  substeps in the order in which they end.  The second part of its state says whether it has
  cancelled the others. -/
  | codependent (substeps : List ReadinessCheckStep) (state : List StepError × Bool)

/-- `Wait`, once all substeps have ended. -/
def CheckProcess.wait : CheckProcess → Option (Option StepError)
  | .parallel [] aggregate | .codependent [] (aggregate, _) => some (errorOrNil aggregate)
  | .parallel (_ :: _) _ | .codependent (_ :: _) _ => none

section Process

variable (trimSpace : GoString → GoString)

def ReadinessCheckStep.result (run : CheckRun) : Option StepError :=
  let runStep : RunStep := ⟨[], true⟩
  outputWrapper trimSpace [] run.output (runStep.result run.exit)

/-- The process of a substep ends, and the composite step goes through its loop once. -/
def CheckProcess.exit (index : Nat) (run : CheckRun) : CheckProcess → Option CheckProcess
  | .parallel (_ :: substeps) aggregate =>
    if index = 0 then
      some (.parallel substeps
        (parallelLoop aggregate [ReadinessCheckStep.result trimSpace run]))
    else none
  | .parallel [] _ => none
  | .codependent substeps state =>
    if index < substeps.length then
      some (.codependent (substeps.eraseIdx index)
        (codependentLoop true true state [ReadinessCheckStep.result trimSpace run]))
    else none

end Process

/-! ## The step -/

inductive ReadinessState
  | isReady
  | isNotReady
  deriving DecidableEq

/-- Where `Run` is.  It returns only with an error. -/
inductive ReadinessPhase
  | created
  | untilReady (process : CheckProcess)
  | sendIsReady
  | untilFailure (process : CheckProcess)
  | sendIsNotReady
  /-- Has passed a signal on and waits for the checks to end. -/
  | cancelling (process : CheckProcess)
  | returned (err : StepError)

/-- What happens while the step runs, apart from the messages. -/
inductive ReadinessMove
  | start
  /-- The process of a check ends. -/
  | exit (index : Nat) (run : CheckRun)
  /-- The step receives the result of its checks. -/
  | wait
  /-- The step receives a signal. -/
  | signal

namespace ReadinessHealthCheckStep

variable (step : ReadinessHealthCheckStep)

def runUntilReadyProcess : ReadinessPhase :=
  .untilReady (.parallel step.untilReadyCheck [])

def runUntilFailureProcess : ReadinessPhase :=
  .untilFailure (.codependent step.untilFailureCheck ([], false))

section Move

variable (trimSpace : GoString → GoString)

def move : ReadinessMove → ReadinessPhase → Option ReadinessPhase
  | .start, .created => some step.runUntilReadyProcess
  | .exit index run, .untilReady process => (process.exit trimSpace index run).map .untilReady
  | .exit index run, .untilFailure process => (process.exit trimSpace index run).map .untilFailure
  | .exit index run, .cancelling process => (process.exit trimSpace index run).map .cancelling
  | .wait, .untilReady process => process.wait.map fun
      | some err => .returned err
      | none => .sendIsReady
  | .wait, .untilFailure process => process.wait.map fun
      | some _ => .sendIsNotReady
      -- "unexpected-until-failure-check-result": the loop of Run goes on without a message
      | none => step.runUntilReadyProcess
  | .wait, .cancelling process => process.wait.map fun _ => .returned .cancelled
  | .signal, .untilReady process | .signal, .untilFailure process => some (.cancelling process)
  | .signal, .sendIsReady | .signal, .sendIsNotReady => some (.returned .cancelled)
  | _, _ => none

end Move

/-- The message that the step is ready to send, and where it then is. -/
def send : ReadinessPhase → Option (ReadinessState × ReadinessPhase)
  | .sendIsReady => some (.isReady, step.runUntilFailureProcess)
  | .sendIsNotReady => some (.isNotReady, step.runUntilReadyProcess)
  | _ => none

end ReadinessHealthCheckStep

/-- The step, with the values it has sent on `readinessChan`. -/
structure ReadinessRun where
  phase : ReadinessPhase
  sent : List ReadinessState

def ReadinessRun.new : ReadinessRun :=
  ⟨.created, []⟩

inductive ReadinessAction
  | move (move : ReadinessMove)
  /-- Somebody receives from `readinessChan`. -/
  | receive

/-- One step of `Run`, with a receiver that may come at any time. -/
def ReadinessHealthCheckStep.step (step : ReadinessHealthCheckStep)
    (trimSpace : GoString → GoString) : ReadinessAction → ReadinessRun → Option ReadinessRun
  | .move move, run =>
    (step.move trimSpace move run.phase).map fun phase => { run with phase := phase }
  | .receive, run =>
    (step.send run.phase).map fun (state, phase) => ⟨phase, run.sent ++ [state]⟩

/-! ## The until-failure checks end with an error -/

/-- A process that cannot end without an error. -/
def CheckProcess.Fails : CheckProcess → Prop
  | .parallel _ _ => False
  | .codependent substeps (aggregate, _) => substeps ≠ [] ∨ aggregate ≠ []

variable {aggregate : List StepError} {process : CheckProcess}

theorem appendError_ne_nil {err : StepError} (h : err.Flat) : appendError aggregate err ≠ [] := by
  rw [appendError_of_flat h]
  simp

theorem flat_codependentStepExitedError : codependentStepExitedError.Flat := by
  intro errors h
  simp [codependentStepExitedError] at h

/-- With `errorOnExit` every substep that ends leaves an error. -/
theorem codependentLoop_ne_nil {state : List StepError × Bool} {result : Option StepError}
    (hflat : ∀ err, result = some err → err.Flat) :
    (codependentLoop true true state [result]).1 ≠ [] := by
  cases result with
  | none => exact appendError_ne_nil flat_codependentStepExitedError
  | some err => exact appendError_ne_nil (hflat err rfl)

theorem CheckProcess.Fails.exit {trimSpace : GoString → GoString} {index : Nat} {run : CheckRun}
    {process' : CheckProcess} (h : process.Fails)
    (hexit : process.exit trimSpace index run = some process') : process'.Fails := by
  cases process with
  | parallel substeps aggregate => exact absurd h id
  | codependent substeps state =>
    obtain ⟨-, heq⟩ := ite_none_right_eq_some.mp hexit
    cases heq
    exact Or.inr (codependentLoop_ne_nil fun _ => flat_of_outputWrapper)

theorem CheckProcess.Fails.wait_ne (h : process.Fails) : process.wait ≠ some none := by
  cases process with
  | parallel substeps aggregate => exact absurd h id
  | codependent substeps state =>
    cases substeps with
    | cons substep substeps => simp [CheckProcess.wait]
    | nil =>
      have hne : state.1 ≠ [] := h.resolve_left (absurd rfl)
      simpa [CheckProcess.wait, errorOrNil_eq_none_iff] using hne

/-! ## The messages alternate -/

/-- The messages start with `IsReady`, and each is another one than the last. -/
structure Alternates (sent : List ReadinessState) : Prop where
  first : ∀ state, sent.head? = some state → state = .isReady
  strictly : sent.IsChain (· ≠ ·)

def saysReady (sent : List ReadinessState) : Bool :=
  sent.getLast? = some .isReady

theorem saysReady_append {sent : List ReadinessState} {state : ReadinessState} :
    saysReady (sent ++ [state]) = decide (state = .isReady) := by
  simp [saysReady]

theorem Alternates.append {sent : List ReadinessState} {state : ReadinessState}
    (h : Alternates sent) (hlast : saysReady sent ≠ decide (state = .isReady)) :
    Alternates (sent ++ [state]) where
  first state' hstate := by
    cases sent with
    | nil =>
      cases hstate
      simpa [saysReady] using hlast
    | cons head sent => exact h.first state' hstate
  strictly := by
    refine List.isChain_append.mpr ⟨h.strictly, List.isChain_singleton _, ?_⟩
    rintro state' hstate _ ⟨⟩ rfl
    simp [saysReady, mem_def.mp hstate] at hlast

/-- What the step has said when it is in a phase. -/
def Said (sent : List ReadinessState) : ReadinessPhase → Prop
  | .created => sent = []
  | .untilReady _ | .sendIsReady => saysReady sent = false
  | .untilFailure process => saysReady sent = true ∧ process.Fails
  | .sendIsNotReady => saysReady sent = true
  | .cancelling _ | .returned _ => True

/-- What holds while the step runs. -/
structure ReadinessRun.Consistent (run : ReadinessRun) : Prop where
  alternates : Alternates run.sent
  said : Said run.sent run.phase

theorem ReadinessRun.consistent_new : ReadinessRun.new.Consistent where
  alternates := ⟨nofun, List.isChain_nil⟩
  said := rfl

section Step

variable {trimSpace : GoString → GoString} {monitor : ReadinessHealthCheckStep}
  {phase : ReadinessPhase} {run : ReadinessRun}

/-- Without a message the step does not forget what it has said. -/
theorem Said.move {sent : List ReadinessState} {phase' : ReadinessPhase} {move : ReadinessMove}
    (h : Said sent phase) (hmove : monitor.move trimSpace move phase = some phase') :
    Said sent phase' := by
  unfold ReadinessHealthCheckStep.move at hmove
  split at hmove
  -- start
  · cases hmove
    obtain rfl := h
    rfl
  -- the process of a check ends
  · obtain ⟨process', -, rfl⟩ := map_eq_some_iff.mp hmove
    exact h
  · obtain ⟨process', hexit, rfl⟩ := map_eq_some_iff.mp hmove
    exact ⟨h.1, h.2.exit hexit⟩
  · obtain ⟨process', -, rfl⟩ := map_eq_some_iff.mp hmove
    trivial
  -- the checks have ended
  · obtain ⟨result, -, rfl⟩ := map_eq_some_iff.mp hmove
    cases result with
    | none => exact h
    | some err => trivial
  · obtain ⟨result, hwait, rfl⟩ := map_eq_some_iff.mp hmove
    cases result with
    | none => exact absurd hwait h.2.wait_ne
    | some err => exact h.1
  · obtain ⟨result, -, rfl⟩ := map_eq_some_iff.mp hmove
    trivial
  -- a signal
  · cases hmove
    trivial
  · cases hmove
    trivial
  · cases hmove
    trivial
  · cases hmove
    trivial
  · cases hmove

/-- After a message the step waits for the opposite one. -/
theorem ReadinessRun.Consistent.send {state : ReadinessState} (h : run.Consistent)
    (hchecks : monitor.untilFailureCheck ≠ [])
    (hsend : monitor.send run.phase = some (state, phase)) :
    ReadinessRun.Consistent ⟨phase, run.sent ++ [state]⟩ ∧
      saysReady run.sent ≠ decide (state = .isReady) := by
  have hsaid := h.said
  unfold ReadinessHealthCheckStep.send at hsend
  split at hsend
  · rename_i hphase
    obtain ⟨rfl, rfl⟩ := Prod.mk.inj (some.inj hsend)
    rw [hphase] at hsaid
    have hne : saysReady run.sent ≠ decide (ReadinessState.isReady = .isReady) := by
      rw [show saysReady run.sent = false from hsaid]
      decide
    exact ⟨⟨h.alternates.append hne, saysReady_append, Or.inl hchecks⟩, hne⟩
  · rename_i hphase
    obtain ⟨rfl, rfl⟩ := Prod.mk.inj (some.inj hsend)
    rw [hphase] at hsaid
    have hne : saysReady run.sent ≠ decide (ReadinessState.isNotReady = .isReady) := by
      rw [show saysReady run.sent = true from hsaid]
      decide
    exact ⟨⟨h.alternates.append hne, saysReady_append⟩, hne⟩
  · cases hsend

theorem ReadinessRun.Consistent.step {run' : ReadinessRun} {action : ReadinessAction}
    (h : run.Consistent) (hchecks : monitor.untilFailureCheck ≠ [])
    (hstep : monitor.step trimSpace action run = some run') : run'.Consistent := by
  cases action with
  | move move =>
    obtain ⟨phase, hmove, rfl⟩ := map_eq_some_iff.mp hstep
    exact ⟨h.alternates, h.said.move hmove⟩
  | receive =>
    obtain ⟨⟨state, phase⟩, hsend, rfl⟩ := map_eq_some_iff.mp hstep
    exact (h.send hchecks hsend).1

end Step

end Diego.Executor
