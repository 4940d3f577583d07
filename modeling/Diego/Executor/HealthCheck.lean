import Diego.Executor.RunStep

/-!
# The health check of a container

`transformCheckDefinition` of `executor/depot/transformer/transformer.go` and the steps it
puts together: `health_check_step.go`, `parallel_step.go`, `codependent_step.go` and
`output_wrapper_step.go`.  The health check step first runs the startup checks in parallel,
and when they succeed it runs the liveness checks as codependent steps.  A liveness check is a
process that is supposed to run until the container is unhealthy.

When the liveness checks end, the step calls `Error` of their error without a look at it.
The error is nil, and the call panics, if there are no liveness checks at all, or if all their
processes exit with status zero.  Nothing excludes either: the transformer skips checks that
are not valid, and the codependent step is told not to make an error of an exit.
-/

namespace Diego.Executor

open List

/-! ## Check definitions -/

structure HTTPCheck where
  port : Nat
  requestTimeoutMs : Int
  path : String
  intervalMs : Int

structure TCPCheck where
  port : Nat
  connectTimeoutMs : Int
  intervalMs : Int

structure Check where
  httpCheck : Option HTTPCheck
  tcpCheck : Option TCPCheck

/-- The field of an `ErrInvalidField`. -/
inductive CheckField
  | check
  | port
  deriving DecidableEq

def validatePort (port : Nat) : Option CheckField :=
  if 0 < port ∧ port ≤ 65535 then none else some .port

/-- `Validate`.  With neither check the port of a nil `TCPCheck` is looked at, which is
zero. -/
def Check.validate (check : Check) : Option CheckField :=
  match check.httpCheck, check.tcpCheck with
  | some _, some _ => some .check
  | some httpCheck, none => validatePort httpCheck.port
  | none, some tcpCheck => validatePort tcpCheck.port
  | none, none => validatePort 0

/-! ## The transformer -/

inductive CheckProtocol
  | httpCheck
  | tcpCheck

inductive HealthcheckType
  | isStartupCheck
  | isLivenessCheck

/-- The names of the sidecars that run the checks, without the handle of the container. -/
inductive SidecarName
  | startupHealthcheck (index : Nat)
  | livenessHealthcheck (index : Nat)
  | envoyStartupHealthcheck (index : Nat)
  | envoyLivenessHealthcheck (index : Nat)

/-- What `createCheck` makes. -/
structure CheckStep where
  path : String
  sidecarName : SidecarName
  port : Nat
  timeout : Int
  checkProtocol : CheckProtocol
  checkType : HealthcheckType
  interval : Int
  errorPrefix : GoString
  emitMetric : Bool

/-- Durations are in nanoseconds. -/
structure Transformer where
  useContainerProxy : Bool
  enableContainerProxyHealthChecks : Bool
  emitHealthCheckMetrics : Bool
  declarativeHealthCheckDefaultTimeout : Int
  healthyMonitoringInterval : Int
  unhealthyMonitoringInterval : Int
  proxyHealthCheckInterval : Int

def millisecond : Int := 1000000

def defaultDeclarativeHealthcheckRequestTimeout : Int := 1000

structure HealthCheckStep where
  startupCheck : List CheckStep
  livenessCheck : List CheckStep

namespace Transformer

variable (t : Transformer)

def applyCheckDefaults (timeout interval : Int) (path : String) : Int × Int × String :=
  (if timeout ≤ 0 then t.declarativeHealthCheckDefaultTimeout / millisecond else timeout,
    if interval = 0 then t.healthyMonitoringInterval else interval, if path = "" then "/" else path)

/-- One turn of the loop of `transformCheckDefinition`: the startup check and the liveness
check of a valid check. -/
def checkSteps (check : Check) (index : Nat) : Option (CheckStep × CheckStep) :=
  match check.validate, check.httpCheck, check.tcpCheck with
  | some _, _, _ => none
  | none, some httpCheck, _ =>
    let (timeout, interval, path) := t.applyCheckDefaults httpCheck.requestTimeoutMs
      (httpCheck.intervalMs * millisecond) httpCheck.path
    some (⟨path, .startupHealthcheck index, httpCheck.port, timeout, .httpCheck,
        .isStartupCheck, t.unhealthyMonitoringInterval, [], false⟩,
      ⟨path, .livenessHealthcheck index, httpCheck.port, timeout, .httpCheck,
        .isLivenessCheck, interval, [], t.emitHealthCheckMetrics⟩)
  | none, none, some tcpCheck =>
    let (timeout, interval, _) := t.applyCheckDefaults tcpCheck.connectTimeoutMs
      (tcpCheck.intervalMs * millisecond) ""
    some (⟨"", .startupHealthcheck index, tcpCheck.port, timeout, .tcpCheck,
        .isStartupCheck, t.unhealthyMonitoringInterval, [], false⟩,
      ⟨"", .livenessHealthcheck index, tcpCheck.port, timeout, .tcpCheck,
        .isLivenessCheck, interval, [], t.emitHealthCheckMetrics⟩)
  -- such a check is not valid
  | none, none, none => none

def proxyStartupChecks (proxyTLSPorts : List Nat) : List CheckStep :=
  if t.useContainerProxy then
    proxyTLSPorts.zipIdx.map fun (port, index) =>
      ⟨"", .envoyStartupHealthcheck index, port, defaultDeclarativeHealthcheckRequestTimeout,
        .tcpCheck, .isStartupCheck, t.unhealthyMonitoringInterval,
        bytes "instance proxy failed to start", false⟩
  else []

def proxyLivenessChecks (proxyTLSPorts : List Nat) : List CheckStep :=
  if t.useContainerProxy ∧ t.enableContainerProxyHealthChecks then
    proxyTLSPorts.zipIdx.map fun (port, index) =>
      ⟨"", .envoyLivenessHealthcheck index, port, defaultDeclarativeHealthcheckRequestTimeout,
        .tcpCheck, .isLivenessCheck, t.proxyHealthCheckInterval,
        bytes "instance proxy health check failed", t.emitHealthCheckMetrics⟩
  else []

def transformCheckDefinition (checks : List Check)
    (proxyStartupChecks proxyLivenessChecks : List CheckStep) : HealthCheckStep :=
  let checks := checks.zipIdx.filterMap fun (check, index) => t.checkSteps check index
  { startupCheck := proxyStartupChecks ++ checks.map Prod.fst
    livenessCheck := checks.map Prod.snd ++ proxyLivenessChecks }

/-- The health check that `StepsRunner` makes for the checks of a container. -/
def monitor (checks : List Check) (proxyTLSPorts : List Nat) : HealthCheckStep :=
  t.transformCheckDefinition checks (t.proxyStartupChecks proxyTLSPorts)
    (t.proxyLivenessChecks proxyTLSPorts)

end Transformer

/-! ## The steps -/

/-- `multierror.Append`, which flattens. -/
def appendError (aggregate : List StepError) : StepError → List StepError
  | .multi errors => aggregate ++ errors
  | err => aggregate ++ [err]

def errorOrNil : List StepError → Option StepError
  | [] => none
  | err :: errors => some (.multi (err :: errors))

/-- The loop of the parallel step over the errors of its substeps. -/
def parallelLoop : List StepError → List (Option StepError) → List StepError
  | aggregate, [] => aggregate
  | aggregate, none :: results => parallelLoop aggregate results
  | aggregate, some err :: results => parallelLoop (appendError aggregate err) results

def codependentStepExitedError : StepError :=
  .other (bytes "Codependent step exited")

/-- The loop of the codependent step over the errors of its substeps, in the order in which
they end.  The second result says whether it has cancelled the others. -/
def codependentLoop (errorOnExit cancelOthersOnExit : Bool) :
    List StepError × Bool → List (Option StepError) → List StepError × Bool
  | state, [] => state
  | (aggregate, cancelled), none :: results =>
    if errorOnExit then
      codependentLoop errorOnExit cancelOthersOnExit
        (appendError aggregate codependentStepExitedError, true) results
    else
      codependentLoop errorOnExit cancelOthersOnExit
        (aggregate, cancelled || cancelOthersOnExit) results
  -- an error cancels the others, whatever cancelOthersOnExit says
  | (aggregate, _), some err :: results =>
    codependentLoop errorOnExit cancelOthersOnExit (appendError aggregate err, true) results

/-- How the process of a check ends, and what is then read from its output. -/
structure CheckRun where
  exit : RunExit
  output : Except GoString GoString

/-- What happens while the health check step runs. -/
structure MonitorEnvironment where
  processes : SidecarName → CheckRun
  /-- The step takes a signal while it waits for the startup checks. -/
  startupSignalled : Bool
  /-- The time until the startup checks failed. -/
  healthCheckFailedTime : GoString
  livenessOrder : List CheckStep
  /-- The step takes a signal while it waits for the liveness checks. -/
  livenessSignalled : Bool

/-- How `Run` of the health check step ends. -/
inductive MonitorResult
  | returned (err : Option StepError)
  | panicked

section Run

variable (trimSpace : GoString → GoString)

/-- `Run` of the output wrapper, with the error of its substep. -/
def outputWrapper (errorPrefix : GoString) (output : Except GoString GoString) :
    Option StepError → Option StepError
  | none => none
  | some subStepErr =>
    match output with
    | .error err =>
      some (.other (bytes "Error reading from process output buffer: " ++ err))
    | .ok readerErr =>
      -- the output of a check that failed replaces the error of its process
      let msg := if readerErr ≠ [] then trimSpace readerErr
        else bytes "Failed to invoke process: " ++ subStepErr.error
      let msg := if errorPrefix ≠ [] then errorPrefix ++ bytes ": " ++ msg else msg
      some (.emittable msg (some subStepErr))

/-- The error of a check.  The step that counts failures hands it on. -/
def CheckStep.result (step : CheckStep) (run : CheckRun) : Option StepError :=
  let runStep : RunStep := ⟨[], true⟩
  outputWrapper trimSpace step.errorPrefix run.output (runStep.result run.exit)

def MonitorEnvironment.results (env : MonitorEnvironment) (steps : List CheckStep) :
    List (Option StepError) :=
  steps.map fun step => step.result trimSpace (env.processes step.sidecarName)

/-- `Run` of the health check step.  The last branch is the call of `Error` on nil. -/
def HealthCheckStep.run (step : HealthCheckStep) (env : MonitorEnvironment) : MonitorResult :=
  if env.startupSignalled then .returned (some .cancelled)
  else
    match errorOrNil (parallelLoop [] (env.results trimSpace step.startupCheck)) with
    | some err =>
      .returned (some (.emittable (bytes "Instance never healthy after " ++
        env.healthCheckFailedTime ++ bytes ": " ++ err.error) (some err)))
    | none =>
      if env.livenessSignalled then .returned (some .cancelled)
      else
        match errorOrNil (codependentLoop false false ([], false)
          (env.results trimSpace env.livenessOrder)).1 with
        | some err =>
          .returned (some (.emittable (bytes "Instance became unhealthy: " ++ err.error)
            (some err)))
        | none => .panicked

end Run

/-! ## When the error of the steps is nil -/

/-- An error that `multierror.Append` does not take apart. -/
def StepError.Flat (err : StepError) : Prop :=
  ∀ errors, err ≠ .multi errors

theorem appendError_of_flat {err : StepError} (h : err.Flat) (aggregate : List StepError) :
    appendError aggregate err = aggregate ++ [err] := by
  unfold appendError
  split
  · exact absurd rfl (h _)
  · rfl

variable {results : List (Option StepError)}

theorem parallelLoop_eq (aggregate : List StepError) (hflat : ∀ err, some err ∈ results → err.Flat)
    : parallelLoop aggregate results = aggregate ++ results.filterMap id := by
  induction results generalizing aggregate with
  | nil => simp [parallelLoop]
  | cons result results ih =>
    have hrest := fun aggregate => ih aggregate fun err hmem => hflat err (mem_cons_of_mem _ hmem)
    cases result with
    | none => simpa [parallelLoop] using hrest aggregate
    | some err =>
      rw [parallelLoop, appendError_of_flat (hflat err mem_cons_self), hrest]
      simp

/-- Without `errorOnExit` the codependent step collects the same errors as the parallel one. -/
theorem codependentLoop_eq (cancelOthersOnExit : Bool) (state : List StepError × Bool)
    (hflat : ∀ err, some err ∈ results → err.Flat) :
    (codependentLoop false cancelOthersOnExit state results).1 =
      state.1 ++ results.filterMap id := by
  induction results generalizing state with
  | nil => simp [codependentLoop]
  | cons result results ih =>
    have hrest := fun state => ih state fun err hmem => hflat err (mem_cons_of_mem _ hmem)
    cases result with
    | none => simpa [codependentLoop] using hrest (state.1, state.2 || cancelOthersOnExit)
    | some err =>
      rw [codependentLoop, appendError_of_flat (hflat err mem_cons_self), hrest]
      simp

theorem errorOrNil_eq_none_iff {errors : List StepError} :
    errorOrNil errors = none ↔ errors = [] := by
  cases errors <;> simp [errorOrNil]

section Results

variable {trimSpace : GoString → GoString} {env : MonitorEnvironment}

variable {step : CheckStep} {run : CheckRun}

theorem CheckStep.result_eq_none_iff : step.result trimSpace run = none ↔ run.exit.Clean := by
  rw [← RunStep.result_eq_none_iff]
  unfold CheckStep.result outputWrapper
  dsimp only
  split
  · rename_i hnone
    exact iff_of_true rfl hnone
  · rename_i err herr
    rw [herr]
    split <;> simp

variable {err : StepError} {steps : List CheckStep}

theorem flat_of_outputWrapper {errorPrefix : GoString} {output : Except GoString GoString}
    {subStepErr : Option StepError}
    (h : outputWrapper trimSpace errorPrefix output subStepErr = some err) : err.Flat := by
  unfold outputWrapper at h
  split at h
  · exact nomatch h
  · split at h <;> obtain rfl := Option.some.inj h <;> exact nofun

theorem CheckStep.flat_of_result (h : step.result trimSpace run = some err) : err.Flat :=
  flat_of_outputWrapper h

theorem MonitorEnvironment.flat_of_mem_results (h : some err ∈ env.results trimSpace steps) :
    err.Flat := by
  obtain ⟨step, -, hresult⟩ := mem_map.mp h
  exact CheckStep.flat_of_result hresult

/-- No check has an error if and only if all processes exit cleanly. -/
theorem MonitorEnvironment.results_eq_nil_iff :
    (env.results trimSpace steps).filterMap id = [] ↔
      ∀ step ∈ steps, (env.processes step.sidecarName).exit.Clean := by
  simp [MonitorEnvironment.results, CheckStep.result_eq_none_iff]

theorem MonitorEnvironment.parallel_eq_none_iff :
    errorOrNil (parallelLoop [] (env.results trimSpace steps)) = none ↔
      ∀ step ∈ steps, (env.processes step.sidecarName).exit.Clean := by
  rw [errorOrNil_eq_none_iff, parallelLoop_eq [] fun _ => env.flat_of_mem_results,
    nil_append, env.results_eq_nil_iff]

theorem MonitorEnvironment.codependent_eq_none_iff :
    errorOrNil (codependentLoop false false ([], false) (env.results trimSpace steps)).1 = none ↔
      ∀ step ∈ steps, (env.processes step.sidecarName).exit.Clean := by
  rw [errorOrNil_eq_none_iff, codependentLoop_eq false _ fun _ => env.flat_of_mem_results,
    nil_append, env.results_eq_nil_iff]

/-- The health check step panics if and only if it waits for the end of the liveness checks
and all processes, those of the startup checks and of the liveness checks, exit cleanly. -/
theorem HealthCheckStep.run_eq_panicked_iff {step : HealthCheckStep} :
    step.run trimSpace env = .panicked ↔
      env.startupSignalled = false ∧ env.livenessSignalled = false ∧
      (∀ check ∈ step.startupCheck, (env.processes check.sidecarName).exit.Clean) ∧
      (∀ check ∈ env.livenessOrder, (env.processes check.sidecarName).exit.Clean) := by
  rw [← env.parallel_eq_none_iff, ← env.codependent_eq_none_iff]
  unfold HealthCheckStep.run
  -- the four tests of Run in their order
  cases env.startupSignalled with
  | true => simp
  | false =>
    cases errorOrNil (parallelLoop [] (env.results trimSpace step.startupCheck)) with
    | some err => simp
    | none =>
      cases env.livenessSignalled with
      | true => simp
      | false =>
        cases errorOrNil (codependentLoop false false ([], false)
          (env.results trimSpace env.livenessOrder)).1 with
        | some err => simp
        | none => simp

end Results

/-! ## The processes of the checks -/

section Processes

variable (t : Transformer) (checks : List Check) (proxyTLSPorts : List Nat)

/-- The processes of the startup checks: one for each valid check, and one for each port of
the proxy. -/
inductive StartupProcess : SidecarName → Prop
  | check {index : Nat} {check : Check} (hcheck : checks[index]? = some check)
      (hvalid : check.validate = none) : StartupProcess (.startupHealthcheck index)
  | proxy {index : Nat} (huse : t.useContainerProxy = true)
      (hport : index < proxyTLSPorts.length) : StartupProcess (.envoyStartupHealthcheck index)

/-- The processes of the liveness checks: one for each valid check, and one for each port of
the proxy if health checks of the proxy are enabled. -/
inductive LivenessProcess : SidecarName → Prop
  | check {index : Nat} {check : Check} (hcheck : checks[index]? = some check)
      (hvalid : check.validate = none) : LivenessProcess (.livenessHealthcheck index)
  | proxy {index : Nat} (huse : t.useContainerProxy = true)
      (henable : t.enableContainerProxyHealthChecks = true)
      (hport : index < proxyTLSPorts.length) : LivenessProcess (.envoyLivenessHealthcheck index)

variable {t checks proxyTLSPorts}

variable {check : Check} {steps : CheckStep × CheckStep}

/-- A valid check gives a startup check and a liveness check. -/
theorem Transformer.exists_checkSteps (hvalid : check.validate = none) (index : Nat) :
    ∃ steps, t.checkSteps check index = some steps := by
  unfold Transformer.checkSteps
  rw [hvalid]
  cases hhttp : check.httpCheck with
  | some httpCheck => exact ⟨_, rfl⟩
  | none =>
    cases htcp : check.tcpCheck with
    | some tcpCheck => exact ⟨_, rfl⟩
    | none => simp [Check.validate, hhttp, htcp, validatePort] at hvalid

theorem Transformer.checkSteps_spec {index : Nat} (h : t.checkSteps check index = some steps) :
    check.validate = none ∧ steps.1.sidecarName = .startupHealthcheck index ∧
      steps.2.sidecarName = .livenessHealthcheck index := by
  unfold Transformer.checkSteps at h
  grind

/-- The steps that the loop over the checks makes are those of the valid checks. -/
theorem Transformer.mem_checkSteps :
    (steps ∈ checks.zipIdx.filterMap fun (check, index) => t.checkSteps check index) ↔
      ∃ index check, checks[index]? = some check ∧ t.checkSteps check index = some steps := by
  rw [mem_filterMap]
  constructor
  · rintro ⟨⟨check, index⟩, hmem, hsteps⟩
    exact ⟨index, check, mem_zipIdx_iff_getElem?.mp hmem, hsteps⟩
  · rintro ⟨index, check, hcheck, hsteps⟩
    exact ⟨(check, index), mem_zipIdx_iff_getElem?.mpr hcheck, hsteps⟩

theorem exists_mem_zipIdx {α : Type*} {l : List α} {p : Nat → Prop} :
    (∃ entry ∈ l.zipIdx, p entry.2) ↔ ∃ index < l.length, p index := by
  constructor
  · rintro ⟨⟨value, index⟩, hmem, hp⟩
    exact ⟨index, (List.getElem?_eq_some_iff.mp (List.mem_zipIdx_iff_getElem?.mp hmem)).1, hp⟩
  · rintro ⟨index, hlt, hp⟩
    exact ⟨(l[index], index), List.mem_zipIdx_iff_getElem?.mpr (List.getElem?_eq_getElem hlt), hp⟩

variable {name : SidecarName}

/-- The names of the startup checks, or of the liveness checks, that the loop makes. -/
theorem Transformer.exists_mem_map_checkSteps {kind : CheckStep × CheckStep → CheckStep}
    {mkName : Nat → SidecarName} (hkind : ∀ check index steps,
      t.checkSteps check index = some steps → (kind steps).sidecarName = mkName index) :
    (∃ step ∈ (checks.zipIdx.filterMap fun (check, index) => t.checkSteps check index).map kind,
        step.sidecarName = name) ↔
      ∃ index check, checks[index]? = some check ∧ check.validate = none ∧ mkName index = name := by
  constructor
  · rintro ⟨_, hstep, rfl⟩
    obtain ⟨steps, hsteps, rfl⟩ := mem_map.mp hstep
    obtain ⟨index, check, hcheck, heq⟩ := Transformer.mem_checkSteps.mp hsteps
    exact ⟨index, check, hcheck, (Transformer.checkSteps_spec heq).1, (hkind _ _ _ heq).symm⟩
  · rintro ⟨index, check, hcheck, hvalid, rfl⟩
    obtain ⟨steps, heq⟩ := Transformer.exists_checkSteps (t := t) hvalid index
    refine ⟨kind steps, mem_map_of_mem ?_, hkind _ _ _ heq⟩
    exact Transformer.mem_checkSteps.mpr ⟨index, check, hcheck, heq⟩

theorem Transformer.exists_proxyStartupChecks :
    (∃ step ∈ t.proxyStartupChecks proxyTLSPorts, step.sidecarName = name) ↔
      t.useContainerProxy = true ∧
        ∃ index < proxyTLSPorts.length, SidecarName.envoyStartupHealthcheck index = name := by
  rw [← exists_mem_zipIdx]
  unfold Transformer.proxyStartupChecks
  split <;> simp_all

theorem Transformer.exists_proxyLivenessChecks :
    (∃ step ∈ t.proxyLivenessChecks proxyTLSPorts, step.sidecarName = name) ↔
      (t.useContainerProxy = true ∧ t.enableContainerProxyHealthChecks = true) ∧
        ∃ index < proxyTLSPorts.length, SidecarName.envoyLivenessHealthcheck index = name := by
  rw [← exists_mem_zipIdx]
  unfold Transformer.proxyLivenessChecks
  split <;> simp_all

theorem exists_startupCheck_iff :
    (∃ step ∈ (t.monitor checks proxyTLSPorts).startupCheck, step.sidecarName = name) ↔
      StartupProcess t checks proxyTLSPorts name := by
  simp only [Transformer.monitor, Transformer.transformCheckDefinition, mem_append,
    or_and_right, exists_or, Transformer.exists_proxyStartupChecks]
  rw [Transformer.exists_mem_map_checkSteps fun _ _ _ h => (Transformer.checkSteps_spec h).2.1]
  constructor
  · rintro (⟨huse, index, hport, rfl⟩ | ⟨index, check, hcheck, hvalid, rfl⟩)
    · exact .proxy huse hport
    · exact .check hcheck hvalid
  · rintro (⟨hcheck, hvalid⟩ | ⟨huse, hport⟩)
    · exact Or.inr ⟨_, _, hcheck, hvalid, rfl⟩
    · exact Or.inl ⟨huse, _, hport, rfl⟩

theorem exists_livenessCheck_iff :
    (∃ step ∈ (t.monitor checks proxyTLSPorts).livenessCheck, step.sidecarName = name) ↔
      LivenessProcess t checks proxyTLSPorts name := by
  simp only [Transformer.monitor, Transformer.transformCheckDefinition, mem_append,
    or_and_right, exists_or, Transformer.exists_proxyLivenessChecks]
  rw [Transformer.exists_mem_map_checkSteps fun _ _ _ h => (Transformer.checkSteps_spec h).2.2]
  constructor
  · rintro (⟨index, check, hcheck, hvalid, rfl⟩ | ⟨⟨huse, henable⟩, index, hport, rfl⟩)
    · exact .check hcheck hvalid
    · exact .proxy huse henable hport
  · rintro (⟨hcheck, hvalid⟩ | ⟨huse, henable, hport⟩)
    · exact Or.inl ⟨_, _, hcheck, hvalid, rfl⟩
    · exact Or.inr ⟨⟨huse, henable⟩, _, hport, rfl⟩

end Processes

/-- **The health check step does not panic** if and only if it does not wait for the end of
the liveness checks, because of a signal or of a startup check that fails, or the process of a
liveness check ends in another way than with status zero. -/
theorem monitor_not_panicked_iff (trimSpace : GoString → GoString) (t : Transformer)
    (checks : List Check) (proxyTLSPorts : List Nat) (env : MonitorEnvironment)
    (horder : env.livenessOrder.Perm (t.monitor checks proxyTLSPorts).livenessCheck) :
    (t.monitor checks proxyTLSPorts).run trimSpace env ≠ .panicked ↔
      env.startupSignalled = true ∨ env.livenessSignalled = true ∨
      (∃ name, StartupProcess t checks proxyTLSPorts name ∧ ¬ (env.processes name).exit.Clean) ∨
      (∃ name, LivenessProcess t checks proxyTLSPorts name ∧
        ¬ (env.processes name).exit.Clean) := by
  have hliveness : (∀ check ∈ env.livenessOrder, (env.processes check.sidecarName).exit.Clean) ↔
      ∀ name, LivenessProcess t checks proxyTLSPorts name → (env.processes name).exit.Clean := by
    simp only [horder.mem_iff, ← exists_livenessCheck_iff, forall_exists_index, and_imp]
    exact ⟨fun h name step hstep heq => heq ▸ h step hstep, fun h step hstep => h _ step hstep rfl⟩
  have hstartup : (∀ check ∈ (t.monitor checks proxyTLSPorts).startupCheck,
        (env.processes check.sidecarName).exit.Clean) ↔
      ∀ name, StartupProcess t checks proxyTLSPorts name → (env.processes name).exit.Clean := by
    simp only [← exists_startupCheck_iff, forall_exists_index, and_imp]
    exact ⟨fun h name step hstep heq => heq ▸ h step hstep, fun h step hstep => h _ step hstep rfl⟩
  rw [Ne, HealthCheckStep.run_eq_panicked_iff, hliveness, hstartup]
  simp only [not_and_or, not_forall, Bool.not_eq_false, exists_prop]

/-- A cell without a proxy. -/
def plainTransformer : Transformer :=
  ⟨false, false, false, 1000 * millisecond, 30000 * millisecond, 500 * millisecond,
    30000 * millisecond⟩

def portCheck : Check :=
  ⟨none, some ⟨8080, 1000, 0⟩⟩

/-- Startup checks succeed, and liveness checks end so. -/
def livenessEnds (exit : RunExit) (order : List CheckStep) : MonitorEnvironment where
  processes
    | .startupHealthcheck _ | .envoyStartupHealthcheck _ =>
      ⟨.exited 0 false .untouched, .ok []⟩
    | .livenessHealthcheck _ | .envoyLivenessHealthcheck _ => ⟨exit, .ok []⟩
  startupSignalled := false
  healthCheckFailedTime := bytes "1s"
  livenessOrder := order
  livenessSignalled := false

theorem monitor_not_panicked_of_failure :
    (plainTransformer.monitor [portCheck] []).run id (livenessEnds (.exited 4 false .untouched)
      (plainTransformer.monitor [portCheck] []).livenessCheck) ≠ .panicked := by
  refine (monitor_not_panicked_iff id plainTransformer [portCheck] [] _ (List.Perm.refl _)).mpr ?_
  refine Or.inr (Or.inr (Or.inr ⟨.livenessHealthcheck 0, .check rfl rfl, ?_⟩))
  rintro ⟨_, heq⟩
  exact nomatch heq

/-- A container with an empty list of checks. -/
theorem monitor_panicked_without_checks :
    (plainTransformer.monitor [] []).run id (livenessEnds .cancelled []) = .panicked :=
  rfl

end Diego.Executor
