import Diego.Machine

/-!
# The garden health runner

`gardenhealth/runner.go`.  `Run` selects among signals, two timers, a ticker and the results
of health checks, first in a loop that ends with the first success and then in the main loop.
Goroutines, timers and the choice of `select` take turns in any order.

`drains` says whether stopping or resetting a timer discards a firing that was not received
yet; the source runs with either kind of timer.

The initial loop stops the timeout timer without asking whether it has fired, so it trusts a
check that succeeds too late; the main loop does not.
-/

namespace Diego.Executor.GardenHealth

open List

structure Timer where
  running : Bool := false
  /-- Fired since it was last set. -/
  fired : Bool := false
  /-- Fired and not yet received. -/
  pending : Bool := false
  deriving DecidableEq

namespace Timer

variable (drains : Bool) (timer : Timer)

def fire : Timer := ⟨false, true, true⟩

def receive : Timer := { timer with pending := false }

def reset : Timer := ⟨true, false, timer.pending && !drains⟩

def stop : Timer := { timer with running := false, pending := timer.pending && !drains }

end Timer

/-- What `Healthcheck` returns: nil, an error, or an `UnrecoverableError`. -/
inductive Result
  | nil
  | failed
  | unrecoverable
  deriving DecidableEq

/-- What the loops receive; of a check also whether the timeout timer fired during it. -/
inductive Received
  | timeout
  | complete (err : Result) (late : Bool)
  deriving DecidableEq

inductive Phase
  | initial
  | main
  | returned
  deriving DecidableEq

structure Runner where
  phase : Phase := .initial
  /-- The `Healthcheck` calls in flight: whether the timeout timer has fired during them. -/
  calls : List Bool := [false]
  healthcheckComplete : List (Result × Bool) := []
  healthcheckTimeout : Timer := { running := true }
  startHealthcheck : Timer := {}
  /-- How the executor is marked. -/
  healthy : Bool
  /-- What was received, with the `SetHealthy` call it led to, the last one first. -/
  log : List (Received × Option Bool) := []
  deriving DecidableEq

inductive Action
  | healthcheck (call : Nat) (err : Result)
  | fireTimeout
  | fireStart
  | signal
  | timeout
  | start
  | emit
  | complete
  deriving DecidableEq

namespace Runner

variable (drains : Bool) (r : Runner)

/-- An iteration that marks the executor. -/
def setHealthy (received : Received) (healthy : Bool) : Runner :=
  { r with healthy, log := (received, some healthy) :: r.log }

def receiveComplete : Option Runner :=
  match r.phase, r.healthcheckComplete with
  | .returned, _ | _, [] => none
  | .initial, (err, late) :: rest =>
    let r := { r with healthcheckComplete := rest }
    let r := match err with
      | .nil => { r with
          phase := .main
          healthcheckTimeout := r.healthcheckTimeout.stop drains
          startHealthcheck := { running := true } }
      | .failed => { r with calls := r.calls ++ [false] }
      | .unrecoverable => { r with phase := .returned }
    some (r.setHealthy (.complete err late) (err = .nil))
  | .main, (err, late) :: rest =>
    let timeoutOk := !r.healthcheckTimeout.fired
    let r := { r with
      healthcheckComplete := rest
      healthcheckTimeout := r.healthcheckTimeout.stop drains
      startHealthcheck := r.startHealthcheck.reset drains }
    if err = .nil ∧ !timeoutOk then some { r with log := (.complete err late, none) :: r.log }
    else some (r.setHealthy (.complete err late) (err = .nil))

def step : Action → Runner → Option Runner
  | .healthcheck call err, r => r.calls[call]?.map fun late =>
      { r with
        calls := r.calls.eraseIdx call
        healthcheckComplete := r.healthcheckComplete ++ [(err, late)] }
  | .fireTimeout, r =>
    if r.healthcheckTimeout.running then
      some { r with healthcheckTimeout := .fire, calls := r.calls.map fun _ => true }
    else none
  | .fireStart, r =>
    if r.startHealthcheck.running then some { r with startHealthcheck := .fire } else none
  | .signal, r => if r.phase = .returned then none else some { r with phase := .returned }
  | .timeout, r =>
    if r.phase ≠ .returned ∧ r.healthcheckTimeout.pending then
      some (({ r with
        phase := if r.phase = .initial then .returned else r.phase
        healthcheckTimeout := r.healthcheckTimeout.receive } : Runner).setHealthy .timeout false)
    else none
  | .start, r =>
    if r.phase = .main ∧ r.startHealthcheck.pending then
      some { r with
        startHealthcheck := r.startHealthcheck.receive
        healthcheckTimeout := r.healthcheckTimeout.reset drains
        calls := r.calls ++ [false] }
    else none
  | .emit, r => if r.phase = .main then some r else none
  | .complete, r => r.receiveComplete drains

/-! ## Checks one at a time -/

/-- Checks in flight, results not yet received, and a check that is due. -/
def outstanding : Nat :=
  r.calls.length + r.healthcheckComplete.length + r.startHealthcheck.running.toNat +
    r.startHealthcheck.pending.toNat

/-- After a timeout or a failed check, until a check succeeds in time. -/
def untrusted : List (Received × Option Bool) → Bool
  | [] => false
  | (.complete .nil false, _) :: _ => false
  | (.complete .nil true, _) :: log => untrusted log
  | _ :: _ => true

structure Sound : Prop where
  single : r.outstanding ≤ 1
  late_call : true ∈ r.calls → r.healthcheckTimeout.fired
  late_result : ∀ err, (err, true) ∈ r.healthcheckComplete → r.healthcheckTimeout.fired
  trusts : ∀ received, (received, some true) ∈ r.log → received = .complete .nil false
  unhealthy : untrusted r.log → r.healthy = false

/-- The initial loop does not receive a success that comes too late. -/
def InTime (action : Action) (r : Runner) : Prop :=
  action = .complete → r.phase = .initial → r.healthcheckComplete.head? ≠ some (.nil, true)

instance (action : Action) (r : Runner) : Decidable (InTime action r) :=
  inferInstanceAs (Decidable (_ → _ → _))

variable {drains} {r} {next : Runner} {action : Action}

theorem Sound.setHealthy {received : Received} {healthy : Bool} (h : r.Sound)
    (htrusted : healthy = true → received = .complete .nil false) :
    (r.setHealthy received healthy).Sound := by
  refine { h with trusts := ?_, unhealthy := ?_ }
  · intro received' hmem
    rcases mem_cons.mp hmem with heq | hmem
    · obtain ⟨rfl, hhealthy⟩ := Prod.mk.inj heq
      exact htrusted (Option.some.inj hhealthy).symm
    · exact h.trusts received' hmem
  · intro huntrusted
    by_contra hhealthy
    rw [Bool.not_eq_false] at hhealthy
    cases htrusted hhealthy
    cases huntrusted

/-- A result that was received leaves no other check. -/
theorem Sound.idle {err : Result} {late : Bool} {rest : List (Result × Bool)} (h : r.Sound)
    (hcomplete : r.healthcheckComplete = (err, late) :: rest) :
    r.calls = [] ∧ rest = [] ∧ r.startHealthcheck.running = false ∧
      r.startHealthcheck.pending = false := by
  have hsingle := h.single
  rw [outstanding, hcomplete, length_cons] at hsingle
  refine ⟨length_eq_zero_iff.mp (by omega), length_eq_zero_iff.mp (by omega),
    Bool.toNat_eq_zero.mp (by omega), Bool.toNat_eq_zero.mp (by omega)⟩

/-- No call that the timer has overtaken, and no result. -/
theorem Sound.change (h : r.Sound) (hsingle : next.outstanding ≤ 1) (hcalls : true ∉ next.calls)
    (hcomplete : next.healthcheckComplete = []) (hlog : next.log = r.log)
    (hhealthy : next.healthy = r.healthy) : next.Sound where
  single := hsingle
  late_call hmem := absurd hmem hcalls
  late_result := by simp [hcomplete]
  trusts := hlog ▸ h.trusts
  unhealthy := hlog ▸ hhealthy ▸ h.unhealthy

theorem Sound.receiveComplete (h : r.Sound) (hin : InTime .complete r)
    (hstep : r.receiveComplete drains = some next) : next.Sound := by
  unfold Runner.receiveComplete at hstep
  split at hstep
  · cases hstep
  · cases hstep
  · rename_i err late rest hphase hcomplete
    obtain ⟨hcalls, rfl, hrunning, hpending⟩ := h.idle hcomplete
    have hin := hin rfl hphase
    cases hstep
    refine Sound.setHealthy ?_ (by cases late <;> simp_all)
    cases err
    all_goals
      refine h.change ?_ ?_ rfl rfl rfl
      · simp [outstanding, hcalls, hrunning, hpending]
      · simp [hcalls]
  · rename_i err late rest hphase hcomplete
    obtain ⟨hcalls, rfl, hrunning, hpending⟩ := h.idle hcomplete
    have hlate := h.late_result err
    have hidle : ({ r with
        healthcheckComplete := []
        healthcheckTimeout := r.healthcheckTimeout.stop drains
        startHealthcheck := r.startHealthcheck.reset drains } : Runner).Sound := by
      refine h.change ?_ ?_ rfl rfl rfl
      · simp [outstanding, Timer.reset, hcalls, hpending]
      · simp [hcalls]
    dsimp only at hstep
    split at hstep
    · cases hstep
      refine { hidle with trusts := ?_, unhealthy := ?_ }
      · simpa using hidle.trusts
      · intro h
        refine hidle.unhealthy ?_
        cases late <;> simp_all [untrusted]
    · cases hstep
      exact hidle.setHealthy (by cases late <;> simp_all)

theorem Sound.step (h : r.Sound) (hin : InTime action r)
    (hstep : step drains action r = some next) : next.Sound := by
  have hsingle := h.single
  rw [outstanding] at hsingle
  cases action with
  | healthcheck call err =>
    obtain ⟨late, hlate, rfl⟩ := Option.map_eq_some_iff.mp hstep
    obtain ⟨hcall, heq⟩ := List.getElem?_eq_some_iff.mp hlate
    refine ⟨?_, fun hmem => h.late_call (mem_of_mem_eraseIdx hmem), fun err' hmem => ?_,
      h.trusts, h.unhealthy⟩
    · simp only [outstanding, length_eraseIdx_of_lt hcall, length_append,
        length_singleton]
      omega
    · rcases mem_append.mp hmem with hmem | hmem
      · exact h.late_result err' hmem
      · obtain ⟨rfl, rfl⟩ := Prod.mk.inj (mem_singleton.mp hmem)
        exact h.late_call (mem_of_getElem? hlate)
  | fireTimeout =>
    obtain ⟨hrunning, heq⟩ := Option.ite_none_right_eq_some.mp hstep
    cases heq
    exact { h with
      single := by simpa [outstanding] using h.single
      late_call := fun _ => rfl
      late_result := fun _ _ => rfl }
  | fireStart =>
    obtain ⟨hrunning, heq⟩ := Option.ite_none_right_eq_some.mp hstep
    cases heq
    rw [hrunning] at hsingle
    refine { h with single := ?_ }
    simp only [outstanding, Timer.fire, Bool.toNat_false] at hsingle ⊢
    omega
  | signal =>
    obtain ⟨-, heq⟩ := Option.ite_none_left_eq_some.mp hstep
    cases heq
    exact { h with }
  | timeout =>
    obtain ⟨-, heq⟩ := Option.ite_none_right_eq_some.mp hstep
    cases heq
    refine Sound.setHealthy ?_ nofun
    exact { h with }
  | start =>
    obtain ⟨⟨-, hpending⟩, heq⟩ := Option.ite_none_right_eq_some.mp hstep
    cases heq
    rw [hpending, Bool.toNat_true] at hsingle
    have hcalls : r.calls = [] := length_eq_zero_iff.mp (by omega)
    have hcomplete : r.healthcheckComplete = [] := length_eq_zero_iff.mp (by omega)
    have hrunning : r.startHealthcheck.running = false := Bool.toNat_eq_zero.mp (by omega)
    exact h.change (by simp [outstanding, Timer.receive, hcalls, hcomplete, hrunning])
      (by simp [hcalls]) hcomplete rfl rfl
  | emit =>
    obtain ⟨-, heq⟩ := Option.ite_none_right_eq_some.mp hstep
    cases heq
    exact h
  | complete => exact h.receiveComplete hin hstep

/-- **The runner checks one at a time and trusts no late check.**  Unless the initial loop
receives a success of a check during which the timeout timer fired: at most one call is in
flight, the executor is marked healthy only for a success in time, and after a timeout or a
failed check it stays unhealthy until then. -/
theorem sound_of_reaches {healthy : Bool}
    (h : Machine.Reaches (step drains) InTime { healthy } r) :
    r.calls.length ≤ 1 ∧
      (∀ received, (received, some true) ∈ r.log → received = .complete .nil false) ∧
      (untrusted r.log → r.healthy = false) := by
  have hsound : r.Sound := by
    refine h.invariant ?_ fun _ _ _ h hin hstep => h.step hin hstep
    exact ⟨Nat.le_refl 1, by simp, by simp, by simp, nofun⟩
  have hsingle := hsound.single
  rw [outstanding] at hsingle
  exact ⟨by omega, hsound.trusts, hsound.unhealthy⟩

def sampleRun : List Action → Option Runner :=
  Machine.run (step true) { healthy := false }

/-- A check fails, the next one succeeds in time. -/
theorem sound_of_reaches_retried :
    ∃ r, sampleRun [.healthcheck 0 .failed, .complete, .healthcheck 0 .nil, .complete] = some r ∧
      r.calls.length ≤ 1 := by
  obtain ⟨r, hrun⟩ := Option.isSome_iff_exists.mp (show (sampleRun [.healthcheck 0 .failed,
    .complete, .healthcheck 0 .nil, .complete]).isSome by decide)
  exact ⟨r, hrun, (sound_of_reaches (Machine.reaches_of_run (by decide) hrun)).1⟩

/-- The timeout timer fires during the first check, whose success the initial loop trusts. -/
theorem late_check_trusted :
    (sampleRun [.fireTimeout, .healthcheck 0 .nil, .complete]).map log =
      some [(.complete .nil true, some true)] := by
  decide

end Runner

end Diego.Executor.GardenHealth
