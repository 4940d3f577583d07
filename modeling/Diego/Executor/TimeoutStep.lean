import Diego.Executor.RunStep
import Diego.Machine

/-!
# The timeout step

`executor/depot/steps/timeout_step.go`.  The step and the goroutine of its substep talk over
two channels without a buffer: the step sends signals, the goroutine sends the result.  In
its loop the step waits for a signal, the timeout or the result.  But once it has taken a
signal or the timeout it only sends, and if the substep has returned, or returns before it
reads the signal, nobody receives: the goroutine waits to send the result, and the step waits
to send the signal.

This does not happen if and only if the step takes signals and the timeout only while the
substep has not returned, and the substep does not return while the step is sending.
-/

namespace Diego.Executor

open Option

inductive TimeoutRun
  /-- The `select` of the loop. -/
  | selecting
  | sending (signal : Signal)
  /-- Sends the interrupt after the timeout. -/
  | interrupting
  /-- Waits for the result after the timeout. -/
  | awaiting
  | returned (err : Option StepError)

/-- `Run` is blocked until the substep reads a signal. -/
def TimeoutRun.sends : TimeoutRun → Bool
  | .sending _ | .interrupting => true
  | .selecting | .awaiting | .returned _ => false

structure TimeoutState (σ : Type*) where
  run : TimeoutRun
  substep : σ

inductive TimeoutAction (ι : Type*)
  /-- The step takes a signal from its own channel. -/
  | signal (signal : Signal)
  /-- The timer fires, and the step takes that. -/
  | timeout
  /-- The substep reads from `subStepSignals`. -/
  | read
  /-- The substep goes on by itself. -/
  | move (action : ι)
  /-- The step takes the result of the substep. -/
  | result

structure TimeoutStep (σ ι : Type*) where
  substep : Substep σ ι
  timeout : GoString

namespace TimeoutStep

variable {σ ι : Type*} (step : TimeoutStep σ ι)

def emittableMessage (timeout : GoString) (substepErr : Option StepError) : GoString :=
  let message := bytes "exceeded " ++ timeout ++ bytes " timeout"
  match substepErr with
  | some (.emittable msg _) => message ++ bytes "; " ++ msg
  | _ => message

def start : TimeoutState σ :=
  ⟨.selecting, step.substep.start⟩

/-- One step of `Run` or of the goroutine of the substep, if it is possible. -/
def next : TimeoutAction ι → TimeoutState σ → Option (TimeoutState σ)
  | .signal signal, ⟨.selecting, substep⟩ => some ⟨.sending signal, substep⟩
  | .timeout, ⟨.selecting, substep⟩ => some ⟨.interrupting, substep⟩
  | .read, ⟨.sending signal, substep⟩ =>
    (step.substep.receive signal substep).map fun substep => ⟨.selecting, substep⟩
  | .read, ⟨.interrupting, substep⟩ =>
    (step.substep.receive .interrupt substep).map fun substep => ⟨.awaiting, substep⟩
  | .move action, ⟨run, substep⟩ =>
    (step.substep.move action substep).map fun substep => ⟨run, substep⟩
  | .result, ⟨.selecting, substep⟩ =>
    (step.substep.returned substep).map fun err => ⟨.returned err, substep⟩
  | .result, ⟨.awaiting, substep⟩ =>
    (step.substep.returned substep).map fun err =>
      ⟨.returned (some (.emittable (emittableMessage step.timeout err) err)), substep⟩
  | _, _ => none

/-- The substep has returned while the step is sending a signal to it. -/
def Deadlocked (state : TimeoutState σ) : Prop :=
  state.run.sends = true ∧ (step.substep.returned state.substep).isSome

/-- `Run` has returned, or does so in its next step. -/
def CanReturn (state : TimeoutState σ) : Prop :=
  (∃ err, state.run = .returned err) ∨
    ∃ err substep, step.next .result state = some ⟨.returned err, substep⟩

/-- The step takes a signal or the timeout only while the substep has not returned, and the
substep does not return while the step is sending. -/
def Attended : TimeoutAction ι → TimeoutState σ → Prop
  | .signal _, state | .timeout, state => step.substep.returned state.substep = none
  | .move action, state => state.run.sends = true →
      ∀ substep, step.substep.move action state.substep = some substep →
        step.substep.returned substep = none
  | .read, _ | .result, _ => True

variable {step} {state state' : TimeoutState σ} {substep : RunState} {runStep : RunStep}

/-! ## Deadlocks -/

/-- Once the substep has returned, either the step can return or it is deadlocked. -/
theorem canReturn_of_not_deadlocked (h : ¬ step.Deadlocked state)
    (hreturned : (step.substep.returned state.substep).isSome) : step.CanReturn state := by
  obtain ⟨run, substep⟩ := state
  obtain ⟨err, herr⟩ := Option.isSome_iff_exists.mp hreturned
  cases run with
  | sending _ | interrupting => exact absurd ⟨rfl, hreturned⟩ h
  | returned err => exact Or.inl ⟨err, rfl⟩
  | selecting | awaiting => exact Or.inr ⟨_, _, congrArg (Option.map _) herr⟩

theorem not_deadlocked_start : ¬ step.Deadlocked step.start :=
  fun h => nomatch h.1

/-- A step of the two goroutines makes a deadlock if and only if it is not attended. -/
theorem not_deadlocked_iff_attended {action : TimeoutAction ι} (h : ¬ step.Deadlocked state)
    (hnext : step.next action state = some state') :
    ¬ step.Deadlocked state' ↔ step.Attended action state := by
  obtain ⟨run, substep⟩ := state
  cases action with
  | signal signal | timeout =>
    cases run with
    | selecting =>
      cases hnext
      simp [Deadlocked, TimeoutRun.sends, Attended]
    | sending _ | interrupting | awaiting | returned _ => exact nomatch hnext
  -- after a read or a result the step is not sending any more
  | read =>
    refine iff_of_true ?_ trivial
    cases run with
    | sending _ | interrupting =>
      obtain ⟨_, -, rfl⟩ := map_eq_some_iff.mp hnext
      exact fun hdeadlocked => nomatch hdeadlocked.1
    | selecting | awaiting | returned _ => exact nomatch hnext
  | move action =>
    obtain ⟨substep', hmove, rfl⟩ := map_eq_some_iff.mp hnext
    simp [Deadlocked, Attended, hmove]
  | result =>
    refine iff_of_true ?_ trivial
    cases run with
    | selecting | awaiting =>
      obtain ⟨_, -, rfl⟩ := map_eq_some_iff.mp hnext
      exact fun hdeadlocked => nomatch hdeadlocked.1
    | sending _ | interrupting | returned _ => exact nomatch hnext

/-- **A timed step cannot deadlock**, and can return as soon as its substep has returned, in
every state of a run if and only if all steps of the run are attended. -/
theorem deadlockFree_iff_attended (step : TimeoutStep σ ι) (actions : List (TimeoutAction ι))
    (hrun : (Machine.run step.next step.start actions).isSome) :
    (∀ state, Machine.Visits step.next step.start actions state → ¬ step.Deadlocked state ∧
        ((step.substep.returned state.substep).isSome → step.CanReturn state)) ↔
      Machine.Meets step.next step.Attended step.start actions := by
  -- the invariant is that there is no deadlock, and an unattended step makes one at once
  refine Machine.safe_iff_meets (fun state h => ⟨h, canReturn_of_not_deadlocked h⟩) ?_ ?_
    not_deadlocked_start hrun
  · exact fun action state state' h hcond hnext => (not_deadlocked_iff_attended h hnext).mpr hcond
  · exact fun action state state' h hnext hsafe =>
      (not_deadlocked_iff_attended h hnext).mp hsafe.1

/-! ## A second signal for the run step -/

def ofRunStep (runStep : RunStep) (timeout : GoString) : TimeoutStep RunState RunMove :=
  ⟨runStep.toSubstep, timeout⟩

/-- The run step has taken its signal, or has returned. -/
def Deaf : RunState → Prop
  | .running false _ _ | .returned _ => True
  | .starting | .creating | .running true _ _ => False

theorem Deaf.receive_eq_none (h : Deaf substep) {signal : Signal} :
    RunStep.receive signal substep = none := by
  cases substep with
  | starting | creating => exact h.elim
  | returned _ => rfl
  | running signals _ _ =>
    cases signals with
    | true => exact h.elim
    | false => rfl

theorem Deaf.move {action : RunMove} {substep' : RunState} (h : Deaf substep)
    (hmove : runStep.move action substep = some substep') : Deaf substep' := by
  cases substep with
  | starting | creating => exact h.elim
  | returned _ => cases action <;> exact nomatch hmove
  | running signals killSwitch exitTimeout =>
    cases signals with
    | true => exact h.elim
    | false =>
      cases action with
      | create | createFailed _ | created => exact nomatch hmove
      | exit _ _ | waitFailed _ =>
        cases hmove
        trivial
      | kill =>
        cases killSwitch with
        | false => exact nomatch hmove
        | true =>
          cases hmove
          trivial
      | exitTimeout =>
        cases exitTimeout with
        | false => exact nomatch hmove
        | true =>
          cases hmove
          trivial

/-- A run step that has taken a signal reads no other, and a timeout step that sends one to
it never gets any further. -/
theorem sends_of_second_signal {timeout : GoString} {state state' : TimeoutState RunState}
    (hsends : state.run.sends = true) (hdeaf : Deaf state.substep)
    (hreach : Machine.Reaches (ofRunStep runStep timeout).next (fun _ _ => True) state state') :
    state'.run.sends = true ∧ Deaf state'.substep := by
  induction hreach with
  | refl => exact ⟨hsends, hdeaf⟩
  | @step action before after _ _ hnext ih =>
    obtain ⟨run, substep⟩ := before
    obtain ⟨hsends, hdeaf⟩ := ih
    cases run with
    | selecting | awaiting | returned _ => exact nomatch hsends
    | sending signal | interrupting =>
      cases action with
      | signal _ | timeout | result => exact nomatch hnext
      | read =>
        obtain ⟨_, hreceive, -⟩ := map_eq_some_iff.mp hnext
        exact nomatch hreceive.symm.trans hdeaf.receive_eq_none
      | move action =>
        obtain ⟨substep', hmove, rfl⟩ := map_eq_some_iff.mp hnext
        exact ⟨rfl, hdeaf.move hmove⟩

def minuteStep : TimeoutStep RunState RunMove :=
  ofRunStep ⟨bytes "APP", false⟩ (bytes "1m0s")

theorem sends_after_second_signal :
    ∃ state state', Machine.run minuteStep.next minuteStep.start
        [.move .create, .move .created, .signal .interrupt, .read, .signal .interrupt] =
          some state ∧
      minuteStep.next (.move (.exit 143 false)) state = some state' ∧ state'.run.sends = true := by
  have hnext : minuteStep.next (.move (.exit 143 false))
      ⟨.sending .interrupt, .running false true false⟩ = some _ := rfl
  refine ⟨_, _, rfl, hnext, (sends_of_second_signal ?_ ?_ (.step .refl trivial hnext)).1⟩
  · rfl
  · trivial

/-- The process is terminated by a signal, and exits. -/
def oneSignal : List (TimeoutAction RunMove) :=
  [.move .create, .move .created, .signal .interrupt, .read, .move (.exit 143 false), .result]

theorem deadlockFree_of_one_signal :
    (Machine.run minuteStep.next minuteStep.start oneSignal).isSome ∧
      ∀ state, Machine.Visits minuteStep.next minuteStep.start oneSignal state →
        ¬ minuteStep.Deadlocked state ∧
          ((minuteStep.substep.returned state.substep).isSome → minuteStep.CanReturn state) := by
  refine ⟨rfl, (deadlockFree_iff_attended minuteStep oneSignal rfl).mpr ?_⟩
  refine ⟨nofun, ?_⟩
  rintro _ ⟨⟩
  refine ⟨nofun, ?_⟩
  rintro _ ⟨⟩
  refine ⟨rfl, ?_⟩
  rintro _ ⟨⟩
  refine ⟨trivial, ?_⟩
  rintro _ ⟨⟩
  refine ⟨nofun, ?_⟩
  rintro _ ⟨⟩
  exact ⟨trivial, fun _ _ => trivial⟩

/-- A second signal comes before the process exits. -/
theorem deadlocked_by_second_signal :
    ∃ state, Machine.run minuteStep.next minuteStep.start
        [.move .create, .move .created, .signal .interrupt, .read, .signal .interrupt,
          .move (.exit 143 false)] = some state ∧
      minuteStep.Deadlocked state :=
  ⟨_, rfl, rfl, rfl⟩

end TimeoutStep

end Diego.Executor
