import Diego.Executor.Ifrit
import Diego.Machine

/-!
# The serial step

`executor/depot/steps/serial_step.go` and `background_step.go`.  The serial step runs its
substeps one after the other.  A signal ends the loop: the step passes it on to the substep
that is running and then returns whatever that substep returns.

A substep may well return nil after a signal.  A background step does so whenever it reads the
signal, and a run step does so when its process exits with status zero before the signal is
read.  Then the serial step succeeds although the substeps behind were never run.  In all other
cases it returns nil only after all substeps have (`serial_succeeds_iff`).
-/

namespace Diego.Executor

open Option List

/-! ## The background step -/

/-- `Run` of the background step and the goroutine of its substep. -/
inductive BackgroundState (σ : Type*)
  | selecting (substep : σ)
  /-- `Run` has returned.  After a signal the goroutine of the substep runs on. -/
  | returned (err : Option StepError)

inductive BackgroundMove (ι : Type*)
  | substep (action : ι)
  /-- `Run` takes the error of the substep from `errCh`. -/
  | result

namespace BackgroundState

variable {σ ι : Type*}

def receive : Signal → BackgroundState σ → Option (BackgroundState σ)
  | _, .selecting _ => some (.returned none)
  | _, .returned _ => none

def move (substep : Substep σ ι) :
    BackgroundMove ι → BackgroundState σ → Option (BackgroundState σ)
  | .substep action, .selecting state => (substep.move action state).map .selecting
  | .result, .selecting state => (substep.returned state).map .returned
  | _, .returned _ => none

def hasReturned : BackgroundState σ → Option (Option StepError)
  | .selecting _ => none
  | .returned err => some err

end BackgroundState

/-- The background step as a substep.  Its own substep gets a signal channel that nobody writes
to. -/
def backgroundStep {σ ι : Type*} (substep : Substep σ ι) :
    Substep (BackgroundState σ) (BackgroundMove ι) where
  start := .selecting substep.start
  receive := BackgroundState.receive
  move := BackgroundState.move substep
  returned := BackgroundState.hasReturned
  receive_of_returned := by
    intro signal state h
    cases state with
    | selecting _ => simp [BackgroundState.hasReturned] at h
    | returned err => rfl
  move_of_returned := by
    intro action state h
    cases state with
    | selecting _ => simp [BackgroundState.hasReturned] at h
    | returned err => cases action <;> rfl

/-! ## The serial step -/

inductive SerialRun (σ : Type*)
  /-- The `select` for a substep. -/
  | running (index : Nat) (process : IfritProcess σ)
  /-- A signal was taken and passed on. -/
  | signalled (index : Nat) (process : IfritProcess σ)
  | returned (err : Option StepError)

/-- `Run`, and how the substeps have ended so far, in the order in which they were run. -/
structure SerialState (σ : Type*) where
  run : SerialRun σ
  ended : List (Option StepError)

inductive SerialAction (ι : Type*)
  | process (event : ProcessEvent ι)
  /-- `Run` takes a signal from its own channel. -/
  | signal (signal : Signal)
  /-- `Run` takes the exit status of the substep. -/
  | result

namespace SerialStep

variable {σ ι : Type*} (steps : List (Substep σ ι))

/-- The loop at some index. -/
def loop (index : Nat) (ended : List (Option StepError)) : SerialState σ :=
  match steps[index]? with
  | some action => ⟨.running index (.background action), ended⟩
  | none => ⟨.returned none, ended⟩

def start : SerialState σ :=
  loop steps 0 []

def next : SerialAction ι → SerialState σ → Option (SerialState σ)
  | .process event, ⟨.running index process, ended⟩ =>
    steps[index]?.bind fun action =>
      (IfritProcess.next action event process).map fun process => ⟨.running index process, ended⟩
  | .process event, ⟨.signalled index process, ended⟩ =>
    steps[index]?.bind fun action =>
      (IfritProcess.next action event process).map fun process =>
        ⟨.signalled index process, ended⟩
  | .signal signal, ⟨.running index process, ended⟩ =>
    some ⟨.signalled index (process.signal signal), ended⟩
  | .result, ⟨.running index process, ended⟩ =>
    steps[index]?.bind fun action =>
      (process.exitStatus action).map fun substepErr =>
        if substepErr.isSome then ⟨.returned substepErr, ended ++ [substepErr]⟩
        else loop steps (index + 1) (ended ++ [substepErr])
  | .result, ⟨.signalled index process, ended⟩ =>
    steps[index]?.bind fun action =>
      (process.exitStatus action).map fun substepErr =>
        ⟨.returned substepErr, ended ++ [substepErr]⟩
  | _, _ => none

/-- If `Run` has succeeded, all substeps were run and returned nil. -/
def Honest (state : SerialState σ) : Prop :=
  state.run = .returned none → state.ended = replicate steps.length none

/-- A substep that returns nil after a signal is the last one. -/
def Attended : SerialAction ι → SerialState σ → Prop
  | .result, ⟨.signalled index process, _⟩ =>
    ∀ action, steps[index]? = some action → process.exitStatus action = some none →
      index + 1 = steps.length
  | _, _ => True

/-- `Run` comes to a substep only when all substeps before have returned nil. -/
def InOrder : SerialState σ → Prop
  | ⟨.running index _, ended⟩ | ⟨.signalled index _, ended⟩ =>
    index < steps.length ∧ ended = replicate index none
  | ⟨.returned _, _⟩ => True

variable {steps} {state state' : SerialState σ} {action : SerialAction ι}

/-- The loop at an index before which all substeps have returned nil. -/
theorem loop_spec {index : Nat} (hindex : index ≤ steps.length) :
    InOrder steps (loop steps index (replicate index none)) ∧
      Honest steps (loop steps index (replicate index none)) := by
  unfold loop
  by_cases hlt : index < steps.length
  · rw [getElem?_eq_getElem hlt]
    exact ⟨⟨hlt, rfl⟩, nofun⟩
  · obtain rfl : index = steps.length := le_antisymm hindex (not_lt.mp hlt)
    rw [getElem?_eq_none le_rfl]
    exact ⟨trivial, fun _ => rfl⟩

/-- One step of `Run` or of its substep: the order is kept, and `Run` stays honest exactly if
the step is attended. -/
theorem next_spec (horder : InOrder steps state) (hnext : next steps action state = some state') :
    InOrder steps state' ∧
      (Honest steps state' ↔ Honest steps state ∧ Attended steps action state) := by
  obtain ⟨run, ended⟩ := state
  cases run with
  | returned err => cases action <;> simp [next] at hnext
  | running index process =>
    obtain ⟨hlt, rfl⟩ := horder
    have hhonest : Honest steps ⟨.running index process, replicate index none⟩ := nofun
    -- whatever happens here is attended, so all that is left is that `Run` stays honest
    suffices hspec : InOrder steps state' ∧ Honest steps state' from
      ⟨hspec.1, iff_of_true hspec.2 ⟨hhonest, by cases action <;> trivial⟩⟩
    cases action with
    | process event =>
      obtain ⟨substep, -, hmap⟩ := bind_eq_some_iff.mp hnext
      obtain ⟨process', -, rfl⟩ := map_eq_some_iff.mp hmap
      exact ⟨⟨hlt, rfl⟩, nofun⟩
    | signal signal =>
      cases hnext
      exact ⟨⟨hlt, rfl⟩, nofun⟩
    | result =>
      obtain ⟨substep, -, hmap⟩ := bind_eq_some_iff.mp hnext
      obtain ⟨substepErr, -, rfl⟩ := map_eq_some_iff.mp hmap
      cases substepErr with
      | some err => exact ⟨trivial, nofun⟩
      | none =>
        rw [← replicate_succ']
        exact loop_spec hlt
  | signalled index process =>
    obtain ⟨hlt, rfl⟩ := horder
    have hhonest : Honest steps ⟨.signalled index process, replicate index none⟩ := nofun
    cases action with
    | process event =>
      obtain ⟨substep, -, hmap⟩ := bind_eq_some_iff.mp hnext
      obtain ⟨process', -, rfl⟩ := map_eq_some_iff.mp hmap
      exact ⟨⟨hlt, rfl⟩, iff_of_true nofun ⟨hhonest, trivial⟩⟩
    | signal signal => simp [next] at hnext
    | result =>
      obtain ⟨substep, hsubstep, hmap⟩ := bind_eq_some_iff.mp hnext
      obtain ⟨substepErr, hexit, rfl⟩ := map_eq_some_iff.mp hmap
      refine ⟨trivial, ?_⟩
      rw [and_iff_right hhonest]
      constructor
      · intro h action haction hnil
        obtain rfl := some.inj (hsubstep.symm.trans haction)
        obtain rfl := some.inj (hexit.symm.trans hnil)
        have hlength := congrArg length (h rfl)
        simpa using hlength
      · intro hlast hreturned
        obtain rfl : substepErr = none := by simpa using hreturned
        rw [← hlast substep hsubstep hexit, replicate_succ']

/-- **When a serial step that succeeds has run all its substeps**: just when no signal is taken
while a substep runs that then returns nil and is not the last one. -/
theorem serial_succeeds_iff {actions : List (SerialAction ι)}
    (hrun : Machine.run (next steps) (start steps) actions = some state) :
    (state.run = .returned none → state.ended = replicate steps.length none) ↔
      Machine.Meets (next steps) (Attended steps) (start steps) actions := by
  have hstart := loop_spec (Nat.zero_le steps.length)
  obtain ⟨-, hiff⟩ := Machine.holds_iff_meets
    (fun action _ _ _ horder hnext => next_spec horder hnext) hstart.1 hrun
  exact hiff.trans (and_iff_right hstart.2)

/-- A step whose process exits with status zero. -/
def quietStep : RunStep :=
  ⟨bytes "APP", true⟩

/-- The process of a run step is created and exits with status zero. -/
def exitsCleanly : List (SerialAction RunMove) :=
  [.process (.move .create), .process (.move .created), .process (.move (.exit 0 false)), .result]

theorem serial_succeeds_sample : ∃ state,
    Machine.run (next [quietStep.toSubstep, quietStep.toSubstep])
        (start [quietStep.toSubstep, quietStep.toSubstep]) (exitsCleanly ++ exitsCleanly) =
          some state ∧
      state.run = .returned none ∧ state.ended = [none, none] ∧
      Machine.Meets (next [quietStep.toSubstep, quietStep.toSubstep])
        (Attended [quietStep.toSubstep, quietStep.toSubstep])
        (start [quietStep.toSubstep, quietStep.toSubstep]) (exitsCleanly ++ exitsCleanly) := by
  refine ⟨⟨.returned none, [none, none]⟩, rfl, rfl, rfl, ?_⟩
  exact (serial_succeeds_iff rfl).mp fun _ => rfl

/-- A signal during the first of two background steps, or during a run step whose process exits
with status zero before it reads the signal: `Run` returns nil and the second step was never
run. -/
theorem serial_succeeds_early :
    Machine.run
        (next [backgroundStep quietStep.toSubstep, backgroundStep quietStep.toSubstep])
        (start [backgroundStep quietStep.toSubstep, backgroundStep quietStep.toSubstep])
        [.signal .interrupt, .process (.read 0), .result] = some ⟨.returned none, [none]⟩ ∧
      Machine.run (next [quietStep.toSubstep, quietStep.toSubstep])
        (start [quietStep.toSubstep, quietStep.toSubstep])
        [.process (.move .create), .process (.move .created), .signal .interrupt,
          .process (.move (.exit 0 false)), .result] = some ⟨.returned none, [none]⟩ :=
  ⟨rfl, rfl⟩

end SerialStep

end Diego.Executor
