import Diego.Executor.RunStep

/-!
# Processes of ifrit

A step that runs other steps starts each of them with `ifrit.Background`, asks for its exit
status with `Wait`, and calls `Signal` to have it stopped.  `Signal` does not block: a
goroutine of its own waits until the substep reads the signal or has returned, so that several
signals of one process may be read in any order, or never.
-/

namespace Diego.Executor

/-- A substep that `ifrit.Background` has started. -/
structure IfritProcess (σ : Type*) where
  state : σ
  /-- The signals that wait to be read. -/
  signals : List Signal

/-- What a process does by itself. -/
inductive ProcessEvent (ι : Type*)
  | move (action : ι)
  /-- The substep reads one of the signals that wait. -/
  | read (index : Nat)

namespace IfritProcess

variable {σ ι : Type*}

def background (substep : Substep σ ι) : IfritProcess σ :=
  ⟨substep.start, []⟩

def signal (process : IfritProcess σ) (signal : Signal) : IfritProcess σ :=
  { process with signals := process.signals ++ [signal] }

def next (substep : Substep σ ι) : ProcessEvent ι → IfritProcess σ → Option (IfritProcess σ)
  | .move action, process =>
    (substep.move action process.state).map fun state => { process with state := state }
  | .read index, process =>
    process.signals[index]?.bind fun signal =>
      (substep.receive signal process.state).map fun state =>
        ⟨state, process.signals.eraseIdx index⟩

/-- What `Wait` sends, once the substep has returned. -/
def exitStatus (substep : Substep σ ι) (process : IfritProcess σ) : Option (Option StepError) :=
  substep.returned process.state

end IfritProcess

end Diego.Executor
