import Diego.Executor.Container
import Diego.Machine

/-!
# Tasks on a cell

`rep/generator/internal/task_processor.go`, with the operations of `rep/generator/operation.go`
that lead to it, the bulk pass `BatchOperations` of `rep/generator/generator.go` and the queue of
`operationq/queue.go`, for one task.  The guid of a task is also the guid of its container and the
key of its operations, so the queue executes one operation of the task at a time, in whatever
order the container events and the bulk passes have pushed them.

A step of an operation is one call to the executor or to the BBS.  The calls of the rep to the
executor stay inside one process, so `GetContainer` and `RunContainer` fail only when the
container store says so; a call to the BBS may fail without effect.  What the BBS does with a call
that reaches it is `TaskState.start`, `TaskState.complete` and `TaskState.reject`.
-/

namespace Diego.Rep.TaskProcessor

open Diego.Executor (GoString bytes ContainerRunResult)
open Option

/-! ## The task in the BBS -/

/-- The state of the task in the BBS, as far as it matters to this cell. -/
inductive TaskState
  | pending
  | running
  /-- Running on another cell. -/
  | elsewhere
  | completed
  /-- Resolved and deleted. -/
  | missing
  deriving DecidableEq

inductive BBSError
  | invalidStateTransition
  | resourceNotFound
  deriving DecidableEq

namespace TaskState

/-- `StartTask` from this cell: the new state, and whether it changed. -/
def start : TaskState → TaskState × Except BBSError Bool
  | .pending => (.running, .ok true)
  | .running => (.running, .ok false)
  | .missing => (.missing, .error .resourceNotFound)
  | task => (task, .error .invalidStateTransition)

def complete : TaskState → Except BBSError TaskState
  | .running => .ok .completed
  | _ => .error .invalidStateTransition

/-- `RejectTask`: the BBS queues the task again, or gives it up. -/
def reject (resubmit : Bool) : TaskState → Except BBSError TaskState
  | .running => .ok (if resubmit then .pending else .completed)
  | _ => .error .invalidStateTransition

/-- What calls of other parties do to the task: other cells start and reject it, a client or the
convergence of the BBS completes it, a client resolves it.  Only this cell starts it here and
gives it back. -/
def movesTo : TaskState → TaskState → Bool
  | .pending, task => task ≠ .running
  | .running, task => task = .completed
  | .elsewhere, task => task ≠ .running
  | .completed, task => task = .missing
  | .missing, _ => false

/-- The task is over. -/
def done (task : TaskState) : Bool :=
  task = .completed || task = .missing

end TaskState

/-! ## The container -/

structure TaskContainer where
  state : Executor.State
  runResult : ContainerRunResult
  /-- The tag `rep.ResultFileTag`, empty when there is none. -/
  resultFile : String
  /-- What `FetchContainerResultFile` finds, `none` when it fails. -/
  result : Option GoString
  deriving DecidableEq

namespace TaskContainer

def reserve (resultFile : String) (result : Option GoString) : TaskContainer where
  state := .reserved
  runResult := ⟨false, [], false, false⟩
  resultFile := resultFile
  result := result

/-- The container has completed without failing and its result file, if it has one, is
readable. -/
def succeeded (c : TaskContainer) : Bool :=
  c.state = .completed && !c.runResult.failed && (c.resultFile = "" || c.result.isSome)

end TaskContainer

/-! ## Operations -/

inductive Operation
  | container
  | residualTask
  deriving DecidableEq

/-- The arguments of `CompleteTask`. -/
structure Completion where
  failed : Bool
  failureReason : GoString
  result : GoString
  deriving DecidableEq

def taskCompletionReasonMissingContainer : GoString :=
  bytes "task container does not exist"

def taskCompletionReasonFailedToRunContainer : GoString :=
  bytes "failed to run container"

def taskCompletionReasonInvalidTransition : GoString :=
  bytes "invalid state transition"

def taskCompletionReasonFailedToFetchResult : GoString :=
  bytes "failed to fetch result"

/-- What follows a call of `CompleteTask`. -/
inductive After
  /-- A second call when the first was an invalid transition, then the container is deleted. -/
  | retry
  /-- The container is deleted. -/
  | delete
  | finish
  deriving DecidableEq

/-- The next call of the operation that executes. -/
inductive Call
  | getContainer (operation : Operation)
  | startTask
  | taskByGuid
  | runContainer
  /-- `DeleteContainer` in the delegate's `RunContainer`, after it failed. -/
  | deleteUnrunnable
  | rejectTask (reason : GoString)
  | fetchResult (runResult : ContainerRunResult)
  | completeTask (completion : Completion) (after : After)
  | deleteContainer
  deriving DecidableEq

/-- The first call of `completeTask`, for the container that `GetContainer` returned. -/
def completeTask (c : TaskContainer) : Call :=
  if c.runResult.failed && c.runResult.retryable then .rejectTask c.runResult.failureReason
  else if c.resultFile ≠ "" then .fetchResult c.runResult
  else .completeTask ⟨c.runResult.failed, c.runResult.failureReason, []⟩ .retry

/-- `Process`: the first call, if there is one. -/
def process (c : TaskContainer) : Option Call :=
  match c.state with
  | .reserved => some .startTask
  | .initializing => some .startTask
  | .created => some .startTask
  | .running => some .startTask
  | .completed => some (completeTask c)
  | .invalid => none

/-- The call after `FetchContainerResultFile` in `completeTask`. -/
def completeWithResult (runResult : ContainerRunResult) : Option GoString → Call
  | some result => .completeTask ⟨runResult.failed, runResult.failureReason, result⟩ .retry
  | none =>
    if runResult.failed then .completeTask ⟨true, runResult.failureReason, []⟩ .retry
    else .completeTask ⟨true, taskCompletionReasonFailedToFetchResult, []⟩ .delete

/-! ## The cell -/

/-- What a bulk pass has found so far.  It lists containers and tasks concurrently. -/
structure BulkPass where
  /-- Whether the container was listed. -/
  containers : Option Bool
  /-- Whether the task was listed for this cell. -/
  tasks : Option Bool
  deriving DecidableEq

/-- What has happened to the task, the last first. -/
inductive Event
  /-- The container completed, see `TaskContainer.succeeded`. -/
  | succeeded
  /-- The BBS accepted a `CompleteTask` of this cell. -/
  | completed (failed : Bool)
  /-- The BBS accepted a `RejectTask` of this cell. -/
  | rejected
  deriving DecidableEq

structure World where
  task : TaskState
  container : Option TaskContainer
  executing : Option Call
  queue : List Operation
  bulk : BulkPass
  history : List Event
  deriving DecidableEq

namespace World

/-- A cell that has nothing to do with the task yet. -/
def start (task : TaskState) : World where
  task := task
  container := none
  executing := none
  queue := []
  bulk := ⟨none, none⟩
  history := []

variable (w : World)

def goto (call : Call) : World :=
  { w with executing := some call }

/-- The operation is over and the queue executes the next one. -/
def finish : World :=
  { w with executing := w.queue.head?.map Call.getContainer, queue := w.queue.tail }

def deleteContainer (fails : Bool) : World :=
  if fails then w else { w with container := none }

def after : After → World
  | .retry => w.goto .deleteContainer
  | .delete => w.goto .deleteContainer
  | .finish => w.finish

/-- `Push` of a sliding queue with room for `capacity` operations beside the one that executes. -/
def push (capacity : Nat) (operation : Operation) : World :=
  match w.executing with
  | none => w.goto (.getContainer operation)
  | some _ =>
    if capacity = 0 then w
    else
      let queue := w.queue ++ [operation]
      { w with queue := if queue.length > capacity then queue.tail else queue }

/-- The next call of the operation that executes. -/
def execute (fails resubmit : Bool) : Call → World
  | .getContainer .container =>
    match w.container.bind process with
    | none => w.finish
    | some call => w.goto call
  | .getContainer .residualTask =>
    match w.container with
    | some _ => w.finish
    | none =>
      w.goto (.completeTask ⟨true, taskCompletionReasonMissingContainer,
        taskCompletionReasonMissingContainer⟩ .finish)
  | .startTask =>
    if fails then w.finish
    else
      match w.task.start with
      | (task, .ok true) => { w with task := task }.goto .taskByGuid
      | (_, .ok false) => w.finish
      | (_, .error _) => w.goto .deleteContainer
  -- An error of `NewRunRequestFromTask` also ends the operation.
  | .taskByGuid => if fails then w.finish else w.goto .runContainer
  | .runContainer =>
    match w.container with
    | none => w.goto .deleteUnrunnable
    | some c =>
      if c.state.validateTransitionTo .initializing then
        { w with container := some { c with state := .initializing } }.finish
      else w.goto .deleteUnrunnable
  | .deleteUnrunnable =>
    (w.deleteContainer fails).goto
      (.completeTask ⟨true, taskCompletionReasonFailedToRunContainer, []⟩ .finish)
  | .rejectTask _ =>
    if fails then w.goto .deleteContainer
    else
      match w.task.reject resubmit with
      | .ok task => { w with task := task, history := .rejected :: w.history }.goto .deleteContainer
      | .error _ => w.goto .deleteContainer
  | .fetchResult runResult =>
    w.goto (completeWithResult runResult (w.container.bind TaskContainer.result))
  | .completeTask completion after =>
    if fails then w.after after
    else
      match w.task.complete with
      | .ok task =>
        { w with task := task, history := .completed completion.failed :: w.history }.after after
      | .error _ =>
        match after with
        | .retry =>
          w.goto (.completeTask ⟨true, taskCompletionReasonInvalidTransition, []⟩ .delete)
        | _ => w.after after
  | .deleteContainer => (w.deleteContainer fails).finish

def batchOperation (containers tasks : Bool) : Option Operation :=
  if containers then some .container else if tasks then some .residualTask else none

end World

inductive Action
  | allocate (resultFile : String) (result : Option GoString)
  /-- The executor creates or runs the container. -/
  | advance
  | complete (runResult : ContainerRunResult)
  /-- The container is deleted by another part of the cell: the handler of cancelled tasks, or the
  end of an evacuation. -/
  | deleteElsewhere
  | others (task : TaskState)
  | lifecycleEvent
  | listContainers
  | tasksByCellID
  | batchOperations
  | batchFails
  /-- The next call of the operation that executes: whether it fails without effect, and whether
  the BBS queues a rejected task again. -/
  | execute (fails resubmit : Bool)
  deriving DecidableEq

/-- The container creates and runs, once it is initialized. -/
def TaskContainer.advance (c : TaskContainer) : Option TaskContainer :=
  match c.state with
  | .initializing => some { c with state := .created }
  | .created => some { c with state := .running }
  | _ => none

/-- A container that nobody ran can only complete as failed. -/
def TaskContainer.complete (c : TaskContainer) (runResult : ContainerRunResult) :
    Option TaskContainer :=
  if c.state = .completed ∨ c.state = .invalid ∨ c.state = .reserved ∧ runResult.failed = false then
    none
  else some { c with state := .completed, runResult := runResult }

def step (capacity : Nat) : Action → World → Option World
  | .allocate resultFile result, w =>
    match w.container with
    | some _ => none
    | none => some { w with container := some (.reserve resultFile result) }
  | .advance, w =>
    (w.container.bind TaskContainer.advance).map fun c => { w with container := some c }
  | .complete runResult, w =>
    (w.container.bind (·.complete runResult)).map fun c =>
      { w with
        container := some c
        history := if c.succeeded then .succeeded :: w.history else w.history }
  | .deleteElsewhere, w => some { w with container := none }
  | .others task, w => if w.task.movesTo task then some { w with task := task } else none
  | .lifecycleEvent, w => some (w.push capacity .container)
  | .listContainers, w =>
    match w.bulk.containers with
    | some _ => none
    | none => some { w with bulk := { w.bulk with containers := some w.container.isSome } }
  | .tasksByCellID, w =>
    match w.bulk.tasks with
    | some _ => none
    | none => some { w with bulk := { w.bulk with tasks := some (w.task = .running) } }
  | .batchOperations, w =>
    match w.bulk.containers, w.bulk.tasks with
    | some containers, some tasks =>
      let idle := { w with bulk := ⟨none, none⟩ }
      some ((World.batchOperation containers tasks).elim idle (idle.push capacity))
    | _, _ => none
  | .batchFails, w => some { w with bulk := ⟨none, none⟩ }
  | .execute fails resubmit, w => w.executing.map (w.execute fails resubmit)

/-! ## Success and failure -/

/-- The BBS has accepted a failure. -/
def Event.isFailure : Event → Bool
  | .succeeded => false
  | .completed failed => failed
  | .rejected => true

def NeverFailedAfterSuccess : List Event → Prop
  | [] => True
  | event :: past =>
    (event.isFailure = true → .succeeded ∉ past) ∧ NeverFailedAfterSuccess past

/-- The action deletes the container, if there is one. -/
def World.deletes (w : World) : Action → Bool
  | .deleteElsewhere => true
  | .execute fails _ =>
    !fails && (w.executing = some .deleteContainer || w.executing = some .deleteUnrunnable)
  | _ => false

/-- A container that has succeeded is not deleted while its task is still running on this cell for
the BBS. -/
def ReportsFirst (action : Action) (w : World) : Prop :=
  w.deletes action = true → ∀ c ∈ w.container, c.succeeded = true → w.task ≠ .running

instance (action : Action) (w : World) : Decidable (ReportsFirst action w) :=
  inferInstanceAs (Decidable (_ → ∀ c ∈ w.container, _))

/-- The container has succeeded, or is on its way. -/
def TaskContainer.canSucceed (c : TaskContainer) : Bool :=
  match c.state with
  | .initializing => true
  | .created => true
  | .running => true
  | _ => c.succeeded

/-- Nothing can succeed here unless a container is run. -/
def Hopeless (container : Option TaskContainer) : Prop :=
  ∀ c ∈ container, c.canSucceed = false

theorem Hopeless.not_canSucceed {container : Option TaskContainer} (h : Hopeless container)
    {c : TaskContainer} (hc : c ∈ container) : c.canSucceed ≠ true :=
  Bool.eq_false_iff.mp (h c hc)

/-- Calling the task failed is no mistake, or without effect. -/
def Harmless (task : TaskState) (container : Option TaskContainer) : Prop :=
  Hopeless container ∨ task.done = true

/-- The task was started here, and possibly completed since. -/
def Started (task : TaskState) : Prop :=
  task = .running ∨ task.done = true

/-- Where a result file was asked for, there is one if the container has succeeded. -/
def Fetchable (container : Option TaskContainer) : Prop :=
  ∀ c ∈ container, c.canSucceed = true → c.state = .completed ∧ c.result.isSome = true

/-- What is known when a call is made. -/
def CallInv (task : TaskState) (container : Option TaskContainer) : Call → Prop
  | .taskByGuid => Started task ∧ Hopeless container
  | .runContainer => Started task ∧ Hopeless container
  | .deleteUnrunnable => Harmless task container
  | .rejectTask _ => Harmless task container
  | .fetchResult runResult =>
    if runResult.failed then Harmless task container else Fetchable container
  | .completeTask completion _ => completion.failed = true → Harmless task container
  | _ => True

/-- The part of the invariant that does not depend on the operation that executes. -/
structure Core (w : World) : Prop where
  started : ∀ c ∈ w.container, c.canSucceed = true → Started w.task
  recorded : .succeeded ∈ w.history → w.task.done = true ∨
    w.task = .running ∧ ∃ c ∈ w.container, c.succeeded = true
  safe : NeverFailedAfterSuccess w.history

structure Inv (w : World) : Prop extends Core w where
  call : ∀ call ∈ w.executing, CallInv w.task w.container call

section Invariant

variable {w : World} {task task' : TaskState} {container container' : Option TaskContainer}

variable {c : TaskContainer} {call : Call} {capacity : Nat} {operation : Operation}
  {runResult : ContainerRunResult} {c' : TaskContainer}

theorem TaskContainer.canSucceed_of_succeeded (h : c.succeeded = true) : c.canSucceed = true := by
  unfold TaskContainer.canSucceed
  split <;> first | rfl | exact h

theorem TaskContainer.completed_of_succeeded (h : c.succeeded = true) : c.state = .completed := by
  simp only [succeeded, Bool.and_eq_true, decide_eq_true_eq] at h
  exact h.1.1

/-! ### Moving on -/

section

variable (h : Core w)
include h

theorem Core.goto (hcall : CallInv w.task w.container call) : Inv (w.goto call) where
  started := h.started
  recorded := h.recorded
  safe := h.safe
  call := by
    intro call' hcall'
    obtain rfl : call = call' := some.inj hcall'
    exact hcall

theorem Core.finish : Inv w.finish where
  started := h.started
  recorded := h.recorded
  safe := h.safe
  call := by
    intro call hcall
    obtain ⟨operation, -, rfl⟩ := map_eq_some_iff.mp hcall
    exact trivial

theorem Core.after {after : After} : Inv (w.after after) := by
  cases after with
  | retry | delete => exact h.goto trivial
  | finish => exact h.finish

/-! ### The calls -/

theorem Core.deleteContainer {fails : Bool}
    (hcond : fails = false → ∀ c ∈ w.container, c.succeeded = true → w.task ≠ .running) :
    Core (w.deleteContainer fails) := by
  cases fails with
  | true => exact h
  | false =>
    refine ⟨nofun, ?_, h.safe⟩
    intro hsucceeded
    rcases h.recorded hsucceeded with hdone | ⟨hrunning, c, hc, hc'⟩
    · exact Or.inl hdone
    · exact absurd hrunning (hcond rfl c hc hc')

/-- While the task runs here, a failure is accepted only when nothing has succeeded. -/
theorem Core.not_succeeded (hrunning : w.task = .running) (hharmless : Harmless w.task w.container)
    : .succeeded ∉ w.history := by
  intro hsucceeded
  have hnotDone : ¬ w.task.done = true := by rw [hrunning]; decide
  obtain ⟨-, c, hc, hc'⟩ := (h.recorded hsucceeded).resolve_left hnotDone
  exact (hharmless.resolve_right hnotDone).not_canSucceed hc
    (TaskContainer.canSucceed_of_succeeded hc')

/-- `CompleteTask`, when the BBS accepts it. -/
theorem Core.completed (hrunning : w.task = .running) {failed : Bool}
    (hharmless : failed = true → Harmless w.task w.container) :
    Core { w with task := .completed, history := .completed failed :: w.history } where
  started := fun _ _ _ => Or.inr rfl
  recorded := fun _ => Or.inl rfl
  safe := ⟨fun hfailed => h.not_succeeded hrunning (hharmless hfailed), h.safe⟩

/-- `RejectTask`, when the BBS accepts it. -/
theorem Core.rejected (hrunning : w.task = .running) (hharmless : Harmless w.task w.container) :
    Core { w with task := task, history := .rejected :: w.history } where
  started := by
    intro c hc hsucceed
    have hnotDone : ¬ w.task.done = true := by rw [hrunning]; decide
    exact absurd hsucceed ((hharmless.resolve_right hnotDone).not_canSucceed hc)
  recorded := by
    intro hsucceeded
    rcases List.mem_cons.mp hsucceeded with heq | hpast
    · cases heq
    · exact absurd hpast (h.not_succeeded hrunning hharmless)
  safe := ⟨fun _ => h.not_succeeded hrunning hharmless, h.safe⟩

/-- A task that is not running here, although something can succeed here, is over. -/
theorem Core.harmless_of_not_running (hrunning : w.task ≠ .running) :
    Harmless w.task w.container := by
  by_cases hdone : w.task.done = true
  · exact Or.inr hdone
  · refine Or.inl ?_
    intro c hc
    rw [Bool.eq_false_iff]
    intro hsucceed
    exact (h.started c hc hsucceed).elim hrunning hdone

end

/-- What `GetContainer` returns decides the first call. -/
theorem callInv_process (hc : w.container = some c) (hcall : process c = some call) :
    CallInv w.task w.container call := by
  have hfailed : c.state = .completed → c.runResult.failed = true →
      Harmless w.task w.container := by
    intro hstate hfailed
    refine Or.inl ?_
    intro c' hc'
    obtain rfl : c = c' := some.inj (hc.symm.trans hc')
    simp [TaskContainer.canSucceed, TaskContainer.succeeded, hstate, hfailed]
  have hcompleted : c.state = .completed → CallInv w.task w.container (completeTask c) := by
    intro hstate
    unfold completeTask
    split
    · rename_i hretryable
      exact hfailed hstate (Bool.and_eq_true _ _ ▸ hretryable).1
    · split
      · rename_i hfile
        change if c.runResult.failed then Harmless w.task w.container else Fetchable w.container
        split
        · rename_i hf
          exact hfailed hstate hf
        · intro c' hc' hsucceed
          obtain rfl : c = c' := some.inj (hc.symm.trans hc')
          simp [TaskContainer.canSucceed, TaskContainer.succeeded, hstate, hfile] at hsucceed
          exact ⟨hstate, hsucceed.2⟩
      · exact hfailed hstate
  unfold TaskProcessor.process at hcall
  cases hstate : c.state <;> rw [hstate] at hcall <;> cases hcall
  case completed => exact hcompleted hstate
  all_goals exact trivial

theorem callInv_completeWithResult (hcall : CallInv w.task w.container (.fetchResult runResult)) :
    CallInv w.task w.container
      (completeWithResult runResult (w.container.bind TaskContainer.result)) := by
  have hcall : if runResult.failed then Harmless w.task w.container else Fetchable w.container :=
    hcall
  cases hresult : w.container.bind TaskContainer.result with
  | some result =>
    intro hfailed
    rwa [if_pos hfailed] at hcall
  | none =>
    simp only [TaskProcessor.completeWithResult]
    split
    · rename_i hfailed
      rw [if_pos hfailed] at hcall
      exact fun _ => hcall
    · rename_i hfailed
      rw [if_neg hfailed] at hcall
      refine fun _ => Or.inl ?_
      intro c hc
      rw [Bool.eq_false_iff]
      intro hsucceed
      -- A container that has succeeded still has the file that was there before.
      obtain ⟨-, hsome⟩ := hcall c hc hsucceed
      rw [mem_def.mp hc, bind_some] at hresult
      rw [hresult] at hsome
      cases hsome

/-- One call keeps the invariant, as long as no unreported success is deleted. -/
theorem Inv.execute (h : Inv w) (hexecuting : w.executing = some call) {fails resubmit : Bool}
    (hcond : ReportsFirst (.execute fails resubmit) w) : Inv (w.execute fails resubmit call) := by
  have hcall : CallInv w.task w.container call := h.call call hexecuting
  cases call with
  | getContainer operation =>
    cases operation with
    | container =>
      simp only [World.execute]
      split
      · exact h.toCore.finish
      · rename_i call hprocess
        obtain ⟨c, hc, hprocess⟩ := bind_eq_some_iff.mp hprocess
        exact h.toCore.goto (callInv_process hc hprocess)
    | residualTask =>
      simp only [World.execute]
      split
      · exact h.toCore.finish
      · rename_i hnone
        refine h.toCore.goto fun _ => Or.inl ?_
        rw [hnone]
        nofun
  | startTask =>
    simp only [World.execute]
    split
    · exact h.toCore.finish
    · cases htask : w.task with
      | pending =>
        -- Nothing can succeed here before the task is started.
        have hhopeless : Hopeless w.container := by
          refine (h.toCore.harmless_of_not_running ?_).resolve_right ?_ <;> rw [htask] <;> decide
        have hcore : Core { w with task := .running } := by
          refine ⟨fun _ _ _ => Or.inl rfl, ?_, h.safe⟩
          intro hsucceeded
          rcases h.recorded hsucceeded with hdone | ⟨hrunning, -⟩
          · rw [htask] at hdone
            cases hdone
          · rw [htask] at hrunning
            cases hrunning
        exact hcore.goto ⟨Or.inl rfl, hhopeless⟩
      | running => exact h.toCore.finish
      | elsewhere | completed | missing => exact h.toCore.goto trivial
  | taskByGuid =>
    simp only [World.execute]
    split
    · exact h.toCore.finish
    · exact h.toCore.goto hcall
  | runContainer =>
    obtain ⟨hstarted, hhopeless⟩ := hcall
    simp only [World.execute]
    split
    · exact h.toCore.goto (Or.inl hhopeless)
    · rename_i c hc
      split
      · have hcore : Core { w with container := some { c with state := .initializing } } := by
          refine ⟨fun _ _ _ => hstarted, ?_, h.safe⟩
          intro hsucceeded
          rcases h.recorded hsucceeded with hdone | ⟨-, c', hc', hsucceeded'⟩
          · exact Or.inl hdone
          · exact absurd (TaskContainer.canSucceed_of_succeeded hsucceeded')
              (hhopeless.not_canSucceed hc')
        exact hcore.finish
      · exact h.toCore.goto (Or.inl hhopeless)
  | deleteUnrunnable =>
    refine (h.toCore.deleteContainer fun hfails => hcond ?_).goto ?_
    · simp [World.deletes, hexecuting, hfails]
    intro _
    cases fails with
    | true => exact hcall
    | false => exact Or.inl nofun
  | rejectTask reason =>
    simp only [World.execute]
    split
    · exact h.toCore.goto trivial
    · cases htask : w.task with
      | running => exact (h.toCore.rejected htask hcall).goto trivial
      | pending | elsewhere | completed | missing => exact h.toCore.goto trivial
  | fetchResult runResult => exact h.toCore.goto (callInv_completeWithResult hcall)
  | completeTask completion after =>
    simp only [World.execute]
    split
    · exact h.toCore.after
    · by_cases hrunning : w.task = .running
      · rw [hrunning]
        exact (h.toCore.completed hrunning hcall).after
      · have hinvalid : w.task.complete = .error .invalidStateTransition := by
          cases htask : w.task with
          | running => exact absurd htask hrunning
          | pending | elsewhere | completed | missing => rfl
        rw [hinvalid]
        cases after with
        | retry => exact h.toCore.goto fun _ => h.toCore.harmless_of_not_running hrunning
        | delete | finish => exact h.toCore.after
  | deleteContainer =>
    refine (h.toCore.deleteContainer fun hfails => hcond ?_).finish
    simp [World.deletes, hexecuting, hfails]

/-! ### The other steps -/

theorem CallInv.mono (h : CallInv task container call) (hstarted : Started task → Started task')
    (hdone : task.done = true → task'.done = true)
    (hhopeless : Hopeless container → Hopeless container')
    (hfetchable : Fetchable container → Fetchable container') : CallInv task' container' call := by
  have hharmless : Harmless task container → Harmless task' container' := Or.imp hhopeless hdone
  cases call with
  | taskByGuid | runContainer => exact h.imp hstarted hhopeless
  | deleteUnrunnable | rejectTask reason => exact hharmless h
  | fetchResult runResult =>
    simp only [CallInv] at h ⊢
    split
    · rename_i hfailed
      rw [if_pos hfailed] at h
      exact hharmless h
    · rename_i hfailed
      rw [if_neg hfailed] at h
      exact hfetchable h
  | completeTask completion after => exact fun hfailed => hharmless (h hfailed)
  | getContainer operation | startTask | deleteContainer => exact trivial

theorem Inv.push (h : Inv w) : Inv (w.push capacity operation) := by
  unfold World.push
  split
  · exact h.toCore.goto trivial
  · split
    · exact h
    · exact ⟨⟨h.started, h.recorded, h.safe⟩, h.call⟩

theorem Inv.setBulk (h : Inv w) {bulk : BulkPass} : Inv { w with bulk := bulk } :=
  ⟨⟨h.started, h.recorded, h.safe⟩, h.call⟩

theorem Inv.others (h : Inv w) (hmoves : w.task.movesTo task = true) :
    Inv { w with task := task } := by
  have hdone : w.task.done = true → task.done = true := by
    revert hmoves
    cases w.task <;> cases task <;> decide
  have hrunning : w.task = .running → task.done = true := by
    revert hmoves
    cases w.task <;> cases task <;> decide
  have hstarted : Started w.task → Started task := fun h => Or.inr (h.elim hrunning hdone)
  refine ⟨⟨fun c hc hsucceed => hstarted (h.started c hc hsucceed), ?_, h.safe⟩, ?_⟩
  · intro hsucceeded
    exact Or.inl ((h.recorded hsucceeded).elim hdone fun hrun => hrunning hrun.1)
  · intro call hcall
    exact (h.call call hcall).mono hstarted hdone id id

/-- A container that is not there, or reserved, or failed, in the place of one that has not
succeeded, or whose success is recorded. -/
theorem Inv.replaceContainer (h : Inv w) (hhopeless : Hopeless container)
    (hrecorded : ∀ c ∈ w.container, c.succeeded = true → w.task ≠ .running) :
    Inv { w with container := container } := by
  refine ⟨⟨?_, ?_, h.safe⟩, ?_⟩
  · intro c hc hsucceed
    exact absurd hsucceed (hhopeless.not_canSucceed hc)
  · intro hsucceeded
    rcases h.recorded hsucceeded with hdone | ⟨hrunning, c, hc, hsucceeded'⟩
    · exact Or.inl hdone
    · exact absurd hrunning (hrecorded c hc hsucceeded')
  · intro call hcall
    refine (h.call call hcall).mono id id (fun _ => hhopeless) ?_
    intro _ c hc hsucceed
    exact absurd hsucceed (hhopeless.not_canSucceed hc)

/-- A container that was on its way goes on, and succeeds perhaps. -/
theorem Inv.advanceContainer (h : Inv w) (hc : w.container = some c)
    (hsucceed : c.canSucceed = true) (hstate : c.state ≠ .completed) :
    Inv { w with
      container := some c'
      history := if c'.succeeded then .succeeded :: w.history else w.history } := by
  have hstarted : Started w.task := h.started c hc hsucceed
  have hpast : .succeeded ∈ w.history → w.task.done = true := by
    intro hsucceeded
    rcases h.recorded hsucceeded with hdone | ⟨-, c'', hc'', hsucceeded'⟩
    · exact hdone
    · obtain rfl : c = c'' := some.inj (hc.symm.trans hc'')
      exact absurd (TaskContainer.completed_of_succeeded hsucceeded') hstate
  refine ⟨⟨fun _ _ _ => hstarted, ?_, ?_⟩, ?_⟩
  · intro hsucceeded
    split at hsucceeded
    · rename_i hnow
      rcases hstarted with hrunning | hdone
      · exact Or.inr ⟨hrunning, c', rfl, hnow⟩
      · exact Or.inl hdone
    · exact Or.inl (hpast hsucceeded)
  · split
    · exact ⟨nofun, h.safe⟩
    · exact h.safe
  · intro call hcall
    have hnotHopeless : ¬ Hopeless w.container :=
      fun hhopeless => hhopeless.not_canSucceed hc hsucceed
    refine (h.call call hcall).mono id id (fun hhopeless => absurd hhopeless hnotHopeless) ?_
    intro hfetchable
    exact absurd (hfetchable c hc hsucceed).1 hstate

theorem Inv.complete (h : Inv w) (hc : w.container = some c)
    (hcomplete : c.complete runResult = some c') :
    Inv { w with
      container := some c'
      history := if c'.succeeded then .succeeded :: w.history else w.history } := by
  simp only [TaskContainer.complete, ite_none_left_eq_some, not_or, not_and,
    some.injEq] at hcomplete
  obtain ⟨⟨hstate, hvalid, hreserved⟩, rfl⟩ := hcomplete
  by_cases hsucceed : c.canSucceed = true
  · exact h.advanceContainer hc hsucceed hstate
  · have hstate' : c.state = .reserved := by
      revert hsucceed hstate hvalid
      unfold TaskContainer.canSucceed
      cases c.state <;> simp
    have hfailed : runResult.failed = true := by
      simpa using hreserved hstate'
    have hnot : (TaskContainer.succeeded
        { c with state := .completed, runResult := runResult }) = false := by
      simp [TaskContainer.succeeded, hfailed]
    rw [hnot]
    refine h.replaceContainer ?_ ?_
    · intro c' hc'
      obtain rfl := some.inj hc'
      exact hnot
    · intro c' hc' hsucceeded
      obtain rfl : c = c' := some.inj (hc.symm.trans hc')
      exact absurd (TaskContainer.canSucceed_of_succeeded hsucceeded) hsucceed

theorem Inv.step (h : Inv w) {action : Action} {next : World}
    (hcond : ReportsFirst action w) (hstep : step capacity action w = some next) :
    Inv next := by
  cases action with
  | allocate resultFile result =>
    simp only [TaskProcessor.step] at hstep
    split at hstep
    · cases hstep
    · rename_i hnone
      cases hstep
      refine h.replaceContainer ?_ ?_
      · intro c hc
        cases hc
        rfl
      · rw [hnone]
        nofun
  | advance =>
    simp only [TaskProcessor.step, map_eq_some_iff, bind_eq_some_iff] at hstep
    obtain ⟨c', ⟨c, hc, hadvance⟩, rfl⟩ := hstep
    have hunderway : c.canSucceed = true ∧ c.state ≠ .completed ∧ c'.succeeded = false := by
      unfold TaskContainer.advance at hadvance
      split at hadvance <;> cases hadvance <;> rename_i hstate <;>
        simp [TaskContainer.canSucceed, TaskContainer.succeeded, hstate]
    obtain ⟨hsucceed, hstate, hnot⟩ := hunderway
    have hnext : Inv { w with
        container := some c'
        history := if c'.succeeded then .succeeded :: w.history else w.history } :=
      h.advanceContainer hc hsucceed hstate
    rwa [hnot] at hnext
  | complete runResult =>
    simp only [TaskProcessor.step, map_eq_some_iff, bind_eq_some_iff] at hstep
    obtain ⟨c', ⟨c, hc, hcomplete⟩, rfl⟩ := hstep
    exact h.complete hc hcomplete
  | deleteElsewhere =>
    cases hstep
    exact h.replaceContainer nofun (hcond rfl)
  | others task =>
    simp only [TaskProcessor.step, ite_none_right_eq_some] at hstep
    obtain ⟨hmoves, hnext⟩ := hstep
    cases hnext
    exact h.others hmoves
  | lifecycleEvent =>
    cases hstep
    exact h.push
  | listContainers | tasksByCellID =>
    simp only [TaskProcessor.step] at hstep
    split at hstep <;> cases hstep
    exact h.setBulk
  | batchOperations =>
    simp only [TaskProcessor.step] at hstep
    split at hstep <;> cases hstep
    cases World.batchOperation _ _ with
    | none => exact h.setBulk
    | some operation => exact h.setBulk.push
  | batchFails =>
    cases hstep
    exact h.setBulk
  | execute fails resubmit =>
    obtain ⟨call, hcall, rfl⟩ := map_eq_some_iff.mp hstep
    exact h.execute hcall hcond

theorem inv_start : Inv (World.start task) :=
  ⟨⟨nofun, nofun, trivial⟩, nofun⟩

end Invariant

/-- **A task that succeeded is never recorded as failed**, in every run in which a container that
has succeeded is deleted only after the BBS has recorded it. -/
theorem neverFailedAfterSuccess_of_reaches {capacity : Nat} {task : TaskState} {w : World}
    (h : Machine.Reaches (step capacity) ReportsFirst (World.start task) w) :
    NeverFailedAfterSuccess w.history := by
  have hinv : Inv w := by
    refine h.invariant inv_start ?_
    intro action state next hstate hcond hstep
    exact hstate.step hcond hstep
  exact hinv.safe

/-! ## A success that is lost -/

/-- The task is started and its container run. -/
def runSteps : List Action :=
  [.allocate "" none, .lifecycleEvent, .execute false false, .execute false false,
    .execute false false, .execute false false, .advance, .advance,
    .complete ⟨false, [], false, false⟩]

/-- The success is reported and the container deleted; a bulk pass that listed the task before has
an operation for it that executes afterwards. -/
def reportedSteps : List Action :=
  runSteps ++ [.tasksByCellID, .lifecycleEvent, .execute false false, .execute false false,
    .execute false false, .listContainers, .batchOperations, .execute false false,
    .execute false false]

/-- The call that reports the success fails, the container is deleted, and the next bulk pass
finds a task without a container. -/
def lostSteps : List Action :=
  runSteps ++ [.lifecycleEvent, .execute false false, .execute true false, .execute false false,
    .listContainers, .tasksByCellID, .batchOperations, .execute false false, .execute false false]

theorem neverFailedAfterSuccess_reported :
    ∃ w, Machine.run (step 1) (World.start .pending) reportedSteps = some w ∧
      .succeeded ∈ w.history ∧ w.executing = none ∧ NeverFailedAfterSuccess w.history := by
  have hmeets : Machine.Meets (step 1) ReportsFirst (World.start .pending) reportedSteps := by
    decide
  exact ⟨_, rfl, by decide, rfl,
    neverFailedAfterSuccess_of_reaches (Machine.reaches_of_run hmeets rfl)⟩

/-- The BBS accepts that the task failed, after its container has succeeded. -/
theorem failed_after_success :
    (Machine.run (step 1) (World.start .pending) lostSteps).map World.history =
      some [.completed true, .succeeded] ∧
    ¬ NeverFailedAfterSuccess [.completed true, .succeeded] := by
  refine ⟨rfl, ?_⟩
  intro h
  exact h.1 rfl List.mem_cons_self

end Diego.Rep.TaskProcessor
