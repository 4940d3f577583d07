import Diego.Executor.NodeSteps
import Diego.Machine

/-!
# The states of a container

`State` moves from reserved over initializing and created to running, and from each of them
to completed, which is the end.  `info` is written by methods under `opLock`, by the goroutine
`run`, and by `Expire` and `Reap`, which take only `infoLock`; not all of them look at the
state before they write.  Four things can go wrong:

* `Run` is called a second time before the first process is ready, while the state is still
  created, and there are two goroutines that complete the container;
* `Reap` completes a container that has a process, whose goroutine later sets the state to
  running or completes it again;
* `Expire` or `Reap` completes a container after `stop` found it not completed, and `stop`
  completes it again;
* the error of the process is a trace with two errors, and the container is completed twice.

`Orderly` excludes the four, and then completed is a terminal state.
-/

namespace Diego.Executor

namespace StoreNode

variable {n n' : StoreNode} {call : CallId} {execution : Nat} {info : Container}
  {completion : Completion} {before after : Container}

/-! ## Moves -/

/-- The state stays or moves as `ValidateTransitionTo` allows, and a completed container keeps
its state and its result. -/
structure Moves (before after : Container) : Prop where
  state : after.state = before.state ∨
    (before.state ≠ .completed ∧ before.state.validateTransitionTo after.state = true)
  terminal : before.state = .completed → after.state = .completed ∧
    after.runResult.failed = before.runResult.failed ∧
    after.runResult.failureReason = before.runResult.failureReason ∧
    after.runResult.retryable = before.runResult.retryable

theorem Moves.of_same (h : SameState before after) : Moves before after :=
  ⟨Or.inl h.state, fun hstate => ⟨h.state.trans hstate, h.failed, h.failureReason, h.retryable⟩⟩

theorem Moves.refl : Moves info info :=
  .of_same ⟨rfl, rfl, rfl, rfl⟩

/-- A move to another state, of a container that is not completed. -/
theorem Moves.of_valid (hstate : before.state ≠ .completed)
    (hvalid : before.state.validateTransitionTo after.state = true) : Moves before after :=
  ⟨Or.inr ⟨hstate, hvalid⟩, fun h => absurd h hstate⟩

theorem validateTransitionTo_completed {state : State} :
    state.validateTransitionTo .completed = true := by
  cases state <;> rfl

theorem Moves.complete (h : before.state ≠ .completed) :
    Moves before (before.transitionToComplete completion.failed completion.failureReason
      completion.retryable) :=
  Moves.of_valid h validateTransitionTo_completed

/-! ## The invariant -/

/-- What a call relies on: `Create` works on a copy of an initializing container, and `stop`
completes a container that is not completed and has no process. -/
def CallOk (state : State) (runs : Nat) : Call → Prop
  | .creating info => info.state = .initializing ∧ state = .initializing
  | .completing _ => state ≠ .completed ∧ runs = 0
  | _ => True

/-- What the goroutine `run` relies on. -/
def Progress (state : State) : Goroutine → Prop
  | .starting | .waiting _ | .healthy => state = .created
  | .running _ => state = .running
  | .completing [] => state = .created ∨ state = .running ∨ state = .completed
  | .completing [_] => state = .created ∨ state = .running
  | .completing (_ :: _ :: _) => False

structure Lifecycle (n : StoreNode) : Prop where
  locked : n.Locked
  calls : ∀ c, CallOk n.info.state n.runs (n.calls c)
  unstarted : n.runs = 0 → n.info.state ≠ .running ∧ n.info.state ≠ .invalid
  started : n.runs ≠ 0 → n.runs = 1 ∧ Progress n.info.state (n.executions 0).goroutine
  unborn : ∀ e, n.runs ≤ e → (n.executions e).goroutine = .starting
  exits : ∀ e err, (n.executions e).exited = some err → (completeWithError err).length ≤ 1

/-- A `stop` has found the container not completed and is about to complete it. -/
def stopPending (n : StoreNode) : Bool :=
  match n.opLock with
  | none => false
  | some c =>
    match n.calls c with
    | .completing _ => true
    | _ => false

/-- A container is run once, it is not completed from outside while it has a process or a
`stop` is about to complete it, and its process reports at most one error. -/
def Orderly : NodeAction → StoreNode → Prop
  | .run _ _ _, n => n.runs = 0
  | .expire _, n => n.info.state = .reserved → n.stopPending = false
  | .reap, n => n.info.isCreated = true → n.runs = 0 ∧ n.stopPending = false
  | .exit _ err, _ => (completeWithError err).length ≤ 1
  | _, _ => True

instance : (action : NodeAction) → (n : StoreNode) → Decidable (Orderly action n)
  | .run _ _ _, _ => inferInstanceAs (Decidable (_ = _))
  | .expire _, _ => inferInstanceAs (Decidable (_ → _))
  | .reap, _ => inferInstanceAs (Decidable (_ → _ ∧ _))
  | .exit _ _, _ => inferInstanceAs (Decidable (_ ≤ _))
  | .nodeInitialize _, _ | .create _, _ | .createCopy _, _ | .createFinish _ _, _ | .ready _, _
  | .watch _, _ | .receiveReady _, _ | .markRunning _, _ | .receiveReadiness _ _, _
  | .receiveExit _, _ | .completeNext _, _ | .update _ _, _ | .updateInfo _ _ _, _
  | .send _ _, _ | .receive _, _ | .signal _ _, _ | .lock _, _ | .stop _, _
  | .stopComplete _, _ | .await _, _ | .destroyCopy _, _ | .destroyFinish _ _, _
  | .clear _, _ => inferInstanceAs (Decidable True)

theorem lifecycle_new {config : ContainerConfig} {req : AllocationRequest} {now : Int} :
    (newStoreNode config (newReservedContainerFromAllocationRequest req now)).Lifecycle where
  locked := locked_new
  calls _ := trivial
  unstarted _ := ⟨nofun, nofun⟩
  started h := absurd rfl h
  unborn _ _ := rfl
  exits _ _ h := nomatch h

theorem callOk_of_not_holds {state : State} {runs : Nat} {c : Call}
    (h : c.holdsOpLock = false) : CallOk state runs c := by
  cases c with
  | creating _ | completing _ => exact nomatch h
  | idle | create | update _ | sending _ | locking _ | stopping _ | awaiting | copying
  | destroying _ | clearing _ _ | destroyed _ | returned _ => trivial

theorem Lifecycle.not_completing (h : n.Lifecycle) (hpending : n.stopPending = false) {c : CallId}
    {who : Stopper} : n.calls c ≠ .completing who := by
  intro hcall
  have hlock := h.locked c (by rw [hcall]; rfl)
  simp [stopPending, hlock, hcall] at hpending

/-! ## Writers without `opLock` -/

/-- The state changes under `infoLock` only, from one that no `Create` works on. -/
theorem Lifecycle.calls_of_state (h : n.Lifecycle) {state : State}
    (hcreating : n.info.state ≠ .initializing)
    (hcompleting : ∀ c who, n.calls c = .completing who → state ≠ .completed) :
    ∀ c, CallOk state n.runs (n.calls c) := by
  intro c
  have hok := h.calls c
  cases hcall : n.calls c with
  -- a Create would overwrite the new state with its copy
  | creating info =>
    rw [hcall] at hok
    exact absurd hok.2 hcreating
  | completing who =>
    rw [hcall] at hok
    exact ⟨hcompleting c who hcall, hok.2⟩
  | idle | create | update _ | sending _ | locking _ | stopping _ | awaiting | copying
  | destroying _ | clearing _ _ | destroyed _ | returned _ => trivial

theorem Progress.state {state : State} {goroutine : Goroutine} (h : Progress state goroutine) :
    state = .created ∨ state = .running ∨ state = .completed := by
  match goroutine, h with
  | .starting, h | .waiting _, h | .healthy, h => exact Or.inl h
  | .running _, h => exact Or.inr (Or.inl h)
  | .completing [], h => exact h
  | .completing [_], h => exact h.imp_right Or.inl

section

variable (h : n.Lifecycle)
include h

/-- A container that is not created yet has no process. -/
theorem Lifecycle.runs_eq_zero (hstate : n.info.state = .reserved ∨ n.info.state = .initializing) :
    n.runs = 0 := by
  by_contra hne
  have hprogress := (h.started hne).2.state
  rcases hstate with hstate | hstate <;> simp [hstate] at hprogress

theorem Lifecycle.nodeInitialize {req : RunRequest} :
    (n.nodeInitialize req).1.Lifecycle ∧ Moves n.info (n.nodeInitialize req).1.info := by
  rcases n.nodeInitialize_spec req with heq | ⟨hstate, tags, heq⟩
  · rw [heq]
    exact ⟨h, Moves.refl⟩
  · rw [heq]
    have hruns := h.runs_eq_zero (Or.inl hstate)
    refine ⟨⟨h.locked, ?_, fun _ => ⟨nofun, nofun⟩, fun hne => absurd hruns hne, h.unborn,
      h.exits⟩, ?_⟩
    · exact h.calls_of_state (by rw [hstate]; nofun) fun _ _ _ => nofun
    · refine Moves.of_valid (by rw [hstate]; nofun) ?_
      rw [hstate]
      rfl

/-- A container without a process and without a pending `stop` is completed from outside. -/
theorem Lifecycle.completeOutside (hruns : n.runs = 0) (hpending : n.stopPending = false)
    (hcreating : n.info.state ≠ .initializing) (hstate : n.info.state ≠ .completed) :
    (n.complete completion).Lifecycle ∧ Moves n.info (n.complete completion).info := by
  refine ⟨⟨h.locked, ?_, fun _ => ⟨nofun, nofun⟩, fun hne => absurd hruns hne, h.unborn,
    h.exits⟩, Moves.complete hstate⟩
  exact h.calls_of_state hcreating fun c who hcall =>
    absurd hcall (h.not_completing hpending)

theorem Lifecycle.expire {now : Int} (horderly : Orderly (.expire now) n) :
    (n.expire now).1.Lifecycle ∧ Moves n.info (n.expire now).1.info := by
  rcases n.expire_spec now with heq | ⟨hstate, heq⟩
  · rw [heq]
    exact ⟨h, Moves.refl⟩
  · rw [heq]
    exact h.completeOutside (h.runs_eq_zero (Or.inl hstate)) (horderly hstate)
      (by rw [hstate]; nofun) (by rw [hstate]; nofun)

theorem Lifecycle.reap (horderly : Orderly .reap n) :
    n.reap.1.Lifecycle ∧ Moves n.info n.reap.1.info := by
  rcases n.reap_spec with heq | ⟨hcreated, heq⟩
  · rw [heq]
    exact ⟨h, Moves.refl⟩
  · rw [heq]
    -- the reaper completes a container without asking whether its process still runs
    obtain ⟨hruns, hpending⟩ := horderly hcreated
    simp only [Container.isCreated, Bool.and_eq_true, decide_eq_true_eq] at hcreated
    exact h.completeOutside hruns hpending hcreated.1.2 hcreated.2

/-! ## The process and its goroutine -/

/-- A goroutine that has started belongs to the only process. -/
theorem Lifecycle.goroutine (hgoroutine : (n.executions execution).goroutine ≠ .starting) :
    execution = 0 ∧ n.runs = 1 := by
  have hlt : execution < n.runs := by
    by_contra hle
    exact hgoroutine (h.unborn execution (Nat.not_lt.mp hle))
  have hruns := (h.started (by omega)).1
  exact ⟨by omega, hruns⟩

/-- With a process, no call relies on the state. -/
theorem Lifecycle.calls_of_runs (hruns : n.runs = 1) {state : State} :
    ∀ c, CallOk state n.runs (n.calls c) := by
  intro c
  have hok := h.calls c
  cases hcall : n.calls c with
  | creating info =>
    rw [hcall] at hok
    have hzero := h.runs_eq_zero (Or.inr hok.2)
    omega
  | completing who =>
    rw [hcall] at hok
    have hzero := hok.2
    omega
  | idle | create | update _ | sending _ | locking _ | stopping _ | awaiting | copying
  | destroying _ | clearing _ _ | destroyed _ | returned _ => trivial

/-- The goroutine goes on, and may change the container. -/
theorem Lifecycle.setGoroutine (hruns : n.runs = 1) {goroutine : Goroutine}
    (hprogress : Progress info.state goroutine) :
    Lifecycle { n.setGoroutine 0 goroutine with info := info } where
  locked := h.locked
  calls := h.calls_of_runs hruns
  unstarted hzero := absurd (hruns.symm.trans hzero) (by decide)
  started _ := ⟨hruns, by simpa [StoreNode.setGoroutine, setExecution] using hprogress⟩
  unborn e he := by
    have hle : n.runs ≤ e := he
    have hne : e ≠ 0 := by omega
    simpa [StoreNode.setGoroutine, setExecution, hne] using h.unborn e he
  exits e err hexited := by
    refine h.exits e err ?_
    by_cases he : e = 0
    · subst he
      simpa [StoreNode.setGoroutine, setExecution] using hexited
    · simpa [StoreNode.setGoroutine, setExecution, he] using hexited

theorem Lifecycle.watch (hstep : n.watch execution = some n') :
    n'.Lifecycle ∧ Moves n.info n'.info := by
  obtain ⟨hgoroutine, hlt, rfl⟩ := watch_spec hstep
  obtain ⟨hruns, hprogress⟩ := h.started (by omega)
  obtain rfl : execution = 0 := by omega
  rw [hgoroutine] at hprogress
  exact ⟨h.setGoroutine hruns hprogress, Moves.refl⟩

/-- The only process, seen from its goroutine. -/
theorem Lifecycle.progress {goroutine : Goroutine}
    (hgoroutine : (n.executions execution).goroutine = goroutine) (hstarted : goroutine ≠ .starting)
    : execution = 0 ∧ n.runs = 1 ∧ Progress n.info.state goroutine := by
  obtain ⟨rfl, hruns⟩ := h.goroutine (hgoroutine ▸ hstarted)
  rw [← hgoroutine]
  exact ⟨rfl, hruns, (h.started (by omega)).2⟩

theorem Lifecycle.receiveReady (hstep : n.receiveReady execution = some n') :
    n'.Lifecycle ∧ Moves n.info n'.info := by
  obtain ⟨process, hgoroutine, rfl⟩ := receiveReady_spec hstep
  obtain ⟨rfl, hruns, hprogress⟩ := h.progress hgoroutine nofun
  exact ⟨h.setGoroutine hruns hprogress, Moves.refl⟩

theorem Lifecycle.markRunning (hstep : n.markRunning execution = some n') :
    n'.Lifecycle ∧ Moves n.info n'.info := by
  obtain ⟨hgoroutine, rfl⟩ := markRunning_spec hstep
  obtain ⟨rfl, hruns, hprogress⟩ := h.progress hgoroutine nofun
  have hcreated : n.info.state = .created := hprogress
  refine ⟨h.setGoroutine hruns rfl, Moves.of_valid (by rw [hcreated]; nofun) ?_⟩
  rw [hcreated]
  rfl

theorem Lifecycle.receiveReadiness {isReady : Bool}
    (hstep : n.receiveReadiness execution isReady = some n') :
    n'.Lifecycle ∧ Moves n.info n'.info := by
  obtain ⟨process, hgoroutine, rfl⟩ := receiveReadiness_spec hstep
  obtain ⟨rfl, hruns, hprogress⟩ := h.progress hgoroutine nofun
  exact ⟨h.setGoroutine hruns hprogress, .of_same ⟨rfl, rfl, rfl, rfl⟩⟩

theorem Lifecycle.receiveExit (hstep : n.receiveExit execution = some n') :
    n'.Lifecycle ∧ Moves n.info n'.info := by
  obtain ⟨process, err, hgoroutine, hexited, rfl⟩ := receiveExit_spec hstep
  have hstate : execution = 0 ∧ n.runs = 1 ∧
      (n.info.state = .created ∨ n.info.state = .running) := by
    rcases hgoroutine with hgoroutine | hgoroutine
    · obtain ⟨hzero, hruns, hprogress⟩ := h.progress hgoroutine nofun
      exact ⟨hzero, hruns, Or.inl hprogress⟩
    · obtain ⟨hzero, hruns, hprogress⟩ := h.progress hgoroutine nofun
      exact ⟨hzero, hruns, Or.inr hprogress⟩
  obtain ⟨rfl, hruns, hstate⟩ := hstate
  have hlength := h.exits process err hexited
  refine ⟨h.setGoroutine hruns ?_, Moves.refl⟩
  -- a trace without errors makes no call of complete at all
  match completeWithError err, hlength with
  | [], _ => exact hstate.imp_right Or.inl
  | [_], _ => exact hstate

theorem Lifecycle.completeNext (hstep : n.completeNext execution = some n') :
    n'.Lifecycle ∧ Moves n.info n'.info := by
  obtain ⟨completion, completions, hgoroutine, rfl⟩ := completeNext_spec hstep
  obtain ⟨rfl, hruns, hprogress⟩ := h.progress hgoroutine nofun
  match completions, hprogress with
  | [], hprogress =>
    refine ⟨h.setGoroutine hruns (Or.inr (Or.inr rfl)), Moves.complete ?_⟩
    rcases hprogress with hstate | hstate <;> rw [hstate] <;> nofun

theorem Lifecycle.setExecution {state : Execution}
    (hgoroutine : state.goroutine = (n.executions execution).goroutine)
    (hexited : ∀ err, state.exited = some err → (completeWithError err).length ≤ 1) :
    (n.setExecution execution state).Lifecycle := by
  have hsame : ∀ e, ((n.setExecution execution state).executions e).goroutine =
      (n.executions e).goroutine := by
    intro e
    by_cases he : e = execution
    · subst he
      simpa [StoreNode.setExecution] using hgoroutine
    · simp [StoreNode.setExecution, he]
  refine ⟨h.locked, h.calls, h.unstarted, ?_, ?_, ?_⟩
  · intro hne
    rw [hsame]
    exact h.started hne
  · intro e he
    rw [hsame]
    exact h.unborn e he
  · intro e err herr
    by_cases he : e = execution
    · subst he
      exact hexited err (by simpa [StoreNode.setExecution] using herr)
    · exact h.exits e err (by simpa [StoreNode.setExecution, he] using herr)

theorem Lifecycle.background (hruns : n.runs = 0) (hstate : n.info.state = .created)
    (hfree : n.opLock = none) {readinessCh : Bool} :
    ((n.background readinessCh).setCall call (.returned none)).Lifecycle := by
  have hother : ∀ e, e ≠ 0 →
      ((n.background readinessCh).setCall call (.returned none)).executions e = n.executions e := by
    intro e he
    exact Function.update_of_ne (hruns ▸ he) _ _
  have hself : ((n.background readinessCh).setCall call (.returned none)).executions 0 =
      ⟨readinessCh, false, none, .starting⟩ := by
    simp [StoreNode.background, StoreNode.setCall, StoreNode.setExecution, hruns]
  -- the lock is free, so no Create and no stop is under way
  have hlocked : Mutex.Held Call.holdsOpLock n.calls none := by
    rw [← hfree]
    exact h.locked
  refine ⟨h.locked.keep fun hholds => absurd hholds Bool.false_ne_true, ?_,
    fun hzero => absurd hzero (Nat.succ_ne_zero _), ?_, ?_, ?_⟩
  · refine (Function.forall_update_iff n.calls fun _ c =>
      CallOk n.info.state (n.runs + 1) c).mpr ⟨trivial, fun c _ => ?_⟩
    exact callOk_of_not_holds hlocked.outside
  · intro _
    rw [hself]
    exact ⟨congrArg (· + 1) hruns, hstate⟩
  · intro e he
    have hle : n.runs + 1 ≤ e := he
    rw [hother e (by omega)]
    exact h.unborn e (by omega)
  · intro e err hexited
    by_cases hzero : e = 0
    · rw [hzero, hself] at hexited
      simp at hexited
    · rw [hother e hzero] at hexited
      exact h.exits e err hexited

end

/-! ## Calls -/

/-- A call finds what it relies on. -/
theorem Flow.callOk {action : NodeAction} {before after : Call}
    (h : Flow n call action before after) : CallOk n.info.state n.runs after := by
  cases h with
  | createCopied hstate => exact ⟨hstate, hstate⟩
  | stopFound hruns hstate => exact ⟨hstate, hruns⟩
  | _ => trivial

section

variable (h : n.Lifecycle) {action : NodeAction}
include h

/-- A step that leaves the state of the container and its process alone. -/
theorem Lifecycle.keep (hstep : StoreNode.step action n = some n')
    (hstate : n'.info.state = n.info.state) (hruns : n'.runs = n.runs)
    (hexecutions : n'.executions = n.executions) : n'.Lifecycle := by
  refine ⟨h.locked.step hstep, ?_, ?_, ?_, ?_, ?_⟩
  · rw [hstate, hruns]
    intro c
    rcases (effect_of_step hstep).turn.flow c with hsame | hflow
    · rw [hsame]
      exact h.calls c
    · exact hflow.callOk
  · rw [hstate, hruns]
    exact h.unstarted
  · rw [hstate, hruns, hexecutions]
    exact h.started
  · rw [hruns, hexecutions]
    exact h.unborn
  · rw [hexecutions]
    exact h.exits

theorem Lifecycle.still (hstirs : Stirs action = false)
    (hstep : StoreNode.step action n = some n') : n'.Lifecycle ∧ Moves n.info n'.info := by
  have heffect := effect_of_step hstep
  have hsame : SameState n.info n'.info := by
    cases heffect.info with
    | still _ _ hsame => exact hsame
    | moved htrue _ _ _ => exact nomatch hstirs.symm.trans htrue
    | copied haction _ _ =>
      subst haction
      exact nomatch hstirs
  exact ⟨h.keep hstep hsame.state (heffect.runs hstirs) (heffect.executions hstirs), .of_same hsame⟩

/-- The holder of `opLock` may change the state, since no other call relies on it. -/
theorem Lifecycle.updateHolder (hcall : (n.calls call).holdsOpLock = true) {state : State}
    {runs : Nat} {next : Call} (hnext : CallOk state runs next) :
    ∀ c, CallOk state runs (Function.update n.calls call next c) := by
  refine (Function.forall_update_iff n.calls fun _ c => CallOk state runs c).mpr
    ⟨hnext, fun c hne => callOk_of_not_holds ?_⟩
  cases hholds : (n.calls c).holdsOpLock with
  | false => rfl
  | true => exact absurd (h.locked.unique hcall hholds) hne

theorem Lifecycle.createFinish {env : CreateEnvironment} (hlocked : n'.Locked)
    (hstep : n.createFinish call env = some n') : n'.Lifecycle ∧ Moves n.info n'.info := by
  obtain ⟨info, hcall, rfl⟩ := createFinish_spec hstep
  obtain ⟨info', keys, gardenContainer, history, heq, hinfo, -⟩ := n.createContainer_spec
  rw [heq] at hlocked ⊢
  have hok := h.calls call
  rw [hcall] at hok
  obtain ⟨hcopy, hstate⟩ := hok
  have hruns := h.runs_eq_zero (Or.inr hstate)
  have hholds : (n.calls call).holdsOpLock = true := by
    rw [hcall]
    rfl
  -- the copy is as the container still is, so that writing it back loses no transition
  cases hinfo with
  | failed completion =>
    refine ⟨⟨hlocked, ?_, fun _ => ⟨nofun, nofun⟩, fun hne => absurd hruns hne, h.unborn,
      h.exits⟩, Moves.complete (by rw [hstate]; nofun)⟩
    exact h.updateHolder hholds trivial
  | created _ =>
    refine ⟨⟨hlocked, ?_, fun _ => ⟨nofun, nofun⟩, fun hne => absurd hruns hne, h.unborn,
      h.exits⟩, Moves.of_valid (by rw [hstate]; nofun) ?_⟩
    · exact h.updateHolder hholds trivial
    · rw [hstate]
      rfl
  | invalid hinvalid => exact absurd hcopy hinvalid

theorem Lifecycle.stopComplete (hlocked : n'.Locked) (hstep : n.stopComplete call = some n') :
    n'.Lifecycle ∧ Moves n.info n'.info := by
  obtain ⟨who, hcall, rfl⟩ := stopComplete_spec hstep
  have hok := h.calls call
  rw [hcall] at hok
  obtain ⟨hstate, hruns⟩ := hok
  have hholds : (n.calls call).holdsOpLock = true := by
    rw [hcall]
    rfl
  cases who with
  | stop | destroy =>
    refine ⟨⟨hlocked, ?_, fun _ => ⟨nofun, nofun⟩, fun hne => absurd hruns hne, h.unborn,
      h.exits⟩, Moves.complete hstate⟩
    exact h.updateHolder hholds trivial

/-- An orderly step keeps the invariant, and moves the container as it should. -/
theorem Lifecycle.step (horderly : Orderly action n) (hstep : StoreNode.step action n = some n') :
    n'.Lifecycle ∧ Moves n.info n'.info := by
  cases hstirs : Stirs action with
  | false => exact h.still hstirs hstep
  | true =>
    cases action with
    | nodeInitialize req =>
      cases hstep
      exact h.nodeInitialize
    | expire now =>
      cases hstep
      exact h.expire horderly
    | reap =>
      cases hstep
      exact h.reap horderly
    | createFinish call env => exact h.createFinish (h.locked.step hstep) hstep
    | run call stepsRunner readinessCh =>
      obtain ⟨-, hfree, ⟨err, rfl⟩ | ⟨hstate, rfl⟩⟩ := run_spec hstep
      · exact ⟨h.keep hstep rfl rfl rfl, Moves.refl⟩
      · exact ⟨h.background horderly hstate hfree, Moves.refl⟩
    | ready execution =>
      obtain rfl := ready_spec hstep
      exact ⟨h.setExecution rfl (h.exits execution), Moves.refl⟩
    | exit execution err =>
      obtain ⟨-, -, rfl⟩ := exit_spec hstep
      refine ⟨h.setExecution rfl ?_, Moves.refl⟩
      rintro err' ⟨⟩
      exact horderly
    | watch execution => exact h.watch hstep
    | receiveReady execution => exact h.receiveReady hstep
    | markRunning execution => exact h.markRunning hstep
    | receiveReadiness execution isReady => exact h.receiveReadiness hstep
    | receiveExit execution => exact h.receiveExit hstep
    | completeNext execution => exact h.completeNext hstep
    | stopComplete call => exact h.stopComplete (h.locked.step hstep) hstep
    | _ => exact nomatch hstirs

end

/-- **Completed is a terminal state**: in every orderly run of one container, whatever the
interleaving, each step moves the state along `ValidateTransitionTo` or leaves it, and leaves
the state and the result of a completed container. -/
theorem moves_of_orderly (config : ContainerConfig) (req : AllocationRequest) (now : Int)
    {action : NodeAction} (hreach : Machine.Reaches StoreNode.step Orderly
      (newStoreNode config (newReservedContainerFromAllocationRequest req now)) n)
    (horderly : Orderly action n) (hstep : StoreNode.step action n = some n') :
    Moves n.info n'.info := by
  have h : n.Lifecycle :=
    hreach.invariant lifecycle_new fun _ _ _ hlifecycle horderly hstep =>
      (hlifecycle.step horderly hstep).1
  exact (h.step horderly hstep).2

/-- A container is created and run, up to the point where its process is ready. -/
def startSteps : List NodeAction :=
  [.nodeInitialize ⟨default, ∅⟩, .create 0, .createCopy 0, .createFinish 0 .ok,
    .run 1 none false, .watch 0, .ready 0, .receiveReady 0]

theorem moves_of_orderly_exit :
    ∃ n n', Machine.Reaches StoreNode.step Orderly reservedNode n ∧
      StoreNode.step (.completeNext 0) n = some n' ∧ n.info.state = .running ∧
      n'.info.state = .completed ∧ Moves n.info n'.info := by
  have hrun : ∃ n, Machine.run StoreNode.step reservedNode
      (startSteps ++ [.markRunning 0, .exit 0 none, .receiveExit 0]) = some n ∧
      ∃ n', StoreNode.step (.completeNext 0) n = some n' ∧ n.info.state = .running ∧
        n'.info.state = .completed :=
    ⟨_, rfl, _, rfl, rfl, rfl⟩
  obtain ⟨n, hn, n', hstep, hbefore, hafter⟩ := hrun
  have hreach : Machine.Reaches StoreNode.step Orderly reservedNode n :=
    Machine.reaches_of_run (by decide) hn
  have horderly : Orderly (.completeNext 0) n := trivial
  exact ⟨n, n', hreach, hstep, hbefore, hafter, moves_of_orderly _ _ _ hreach horderly hstep⟩

/-- A container is reaped before its goroutine marks it as running; and one expires before
`stop` completes it. -/
theorem completed_not_terminal :
    (∃ n n', Machine.run StoreNode.step reservedNode (startSteps ++ [.reap]) = some n ∧
      n.info.state = .completed ∧ StoreNode.step (.markRunning 0) n = some n' ∧
      n'.info.state = .running) ∧
    ∃ n n', Machine.run StoreNode.step reservedNode
        [.signal 0 .stop, .lock 0, .stop 0, .expire 60] = some n ∧
      n.info.state = .completed ∧ StoreNode.step (.stopComplete 0) n = some n' ∧
      n'.info.runResult.failureReason ≠ n.info.runResult.failureReason :=
  ⟨⟨_, _, rfl, rfl, rfl, rfl⟩, _, _, rfl, rfl, rfl, by decide⟩

end StoreNode

end Diego.Executor
