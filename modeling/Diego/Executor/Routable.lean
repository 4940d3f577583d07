import Diego.Executor.NodeSteps
import Diego.Executor.ReadinessStep

/-!
# Readiness and the routable flag

A container with a readiness check: the store node of `storenode.go`, and the readiness step of
the process that its `Run` starts.  The step sends on an unbuffered channel, and the goroutine
`run` receives from it once it has marked the container as running.  So a message is one step of
both, and `Routable` follows what the readiness step has said.

`RunContainer` calls `Run` once for a container, and so it is here.
-/

namespace Diego.Executor

open Option

/-! ## What a node does by itself -/

/-- The steps in which the readiness step takes part, or that start it. -/
def NodeAction.concernsReadiness : NodeAction → Bool
  | .run _ _ _ | .receiveReadiness _ _ => true
  | _ => false

namespace StoreNode

variable {n n' : StoreNode} {goroutine : Goroutine}

theorem executions_setGoroutine_self {e : Nat} :
    (n.setGoroutine e goroutine).executions e = { n.executions e with goroutine := goroutine } :=
  Function.update_self _ _ _

variable {e : Nat} {sent : List ReadinessState}

theorem executions_setGoroutine_of_ne {e' : Nat} (h : e' ≠ e) :
    (n.setGoroutine e goroutine).executions e' = n.executions e' :=
  Function.update_of_ne h _ _

/-- The goroutine `run` has not marked the container as running yet. -/
def Early : Goroutine → Prop
  | .starting | .waiting _ | .healthy => True
  | .running _ | .completing _ => False

/-- Where the goroutine of a process goes without a message, and what becomes of `Routable`. -/
inductive Proceeds (execution : Execution) (routable : Bool) : Goroutine → Bool → Prop
  | early {goroutine : Goroutine} (hbefore : Early execution.goroutine)
      (hafter : Early goroutine) : Proceeds execution routable goroutine routable
  | running {process : Nat} (hbefore : Early execution.goroutine) :
      Proceeds execution routable (.running process) (!execution.readinessCh)
  | completing {completions : List Completion} :
      Proceeds execution routable (.completing completions) routable

/-- What a step other than `Run` and the receipt of a message does to the goroutines and to
`Routable`. -/
inductive Advance (n n' : StoreNode) : Prop
  | still (hexecutions : ∀ e, (n'.executions e).goroutine = (n.executions e).goroutine ∧
        (n'.executions e).readinessCh = (n.executions e).readinessCh)
      (hroutable : n'.info.routable = n.info.routable)
  /-- `Create` writes its copy back. -/
  | copied {call : CallId} {info : Container} (hcall : n.calls call = .creating info)
      (hexecutions : n'.executions = n.executions)
  | moved {e : Nat} {goroutine : Goroutine}
      (hborn : (n.executions e).goroutine ≠ .starting ∨ e < n.runs)
      (hexecutions : n'.executions = (n.setGoroutine e goroutine).executions)
      (hproceeds : Proceeds (n.executions e) n.info.routable goroutine n'.info.routable)

section Advance

variable {action : NodeAction}

/-- A step that leaves the processes and `Routable`. -/
theorem Advance.of_eq (hexecutions : n'.executions = n.executions)
    (hroutable : n'.info.routable = n.info.routable) : Advance n n' :=
  .still (fun e => by rw [hexecutions]; exact ⟨rfl, rfl⟩) hroutable

/-- A step of a process, whose goroutine stays. -/
theorem Advance.of_process {state : Execution}
    (hgoroutine : state.goroutine = (n.executions e).goroutine)
    (hchannel : state.readinessCh = (n.executions e).readinessCh) :
    Advance n (n.setExecution e state) := by
  refine .still (fun e' => ?_) rfl
  by_cases he : e' = e
  · subst he
    simpa [setExecution] using ⟨hgoroutine, hchannel⟩
  · simp [setExecution, he]

theorem advance_of_step (haction : action.concernsReadiness = false)
    (hstep : StoreNode.step action n = some n') : n'.runs = n.runs ∧ Advance n n' := by
  cases hstirs : Stirs action with
  | false =>
    have heffect := effect_of_step hstep
    exact ⟨heffect.runs hstirs, .of_eq (heffect.executions hstirs) (heffect.info.routable hstirs)⟩
  | true =>
    cases action with
    | nodeInitialize req =>
      cases hstep
      rcases n.nodeInitialize_spec req with heq | ⟨-, tags, heq⟩ <;> rw [heq]
      all_goals exact ⟨rfl, .of_eq rfl rfl⟩
    | expire now =>
      cases hstep
      rcases n.expire_spec now with heq | ⟨-, heq⟩ <;> rw [heq]
      all_goals exact ⟨rfl, .of_eq rfl rfl⟩
    | reap =>
      cases hstep
      rcases n.reap_spec with heq | ⟨-, heq⟩ <;> rw [heq]
      all_goals exact ⟨rfl, .of_eq rfl rfl⟩
    | createFinish call env =>
      obtain ⟨info, hcall, rfl⟩ := createFinish_spec hstep
      obtain ⟨info', keys, gardenContainer, history, heq, -⟩ := n.createContainer_spec
      rw [heq]
      exact ⟨rfl, .copied hcall rfl⟩
    | run call stepsRunner readinessCh | receiveReadiness execution isReady => cases haction
    | ready execution =>
      obtain rfl := ready_spec hstep
      exact ⟨rfl, .of_process rfl rfl⟩
    | exit execution err =>
      obtain ⟨-, -, rfl⟩ := exit_spec hstep
      exact ⟨rfl, .of_process rfl rfl⟩
    | watch execution =>
      obtain ⟨hgoroutine, hlt, rfl⟩ := watch_spec hstep
      exact ⟨rfl, .moved (Or.inr hlt) rfl (.early (by rw [hgoroutine]; trivial) trivial)⟩
    | receiveReady execution =>
      obtain ⟨process, hgoroutine, rfl⟩ := receiveReady_spec hstep
      refine ⟨rfl, .moved (Or.inl ?_) rfl (.early ?_ trivial)⟩ <;> rw [hgoroutine]
      · simp
      · trivial
    | markRunning execution =>
      obtain ⟨hgoroutine, rfl⟩ := markRunning_spec hstep
      refine ⟨rfl, .moved (Or.inl ?_) rfl (.running ?_)⟩ <;> rw [hgoroutine]
      · simp
      · trivial
    | receiveExit execution =>
      obtain ⟨process, err, hgoroutine, -, rfl⟩ := receiveExit_spec hstep
      refine ⟨rfl, .moved (Or.inl ?_) rfl .completing⟩
      rcases hgoroutine with hgoroutine | hgoroutine <;> rw [hgoroutine] <;> simp
    | completeNext execution =>
      obtain ⟨completion, completions, hgoroutine, rfl⟩ := completeNext_spec hstep
      exact ⟨rfl, .moved (Or.inl (by rw [hgoroutine]; simp)) rfl .completing⟩
    | stopComplete call =>
      obtain ⟨who, -, rfl⟩ := stopComplete_spec hstep
      cases who <;> exact ⟨rfl, .of_eq rfl rfl⟩
    | create _ | createCopy _ | update _ _ | updateInfo _ _ _ | send _ _ | receive _ | signal _ _
    | lock _ | stop _ | await _ | destroyCopy _ | destroyFinish _ _ | clear _ => cases hstirs

end Advance

/-! ## A container that is run once -/

structure RunsOnce (n : StoreNode) : Prop where
  locked : n.Locked
  once : n.runs ≤ 1
  unborn : ∀ e, n.runs ≤ e → (n.executions e).goroutine = .starting
  /-- Once there is a process, no `Create` is left that could write a copy back. -/
  created : n.runs ≠ 0 → ¬ Uncreated n.info.state ∧ ∀ c info, n.calls c ≠ .creating info
  channel : n.runs ≠ 0 → (n.executions 0).readinessCh = true

theorem runsOnce_new {config : ContainerConfig} {container : Container} :
    (newStoreNode config container).RunsOnce where
  locked := locked_new
  once := Nat.zero_le 1
  unborn _ _ := rfl
  created h := absurd rfl h
  channel h := absurd rfl h

variable {action : NodeAction} {isReady routable : Bool}

/-- A container with a process does not go back to a state before `Create`. -/
theorem RunsOnce.created_step (h : n.RunsOnce) (hruns : n.runs ≠ 0)
    (hstep : StoreNode.step action n = some n') :
    ¬ Uncreated n'.info.state ∧ ∀ c info, n'.calls c ≠ .creating info := by
  obtain ⟨hstate, hcalls⟩ := h.created hruns
  have heffect := effect_of_step hstep
  refine ⟨?_, fun c info hcall => ?_⟩
  · cases heffect.info with
    | still _ _ hsame _ => rwa [hsame.state]
    | moved _ _ _ huncreated => exact fun h => hstate (huncreated h)
    | copied _ hcall _ => exact absurd hcall (hcalls _ _)
  · rcases heffect.turn.creating hcall with hcall | ⟨hinitializing, -⟩
    · exact hcalls c info hcall
    · exact hstate (Or.inr hinitializing)

/-- The process whose goroutine moves is the only one. -/
theorem RunsOnce.born (h : n.RunsOnce) (hborn : (n.executions e).goroutine ≠ .starting ∨ e < n.runs)
    : e = 0 ∧ n.runs ≠ 0 := by
  have hlt : e < n.runs := by
    rcases hborn with hborn | hborn
    · exact Nat.lt_of_not_le fun hle => hborn (h.unborn e hle)
    · exact hborn
  have honce := h.once
  omega

theorem RunsOnce.unborn_step (h : n.RunsOnce) (hruns : n'.runs = n.runs) (hadvance : Advance n n')
    (he : n'.runs ≤ e) : (n'.executions e).goroutine = .starting := by
  rw [hruns] at he
  have hbefore := h.unborn e he
  cases hadvance with
  | still hexecutions _ => rw [(hexecutions e).1, hbefore]
  | copied _ hexecutions => rw [hexecutions, hbefore]
  | @moved e' goroutine hborn hexecutions _ =>
    have hborn := h.born hborn
    have hne : e ≠ e' := by omega
    rw [hexecutions, executions_setGoroutine_of_ne hne, hbefore]

theorem Advance.channel (h : Advance n n') :
    (n'.executions e).readinessCh = (n.executions e).readinessCh := by
  cases h with
  | still hexecutions _ => exact (hexecutions e).2
  | copied _ hexecutions => rw [hexecutions]
  | @moved e' goroutine _ hexecutions _ =>
    rw [hexecutions]
    by_cases he : e = e'
    · rw [he, executions_setGoroutine_self]
    · rw [executions_setGoroutine_of_ne he]

theorem RunsOnce.step (h : n.RunsOnce) (haction : action.concernsReadiness = false)
    (hstep : StoreNode.step action n = some n') : n'.RunsOnce := by
  obtain ⟨hruns, hadvance⟩ := advance_of_step haction hstep
  refine ⟨h.locked.step hstep, by rw [hruns]; exact h.once,
    fun _ => h.unborn_step hruns hadvance, fun hne => ?_, fun hne => ?_⟩
  · exact h.created_step (hruns ▸ hne) hstep
  · rw [hadvance.channel]
    exact h.channel (hruns ▸ hne)

/-- `Run` of a container that has not been run, with a readiness check. -/
theorem RunsOnce.run {call : CallId} {stepsRunner : Option Error} (h : n.RunsOnce)
    (hruns : n.runs = 0) (hstep : n.run call stepsRunner true = some n') :
    n'.RunsOnce ∧ (n'.executions 0).goroutine = .starting := by
  have hlocked : n'.Locked :=
    h.locked.step (show StoreNode.step (.run call stepsRunner true) n = some n' from hstep)
  have hunborn : ∀ e, (n.executions e).goroutine = .starting := by
    intro e
    refine h.unborn e ?_
    rw [hruns]
    exact Nat.zero_le e
  obtain ⟨-, hfree, ⟨err, rfl⟩ | ⟨hstate, hnext⟩⟩ := run_spec hstep
  · exact ⟨⟨hlocked, h.once, h.unborn, absurd hruns, absurd hruns⟩, hunborn 0⟩
  · have hexecutions : n'.executions =
        Function.update n.executions 0 ⟨true, false, none, .starting⟩ := by
      rw [hnext, ← hruns]
      rfl
    have hgoroutine : ∀ e, (n'.executions e).goroutine = .starting := by
      intro e
      rw [hexecutions]
      by_cases he : e = 0
      · rw [he, Function.update_self]
      · rw [Function.update_of_ne he, hunborn]
    refine ⟨⟨hlocked, ?_, fun e _ => hgoroutine e, fun _ => ⟨?_, fun c info hcall => ?_⟩,
      fun _ => ?_⟩, hgoroutine 0⟩
    · rw [hnext]
      exact Nat.succ_le_succ (Nat.le_of_eq hruns)
    · rw [show n'.info.state = .created from hnext ▸ hstate]
      rintro (h | h) <;> cases h
    · -- such a call would hold the lock, which Run has found free
      have hlock := hlocked c (by rw [hcall]; rfl)
      rw [show n'.opLock = none from hnext ▸ hfree] at hlock
      cases hlock
    · rw [hexecutions, Function.update_self]

theorem RunsOnce.receiveReadiness (h : n.RunsOnce)
    (hstep : n.receiveReadiness 0 isReady = some n') : n'.RunsOnce := by
  have hstep' : StoreNode.step (.receiveReadiness 0 isReady) n = some n' := hstep
  have hlocked := h.locked.step hstep'
  have hcreated := fun hruns => h.created_step hruns hstep'
  obtain ⟨process, hgoroutine, rfl⟩ := receiveReadiness_spec hstep
  refine ⟨hlocked, h.once, fun e he => ?_, hcreated, fun hruns => ?_⟩
  · have hne : e ≠ 0 := by
      rintro rfl
      rw [h.unborn 0 he] at hgoroutine
      cases hgoroutine
    exact (congrArg Execution.goroutine (executions_setGoroutine_of_ne hne)).trans (h.unborn e he)
  · exact (congrArg Execution.readinessCh executions_setGoroutine_self).trans
      (h.channel hruns)

/-! ## The flag -/

/-- `Routable` is what the last message says, once the container is running. -/
def Routed (sent : List ReadinessState) (routable : Bool) : Goroutine → Prop
  | .starting | .waiting _ | .healthy => sent = []
  | .running _ => routable = saysReady sent
  | .completing _ => True

theorem Early.routed_iff (h : Early goroutine) : Routed sent routable goroutine ↔ sent = [] := by
  cases goroutine with
  | starting | waiting _ | healthy => exact Iff.rfl
  | running _ | completing _ => exact absurd h id

theorem Routed.proceeds {execution : Execution} {routable' : Bool}
    (hchannel : execution.readinessCh = true) (h : Routed sent routable execution.goroutine)
    (hproceeds : Proceeds execution routable goroutine routable') :
    Routed sent routable' goroutine := by
  cases hproceeds with
  | early hbefore hafter => exact hafter.routed_iff.mpr (hbefore.routed_iff.mp h)
  | running hbefore =>
    obtain rfl := hbefore.routed_iff.mp h
    rw [hchannel]
    rfl
  | completing => trivial

theorem Routed.step (honce : n.RunsOnce)
    (h : Routed sent n.info.routable (n.executions 0).goroutine)
    (haction : action.concernsReadiness = false) (hstep : StoreNode.step action n = some n') :
    Routed sent n'.info.routable (n'.executions 0).goroutine := by
  obtain ⟨hruns, hadvance⟩ := advance_of_step haction hstep
  cases hadvance with
  | still hexecutions hroutable => rwa [(hexecutions 0).1, hroutable]
  | copied hcall hexecutions =>
    -- there is no process yet
    have hzero : n.runs = 0 := by
      by_contra hne
      exact (honce.created hne).2 _ _ hcall
    rw [hexecutions]
    rw [honce.unborn 0 (Nat.le_of_eq hzero)] at h ⊢
    exact h
  | @moved e goroutine hborn hexecutions hproceeds =>
    obtain ⟨rfl, hne⟩ : e = 0 ∧ n.runs ≠ 0 := honce.born hborn
    rw [hexecutions]
    exact h.proceeds (honce.channel hne) hproceeds

/-- A message changes the flag if it is not the last one again. -/
theorem Routed.receiveReadiness (h : Routed sent n.info.routable (n.executions 0).goroutine)
    (hne : saysReady sent ≠ isReady) (hstep : n.receiveReadiness 0 isReady = some n') :
    n'.info.routable = isReady ∧ n.info.routable ≠ isReady ∧
      ∃ process, (n'.executions 0).goroutine = .running process := by
  obtain ⟨process, hgoroutine, rfl⟩ := receiveReadiness_spec hstep
  rw [hgoroutine] at h
  refine ⟨rfl, ?_, n.runs - 1, ?_⟩
  · rwa [show n.info.routable = saysReady sent from h]
  · exact congrArg Execution.goroutine executions_setGoroutine_self

end StoreNode

/-! ## A container with its readiness step -/

structure MonitoredNode where
  node : StoreNode
  readiness : ReadinessRun

inductive MonitoredAction
  /-- `Run` of the node, with the error of `StepsRunner`. -/
  | run (call : CallId) (stepsRunner : Option Error)
  | onNode (action : NodeAction)
  | onReadiness (move : ReadinessMove)
  /-- The goroutine `run` receives what the readiness step sends. -/
  | message

namespace MonitoredNode

def new (config : ContainerConfig) (req : AllocationRequest) (now : Int) : MonitoredNode :=
  ⟨newStoreNode config (newReservedContainerFromAllocationRequest req now), .new⟩

section Step

variable (trimSpace : GoString → GoString) (monitor : ReadinessHealthCheckStep)

def step : MonitoredAction → MonitoredNode → Option MonitoredNode
  | .run call stepsRunner, s =>
    if s.node.runs = 0 then
      (s.node.run call stepsRunner true).map fun node => { s with node := node }
    else none
  | .onNode action, s =>
    if action.concernsReadiness then none
    else (StoreNode.step action s.node).map fun node => { s with node := node }
  | .onReadiness move, s =>
    if s.node.runs = 0 then none
    else
      (monitor.step trimSpace (.move move) s.readiness).map fun readiness =>
        { s with readiness := readiness }
  | .message, s =>
    match monitor.send s.readiness.phase with
    | none => none
    | some (state, phase) =>
      (s.node.receiveReadiness 0 (state = .isReady)).map fun node =>
        ⟨node, phase, s.readiness.sent ++ [state]⟩

end Step

structure Consistent (s : MonitoredNode) : Prop where
  node : s.node.RunsOnce
  readiness : s.readiness.Consistent
  routed : StoreNode.Routed s.readiness.sent s.node.info.routable (s.node.executions 0).goroutine

theorem consistent_new {config : ContainerConfig} {req : AllocationRequest} {now : Int} :
    (new config req now).Consistent :=
  ⟨StoreNode.runsOnce_new, ReadinessRun.consistent_new, rfl⟩

variable {trimSpace : GoString → GoString} {monitor : ReadinessHealthCheckStep}
  {s s' : MonitoredNode}

theorem Consistent.message (h : s.Consistent) (hchecks : monitor.untilFailureCheck ≠ [])
    (hstep : MonitoredNode.step trimSpace monitor .message s = some s') :
    s'.Consistent ∧ s'.node.info.routable ≠ s.node.info.routable := by
  rw [MonitoredNode.step] at hstep
  split at hstep
  · cases hstep
  · rename_i state phase hsend
    obtain ⟨node, hnode, rfl⟩ := map_eq_some_iff.mp hstep
    obtain ⟨hreadiness, hne⟩ := h.readiness.send hchecks hsend
    obtain ⟨hafter, hbefore, process, hgoroutine⟩ := h.routed.receiveReadiness hne hnode
    refine ⟨⟨h.node.receiveReadiness hnode, hreadiness, ?_⟩, ?_⟩
    · rw [hgoroutine, hafter]
      exact saysReady_append.symm
    · rw [hafter]
      exact hbefore.symm

theorem Consistent.step {action : MonitoredAction} (h : s.Consistent)
    (hchecks : monitor.untilFailureCheck ≠ [])
    (hstep : MonitoredNode.step trimSpace monitor action s = some s') : s'.Consistent := by
  cases action with
  | run call stepsRunner =>
    obtain ⟨hruns, hmap⟩ := ite_none_right_eq_some.mp hstep
    obtain ⟨node, hnode, rfl⟩ := map_eq_some_iff.mp hmap
    obtain ⟨honce, hgoroutine⟩ := h.node.run hruns hnode
    refine ⟨honce, h.readiness, ?_⟩
    have hrouted := h.routed
    rw [h.node.unborn 0 (Nat.le_of_eq hruns)] at hrouted
    rw [hgoroutine]
    exact hrouted
  | onNode action =>
    obtain ⟨haction, hmap⟩ := ite_none_left_eq_some.mp hstep
    obtain ⟨node, hnode, rfl⟩ := map_eq_some_iff.mp hmap
    have haction := Bool.not_eq_true _ ▸ haction
    exact ⟨h.node.step haction hnode, h.readiness, h.routed.step h.node haction hnode⟩
  | onReadiness move =>
    obtain ⟨-, hmap⟩ := ite_none_left_eq_some.mp hstep
    obtain ⟨readiness, hreadiness, rfl⟩ := map_eq_some_iff.mp hmap
    refine ⟨h.node, h.readiness.step hchecks hreadiness, ?_⟩
    obtain ⟨phase, -, rfl⟩ := map_eq_some_iff.mp hreadiness
    exact h.routed
  | message => exact (h.message hchecks hstep).1

end MonitoredNode

/-- **Readiness messages alternate**: with at least one valid check there is a readiness step,
and whatever its checks do and whenever it is cancelled, it sends `IsReady` first and then each
time the other value.  In every run of a container with this step, each message that the
goroutine `run` receives changes `Routable`. -/
theorem readiness_messages_alternate (trimSpace : GoString → GoString) (t : Transformer)
    (readinessChecks : List Check) (hvalid : ∃ check ∈ readinessChecks, check.validate = none) :
    ∃ monitor, t.transformReadinessCheckDefinition readinessChecks = .ok monitor ∧
      (∀ actions run, Machine.run (monitor.step trimSpace) .new actions = some run →
        Alternates run.sent) ∧
      ∀ config req now actions s s',
        Machine.run (MonitoredNode.step trimSpace monitor) (.new config req now) actions = some s →
        MonitoredNode.step trimSpace monitor .message s = some s' →
          s'.node.info.routable ≠ s.node.info.routable := by
  obtain ⟨monitor, hmonitor, hchecks⟩ := t.transformReadinessCheckDefinition_spec hvalid
  refine ⟨monitor, hmonitor, fun actions run hrun => ?_,
    fun config req now actions s s' hrun hmessage => ?_⟩
  · have hconsistent : run.Consistent :=
      Machine.run_invariant ReadinessRun.consistent_new
        (fun _ _ _ _ h hstep => h.step hchecks hstep) hrun
    exact hconsistent.alternates
  · have hconsistent : s.Consistent :=
      Machine.run_invariant MonitoredNode.consistent_new
        (fun _ _ _ _ h hstep => h.step hchecks hstep) hrun
    exact (hconsistent.message hchecks hmessage).2

/-- The readiness step of a container that listens on port 8080. -/
def portMonitor : ReadinessHealthCheckStep :=
  ⟨[⟨"", .readinessHealthcheck 0, 8080, 1000, .tcpCheck, .isUntilSuccessReadinessCheck,
      500 * millisecond⟩],
    [⟨"", .readinessHealthcheck 0, 8080, 1000, .tcpCheck, .isUntilFailureReadinessCheck,
      30000 * millisecond⟩]⟩

/-- A process that exits with status zero. -/
def cleanRun : CheckRun :=
  ⟨.exited 0 false .untouched, .ok []⟩

def reservedMonitoredNode : MonitoredNode :=
  .new ⟨.noop, 60⟩ ⟨"instance", true, ⟨512, 256, 0⟩, ∅⟩ 0

/-- A container becomes ready, and then its until-failure check exits. -/
def unreadySteps : List MonitoredAction :=
  [.onNode (.nodeInitialize ⟨default, ∅⟩), .onNode (.create 0), .onNode (.createCopy 0),
    .onNode (.createFinish 0 ⟨[], fun _ => none, none, none, none⟩), .run 1 none,
    .onNode (.watch 0), .onReadiness .start, .onReadiness (.exit 0 cleanRun), .onReadiness .wait,
    .onNode (.ready 0), .onNode (.receiveReady 0), .onNode (.markRunning 0), .message,
    .onReadiness (.exit 0 cleanRun), .onReadiness .wait]

theorem readiness_messages_alternate_sample :
    plainTransformer.transformReadinessCheckDefinition [portCheck] = .ok portMonitor ∧
      ∃ s s', Machine.run (MonitoredNode.step id portMonitor) reservedMonitoredNode
          unreadySteps = some s ∧
        MonitoredNode.step id portMonitor .message s = some s' ∧
        s'.readiness.sent = [.isReady, .isNotReady] ∧
        s'.node.info.routable ≠ s.node.info.routable := by
  obtain ⟨monitor, hmonitor, -, hflag⟩ := readiness_messages_alternate id plainTransformer
    [portCheck] ⟨portCheck, List.mem_singleton_self _, rfl⟩
  obtain rfl : portMonitor = monitor := Except.ok.inj hmonitor
  obtain ⟨s, hs, s', hmessage, hsent⟩ : ∃ s, Machine.run (MonitoredNode.step id portMonitor)
      reservedMonitoredNode unreadySteps = some s ∧
      ∃ s', MonitoredNode.step id portMonitor .message s = some s' ∧
        s'.readiness.sent = [.isReady, .isNotReady] :=
    ⟨_, rfl, _, rfl, rfl⟩
  exact ⟨rfl, s, s', hs, hmessage, hsent, hflag _ _ _ _ s s' hs hmessage⟩

end Diego.Executor
