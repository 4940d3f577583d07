import Diego.Executor.StoreNode
import Diego.Machine
import Diego.Mutex

/-!
# What the steps of a node do

One lemma for each step: where the call has to be for the step to be possible, and the node
after it.  `effect_of_step` puts them together.  A step moves at most one call, along the arcs
of its control flow (`Flow`), and only some steps touch the state of the container, its
processes, the channel or what is asked of other components.  The invariants of the following
modules are proved from this, and look at single steps only where these matter.

Two invariants hold in every interleaving.  A call that is between acquiring and releasing
`opLock` is the one that holds it (`Locked`), so there is at most one of them; and the guid
and the resources of a container never change (`Identified`), although `Create` works on a
copy of `info` and writes all of it back.
-/

namespace Diego.Executor

open Option

namespace StoreNode

variable {n n' : StoreNode} {call : CallId} {execution : Nat}

/-! ## Initialize, Expire and Reap -/

theorem nodeInitialize_spec (req : RunRequest) :
    (n.nodeInitialize req).1 = n ∨
      n.info.state = .reserved ∧ ∃ tags, (n.nodeInitialize req).1 = { n with
        info := { n.info with state := .initializing, runInfo := req.runInfo, tags := tags } } := by
  unfold nodeInitialize Container.transitionToInitialize
  cases hstate : n.info.state with
  | reserved => exact Or.inr ⟨rfl, _, rfl⟩
  | invalid | initializing | created | running | completed => exact Or.inl rfl

theorem expire_spec (now : Int) :
    (n.expire now).1 = n ∨ (n.info.state = .reserved ∧
      (n.expire now).1 = n.complete ⟨true, containerExpirationMessage, false⟩) := by
  unfold expire
  grind

theorem reap_spec :
    n.reap.1 = n ∨ (n.info.isCreated = true ∧
      n.reap.1 = n.complete ⟨true, containerMissingMessage, false⟩) := by
  unfold reap
  split
  · rename_i hcreated
    exact Or.inr ⟨hcreated, rfl⟩
  · exact Or.inl rfl

/-! ## Create -/

theorem create_spec (h : n.create call = some n') :
    n.calls call = .idle ∧ n.opLock = none ∧ n' = n.acquireOpLock call .create := by
  unfold create at h
  split at h
  · rename_i hcall hlock
    exact ⟨hcall, hlock, (some.inj h).symm⟩
  · simp at h

theorem createCopy_spec (h : n.createCopy call = some n') :
    n.calls call = .create ∧
      ((n.info.state = .initializing ∧ n' = n.setCall call (.creating n.info)) ∨
        n' = n.releaseOpLock call (.returned (some .invalidTransition))) := by
  unfold createCopy at h
  split at h
  · rename_i hcall
    split at h
    · rename_i hvalid
      refine ⟨hcall, Or.inl ⟨?_, (some.inj h).symm⟩⟩
      cases hstate : n.info.state <;> simp [State.validateTransitionTo, hstate] at hvalid ⊢
    · exact ⟨hcall, Or.inr (some.inj h).symm⟩
  · simp at h

/-- The container after `createContainer`: completed, or as the copy of `Create` has it. -/
inductive CreatedInfo (before copy : Container) : Container → Prop
  | failed (completion : Completion) : CreatedInfo before copy (before.transitionToComplete
      completion.failed completion.failureReason completion.retryable)
  | created (h : copy.state = .initializing) :
      CreatedInfo before copy { copy with state := .created }
  | invalid (h : copy.state ≠ .initializing) : CreatedInfo before copy copy

variable {action : NodeAction} {info : Container} {env : CreateEnvironment}
  {config : ContainerConfig} {container : Container} {setProperty : Option Error} {c : CallId}

theorem transitionToCreate_of_initializing (h : info.state = .initializing) :
    info.transitionToCreate = .ok { info with state := .created } := by
  simp [Container.transitionToCreate, State.validateTransitionTo, h]

theorem transitionToCreate_of_ne (h : info.state ≠ .initializing) :
    info.transitionToCreate = .error .invalidTransition := by
  unfold Container.transitionToCreate
  cases hstate : info.state <;> simp [State.validateTransitionTo, hstate] at h ⊢

/-- The parts of the history that `createContainer` changes: the volumes up to the first that
cannot be mounted, if the downloads succeed. -/
structure CreateHistory (before after : History) (info : Container) (env : CreateEnvironment) :
    Prop where
  unmounted : after.unmounted = before.unmounted
  gardenDestroyed : after.gardenDestroyed = before.gardenDestroyed
  mounted : after.mounted = before.mounted ∨
    after.mounted = before.mounted ++ (mountVolumes env.mount 0 info.runInfo.volumeMounts).1

theorem createContainer_spec :
    ∃ info' keys gardenContainer history,
      (n.createContainer info env).1 = { n with
        info := info'
        bindMountCacheKeys := keys
        gardenContainer := gardenContainer
        history := history } ∧
      CreatedInfo n.info info info' ∧ CreateHistory n.history history info env := by
  unfold createContainer
  dsimp only
  split
  · exact ⟨_, _, _, _, rfl, .failed _, rfl, rfl, Or.inl rfl⟩
  -- the failures after the volumes have been mounted
  iterate 4
    split
    · exact ⟨_, _, _, _, rfl, .failed _, rfl, rfl, Or.inr rfl⟩
  by_cases hstate : info.state = .initializing
  · rw [transitionToCreate_of_initializing hstate]
    exact ⟨_, _, _, _, rfl, .created hstate, rfl, rfl, Or.inr rfl⟩
  · rw [transitionToCreate_of_ne hstate]
    exact ⟨_, _, _, _, rfl, .invalid hstate, rfl, rfl, Or.inr rfl⟩

theorem createFinish_spec (h : n.createFinish call env = some n') :
    ∃ info, n.calls call = .creating info ∧
      n' = (n.createContainer info env).1.releaseOpLock call
        (.returned (n.createContainer info env).2) := by
  unfold createFinish at h
  grind

/-! ## Run -/

theorem run_spec {stepsRunner : Option Error} {readinessCh : Bool}
    (h : n.run call stepsRunner readinessCh = some n') :
    n.calls call = .idle ∧ n.opLock = none ∧
      ((∃ err, n' = n.setCall call (.returned (some err))) ∨
        (n.info.state = .created ∧
          n' = (n.background readinessCh).setCall call (.returned none))) := by
  unfold run at h
  grind

theorem ready_spec (h : n.ready execution = some n') :
    n' = n.setExecution execution { n.executions execution with ready := true } := by
  unfold ready at h
  split at h
  · exact (some.inj h).symm
  · simp at h

theorem exit_spec {err : Option ExitError} (h : n.exit execution err = some n') :
    execution < n.runs ∧ (n.executions execution).exited = none ∧
      n' = n.setExecution execution { n.executions execution with exited := some err } := by
  unfold exit at h
  split at h
  · rename_i hguard
    exact ⟨hguard.1, isNone_iff_eq_none.mp hguard.2, (some.inj h).symm⟩
  · simp at h

theorem watch_spec (h : n.watch execution = some n') :
    (n.executions execution).goroutine = .starting ∧ execution < n.runs ∧
      n' = n.setGoroutine execution (.waiting (n.runs - 1)) := by
  unfold watch at h
  grind

theorem receiveReady_spec (h : n.receiveReady execution = some n') :
    ∃ process, (n.executions execution).goroutine = .waiting process ∧
      n' = n.setGoroutine execution .healthy := by
  unfold receiveReady at h
  grind

theorem markRunning_spec (h : n.markRunning execution = some n') :
    (n.executions execution).goroutine = .healthy ∧
      n' = { n.setGoroutine execution (.running (n.runs - 1)) with
        info := { n.info with
          state := .running
          routable := !(n.executions execution).readinessCh } } := by
  unfold markRunning at h
  split at h
  · rename_i hgoroutine
    exact ⟨hgoroutine, (some.inj h).symm⟩
  · simp at h

theorem receiveReadiness_spec {isReady : Bool}
    (h : n.receiveReadiness execution isReady = some n') :
    ∃ process, (n.executions execution).goroutine = .running process ∧
      n' = { n.setGoroutine execution (.running (n.runs - 1)) with
        info := { n.info with routable := isReady } } := by
  unfold receiveReadiness at h
  grind

theorem receiveExit_spec (h : n.receiveExit execution = some n') :
    ∃ process err, ((n.executions execution).goroutine = .waiting process ∨
        (n.executions execution).goroutine = .running process) ∧
      (n.executions process).exited = some err ∧
      n' = n.setGoroutine execution (.completing (completeWithError err)) := by
  unfold receiveExit at h
  grind

theorem completeNext_spec (h : n.completeNext execution = some n') :
    ∃ completion completions,
      (n.executions execution).goroutine = .completing (completion :: completions) ∧
      n' = (n.setGoroutine execution (.completing completions)).complete completion := by
  unfold completeNext at h
  grind

/-! ## Update -/

theorem update_spec {req : UpdateRequest} (h : n.update call req = some n') :
    n.calls call = .idle ∧ n.opLock = none ∧ n' = n.acquireOpLock call (.update req) := by
  unfold update at h
  split at h
  · rename_i hcall hlock
    exact ⟨hcall, hlock, (some.inj h).symm⟩
  · simp at h

/-- `Update` goes on to send new routes, unless the marshaller fails. -/
def UpdateSends (req : UpdateRequest) (marshal : Option Error) : Prop :=
  req.internalRoutes.isSome ∧ (req.metricTags.isSome → marshal = none)

instance (req : UpdateRequest) (marshal : Option Error) : Decidable (UpdateSends req marshal) :=
  inferInstanceAs (Decidable (_ ∧ (_ → _)))

theorem updateInfo_spec {marshal : Option Error}
    (h : n.updateInfo call marshal setProperty = some n') :
    ∃ req, n.calls call = .update req ∧
      ((UpdateSends req marshal ∧
        n' = { n with info := { n.info with runInfo := updateRunInfo n.info.runInfo req } }.setCall
          call (.sending req)) ∨
      (¬ UpdateSends req marshal ∧ ∃ err,
        n' = { n with
            info := { n.info with runInfo := updateRunInfo n.info.runInfo req } }.releaseOpLock
          call (.returned err))) := by
  unfold updateInfo at h
  split at h
  · rename_i req hcall
    refine ⟨req, hcall, ?_⟩
    split at h
    · rename_i err hmarshal
      split at hmarshal
      · rename_i htags
        refine Or.inr ⟨?_, _, (some.inj h).symm⟩
        rintro ⟨-, hnone⟩
        rw [hnone htags] at hmarshal
        simp at hmarshal
      · simp at hmarshal
    · rename_i hmarshal
      split at h
      · rename_i hroutes
        refine Or.inl ⟨⟨hroutes, ?_⟩, (some.inj h).symm⟩
        intro htags
        rwa [if_pos htags] at hmarshal
      · rename_i hroutes
        exact Or.inr ⟨fun hsends => hroutes hsends.1, _, (some.inj h).symm⟩
  · simp at h

theorem send_spec (h : n.send call setProperty = some n') :
    ∃ req err, n.calls call = .sending req ∧ n.regenerateCertsCh = false ∧
      n' = { n.releaseOpLock call (.returned err) with regenerateCertsCh := true } := by
  unfold send at h
  grind

theorem receive_spec (h : n.receive execution = some n') :
    n.Receiving execution ∧ n' = { n with regenerateCertsCh := false } := by
  unfold receive at h
  split at h
  · rename_i hguard
    exact ⟨hguard.1, (some.inj h).symm⟩
  · simp at h

/-! ## Stop and Destroy -/

theorem signal_spec {who : Stopper} (h : n.signal call who = some n') :
    n.calls call = .idle ∧
      ((n.flag who = true ∧ n' = n.setCall call (who.returned none)) ∨
        (n.flag who = false ∧ n' = (n.setFlag true who).setCall call (.locking who))) := by
  unfold signal at h
  grind

theorem lock_spec (h : n.lock call = some n') :
    ∃ who, n.calls call = .locking who ∧ n.opLock = none ∧
      n' = n.acquireOpLock call (.stopping who) := by
  unfold lock at h
  split at h
  · rename_i who hcall hlock
    exact ⟨who, hcall, hlock, (some.inj h).symm⟩
  · simp at h

def markStopped (n : StoreNode) : StoreNode :=
  { n with info := { n.info with runResult := { n.info.runResult with stopped := true } } }

theorem stop_spec (h : n.stop call = some n') :
    ∃ who, n.calls call = .stopping who ∧
      ((n.runs = 0 ∧ n.info.state ≠ .completed ∧
          n' = n.markStopped.setCall call (.completing who)) ∨
        n' = n.markStopped.stopReturn call who) := by
  unfold stop at h
  split at h
  · rename_i who hcall
    refine ⟨who, hcall, ?_⟩
    dsimp only at h
    split at h
    · rename_i hguard
      exact Or.inl ⟨hguard.1, hguard.2, (some.inj h).symm⟩
    · exact Or.inr (some.inj h).symm
  · simp at h

theorem stopComplete_spec (h : n.stopComplete call = some n') :
    ∃ who, n.calls call = .completing who ∧
      n' = (n.complete ⟨true, bytes "stopped-before-running", false⟩).stopReturn call who := by
  unfold stopComplete at h
  split at h
  · rename_i who hcall
    exact ⟨who, hcall, (some.inj h).symm⟩
  · simp at h

theorem await_spec (h : n.await call = some n') :
    n.calls call = .awaiting ∧ n' = n.setCall call .copying := by
  unfold await at h
  grind

theorem destroyCopy_spec (h : n.destroyCopy call = some n') :
    n.calls call = .copying ∧ n' = n.setCall call (.destroying n.info) := by
  unfold destroyCopy at h
  split at h
  · rename_i hcall
    exact ⟨hcall, (some.inj h).symm⟩
  · simp at h

/-- `Destroy` unmounts the volumes in any case, and succeeds only if the garden container is
gone. -/
theorem destroyInGarden_spec (env : DestroyEnvironment) :
    ∃ history, (n.destroyInGarden info env).1 = { n with history := history } ∧
      history.mounted = n.history.mounted ∧
      history.unmounted = n.history.unmounted ++ info.runInfo.volumeMounts ∧
      (n.history.gardenDestroyed = true → history.gardenDestroyed = true) ∧
      ((n.destroyInGarden info env).2 = none → history.gardenDestroyed = true) := by
  unfold destroyInGarden
  split
  · exact ⟨_, rfl, rfl, rfl, id, nofun⟩
  · exact ⟨_, rfl, rfl, rfl, fun _ => rfl, fun _ => rfl⟩

theorem destroyFinish_spec {env : DestroyEnvironment} (h : n.destroyFinish call env = some n') :
    ∃ info, n.calls call = .destroying info ∧
      n' = (n.destroyInGarden info env).1.releaseOpLock call
        (.clearing .destroy (n.destroyInGarden info env).2) := by
  unfold destroyFinish at h
  split at h
  · rename_i info hcall
    exact ⟨info, hcall, (some.inj h).symm⟩
  · simp at h

theorem clear_spec (h : n.clear call = some n') :
    ∃ who err, n.calls call = .clearing who err ∧
      n' = (n.setFlag false who).setCall call (who.returned err) := by
  unfold clear at h
  split at h
  · rename_i who err hcall
    exact ⟨who, err, hcall, (some.inj h).symm⟩
  · simp at h

/-! ## The control flow of a call -/

/-- Where a call goes with a step, and what it has found in the node. -/
inductive Flow (n : StoreNode) (call : CallId) : NodeAction → Call → Call → Prop
  | createCall : Flow n call (.create call) .idle .create
  | createCopied (hstate : n.info.state = .initializing) :
      Flow n call (.createCopy call) .create (.creating n.info)
  | createRejected : Flow n call (.createCopy call) .create (.returned (some .invalidTransition))
  | createReturned {env : CreateEnvironment} {info : Container} {err : Option Error} :
      Flow n call (.createFinish call env) (.creating info) (.returned err)
  | runReturned {stepsRunner err : Option Error} {readinessCh : Bool} :
      Flow n call (.run call stepsRunner readinessCh) .idle (.returned err)
  | updateCall {req : UpdateRequest} : Flow n call (.update call req) .idle (.update req)
  | updateSends {req : UpdateRequest} {marshal setProperty : Option Error}
      (hsends : UpdateSends req marshal) :
      Flow n call (.updateInfo call marshal setProperty) (.update req) (.sending req)
  | updateReturned {req : UpdateRequest} {marshal setProperty err : Option Error} :
      Flow n call (.updateInfo call marshal setProperty) (.update req) (.returned err)
  | updateSent {req : UpdateRequest} {setProperty err : Option Error} :
      Flow n call (.send call setProperty) (.sending req) (.returned err)
  | stopRefused : Flow n call (.signal call .stop) .idle (.returned none)
  | destroyRefused (hflag : n.destroying = true) :
      Flow n call (.signal call .destroy) .idle (.destroyed none)
  | signalled {who : Stopper} : Flow n call (.signal call who) .idle (.locking who)
  | locked {who : Stopper} : Flow n call (.lock call) (.locking who) (.stopping who)
  | stopFound {who : Stopper} (hruns : n.runs = 0) (hstate : n.info.state ≠ .completed) :
      Flow n call (.stop call) (.stopping who) (.completing who)
  | stopReturned : Flow n call (.stop call) (.stopping .stop) (.clearing .stop none)
  | destroyStopped : Flow n call (.stop call) (.stopping .destroy) .awaiting
  | stopCompleted : Flow n call (.stopComplete call) (.completing .stop) (.clearing .stop none)
  | destroyCompleted : Flow n call (.stopComplete call) (.completing .destroy) .awaiting
  | destroyAwaited : Flow n call (.await call) .awaiting .copying
  | destroyCopied : Flow n call (.destroyCopy call) .copying (.destroying n.info)
  | destroyFinished {env : DestroyEnvironment} {info : Container} {err : Option Error} :
      Flow n call (.destroyFinish call env) (.destroying info) (.clearing .destroy err)
  | stopCleared {err : Option Error} :
      Flow n call (.clear call) (.clearing .stop err) (.returned err)
  | destroyCleared {err : Option Error} :
      Flow n call (.clear call) (.clearing .destroy err) (.destroyed err)

/-- What a step does to the calls and to `opLock`: nothing, or one call goes on. -/
inductive Turn (action : NodeAction) (n n' : StoreNode) : Prop
  | stay (hcalls : n'.calls = n.calls) (hlock : n'.opLock = n.opLock)
  | go {call : CallId} {before after : Call} (hcall : n.calls call = before)
      (hflow : Flow n call action before after)
      (hpasses : Mutex.Passes Call.holdsOpLock call before after n.opLock n'.opLock)
      (hcalls : n'.calls = Function.update n.calls call after)

/-! ## What a step can do -/

/-- `Create` has not been completed yet. -/
def Uncreated (state : State) : Prop :=
  state = .reserved ∨ state = .initializing

theorem not_uncreated_running : ¬ Uncreated .running := by
  rintro (h | h) <;> exact nomatch h

theorem not_uncreated_completed : ¬ Uncreated .completed := by
  rintro (h | h) <;> exact nomatch h

/-- The steps that change the state of the container, or a process. -/
def Stirs : NodeAction → Bool
  | .nodeInitialize _ | .expire _ | .reap | .createFinish _ _ | .run _ _ _ | .ready _ | .exit _ _
  | .watch _ | .receiveReady _ | .markRunning _ | .receiveReadiness _ _ | .receiveExit _
  | .completeNext _ | .stopComplete _ => true
  | .create _ | .createCopy _ | .update _ _ | .updateInfo _ _ _ | .send _ _ | .receive _
  | .signal _ _ | .lock _ | .stop _ | .await _ | .destroyCopy _ | .destroyFinish _ _ | .clear _ =>
    false

/-- The state and the result stay. -/
structure SameState (before after : Container) : Prop where
  state : after.state = before.state
  failed : after.runResult.failed = before.runResult.failed
  failureReason : after.runResult.failureReason = before.runResult.failureReason
  retryable : after.runResult.retryable = before.runResult.retryable

/-- What a step makes of `info`.  Only `Create` writes a copy back; all others keep the guid and
the resources, and do not go back to a state before `Create`. -/
inductive Rewrites (n : StoreNode) (action : NodeAction) (info : Container) : Prop
  | still (hguid : info.guid = n.info.guid) (hresource : info.resource = n.info.resource)
      (hsame : SameState n.info info)
      (hroutable : Stirs action = false → info.routable = n.info.routable)
  | moved (hstirs : Stirs action = true) (hguid : info.guid = n.info.guid)
      (hresource : info.resource = n.info.resource)
      (huncreated : Uncreated info.state → Uncreated n.info.state)
  | copied {call : CallId} {env : CreateEnvironment} {copy : Container}
      (haction : action = .createFinish call env) (hcall : n.calls call = .creating copy)
      (hcreated : CreatedInfo n.info copy info)

section Rewrites

variable {action : NodeAction} {completion : Completion}

theorem Rewrites.same : Rewrites n action n.info :=
  .still rfl rfl ⟨rfl, rfl, rfl, rfl⟩ fun _ => rfl

theorem Rewrites.update {runInfo : RunInfo} :
    Rewrites n action { n.info with runInfo := runInfo } :=
  .still rfl rfl ⟨rfl, rfl, rfl, rfl⟩ fun _ => rfl

theorem Rewrites.stop : Rewrites n action n.markStopped.info :=
  .still rfl rfl ⟨rfl, rfl, rfl, rfl⟩ fun _ => rfl

theorem Rewrites.complete (hstirs : Stirs action = true) :
    Rewrites n action (n.complete completion).info :=
  .moved hstirs rfl rfl fun h => absurd h not_uncreated_completed

theorem Rewrites.routable {info : Container} (h : Rewrites n action info)
    (hstill : Stirs action = false) : info.routable = n.info.routable := by
  cases h with
  | still _ _ _ hroutable => exact hroutable hstill
  | moved hstirs _ _ _ => cases hstirs.symm.trans hstill
  | copied haction _ _ =>
    subst haction
    cases hstill

end Rewrites

/-- The steps that ask something of other components. -/
def Asks : NodeAction → Bool
  | .createFinish _ _ | .destroyFinish _ _ => true
  | _ => false

/-- The steps that use `regenerateCertsCh`, or start or end a process that receives from it. -/
def UsesChannel : NodeAction → Bool
  | .run _ _ _ | .exit _ _ | .send _ _ | .receive _ => true
  | _ => false

/-- The channel and those who receive from it stay. -/
structure SameReceivers (n n' : StoreNode) : Prop where
  regenerateCertsCh : n'.regenerateCertsCh = n.regenerateCertsCh
  receiving : ∀ e, n'.Receiving e ↔ n.Receiving e

theorem sameReceivers_of_eq (hconfig : n'.config = n.config) (hruns : n'.runs = n.runs)
    (hexited : ∀ e, (n'.executions e).exited = (n.executions e).exited)
    (hchannel : n'.regenerateCertsCh = n.regenerateCertsCh) : SameReceivers n n' := by
  refine ⟨hchannel, fun e => ?_⟩
  unfold Receiving
  rw [hconfig, hruns, hexited]

/-- All that a step does, apart from what it asks of other components and what becomes of the
processes. -/
structure Effect (action : NodeAction) (n n' : StoreNode) : Prop where
  turn : Turn action n n'
  info : Rewrites n action n'.info
  runs : Stirs action = false → n'.runs = n.runs
  executions : Stirs action = false → n'.executions = n.executions
  receivers : UsesChannel action = false → SameReceivers n n'
  history : Asks action = false → n'.history = n.history
  bindMountCacheKeys : Asks action = false → n'.bindMountCacheKeys = n.bindMountCacheKeys

section Effect

variable {action : NodeAction}

variable {info : Container} {destroying stopping : Bool}

/-- A step that only changes `info`. -/
theorem Effect.of_info (hinfo : Rewrites n action info) :
    Effect action n { n with info := info } where
  turn := .stay rfl rfl
  info := hinfo
  runs _ := rfl
  executions _ := rfl
  receivers _ := sameReceivers_of_eq rfl rfl (fun _ => rfl) rfl
  history _ := rfl
  bindMountCacheKeys _ := rfl

theorem Effect.of_execution {state : Execution} (hstirs : Stirs action = true)
    (hexited : UsesChannel action = false → state.exited = (n.executions execution).exited)
    (hinfo : Rewrites n action info) :
    Effect action n { n.setExecution execution state with info := info } where
  turn := .stay rfl rfl
  info := hinfo
  runs _ := rfl
  executions hstill := nomatch hstill.symm.trans hstirs
  receivers huses := by
    refine sameReceivers_of_eq rfl rfl (fun e => ?_) rfl
    by_cases he : e = execution
    · subst he
      simpa [setExecution] using hexited huses
    · simp [setExecution, he]
  history _ := rfl
  bindMountCacheKeys _ := rfl

/-- A step of a call that leaves the processes, the channel and the history. -/
theorem Effect.of_call {before after : Call} (hcall : n.calls call = before)
    (hflow : Flow n call action before after) (hinfo : Rewrites n action info)
    {lock : Option CallId}
    (hpasses : Mutex.Passes Call.holdsOpLock call before after n.opLock lock) :
    Effect action n { n.setCall call after with
      info := info
      opLock := lock
      destroying := destroying
      stopping := stopping } where
  turn := .go hcall hflow hpasses rfl
  info := hinfo
  runs _ := rfl
  executions _ := rfl
  receivers _ := sameReceivers_of_eq rfl rfl (fun _ => rfl) rfl
  history _ := rfl
  bindMountCacheKeys _ := rfl

theorem effect_of_step (hstep : StoreNode.step action n = some n') : Effect action n n' := by
  cases action with
  | nodeInitialize req =>
    cases hstep
    rcases n.nodeInitialize_spec req with heq | ⟨hstate, tags, heq⟩ <;> rw [heq]
    · exact .of_info .same
    · exact .of_info (.moved rfl rfl rfl fun _ => Or.inl hstate)
  | expire now =>
    cases hstep
    rcases n.expire_spec now with heq | ⟨-, heq⟩ <;> rw [heq]
    · exact .of_info .same
    · exact .of_info (.complete rfl)
  | reap =>
    cases hstep
    rcases n.reap_spec with heq | ⟨-, heq⟩ <;> rw [heq]
    · exact .of_info .same
    · exact .of_info (.complete rfl)
  | create call =>
    obtain ⟨hcall, hfree, rfl⟩ := create_spec hstep
    exact .of_call hcall .createCall .same (.acquire hfree rfl)
  | createCopy call =>
    obtain ⟨hcall, ⟨hstate, rfl⟩ | rfl⟩ := createCopy_spec hstep
    · exact .of_call hcall (.createCopied hstate) .same (.keep rfl fun _ => rfl)
    · exact .of_call hcall .createRejected .same (.release rfl rfl rfl)
  | createFinish call env =>
    obtain ⟨info, hcall, rfl⟩ := createFinish_spec hstep
    obtain ⟨info', keys, gardenContainer, history, heq, hinfo, -⟩ :=
      n.createContainer_spec
    rw [heq]
    exact ⟨.go hcall .createReturned (.release rfl rfl rfl) rfl, .copied rfl hcall hinfo,
      nofun, nofun, fun _ => sameReceivers_of_eq rfl rfl (fun _ => rfl) rfl, nofun, nofun⟩
  | run call stepsRunner readinessCh =>
    obtain ⟨hcall, -, ⟨err, rfl⟩ | ⟨-, rfl⟩⟩ := run_spec hstep
    · exact .of_call hcall .runReturned .same (.keep rfl nofun)
    · exact ⟨.go hcall .runReturned (.keep rfl nofun) rfl, .same, nofun, nofun, nofun,
        fun _ => rfl, fun _ => rfl⟩
  | ready execution =>
    obtain rfl := ready_spec hstep
    exact .of_execution rfl (fun _ => rfl) .same
  | exit execution err =>
    obtain ⟨-, -, rfl⟩ := exit_spec hstep
    exact .of_execution rfl nofun .same
  | watch execution =>
    obtain ⟨-, -, rfl⟩ := watch_spec hstep
    exact .of_execution rfl (fun _ => rfl) .same
  | receiveReady execution =>
    obtain ⟨process, -, rfl⟩ := receiveReady_spec hstep
    exact .of_execution rfl (fun _ => rfl) .same
  | markRunning execution =>
    obtain ⟨-, rfl⟩ := markRunning_spec hstep
    exact .of_execution rfl (fun _ => rfl)
      (.moved rfl rfl rfl fun h => absurd h not_uncreated_running)
  | receiveReadiness execution isReady =>
    obtain ⟨process, -, rfl⟩ := receiveReadiness_spec hstep
    exact .of_execution rfl (fun _ => rfl) (.still rfl rfl ⟨rfl, rfl, rfl, rfl⟩ nofun)
  | receiveExit execution =>
    obtain ⟨process, err, -, -, rfl⟩ := receiveExit_spec hstep
    exact .of_execution rfl (fun _ => rfl) .same
  | completeNext execution =>
    obtain ⟨completion, completions, -, rfl⟩ := completeNext_spec hstep
    exact .of_execution rfl (fun _ => rfl) (.complete rfl)
  | update call req =>
    obtain ⟨hcall, hfree, rfl⟩ := update_spec hstep
    exact .of_call hcall .updateCall .same (.acquire hfree rfl)
  | updateInfo call marshal setProperty =>
    obtain ⟨req, hcall, ⟨hsends, rfl⟩ | ⟨-, err, rfl⟩⟩ := updateInfo_spec hstep
    · exact .of_call hcall (.updateSends hsends) .update (.keep rfl fun _ => rfl)
    · exact .of_call hcall .updateReturned .update (.release rfl rfl rfl)
  | send call setProperty =>
    obtain ⟨req, err, hcall, -, rfl⟩ := send_spec hstep
    exact ⟨.go hcall .updateSent (.release rfl rfl rfl) rfl, .same, fun _ => rfl, fun _ => rfl,
      nofun, fun _ => rfl, fun _ => rfl⟩
  | receive execution =>
    obtain ⟨-, rfl⟩ := receive_spec hstep
    exact ⟨.stay rfl rfl, .same, fun _ => rfl, fun _ => rfl, nofun, fun _ => rfl, fun _ => rfl⟩
  | signal call who =>
    obtain ⟨hcall, ⟨hflag, rfl⟩ | ⟨-, rfl⟩⟩ := signal_spec hstep
    · cases who with
      | stop => exact .of_call hcall .stopRefused .same (.keep rfl nofun)
      | destroy => exact .of_call hcall (.destroyRefused hflag) .same (.keep rfl nofun)
    · cases who <;> exact .of_call hcall .signalled .same (.keep rfl nofun)
  | lock call =>
    obtain ⟨who, hcall, hfree, rfl⟩ := lock_spec hstep
    exact .of_call hcall .locked .same (.acquire hfree rfl)
  | stop call =>
    obtain ⟨who, hcall, ⟨hruns, hstate, rfl⟩ | rfl⟩ := stop_spec hstep
    · exact .of_call hcall (.stopFound hruns hstate) .stop (.keep rfl fun _ => rfl)
    · cases who with
      | stop => exact .of_call hcall .stopReturned .stop (.release rfl rfl rfl)
      | destroy => exact .of_call hcall .destroyStopped .stop (.keep rfl fun _ => rfl)
  | stopComplete call =>
    obtain ⟨who, hcall, rfl⟩ := stopComplete_spec hstep
    cases who with
    | stop => exact .of_call hcall .stopCompleted (.complete rfl) (.release rfl rfl rfl)
    | destroy =>
      exact .of_call hcall .destroyCompleted (.complete rfl) (.keep rfl fun _ => rfl)
  | await call =>
    obtain ⟨hcall, rfl⟩ := await_spec hstep
    exact .of_call hcall .destroyAwaited .same (.keep rfl fun _ => rfl)
  | destroyCopy call =>
    obtain ⟨hcall, rfl⟩ := destroyCopy_spec hstep
    exact .of_call hcall .destroyCopied .same (.keep rfl fun _ => rfl)
  | destroyFinish call env =>
    obtain ⟨info, hcall, rfl⟩ := destroyFinish_spec hstep
    obtain ⟨history, heq, -⟩ := n.destroyInGarden_spec env
    rw [heq]
    exact ⟨.go hcall .destroyFinished (.release rfl rfl rfl) rfl, .same, fun _ => rfl,
      fun _ => rfl, fun _ => sameReceivers_of_eq rfl rfl (fun _ => rfl) rfl, nofun, nofun⟩
  | clear call =>
    obtain ⟨who, err, hcall, rfl⟩ := clear_spec hstep
    cases who with
    | stop => exact .of_call hcall .stopCleared .same (.keep rfl nofun)
    | destroy => exact .of_call hcall .destroyCleared .same (.keep rfl nofun)

end Effect

/-- A call stays where it is, or goes on. -/
theorem Turn.flow (h : Turn action n n') (c : CallId) :
    n'.calls c = n.calls c ∨ Flow n c action (n.calls c) (n'.calls c) := by
  cases h with
  | stay hcalls _ => exact Or.inl (congrFun hcalls c)
  | @go call before after hcall hflow _ hcalls =>
    rw [hcalls]
    by_cases hc : c = call
    · subst hc
      rw [hcall, Function.update_self]
      exact Or.inr hflow
    · exact Or.inl (Function.update_of_ne hc _ _)

/-! ## The lock -/

/-- A call that acts under `opLock` holds it. -/
def Locked (n : StoreNode) : Prop :=
  Mutex.Held Call.holdsOpLock n.calls n.opLock

theorem locked_new : (newStoreNode config container).Locked :=
  nofun

/-- The lock is respected in every interleaving. -/
theorem Locked.step (h : n.Locked) (hstep : StoreNode.step action n = some n') : n'.Locked := by
  unfold Locked
  cases (effect_of_step hstep).turn with
  | stay hcalls hlock =>
    rw [hcalls, hlock]
    exact h
  | go hcall _ hpasses hcalls =>
    rw [hcalls]
    exact Mutex.Held.passes h (hcall.symm ▸ hpasses)

/-! ## The identity of the container -/

/-- The copy of `info` that a call of `Create` will write back. -/
def copy : Call → Option Container
  | .creating info => some info
  | _ => none

/-- The container has this guid and these resources, and so have all copies of it. -/
structure Identified (guid : String) (resource : Resource) (n : StoreNode) : Prop where
  info : n.info.guid = guid ∧ n.info.resource = resource
  copies : ∀ c, ∀ info ∈ copy (n.calls c), info.guid = guid ∧ info.resource = resource

theorem identified_new (container : Container) :
    Identified container.guid container.resource (newStoreNode config container) where
  info := ⟨rfl, rfl⟩
  copies _ _ hmem := nomatch hmem

/-- A call that goes on has a copy only of an initializing container. -/
theorem Flow.copy_eq {before after : Call} (h : Flow n call action before after)
    (hcopy : copy after = some info) : n.info.state = .initializing ∧ info = n.info := by
  cases h with
  | createCopied hstate => exact ⟨hstate, (some.inj hcopy).symm⟩
  | _ => exact nomatch hcopy

theorem Turn.copy_eq (h : Turn action n n') (hcopy : copy (n'.calls c) = some info) :
    copy (n.calls c) = some info ∨ n.info.state = .initializing ∧ info = n.info := by
  rcases h.flow c with hsame | hflow
  · exact Or.inl (hsame ▸ hcopy)
  · exact Or.inr (hflow.copy_eq hcopy)

/-- The guid and the resources stay in every interleaving. -/
theorem Identified.step {guid : String} {resource : Resource} (h : Identified guid resource n)
    (hstep : StoreNode.step action n = some n') : Identified guid resource n' := by
  have heffect := effect_of_step hstep
  refine ⟨?_, fun c info hmem => ?_⟩
  · cases heffect.info with
    | still hguid hresource _ _ | moved _ hguid hresource _ =>
      exact ⟨hguid.trans h.info.1, hresource.trans h.info.2⟩
    | @copied call _ info _ hcall hcreated =>
      have hcopy := h.copies call info (by rw [hcall]; rfl)
      generalize n'.info = info' at hcreated
      cases hcreated with
      | failed completion => exact h.info
      | created _ | invalid _ => exact hcopy
  · rcases heffect.turn.copy_eq hmem with hbefore | ⟨-, rfl⟩
    · exact h.copies c info hbefore
    · exact h.info

/-- **`opLock` excludes.**  In every interleaving at most one call acts under the lock, and the
guid and the resources of the container are those it was reserved with. -/
theorem opLock_excludes {actions : List NodeAction}
    (hrun : Machine.run StoreNode.step (newStoreNode config container) actions = some n) :
    (∀ c c', (n.calls c).holdsOpLock = true → (n.calls c').holdsOpLock = true → c' = c) ∧
      n.info.guid = container.guid ∧ n.info.resource = container.resource := by
  have hlocked : n.Locked := Machine.run_invariant locked_new (fun _ _ _ _ h => h.step) hrun
  have hidentified : Identified container.guid container.resource n :=
    Machine.run_invariant (identified_new container) (fun _ _ _ _ h => h.step) hrun
  exact ⟨fun _ _ => hlocked.unique, hidentified.info⟩

/-- A container that has just been reserved. -/
def reservedNode : StoreNode :=
  newStoreNode ⟨.issuing, 60⟩
    (newReservedContainerFromAllocationRequest ⟨"instance", true, ⟨512, 256, 0⟩, ∅⟩ 0)

/-- Every step of `Create` succeeds, for a container without dependencies. -/
def CreateEnvironment.ok : CreateEnvironment :=
  ⟨[], fun _ => none, none, none, none⟩

/-- A `Destroy` waits while `Create` prepares the container, and has the lock after it. -/
def createThenDestroy : List NodeAction :=
  [.nodeInitialize ⟨default, ∅⟩, .create 0, .signal 1 .destroy, .createCopy 0, .createFinish 0 .ok,
    .lock 1]

theorem opLock_excludes_destroy :
    ∃ n, Machine.run StoreNode.step reservedNode createThenDestroy = some n ∧
      (n.calls 1).holdsOpLock = true ∧ (n.calls 0).holdsOpLock = false ∧
      n.info.state = .created ∧ n.info.guid = "instance" := by
  have hrun : ∃ n, Machine.run StoreNode.step reservedNode createThenDestroy = some n ∧
      (n.calls 1).holdsOpLock = true ∧ n.info.state = .created :=
    ⟨_, rfl, rfl, rfl⟩
  obtain ⟨n, hn, hholds, hcreated⟩ := hrun
  obtain ⟨hone, hguid, -⟩ := opLock_excludes hn
  refine ⟨n, hn, hholds, Bool.eq_false_iff.mpr fun hother => ?_, hcreated, hguid⟩
  exact absurd (hone 1 0 hholds hother) (by decide)

/-! ## What only Create and Destroy change -/

/-- A step that asks nothing of other components.  The container does not go back to a state
before `Create`, and only an initializing container is copied by `Create`. -/
structure Quiet (n n' : StoreNode) : Prop where
  history : n'.history = n.history
  bindMountCacheKeys : n'.bindMountCacheKeys = n.bindMountCacheKeys
  uncreated : Uncreated n'.info.state → Uncreated n.info.state
  creating : ∀ c info, n'.calls c = .creating info →
    n.calls c = .creating info ∨ n.info.state = .initializing ∧ info = n.info

theorem creating_of_copy {state : Call} (h : copy state = some info) : state = .creating info := by
  cases state with
  | creating info' =>
    cases h
    rfl
  | _ => exact nomatch h

theorem Turn.creating (h : Turn action n n') (hcall : n'.calls c = .creating info) :
    n.calls c = .creating info ∨ n.info.state = .initializing ∧ info = n.info :=
  (h.copy_eq (by rw [hcall]; rfl)).imp_left creating_of_copy

theorem quiet_step (hasks : Asks action = false) (hstep : StoreNode.step action n = some n') :
    Quiet n n' := by
  have heffect := effect_of_step hstep
  refine ⟨heffect.history hasks, heffect.bindMountCacheKeys hasks, ?_,
    fun _ _ => heffect.turn.creating⟩
  cases heffect.info with
  | still _ _ hsame =>
    rw [hsame.state]
    exact id
  | moved _ _ _ huncreated => exact huncreated
  | copied haction _ _ =>
    subst haction
    exact nomatch hasks

end StoreNode

end Diego.Executor
