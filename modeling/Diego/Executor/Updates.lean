import Diego.Executor.NodeSteps
import Diego.Machine

/-!
# Updates and the credential runner

`Update` sends on `regenerateCertsCh` while it holds `opLock`.  The channel has room for one
request, and only the credential runner of a process takes requests out: before `Run`, after
the exit of the process and with the no-op credential manager nobody does.  An `Update` that
finds the channel full then blocks for good, and with it every method that needs `opLock`.

A run never gets there if and only if an `Update` with routes finds room in the channel or a
credential runner at work, and no process exits while an `Update` is blocked, unless another
process has a credential runner.
-/

namespace Diego.Executor

namespace StoreNode

variable {n n' : StoreNode} {call : CallId} {execution : Nat} {e : Nat} {err : Option ExitError}

/-- An `Update` holds `opLock` and is blocked on the channel, and nobody receives from it. -/
structure Wedged (n : StoreNode) (c : CallId) : Prop where
  sending : ∃ req, n.calls c = .sending req
  holder : n.opLock = some c
  full : n.regenerateCertsCh = true
  unreceived : ∀ e, ¬ n.Receiving e

/-- An `Update` with routes finds room in the channel or a receiver, and a process that exits
leaves a receiver to an `Update` that is blocked. -/
def KeepsReceiver : NodeAction → StoreNode → Prop
  | .updateInfo call marshal _, n => ∀ req, n.calls call = .update req → UpdateSends req marshal →
      n.regenerateCertsCh = true → ∃ e, n.Receiving e
  | .exit execution _, n => ∀ c req, n.calls c = .sending req → n.regenerateCertsCh = true →
      ∃ e, e ≠ execution ∧ n.Receiving e
  | _, _ => True

/-! ## Receivers -/

theorem Receiving.background {readinessCh : Bool} (h : n.Receiving e) :
    (n.background readinessCh).Receiving e := by
  refine ⟨h.1, Nat.lt_succ_of_lt h.2.1, ?_⟩
  have hne : e ≠ n.runs := Nat.ne_of_lt h.2.1
  simpa [StoreNode.background, StoreNode.setExecution, hne] using h.2.2

/-- The receivers after the exit of a process are the others. -/
theorem receiving_exit (h : (n.setExecution execution
      { n.executions execution with exited := some err }).Receiving e) :
    e ≠ execution ∧ n.Receiving e := by
  have hne : e ≠ execution := by
    rintro rfl
    simpa [StoreNode.setExecution] using h.2.2
  refine ⟨hne, h.1, h.2.1, ?_⟩
  simpa [StoreNode.setExecution, hne] using h.2.2

/-! ## Steps that cannot block an Update -/

theorem not_wedged_exit (hkeeps : KeepsReceiver (.exit execution err) n)
    (hstep : n.exit execution err = some n') : ∀ c, ¬ n'.Wedged c := by
  obtain ⟨-, -, rfl⟩ := exit_spec hstep
  rintro c ⟨⟨req, hcall⟩, -, hfull, hnone⟩
  obtain ⟨e, hne, he⟩ := hkeeps c req hcall hfull
  refine hnone e ⟨he.1, he.2.1, ?_⟩
  simpa [StoreNode.setExecution, hne] using he.2.2

/-- No `Update` is blocked for good. -/
structure Unblocked (n : StoreNode) : Prop where
  locked : n.Locked
  unwedged : ∀ c, ¬ n.Wedged c

theorem unblocked_new {config : ContainerConfig} {container : Container} :
    (newStoreNode config container).Unblocked where
  locked := locked_new
  unwedged _ h := nomatch h.full

variable {action : NodeAction}

theorem Flow.of_sending {before : Call} {req : UpdateRequest}
    (h : Flow n call action before (.sending req)) :
    ∃ marshal setProperty, action = .updateInfo call marshal setProperty ∧ before = .update req ∧
      UpdateSends req marshal := by
  cases h with
  | updateSends hsends => exact ⟨_, _, rfl, rfl, hsends⟩

/-- The receivers stay, and the channel does not fill up. -/
theorem Unblocked.keep (h : n.Unblocked) (hkeeps : KeepsReceiver action n)
    (hturn : Turn action n n') (hfull : n'.regenerateCertsCh = n.regenerateCertsCh)
    (hreceiving : ∀ e, n.Receiving e → n'.Receiving e) : ∀ c, ¬ n'.Wedged c := by
  rintro c ⟨⟨req, hcall⟩, -, hchannel, hnone⟩
  rw [hfull] at hchannel
  -- the call was sending before, or this step is the one that lets it send
  rcases hturn.flow c with hsame | hflow
  · have hbefore : n.calls c = .sending req := hsame.symm.trans hcall
    refine h.unwedged c ⟨⟨req, hbefore⟩, h.locked c ?_, hchannel,
      fun e he => hnone e (hreceiving e he)⟩
    rw [hbefore]
    rfl
  · rw [hcall] at hflow
    obtain ⟨marshal, setProperty, rfl, hbefore, hsends⟩ := hflow.of_sending
    obtain ⟨e, he⟩ := hkeeps req hbefore hsends hchannel
    exact hnone e (hreceiving e he)

/-- A step that keeps a receiver blocks no `Update`. -/
theorem Unblocked.step (h : n.Unblocked) (hkeeps : KeepsReceiver action n)
    (hstep : StoreNode.step action n = some n') : n'.Unblocked := by
  have heffect := effect_of_step hstep
  refine ⟨h.locked.step hstep, ?_⟩
  cases huses : UsesChannel action with
  | false =>
    have hsame := heffect.receivers huses
    exact h.keep hkeeps heffect.turn hsame.regenerateCertsCh fun e => (hsame.receiving e).mpr
  | true =>
    cases action with
    | run call stepsRunner readinessCh =>
      obtain ⟨-, -, ⟨err, rfl⟩ | ⟨-, rfl⟩⟩ := run_spec hstep
      · exact h.keep hkeeps heffect.turn rfl fun _ => id
      · exact h.keep hkeeps heffect.turn rfl fun _ he => he.background
    | exit execution err => exact not_wedged_exit hkeeps hstep
    -- a send releases the lock, without which no call is wedged
    | send call setProperty =>
      obtain ⟨req, err, -, -, rfl⟩ := send_spec hstep
      exact fun c hwedged => nomatch hwedged.holder
    | receive execution =>
      obtain ⟨-, rfl⟩ := receive_spec hstep
      exact fun c hwedged => nomatch hwedged.full
    | _ => exact nomatch huses

/-! ## Steps that block an Update -/

/-- A step that keeps no receiver blocks an `Update` at once. -/
theorem Unblocked.keepsReceiver (h : n.Unblocked) (hstep : StoreNode.step action n = some n')
    (hsafe : ∀ c, ¬ n'.Wedged c) : KeepsReceiver action n := by
  cases action with
  | updateInfo call marshal setProperty =>
    intro req hcall hsends hfull
    by_contra hnone
    -- without a receiver the call is stuck while it has the lock
    obtain ⟨req', hcall', ⟨-, rfl⟩ | ⟨hnot, -⟩⟩ := updateInfo_spec hstep
    · refine hsafe call ⟨⟨req', Function.update_self _ _ _⟩, h.locked call ?_, hfull,
        fun e he => hnone ⟨e, he⟩⟩
      rw [hcall]
      rfl
    · rw [hcall] at hcall'
      obtain rfl := Call.update.inj hcall'
      exact hnot hsends
  | exit execution err =>
    intro c req hcall hfull
    by_contra hnone
    obtain ⟨-, -, rfl⟩ := exit_spec hstep
    refine hsafe c ⟨⟨req, hcall⟩, h.locked c ?_, hfull, fun e he => hnone ⟨e, receiving_exit he⟩⟩
    rw [hcall]
    rfl
  | nodeInitialize _ | expire _ | reap | create _ | createCopy _ | createFinish _ _ | run _ _ _
  | ready _ | watch _ | receiveReady _ | markRunning _ | receiveReadiness _ _ | receiveExit _
  | completeNext _ | update _ _ | send _ _ | receive _ | signal _ _ | lock _ | stop _
  | stopComplete _ | await _ | destroyCopy _ | destroyFinish _ _ | clear _ => trivial

/-- **No `Update` wedges the container** in any state of a run if and only if every step of
the run keeps a receiver. -/
theorem unwedged_iff_keepsReceiver (config : ContainerConfig) (container : Container)
    (actions : List NodeAction)
    (hrun : (Machine.run StoreNode.step (newStoreNode config container) actions).isSome) :
    (∀ n, Machine.Visits StoreNode.step (newStoreNode config container) actions n →
        ∀ c, ¬ n.Wedged c) ↔
      Machine.Meets StoreNode.step KeepsReceiver (newStoreNode config container) actions :=
  Machine.safe_iff_meets (fun _ => Unblocked.unwedged) (fun _ _ _ h => h.step)
    (fun _ _ _ h => h.keepsReceiver) unblocked_new hrun

/-! ## A blocked Update stays blocked -/

section Wedged

variable {c : CallId}

/-- Nobody but the blocked call itself moves it or the lock. -/
theorem Wedged.turn (h : n.Wedged c) (hlocked : n.Locked) (hturn : Turn action n n')
    (hsend : ∀ setProperty, action ≠ .send c setProperty) :
    n'.calls c = n.calls c ∧ n'.opLock = n.opLock := by
  cases hturn with
  | stay hcalls hlock => exact ⟨congrFun hcalls c, hlock⟩
  | @go call before after hcall hflow hpasses hcalls =>
    have hne : c ≠ call := by
      rintro rfl
      obtain ⟨req, hsending⟩ := h.sending
      obtain rfl := hcall.symm.trans hsending
      cases hflow with
      | updateSent => exact hsend _ rfl
    rw [hcalls, Function.update_of_ne hne]
    refine ⟨rfl, ?_⟩
    cases hpasses with
    | acquire hfree _ => exact nomatch h.holder.symm.trans hfree
    | keep hlock _ => exact hlock
    -- only the holder releases the lock, and the holder is the blocked call
    | release _ hbefore _ =>
      have hholder := hlocked call (by rw [hcall]; exact hbefore)
      exact absurd (Option.some.inj (h.holder.symm.trans hholder)) hne

/-- Nothing moves the blocked call, the lock, the channel or a receiver. -/
theorem Wedged.of_same (h : n.Wedged c) (hcall : n'.calls c = n.calls c ∧ n'.opLock = n.opLock)
    (hfull : n'.regenerateCertsCh = n.regenerateCertsCh)
    (hreceiving : ∀ e, n'.Receiving e → n.Receiving e) : n'.Wedged c := by
  refine ⟨?_, hcall.2.trans h.holder, hfull.trans h.full,
    fun e he => h.unreceived e (hreceiving e he)⟩
  rw [hcall.1]
  exact h.sending

/-- **A wedged container stays so**: no step releases `opLock`, starts a process or takes the
request out of the channel. -/
theorem Wedged.step (h : n.Wedged c) (hlocked : n.Locked)
    (hstep : StoreNode.step action n = some n') : n'.Wedged c := by
  have heffect := effect_of_step hstep
  cases huses : UsesChannel action with
  | false =>
    have hsame := heffect.receivers huses
    refine h.of_same (h.turn hlocked heffect.turn ?_) hsame.regenerateCertsCh
      fun e => (hsame.receiving e).mp
    rintro setProperty rfl
    exact nomatch huses
  | true =>
    cases action with
    -- Run needs the lock, so there will be no new receiver
    | run call stepsRunner readinessCh =>
      exact nomatch h.holder.symm.trans (run_spec hstep).2.1
    | exit execution err =>
      have hturn := h.turn hlocked heffect.turn nofun
      obtain ⟨-, -, rfl⟩ := exit_spec hstep
      exact h.of_same hturn rfl fun _ he => (receiving_exit he).2
    | send call setProperty =>
      obtain ⟨req, err, -, hroom, -⟩ := send_spec hstep
      exact nomatch h.full.symm.trans hroom
    | receive execution => exact absurd (receive_spec hstep).1 (h.unreceived execution)
    | _ => exact nomatch huses

/-- **A wedged container stays so for good**: whatever is called later, the blocked `Update` is the
only call that acts under `opLock`, and never goes on. -/
theorem wedged_for_good {config : ContainerConfig} {container : Container}
    (before after : List NodeAction)
    (hbefore : Machine.run StoreNode.step (newStoreNode config container) before = some n)
    (h : n.Wedged c) (hafter : Machine.run StoreNode.step n after = some n') :
    n'.Wedged c ∧ ∀ c', (n'.calls c').holdsOpLock = true → c' = c := by
  have hlocked : n.Locked :=
    Machine.run_invariant locked_new (fun _ _ _ _ hlocked => hlocked.step) hbefore
  let Inv : StoreNode → Prop := fun n => n.Wedged c ∧ n.Locked
  have hstart : Inv n := ⟨h, hlocked⟩
  obtain ⟨hwedged, hlocked'⟩ : Inv n' := Machine.run_invariant hstart
    (fun _ _ _ _ h hstep => ⟨h.1.step h.2 hstep, h.2.step hstep⟩) hafter
  refine ⟨hwedged, fun c' hholds => ?_⟩
  exact Option.some.inj ((hlocked' c' hholds).symm.trans hwedged.holder)

end Wedged

/-- A container without a process. -/
def idleNode : StoreNode :=
  newStoreNode ⟨.issuing, 60⟩
    (newReservedContainerFromAllocationRequest ⟨"instance", true, ⟨512, 256, 0⟩, ∅⟩ 0)

def routesUpdate : UpdateRequest :=
  ⟨some ["app.internal"], none⟩

/-- The steps of the first `Update`, which fills the channel. -/
def updateSteps : List NodeAction :=
  [.update 0 routesUpdate, .updateInfo 0 none none, .send 0 none]

theorem unwedged_after_update :
    (Machine.run StoreNode.step idleNode updateSteps).isSome ∧
      ∀ n, Machine.Visits StoreNode.step idleNode updateSteps n → ∀ c, ¬ n.Wedged c := by
  refine ⟨rfl, (unwedged_iff_keepsReceiver _ _ updateSteps rfl).mpr ?_⟩
  refine ⟨trivial, ?_⟩
  rintro _ ⟨⟩
  refine ⟨nofun, ?_⟩
  rintro _ ⟨⟩
  exact ⟨trivial, fun _ _ => trivial⟩

/-- Two updates of a container that is not run yet. -/
theorem wedged_by_second_update :
    ∃ n, Machine.run StoreNode.step idleNode
        (updateSteps ++ [.update 1 routesUpdate, .updateInfo 1 none none]) = some n ∧
      n.Wedged 1 :=
  ⟨_, rfl, ⟨_, rfl⟩, rfl, rfl, fun e he => absurd he.2.1 (Nat.not_lt_zero e)⟩

theorem wedged_after_reap :
    ∃ n n', Machine.run StoreNode.step idleNode
        (updateSteps ++ [.update 1 routesUpdate, .updateInfo 1 none none]) = some n ∧
      Machine.run StoreNode.step n [.reap] = some n' ∧ n'.Wedged 1 := by
  refine ⟨_, _, rfl, rfl, (wedged_for_good (updateSteps ++ [.update 1 routesUpdate,
    .updateInfo 1 none none]) [.reap] rfl ?_ rfl).1⟩
  exact ⟨⟨_, rfl⟩, rfl, rfl, fun e he => absurd he.2.1 (Nat.not_lt_zero e)⟩

end StoreNode

end Diego.Executor
