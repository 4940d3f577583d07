import Diego.Executor.ContainerStore

/-!
# When the store removes a container

The store removes a container after `Destroy` of its node has returned without an error.
Two orders of calls break what this is meant to ensure, namely that the garden container is
gone by then.  A second `Destroy` of a node returns nil at once while the first is still at
work, and its caller removes the guid.  And the removal is by guid: a call that has got a node
removes whatever node the guid has at the end, even one that was reserved meanwhile.

As long as no call of `Destroy` finds the flag of its node set, and no guid is reserved while
a call that destroys it is under way, a node is removed only after garden has destroyed its
container.
-/

namespace Diego.Executor

namespace StoreNode

variable {n n' : StoreNode} {call : CallId} {container : Container} {action : NodeAction}

/-! ## One node -/

/-- `Destroy` has returned, or is about to return, without an error. -/
def succeeded : Call → Bool
  | .clearing .destroy none | .destroyed none => true
  | _ => false

/-- A `Destroy` without an error means that the garden container is gone. -/
def Finished (n : StoreNode) : Prop :=
  ∀ c, succeeded (n.calls c) = true → n.history.gardenDestroyed = true

theorem finished_new {config : ContainerConfig} : (newStoreNode config container).Finished :=
  nofun

/-- A step of a call that has not succeeded, or only repeats that it has. -/
theorem Finished.updateCall (h : n.Finished) {state : Call}
    (hstate : succeeded state = true → n.history.gardenDestroyed = true) :
    ∀ c, succeeded (Function.update n.calls call state c) = true →
      n.history.gardenDestroyed = true :=
  (Function.forall_update_iff n.calls fun _ (state : Call) => succeeded state = true →
    n.history.gardenDestroyed = true).mpr ⟨hstate, fun c _ => h c⟩

theorem Finished.destroyFinish (h : n.Finished) {info : Container} {env : DestroyEnvironment} :
    ((n.destroyInGarden info env).1.releaseOpLock call
      (.clearing .destroy (n.destroyInGarden info env).2)).Finished := by
  obtain ⟨history, heq, -, -, hmono, hnone⟩ := n.destroyInGarden_spec env
  rw [heq]
  refine Finished.updateCall (n := { n with history := history }) (fun c hc => hmono (h c hc)) ?_
  intro hsucceeded
  cases herr : (n.destroyInGarden info env).2 with
  | none => exact hnone herr
  | some err =>
    rw [herr] at hsucceeded
    exact nomatch hsucceeded

/-- A call goes on to success at the end of `Destroy`, or because it finds the flag set. -/
theorem Flow.of_succeeded {before after : Call} (h : Flow n call action before after)
    (hafter : succeeded after = true) :
    succeeded before = true ∨ Asks action = true ∨
      action.startsDestroy = true ∧ n.destroying = true := by
  cases h with
  | @destroyCleared err =>
    cases err with
    | none => exact Or.inl rfl
    | some err => exact nomatch hafter
  | destroyFinished => exact Or.inr (Or.inl rfl)
  -- a call that finds the flag set returns nil and has destroyed nothing
  | destroyRefused hflag => exact Or.inr (Or.inr ⟨rfl, hflag⟩)
  | _ => exact nomatch hafter

/-- Every step but a `Destroy` that finds the flag set. -/
theorem Finished.step (h : n.Finished)
    (haction : action.startsDestroy = true → n.destroying = false)
    (hstep : StoreNode.step action n = some n') : n'.Finished := by
  cases hasks : Asks action with
  | false =>
    have heffect := effect_of_step hstep
    intro c hc
    rw [heffect.history hasks]
    rcases heffect.turn.flow c with hsame | hflow
    · exact h c (hsame ▸ hc)
    · rcases hflow.of_succeeded hc with hbefore | htrue | ⟨hstarts, hflag⟩
      · exact h c hbefore
      · exact nomatch hasks.symm.trans htrue
      · exact nomatch (haction hstarts).symm.trans hflag
  | true =>
    cases action with
    | createFinish call env =>
      obtain ⟨info, -, rfl⟩ := createFinish_spec hstep
      obtain ⟨info', keys, gardenContainer, history, heq, -, hhistory⟩ :=
        n.createContainer_spec
      rw [heq]
      refine Finished.updateCall (n := { n with history := history }) ?_ nofun
      exact fun c hc => hhistory.gardenDestroyed.trans (h c hc)
    | destroyFinish call env =>
      obtain ⟨info, -, rfl⟩ := destroyFinish_spec hstep
      exact h.destroyFinish
    | _ => exact nomatch hasks

end StoreNode

namespace ContainerStore

variable {s s' : ContainerStore} {node : NodeRef} {action : StoreAction}

/-! ## The store -/

/-- A call of `Destroy` does not find the flag of its node set, and no guid is reserved that
a call of `Destroy` is about to remove. -/
def Exclusive : StoreAction → ContainerStore → Prop
  | .destroyNode call, s => ∀ destroy, s.destroys call = some destroy →
      (s.heap destroy.node).destroying = false
  | .reserve req _, s => ∀ call destroy, s.destroys call = some destroy → destroy.guid ≠ req.guid
  | _, _ => True

/-- A call of `Destroy` will remove the node that it destroys, or none. -/
structure Destroys (s : ContainerStore) : Prop where
  named : s.Named
  finished : ∀ node, (s.heap node).Finished
  target : ∀ call destroy, s.destroys call = some destroy →
    ∀ node, s.nodes.lookup destroy.guid = some node → node = destroy.node

theorem destroys_new {config : ContainerConfig} {capacity : ExecutorResources} :
    (newContainerStore config capacity).Destroys where
  named := named_new
  finished _ := StoreNode.finished_new
  target _ _ hdestroy := nomatch hdestroy

theorem Destroys.setNode (h : s.Destroys) {n : StoreNode} {action : NodeAction}
    (haction : action.startsDestroy = true → (s.heap node).destroying = false)
    (hstep : (s.heap node).step action = some n) : (s.setNode node n).Destroys := by
  refine ⟨h.named.setNode fun guid resource hidentified => hidentified.step hstep, ?_, h.target⟩
  intro node'
  by_cases hnode : node' = node
  · subst hnode
    rw [heap_setNode_self]
    exact (h.finished node').step haction hstep
  · rw [heap_setNode_of_ne hnode]
    exact h.finished node'

theorem Destroys.reserved (h : s.Destroys) {req : AllocationRequest} {now : Int}
    (hexclusive : Exclusive (.reserve req now) s) : (s.reserved req now).Destroys := by
  refine ⟨h.named.reserved, ?_, ?_⟩
  · intro node
    by_cases hnode : node = s.next
    · subst hnode
      rw [heap_reserved_self]
      exact StoreNode.finished_new
    · rw [ContainerStore.reserved]
      simp only [Function.update_of_ne hnode]
      exact h.finished node
  · intro call destroy hdestroy node hlookup
    -- no call is about to remove the guid, so the new node is nobody's target
    rw [ContainerStore.reserved, GoMap.lookup_insert_ite,
      if_neg (hexclusive call destroy hdestroy)] at hlookup
    exact h.target call destroy hdestroy node hlookup

theorem Destroys.setDestroy (h : s.Destroys) {call : CallId} {destroy : Option DestroyCall}
    (hdestroy : ∀ d, destroy = some d → s.nodes.lookup d.guid = some d.node) :
    (s.setDestroy call destroy).Destroys := by
  refine ⟨h.named, h.finished, ?_⟩
  refine (Function.forall_update_iff s.destroys fun _ (destroy : Option DestroyCall) =>
    ∀ d, destroy = some d → ∀ node, s.nodes.lookup d.guid = some node → node = d.node).mpr
    ⟨?_, fun call' _ => h.target call'⟩
  intro d hd node hlookup
  exact Option.some.inj (hlookup.symm.trans (hdestroy d hd))

theorem Destroys.removeNode (h : s.Destroys) : (s.removeNode node).Destroys := by
  refine ⟨h.named.removeNode node, h.finished, ?_⟩
  intro call destroy hdestroy node' hlookup'
  exact h.target call destroy hdestroy node' (GoMap.lookup_erase_eq_some.mp hlookup').2

theorem Destroys.step (h : s.Destroys) (hexclusive : Exclusive action s)
    (hstep : ContainerStore.step action s = some s') : s'.Destroys := by
  have hended (call : CallId) : (s.setDestroy call none).Destroys := h.setDestroy nofun
  cases change_of_step hstep with
  | same => exact h
  | reserved => exact h.reserved hexclusive
  | began hlookup =>
    refine h.setDestroy ?_
    rintro d hd
    cases hd
    exact hlookup
  | signalled hdestroy hnode => exact h.setNode (fun _ => hexclusive _ hdestroy) hnode
  | ended => exact hended _
  | removed => exact (hended _).removeNode
  | moved haction hnode => exact h.setNode (fun htrue => by simp [haction] at htrue) hnode

/-- The only step that removes a node is the end of a `Destroy` without an error. -/
theorem Destroys.removed (h : s.Destroys) {guid : String}
    (hstep : ContainerStore.step action s = some s') (hbefore : s.nodes.lookup guid = some node)
    (hafter : s'.nodes.lookup guid ≠ some node) :
    (s'.heap node).history.gardenDestroyed = true := by
  cases change_of_step hstep with
  | same | began _ | signalled _ _ | ended | moved _ _ => exact absurd hbefore hafter
  | reserved hnew =>
    refine absurd (Eq.trans ?_ hbefore) hafter
    refine AList.lookup_insert_ne ?_
    rintro rfl
    rw [hnew] at hbefore
    cases hbefore
  | @removed call destroy _ hdestroy hcall hlookup =>
    rw [Named.removeNode_eq (s := s.setDestroy call none) h.named hlookup] at hafter ⊢
    -- only the guid of the call is touched, whose node is the one it destroyed
    obtain rfl : guid = destroy.guid := by
      by_contra hne
      exact hafter ((AList.lookup_erase_ne hne).trans hbefore)
    obtain rfl := h.target call destroy hdestroy node hbefore
    refine h.finished destroy.node call ?_
    rw [hcall]
    rfl

/-- **A node is removed only after its garden container is gone**, in every run whose steps
are exclusive. -/
theorem removed_after_garden_destroy (config : ContainerConfig) (capacity : ExecutorResources)
    {action : StoreAction} {guid : String} {node : NodeRef}
    (hreach : Machine.Reaches ContainerStore.step Exclusive (newContainerStore config capacity) s)
    (hstep : ContainerStore.step action s = some s')
    (hbefore : s.nodes.lookup guid = some node) (hafter : s'.nodes.lookup guid ≠ some node) :
    (s'.heap node).history.gardenDestroyed = true := by
  have h : s.Destroys :=
    hreach.invariant destroys_new fun _ _ _ hdestroys => hdestroys.step
  exact h.removed hstep hbefore hafter

/-- The steps of a `Destroy` of the node, from taking the lock to the call of garden. -/
def destroySteps (call : CallId) (node : NodeRef) : List StoreAction :=
  [.onNode node (.lock call), .onNode node (.stop call), .onNode node (.stopComplete call),
    .onNode node (.await call), .onNode node (.destroyCopy call)]

/-- The steps after garden has destroyed the container. -/
def destroyedSteps (call : CallId) (node : NodeRef) : List StoreAction :=
  [.onNode node (.destroyFinish call ⟨.destroyed, fun _ => .closed⟩), .onNode node (.clear call)]

theorem removed_after_garden_destroy_alone :
    ∃ s s', Machine.Reaches ContainerStore.step Exclusive smallStore s ∧
      ContainerStore.step (.destroyReturn 0) s = some s' ∧
      s.nodes.lookup "instance" = some 0 ∧ s'.nodes.lookup "instance" = none ∧
      (s'.heap 0).history.gardenDestroyed = true := by
  have hrun : ∃ s, Machine.run ContainerStore.step smallStore
      (.reserve (smallRequest "instance") 0 :: .destroy 0 "instance" :: .destroyNode 0 ::
        (destroySteps 0 0 ++ destroyedSteps 0 0)) = some s ∧
      ∃ s', ContainerStore.step (.destroyReturn 0) s = some s' ∧
        s.nodes.lookup "instance" = some 0 ∧ s'.nodes.lookup "instance" = none :=
    ⟨_, rfl, _, rfl, by decide, by decide⟩
  obtain ⟨s, hs, s', hstep, hbefore, hafter⟩ := hrun
  have hreach : Machine.Reaches ContainerStore.step Exclusive smallStore s := by
    refine Machine.reaches_of_run ?_ hs
    refine ⟨fun call destroy hdestroy => (nomatch hdestroy), ?_⟩
    rintro _ ⟨⟩
    refine ⟨trivial, ?_⟩
    rintro _ ⟨⟩
    refine ⟨fun destroy hdestroy => ?_, ?_⟩
    · cases hdestroy
      rfl
    · simp [destroySteps, destroyedSteps, Machine.Meets, Exclusive]
  exact ⟨s, s', hreach, hstep, hbefore, hafter,
    removed_after_garden_destroy _ _ hreach hstep hbefore (by rw [hafter]; simp)⟩

/-- A second `Destroy` removes the node while the first one waits for garden; the guid is
reserved again, and the first `Destroy` removes the new node, which nobody destroyed. -/
theorem removed_during_garden_destroy :
    ∃ s s', Machine.run ContainerStore.step smallStore
        (.reserve (smallRequest "instance") 0 :: .destroy 0 "instance" :: .destroyNode 0 ::
          (destroySteps 0 0 ++ [.destroy 1 "instance", .destroyNode 1, .destroyReturn 1])) =
        some s ∧
      s.nodes.lookup "instance" = none ∧ (s.heap 0).history.gardenDestroyed = false ∧
      s.remainingResources = smallStore.remainingResources ∧
      Machine.run ContainerStore.step s (.reserve (smallRequest "instance") 0 ::
        (destroyedSteps 0 0 ++ [.destroyReturn 0])) = some s' ∧
      s'.nodes.lookup "instance" = none ∧ (s'.heap 1).history.gardenDestroyed = false ∧
      (s'.heap 1).info.state = .reserved :=
  ⟨_, _, rfl, by decide, rfl, by decide, rfl, by decide, rfl, rfl⟩

end ContainerStore

end Diego.Executor
