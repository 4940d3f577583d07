import Diego.Executor.ContainerStore
import Mathlib.Algebra.Order.BigOperators.Group.List
import Mathlib.Algebra.Order.Group.Nat
import Mathlib.Algebra.GroupWithZero.Nat

/-!
# Volume mounts

`Create` mounts the volumes of a container up to the first that fails, and not at all when a
download fails before.  `Destroy` unmounts all of them, in a deferred call that also runs when
garden fails to destroy the container and `Destroy` is tried again later.

So for a container that never mounted its volumes, or whose `Destroy` is retried, there are
more calls of `Unmount` than of `Mount`.  As long as a `Destroy` reaches its end only for a
container without volumes, or for one that mounted all of them and has not unmounted any,
there never are.
-/

namespace Diego.Executor

namespace StoreNode

variable {n n' : StoreNode} {call : CallId} {config : ContainerConfig} {container : Container}

/-! ## One container -/

/-- `Destroy` finds no volumes, or all of them mounted and none unmounted. -/
def UnmountsOwn : NodeAction → StoreNode → Prop
  | .destroyFinish call _, n =>
    match n.calls call with
    | .destroying info => info.runInfo.volumeMounts = [] ∨
        (n.history.unmounted = [] ∧ n.history.mounted = info.runInfo.volumeMounts)
    | _ => True
  | _, _ => True

instance (action : NodeAction) (n : StoreNode) : Decidable (UnmountsOwn action n) := by
  unfold UnmountsOwn
  split
  · split <;> infer_instance
  · infer_instance

/-- No volume is unmounted more often than it was mounted. -/
def MountsCover (n : StoreNode) : Prop :=
  ∀ volume, n.history.unmounted.count volume ≤ n.history.mounted.count volume

theorem mountsCover_new : (newStoreNode config container).MountsCover :=
  fun _ => Nat.le_refl 0

theorem MountsCover.createFinish (h : n.MountsCover) {env : CreateEnvironment}
    (hstep : n.createFinish call env = some n') : n'.MountsCover := by
  obtain ⟨info, -, rfl⟩ := createFinish_spec hstep
  obtain ⟨info', keys, gardenContainer, history, heq, -, hhistory⟩ :=
    n.createContainer_spec
  intro volume
  have hunmounted : ((n.createContainer info env).1.releaseOpLock call
      (.returned (n.createContainer info env).2)).history = history := by
    rw [heq]
    rfl
  rw [hunmounted, hhistory.unmounted]
  -- a Create that fails early mounts nothing
  rcases hhistory.mounted with hmounted | hmounted
  · rw [hmounted]
    exact h volume
  · rw [hmounted, List.count_append]
    exact Nat.le_add_right_of_le (h volume)

theorem MountsCover.destroyFinish (h : n.MountsCover) {env : DestroyEnvironment}
    (howns : UnmountsOwn (.destroyFinish call env) n)
    (hstep : n.destroyFinish call env = some n') : n'.MountsCover := by
  obtain ⟨info, hcall, rfl⟩ := destroyFinish_spec hstep
  obtain ⟨history, heq, hmounted, hunmounted, -⟩ := n.destroyInGarden_spec env
  intro volume
  have hhistory : ((n.destroyInGarden info env).1.releaseOpLock call
      (.clearing .destroy (n.destroyInGarden info env).2)).history = history := by
    rw [heq]
    rfl
  rw [hhistory, hmounted, hunmounted, List.count_append]
  simp only [UnmountsOwn, hcall] at howns
  -- no volumes, or the first Destroy of a container that mounted all of them
  rcases howns with hnone | ⟨hfirst, hall⟩
  · rw [hnone]
    exact h volume
  · rw [hfirst, hall, List.count_nil, Nat.zero_add]

theorem MountsCover.step (h : n.MountsCover) {action : NodeAction} (howns : UnmountsOwn action n)
    (hstep : StoreNode.step action n = some n') : n'.MountsCover := by
  cases hasks : Asks action with
  | false =>
    unfold MountsCover
    rw [(quiet_step hasks hstep).history]
    exact h
  | true =>
    unfold Asks at hasks
    split at hasks
    · exact h.createFinish hstep
    · exact h.destroyFinish howns hstep
    · exact nomatch hasks

end StoreNode

namespace ContainerStore

variable {s s' : ContainerStore}

/-! ## The containers of a store -/

/-- The containers that were ever reserved under a guid. -/
def incarnations (s : ContainerStore) (guid : String) : List NodeRef :=
  (List.range s.next).filter fun node => (s.heap node).info.guid = guid

/-- The calls of `Mount` for a volume and a guid that succeeded. -/
def mountCount (s : ContainerStore) (volume : VolumeMount) (guid : String) : Nat :=
  ((s.incarnations guid).map fun node => (s.heap node).history.mounted.count volume).sum

/-- The calls of `Unmount` for a volume and a guid. -/
def unmountCount (s : ContainerStore) (volume : VolumeMount) (guid : String) : Nat :=
  ((s.incarnations guid).map fun node => (s.heap node).history.unmounted.count volume).sum

/-- Whenever a `Destroy` of a node reaches its end, the node unmounts its own mounts. -/
def UnmountsOwn : StoreAction → ContainerStore → Prop
  | .onNode node action, s => StoreNode.UnmountsOwn action (s.heap node)
  | _, _ => True

instance (action : StoreAction) (s : ContainerStore) : Decidable (UnmountsOwn action s) := by
  unfold UnmountsOwn
  split <;> infer_instance

def MountsCover (s : ContainerStore) : Prop :=
  ∀ node, (s.heap node).MountsCover

theorem MountsCover.setNode (h : s.MountsCover) {node : NodeRef} {n : StoreNode}
    (hn : n.MountsCover) : (s.setNode node n).MountsCover :=
  (Function.forall_update_iff s.heap fun _ n => n.MountsCover).mpr ⟨hn, fun node' _ => h node'⟩

theorem MountsCover.step (h : s.MountsCover) {action : StoreAction} (howns : UnmountsOwn action s)
    (hstep : ContainerStore.step action s = some s') : s'.MountsCover := by
  cases change_of_step hstep with
  | same | began _ | ended | removed _ _ _ => exact h
  | reserved => exact h.setNode StoreNode.mountsCover_new
  | @signalled call destroy _ _ hnode =>
    -- the call only raises the flag of the node
    have howns : StoreNode.UnmountsOwn (.signal call .destroy) (s.heap destroy.node) := trivial
    exact h.setNode ((h _).step howns hnode)
  | moved _ hnode => exact h.setNode ((h _).step howns hnode)

/-- **Unmounts never exceed mounts**: for every volume and every guid, in every state that a
run reaches in which each `Destroy` unmounts its own mounts. -/
theorem unmounts_le_mounts (config : ContainerConfig) (capacity : ExecutorResources)
    (hreach : Machine.Reaches ContainerStore.step UnmountsOwn (newContainerStore config capacity) s)
    (volume : VolumeMount) (guid : String) :
    s.unmountCount volume guid ≤ s.mountCount volume guid := by
  have h : s.MountsCover := by
    refine hreach.invariant ?_ fun _ _ _ hcover => hcover.step
    exact fun node => StoreNode.mountsCover_new
  exact List.sum_le_sum fun node _ => h node volume

/-- A container with one volume, which is reserved and initialized. -/
def volumeSteps : List StoreAction :=
  [.reserve ⟨"instance", true, ⟨512, 256, 0⟩, ∅⟩ 0,
    .onNode 0 (.nodeInitialize
      ⟨{ (default : RunInfo) with volumeMounts := [⟨"nfs", "volume"⟩] }, ∅⟩)]

/-- A `Destroy` of this container, which is not completed, up to the answer of garden. -/
def unmountSteps (garden : StoreNode.GardenDestroy) : List StoreAction :=
  [.destroy 1 "instance", .destroyNode 1, .onNode 0 (.lock 1), .onNode 0 (.stop 1),
    .onNode 0 (.stopComplete 1), .onNode 0 (.await 1), .onNode 0 (.destroyCopy 1),
    .onNode 0 (.destroyFinish 1 ⟨garden, fun _ => .closed⟩)]

/-- The container mounts its volume, and is destroyed once. -/
def mountedSteps : List StoreAction :=
  volumeSteps ++ [.onNode 0 (.create 0), .onNode 0 (.createCopy 0),
    .onNode 0 (.createFinish 0 ⟨[], fun _ => none, none, none, none⟩)] ++ unmountSteps .destroyed

theorem unmounts_le_mounts_after_create :
    ∃ s, Machine.run ContainerStore.step (newContainerStore ⟨.noop, 60⟩ ⟨1024, 1024, 2⟩)
        mountedSteps = some s ∧
      s.unmountCount ⟨"nfs", "volume"⟩ "instance" ≤ s.mountCount ⟨"nfs", "volume"⟩ "instance" := by
  have hmeets : Machine.Meets ContainerStore.step UnmountsOwn
      (newContainerStore ⟨.noop, 60⟩ ⟨1024, 1024, 2⟩) mountedSteps := by decide
  obtain ⟨s, hrun⟩ : ∃ s, Machine.run ContainerStore.step
      (newContainerStore ⟨.noop, 60⟩ ⟨1024, 1024, 2⟩) mountedSteps = some s := ⟨_, rfl⟩
  exact ⟨s, hrun, unmounts_le_mounts _ _ (Machine.reaches_of_run hmeets hrun) _ _⟩

/-- The container is destroyed before `Create` mounts its volume. -/
theorem unmounted_without_mount :
    ∃ s, Machine.run ContainerStore.step (newContainerStore ⟨.noop, 60⟩ ⟨1024, 1024, 2⟩)
        (volumeSteps ++ unmountSteps .containerNotFound) = some s ∧
      s.unmountCount ⟨"nfs", "volume"⟩ "instance" = 1 ∧
      s.mountCount ⟨"nfs", "volume"⟩ "instance" = 0 :=
  ⟨_, rfl, rfl, rfl⟩

end ContainerStore

end Diego.Executor
