import Diego.Executor.NodeSteps
import Diego.Machine
import Mathlib.Algebra.BigOperators.Group.List.Basic
import Mathlib.Algebra.Ring.Int.Defs

/-!
# The container store

`executor/depot/containerstore/containerstore.go` and `nodemap.go`.  The store maps the guid
of a container to its node and keeps the resources that are left on the cell.  Nodes are
shared by pointer: a call that has got a node keeps working on it when the store no longer
has it.  A pointer is a `NodeRef`, and the nodes are numbered in the order of their creation.

`Destroy` of the store is three steps: it gets the node, calls `Destroy` of the node, and
removes the guid when that returns without an error.  The first and the last are atomic under
the lock of the map; whatever happens in between on this node or on others are steps of
`StoreNode`.

The accounting of the store holds in every interleaving: what is left and what the stored
containers have adds up to the capacity.
-/

namespace Diego.Executor

open Option

abbrev NodeRef := Nat

/-- A call of `Destroy` that has got its node. -/
structure DestroyCall where
  guid : String
  node : NodeRef

structure ContainerStore where
  config : ContainerConfig
  nodes : GoMap String NodeRef
  remainingResources : ExecutorResources
  heap : NodeRef → StoreNode
  next : NodeRef
  destroys : CallId → Option DestroyCall

/-- The container that no request made. -/
def noContainer : Container :=
  newReservedContainerFromAllocationRequest ⟨"", false, ⟨0, 0, 0⟩, ∅⟩ 0

def newContainerStore (config : ContainerConfig) (totalCapacity : ExecutorResources) :
    ContainerStore where
  config := config
  nodes := ∅
  remainingResources := totalCapacity
  heap _ := newStoreNode config noContainer
  next := 0
  destroys _ := none

namespace ContainerStore

variable (s : ContainerStore)

/-! ## The node map -/

/-- `nodeMap.Add`. -/
def add (node : StoreNode) : ContainerStore × Option Error :=
  let info := node.info
  match s.nodes.lookup info.guid with
  | some _ => (s, some .containerGuidNotAvailable)
  | none =>
    let subtracted := s.remainingResources.subtract info.resource
    let s := { s with remainingResources := subtracted.1 }
    if !subtracted.2 then (s, some .insufficientResourcesAvailable)
    else
      ({ s with
        nodes := s.nodes.insert info.guid s.next
        heap := Function.update s.heap s.next node
        next := s.next + 1 }, none)

/-- `nodeMap.remove`. -/
def removeNode (node : NodeRef) : ContainerStore :=
  let info := (s.heap node).info
  { s with
    remainingResources := s.remainingResources.add info.resource
    nodes := s.nodes.erase info.guid }

/-- `nodeMap.Remove`. -/
def remove (guid : String) : ContainerStore :=
  match s.nodes.lookup guid with
  | none => s
  | some node => s.removeNode node

/-- `nodeMap.List`, with the containers of the nodes. -/
def list : List Container :=
  s.nodes.values.map fun node => (s.heap node).info

/-! ## The methods of the store -/

def reserve (req : AllocationRequest) (now : Int) : ContainerStore × Except Error Container :=
  let container := newReservedContainerFromAllocationRequest req now
  match s.add (newStoreNode s.config container) with
  | (s, some err) => (s, .error err)
  | (s, none) => (s, .ok container)

def setDestroy (call : CallId) (destroy : Option DestroyCall) : ContainerStore :=
  { s with destroys := Function.update s.destroys call destroy }

/-- `Destroy` gets the node. -/
def destroy (call : CallId) (guid : String) : Option ContainerStore :=
  match s.destroys call with
  | some _ => none
  | none =>
    match s.nodes.lookup guid with
    | none => some s
    | some node => some (s.setDestroy call (some ⟨guid, node⟩))

def setNode (node : NodeRef) (state : StoreNode) : ContainerStore :=
  { s with heap := Function.update s.heap node state }

def destroyNode (call : CallId) : Option ContainerStore :=
  match s.destroys call with
  | none => none
  | some destroy =>
    ((s.heap destroy.node).signal call .destroy).map (s.setNode destroy.node)

/-- `Destroy` of the node has returned. -/
def destroyReturn (call : CallId) : Option ContainerStore :=
  match s.destroys call with
  | none => none
  | some destroy =>
    match (s.heap destroy.node).calls call with
    | .destroyed (some _) => some (s.setDestroy call none)
    -- by its guid: this may be another node than the one that was destroyed
    | .destroyed none => some ((s.setDestroy call none).remove destroy.guid)
    | _ => none

end ContainerStore

/-- The start of `Destroy` of a node, which only `Destroy` of the store calls. -/
def NodeAction.startsDestroy : NodeAction → Bool
  | .signal _ .destroy => true
  | _ => false

inductive StoreAction
  | reserve (req : AllocationRequest) (now : Int)
  | destroy (call : CallId) (guid : String)
  | destroyNode (call : CallId)
  | destroyReturn (call : CallId)
  /-- A step of a node: of a call that has got it, of a process or of the reaper. -/
  | onNode (node : NodeRef) (action : NodeAction)

def ContainerStore.step : StoreAction → ContainerStore → Option ContainerStore
  | .reserve req now, s => some (s.reserve req now).1
  | .destroy call guid, s => s.destroy call guid
  | .destroyNode call, s => s.destroyNode call
  | .destroyReturn call, s => s.destroyReturn call
  | .onNode node action, s =>
    if node < s.next ∧ action.startsDestroy = false then
      ((s.heap node).step action).map (s.setNode node)
    else none

namespace ContainerStore

variable {s s' : ContainerStore}

variable {node : NodeRef} {n : StoreNode} {call : CallId} {guid : String} {req : AllocationRequest}
  {now : Int} {config : ContainerConfig} {capacity : ExecutorResources} {node' : NodeRef}
  {res : Resource} {action : StoreAction}

theorem heap_setNode_self : (s.setNode node n).heap node = n :=
  Function.update_self _ _ _

theorem heap_setNode_of_ne (h : node' ≠ node) : (s.setNode node n).heap node' = s.heap node' :=
  Function.update_of_ne h _ _

/-! ## What the steps of the store do -/

def reserved (s : ContainerStore) (req : AllocationRequest) (now : Int) : ContainerStore :=
  { s with
    remainingResources := (s.remainingResources.subtract req.resource).1
    nodes := s.nodes.insert req.guid s.next
    heap := Function.update s.heap s.next
      (newStoreNode s.config (newReservedContainerFromAllocationRequest req now))
    next := s.next + 1 }

theorem subtract_of_not {r : ExecutorResources} (h : (r.subtract res).2 = false) :
    (r.subtract res).1 = r := by
  unfold ExecutorResources.subtract at h ⊢
  split at h
  · rename_i hcannot
    rw [if_pos hcannot]
  · simp at h

/-- A reservation fails and changes nothing, or it adds a node under a new guid. -/
theorem reserve_spec :
    (∃ err, s.reserve req now = (s, .error err)) ∨
      (s.nodes.lookup req.guid = none ∧
        (s.remainingResources.subtract req.resource).2 = true ∧
        s.reserve req now = (s.reserved req now,
          .ok (newReservedContainerFromAllocationRequest req now))) := by
  have hguid : (newStoreNode s.config
      (newReservedContainerFromAllocationRequest req now)).info.guid = req.guid := rfl
  have hresource : (newStoreNode s.config
      (newReservedContainerFromAllocationRequest req now)).info.resource = req.resource := rfl
  unfold reserve add
  dsimp only
  rw [hguid, hresource]
  -- add looks for the guid first, and only then for the resources
  cases hlookup : s.nodes.lookup req.guid with
  | some node => exact Or.inl ⟨_, rfl⟩
  | none =>
    cases hfits : (s.remainingResources.subtract req.resource).2 with
    | false =>
      rw [subtract_of_not hfits]
      exact Or.inl ⟨_, rfl⟩
    | true => exact Or.inr ⟨rfl, rfl, rfl⟩

/-- What a step can do to the store. -/
inductive Change (s : ContainerStore) : StoreAction → ContainerStore → Prop
  | same {action : StoreAction} : Change s action s
  | reserved {req : AllocationRequest} {now : Int} (hnew : s.nodes.lookup req.guid = none)
    (hfits : (s.remainingResources.subtract req.resource).2 = true) :
    Change s (.reserve req now) (s.reserved req now)
  | began {call : CallId} {guid : String} {node : NodeRef}
    (hlookup : s.nodes.lookup guid = some node) :
    Change s (.destroy call guid) (s.setDestroy call (some ⟨guid, node⟩))
  | signalled {call : CallId} {destroy : DestroyCall} {n : StoreNode}
    (hdestroy : s.destroys call = some destroy)
    (hstep : (s.heap destroy.node).step (.signal call .destroy) = some n) :
    Change s (.destroyNode call) (s.setNode destroy.node n)
  | ended {call : CallId} : Change s (.destroyReturn call) (s.setDestroy call none)
  | removed {call : CallId} {destroy : DestroyCall} {node : NodeRef}
    (hdestroy : s.destroys call = some destroy)
    (hcall : (s.heap destroy.node).calls call = .destroyed none)
    (hlookup : s.nodes.lookup destroy.guid = some node) :
    Change s (.destroyReturn call) ((s.setDestroy call none).removeNode node)
  | moved {node : NodeRef} {n : StoreNode} {action : NodeAction}
    (haction : action.startsDestroy = false)
    (hstep : (s.heap node).step action = some n) :
    Change s (.onNode node action) (s.setNode node n)

theorem change_of_step (h : ContainerStore.step action s = some s') : Change s action s' := by
  cases action with
  | reserve req now =>
    obtain rfl := some.inj h
    rcases s.reserve_spec with ⟨err, heq⟩ | ⟨hnew, hfits, heq⟩
    · rw [heq]
      exact .same
    · rw [heq]
      exact .reserved hnew hfits
  | destroy call guid =>
    simp only [step, destroy] at h
    grind [Change]
  | destroyNode call =>
    simp only [step, destroyNode] at h
    split at h
    · cases h
    · obtain ⟨n, hsignal, rfl⟩ := map_eq_some_iff.mp h
      exact .signalled ‹_› hsignal
  | destroyReturn call =>
    simp only [step, destroyReturn, remove] at h
    grind [Change, setDestroy]
  | onNode node action =>
    obtain ⟨⟨-, haction⟩, h⟩ := ite_none_right_eq_some.mp h
    obtain ⟨n, hstep, rfl⟩ := map_eq_some_iff.mp h
    exact .moved haction hstep

/-! ## Guids -/

/-- The node of a guid is the one of a container with this guid. -/
def Named (s : ContainerStore) : Prop :=
  ∀ guid node, s.nodes.lookup guid = some node →
    node < s.next ∧ StoreNode.Identified guid (s.heap node).info.resource (s.heap node)

theorem named_new : (newContainerStore config capacity).Named :=
  nofun

/-- A step of a node keeps the resources of a container in the store. -/
theorem Named.resource_setNode (h : s.Named)
    (hn : ∀ guid resource, StoreNode.Identified guid resource (s.heap node) →
      StoreNode.Identified guid resource n) (hlookup : s.nodes.lookup guid = some node') :
    StoreNode.Identified guid (s.heap node').info.resource ((s.setNode node n).heap node') := by
  by_cases hnode : node' = node
  · subst hnode
    rw [heap_setNode_self]
    exact hn guid _ (h guid node' hlookup).2
  · rw [heap_setNode_of_ne hnode]
    exact (h guid node' hlookup).2

theorem Named.setNode (h : s.Named)
    (hn : ∀ guid resource, StoreNode.Identified guid resource (s.heap node) →
      StoreNode.Identified guid resource n) : (s.setNode node n).Named := by
  intro guid node' hlookup
  have hidentified := h.resource_setNode hn hlookup
  rw [← hidentified.info.2] at hidentified
  exact ⟨(h guid node' hlookup).1, hidentified⟩

theorem heap_reserved_self :
    (s.reserved req now).heap s.next =
      newStoreNode s.config (newReservedContainerFromAllocationRequest req now) :=
  Function.update_self _ _ _

theorem Named.heap_reserved (h : s.Named) (hlookup : s.nodes.lookup guid = some node) :
    (s.reserved req now).heap node = s.heap node :=
  Function.update_of_ne (Nat.ne_of_lt (h guid node hlookup).1) _ _

theorem Named.reserved (h : s.Named) : (s.reserved req now).Named := by
  intro guid node hlookup
  rw [ContainerStore.reserved, GoMap.lookup_insert_ite] at hlookup
  split at hlookup
  · rename_i hguid
    cases hlookup
    rw [heap_reserved_self, hguid]
    exact ⟨Nat.lt_succ_self _, StoreNode.identified_new
      (newReservedContainerFromAllocationRequest req now)⟩
  · rw [h.heap_reserved hlookup]
    exact ⟨Nat.lt_succ_of_lt (h guid node hlookup).1, (h guid node hlookup).2⟩

/-- A reservation adds its container to the others. -/
theorem Named.list_reserved (h : s.Named) (hnew : s.nodes.lookup req.guid = none) :
    (s.reserved req now).list.Perm
      (newReservedContainerFromAllocationRequest req now :: s.list) := by
  have hvalues : (GoMap.values (s.reserved req now).nodes).Perm (s.next :: s.nodes.values) :=
    GoMap.values_insert_perm (AList.lookup_eq_none.mp hnew) s.next
  -- the node of the new container is fresh, so the other containers stay as they were
  have hold : s.nodes.values.map (fun node => ((s.reserved req now).heap node).info) = s.list := by
    refine List.map_congr_left ?_
    intro node hmem
    obtain ⟨guid, hlookup⟩ := GoMap.mem_values.mp hmem
    rw [h.heap_reserved hlookup]
  refine (hvalues.map _).trans ?_
  rw [List.map_cons, heap_reserved_self, hold]
  exact List.Perm.refl _

/-- Removing a node erases its guid and gives the resources of its container back. -/
theorem Named.removeNode_eq (h : s.Named) (hlookup : s.nodes.lookup guid = some node) :
    s.removeNode node = { s with
      remainingResources := s.remainingResources.add (s.heap node).info.resource
      nodes := s.nodes.erase guid } := by
  unfold ContainerStore.removeNode
  dsimp only
  rw [(h guid node hlookup).2.info.1]

theorem Named.removeNode (h : s.Named) (node : NodeRef) : (s.removeNode node).Named :=
  fun guid' node' hlookup' => h guid' node' (GoMap.lookup_erase_eq_some.mp hlookup').2

theorem Named.step (h : s.Named) (hstep : ContainerStore.step action s = some s') : s'.Named := by
  cases change_of_step hstep with
  | same | began _ | ended => exact h
  | reserved => exact h.reserved
  | signalled _ hnode | moved _ hnode =>
    exact h.setNode fun guid resource hidentified => hidentified.step hnode
  | removed => exact Named.removeNode (s := s.setDestroy _ none) h _

theorem Named.guids_nodup (h : s.Named) : (s.list.map fun container => container.guid).Nodup := by
  have hguids : (s.list.map fun container => container.guid) = s.nodes.keys := by
    rw [list, GoMap.values, List.map_map, List.map_map]
    refine List.map_congr_left ?_
    intro entry hmem
    exact (h entry.1 entry.2 (GoMap.mem_entries_iff.mp hmem)).2.info.1
  rw [hguids]
  exact s.nodes.nodupKeys

/-! ## Accounting -/

/-- The three components of the resources. -/
inductive Component
  | memoryMB
  | diskMB
  | containers

namespace Component

def amount : Component → ExecutorResources → Int
  | .memoryMB, r => r.memoryMB
  | .diskMB, r => r.diskMB
  | .containers, r => r.containers

/-- What a container takes of a component: of the containers, one. -/
def weight : Component → Resource → Int
  | .memoryMB, res => res.memoryMB
  | .diskMB, res => res.diskMB
  | .containers, _ => 1

variable {c : Component}

theorem amount_add (r : ExecutorResources) (res : Resource) :
    c.amount (r.add res) = c.amount r + c.weight res := by
  cases c <;> rfl

theorem amount_subtract {r : ExecutorResources} {res : Resource} (h : (r.subtract res).2 = true) :
    c.amount (r.subtract res).1 + c.weight res = c.amount r ∧ 0 ≤ c.amount (r.subtract res).1 := by
  unfold ExecutorResources.subtract at h ⊢
  split at h
  · simp at h
  · rename_i hcan
    rw [if_neg hcan]
    simp only [ExecutorResources.canSubtract, Bool.not_eq_true', Bool.not_eq_false,
      Bool.and_eq_true, decide_eq_true_eq] at hcan
    cases c <;> simp only [amount, weight] <;> omega

end Component

/-- The request of a container asks for no negative amount. -/
def NonNegative (res : Resource) : Prop :=
  0 ≤ res.memoryMB ∧ 0 ≤ res.diskMB

theorem NonNegative.weight (h : NonNegative res) (c : Component) : 0 ≤ c.weight res := by
  cases c with
  | memoryMB => exact h.1
  | diskMB => exact h.2
  | containers => exact Int.one_nonneg

def inUse (s : ContainerStore) (c : Component) : Int :=
  (s.list.map fun container => c.weight container.resource).sum

/-- The resources add up. -/
structure Accounts (capacity : ExecutorResources) (s : ContainerStore) : Prop where
  named : s.Named
  requests : ∀ guid node, s.nodes.lookup guid = some node → NonNegative (s.heap node).info.resource
  balanced : ∀ c : Component, c.amount s.remainingResources + s.inUse c = c.amount capacity
  nonneg : ∀ c : Component, 0 ≤ c.amount capacity → 0 ≤ c.amount s.remainingResources

section Accounts

variable {capacity : ExecutorResources}

theorem accounts_new : Accounts capacity (newContainerStore config capacity) where
  named := named_new
  requests _ _ hlookup := nomatch hlookup
  balanced _ := Int.add_zero _
  nonneg _ h := h

/-- The sum over the containers is one over the nodes. -/
theorem inUse_eq (c : Component) :
    s.inUse c = (s.nodes.values.map fun node => c.weight (s.heap node).info.resource).sum := by
  simp [inUse, list, Function.comp_def]

/-- A step of a node, which keeps the resources of its container. -/
theorem Accounts.setNode (h : Accounts capacity s)
    (hn : ∀ guid resource, StoreNode.Identified guid resource (s.heap node) →
      StoreNode.Identified guid resource n) : Accounts capacity (s.setNode node n) := by
  have hresource : ∀ guid node', s.nodes.lookup guid = some node' →
      ((s.setNode node n).heap node').info.resource = (s.heap node').info.resource :=
    fun guid node' hlookup => (h.named.resource_setNode hn hlookup).info.2
  refine ⟨h.named.setNode hn, ?_, ?_, h.nonneg⟩
  · intro guid node' hlookup
    rw [hresource guid node' hlookup]
    exact h.requests guid node' hlookup
  · intro c
    rw [← h.balanced c, inUse_eq, inUse_eq]
    refine congrArg (_ + ·) (congrArg List.sum (List.map_congr_left ?_))
    intro node' hmem
    obtain ⟨guid, hlookup⟩ := GoMap.mem_values.mp hmem
    rw [hresource guid node' hlookup]

/-- A reservation moves the resources of the container from the rest to the sum. -/
theorem Accounts.reserved (h : Accounts capacity s) (hnonneg : NonNegative req.resource)
    (hnew : s.nodes.lookup req.guid = none)
    (hfits : (s.remainingResources.subtract req.resource).2 = true) :
    Accounts capacity (s.reserved req now) := by
  refine ⟨h.named.reserved, ?_, ?_, ?_⟩
  · intro guid node hlookup
    rw [ContainerStore.reserved, GoMap.lookup_insert_ite] at hlookup
    split at hlookup
    · cases hlookup
      rw [heap_reserved_self]
      exact hnonneg
    · rw [h.named.heap_reserved hlookup]
      exact h.requests guid node hlookup
  · intro c
    have hsum : (s.reserved req now).inUse c = c.weight req.resource + s.inUse c := by
      unfold inUse
      rw [((h.named.list_reserved hnew).map _).sum_eq]
      rfl
    have hamount := (c.amount_subtract hfits).1
    rw [hsum, ← h.balanced c]
    simp only [ContainerStore.reserved]
    omega
  · intro c _
    exact (c.amount_subtract hfits).2

/-- A removal gives the resources of the container back. -/
theorem Accounts.removeNode (h : Accounts capacity s) (hlookup : s.nodes.lookup guid = some node) :
    Accounts capacity (s.removeNode node) := by
  have hnamed := h.named.removeNode node
  rw [h.named.removeNode_eq hlookup] at hnamed ⊢
  refine ⟨hnamed, fun guid' node' hlookup' => h.requests guid' node'
    (GoMap.lookup_erase_eq_some.mp hlookup').2, ?_, ?_⟩
  · intro c
    have hsum : s.inUse c = c.weight (s.heap node).info.resource +
        ((GoMap.values (s.nodes.erase guid)).map fun node =>
          c.weight (s.heap node).info.resource).sum := by
      rw [inUse_eq, ((GoMap.values_erase_perm hlookup).map _).sum_eq, List.map_cons, List.sum_cons]
    have hbalanced := h.balanced c
    rw [inUse_eq, c.amount_add]
    dsimp only
    omega
  · intro c hcapacity
    rw [c.amount_add]
    have hweight := (h.requests guid node hlookup).weight c
    have hrest := h.nonneg c hcapacity
    omega

/-- The requests of the reservations are not negative. -/
def NonNegativeRequests : StoreAction → ContainerStore → Prop
  | .reserve req _, _ => NonNegative req.resource
  | _, _ => True

theorem Accounts.step (h : Accounts capacity s) {action : StoreAction}
    (hrequest : NonNegativeRequests action s)
    (hstep : ContainerStore.step action s = some s') : Accounts capacity s' := by
  -- the calls of `Destroy` are not in the accounts
  have hcall call destroy : Accounts capacity (s.setDestroy call destroy) :=
    ⟨h.named, h.requests, h.balanced, h.nonneg⟩
  cases change_of_step hstep with
  | same => exact h
  | began _ | ended => exact hcall _ _
  | reserved hnew hfits => exact h.reserved hrequest hnew hfits
  | signalled _ hnode | moved _ hnode =>
    exact h.setNode fun guid resource hidentified => hidentified.step hnode
  | removed _ _ hlookup => exact (hcall _ none).removeNode hlookup

/-- **Accounting is exact** in every state that reservations, destructions and the steps of the
containers reach, in whatever order they interleave: in each component the rest and what the
stored containers have is the capacity, the rest is not negative, the guids are different, and
a reservation that fails changes neither the containers nor the rest. -/
theorem resources_accounted (config : ContainerConfig) (capacity : ExecutorResources)
    (hreach : Machine.Reaches ContainerStore.step NonNegativeRequests
      (newContainerStore config capacity) s) :
    (∀ c : Component, c.amount s.remainingResources + s.inUse c = c.amount capacity ∧
      (0 ≤ c.amount capacity → 0 ≤ c.amount s.remainingResources ∧ s.inUse c ≤ c.amount capacity)) ∧
    (s.list.map fun container => container.guid).Nodup ∧
    ∀ req now err, (s.reserve req now).2 = .error err →
      (s.reserve req now).1.list = s.list ∧
        (s.reserve req now).1.remainingResources = s.remainingResources := by
  have h : Accounts capacity s :=
    hreach.invariant accounts_new fun _ _ _ haccounts => haccounts.step
  refine ⟨?_, h.named.guids_nodup, ?_⟩
  · intro c
    have hbalanced := h.balanced c
    refine ⟨hbalanced, ?_⟩
    intro hcapacity
    have hnonneg := h.nonneg c hcapacity
    exact ⟨hnonneg, by omega⟩
  · intro req now err herr
    rcases s.reserve_spec with ⟨_, heq⟩ | ⟨-, -, heq⟩
    · rw [heq]
      exact ⟨rfl, rfl⟩
    · rw [heq] at herr
      simp at herr

def smallStore : ContainerStore :=
  newContainerStore ⟨.issuing, 60⟩ ⟨1024, 1024, 2⟩

def smallRequest (guid : String) : AllocationRequest :=
  ⟨guid, true, ⟨512, 256, 0⟩, ∅⟩

theorem resources_accounted_after_reservation :
    ((smallStore.reserve (smallRequest "instance") 0).1.list.map
        fun container => container.guid).Nodup ∧
      Component.memoryMB.amount
          (smallStore.reserve (smallRequest "instance") 0).1.remainingResources +
        (smallStore.reserve (smallRequest "instance") 0).1.inUse .memoryMB = 1024 := by
  have hrequest : NonNegativeRequests (.reserve (smallRequest "instance") 0) smallStore :=
    ⟨by decide, by decide⟩
  have haccounted := resources_accounted ⟨.issuing, 60⟩ ⟨1024, 1024, 2⟩
    (.step .refl hrequest rfl)
  exact ⟨haccounted.2.1, (haccounted.1 .memoryMB).1⟩

/-- A garden that allows no containers gives the executor a capacity of `-1` containers, and
the rest stays there. -/
theorem negative_rest_of_negative_capacity :
    ∃ s, Machine.Reaches ContainerStore.step NonNegativeRequests
        (newContainerStore ⟨.issuing, 60⟩ ⟨1024, 1024, -1⟩) s ∧
      Component.containers.amount s.remainingResources < 0 := by
  have hrequest : NonNegativeRequests (.reserve (smallRequest "instance") 0)
      (newContainerStore ⟨.issuing, 60⟩ ⟨1024, 1024, -1⟩) :=
    ⟨by decide, by decide⟩
  exact ⟨_, .step .refl hrequest rfl, by decide⟩

end Accounts

end ContainerStore

end Diego.Executor
