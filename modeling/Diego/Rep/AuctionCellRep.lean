import Diego.Executor.Depot
import Diego.Models.Scheduling

/-!
# Performing work

`Perform` of `rep/auctioncellrep/auction_cell_rep.go`, with the allocator of
`batch_container_allocator.go`.  A cell gets work from the auctioneer: LRPs and tasks.  It
drops the LRPs that its memory does not suffice for, turns the others and the tasks into
requests for containers, and finds the LRPs and tasks of the requests that fail by the guid of
the request.  What it could not do goes back to the auctioneer.

Nothing is lost on the way and nothing is duplicated: each LRP and each task has a new
container in the store or goes back.  This needs that the guids by which failures are mapped
back are different: those of the tasks, and those that are generated for the LRPs.

`url.Parse` and `json.Marshal` are parameters.
-/

namespace Diego.Rep

open Models Executor List

/-! ## Root file systems -/

/-- What the rep reads of a URL; the opaque part is called `body`. -/
structure RootFSLocation where
  scheme : String
  body : String
  rawQuery : String

inductive RootFSError
  | parse
  | preloadedRootFSNotFound

abbrev StackPathMap := GoMap String String

def preloadedRootFSScheme : String := "preloaded"
def preloadedOCIRootFSScheme : String := "preloaded+layer"

def StackPathMap.pathForRootFS (parse : String → Option RootFSLocation) (m : StackPathMap)
    (rootFS : String) : Except RootFSError String :=
  if rootFS = "" then .ok rootFS
  else
    match parse rootFS with
    | none => .error .parse
    | some u =>
      if u.scheme = preloadedRootFSScheme then
        match m.lookup u.body with
        | none => .error .preloadedRootFSNotFound
        | some path => .ok path
      else if u.scheme = preloadedOCIRootFSScheme then
        match m.lookup u.body with
        | none => .error .preloadedRootFSNotFound
        | some path => .ok (u.scheme ++ ":" ++ path ++ "?" ++ u.rawQuery)
      else .ok rootFS

/-! ## Requests -/

section Requests

variable (marshal : List String → String)

def buildLRPTags (lrp : SchedulingLRP) (instanceGuid : String) : Tags :=
  GoMap.ofPairs [("domain", lrp.domain), ("process-guid", lrp.processGuid),
    ("process-index", toString lrp.index), ("lifecycle", "lrp"), ("instance-guid", instanceGuid),
    ("placement-tags", marshal lrp.placementTags), ("volume-drivers", marshal lrp.volumeDrivers)]

def buildTaskTags (task : SchedulingTask) : Tags :=
  GoMap.ofPairs [("lifecycle", "task"), ("domain", task.domain),
    ("placement-tags", marshal task.placementTags), ("volume-drivers", marshal task.volumeDrivers)]

def lrpContainerGuid (_processGuid instanceGuid : String) : String :=
  instanceGuid

def lrpRequest (enableContainerProxy : Bool) (proxyMemoryAllocation : Int)
    (item : SchedulingLRP × String) : AllocationRequest :=
  let (lrp, instanceGuid) := item
  let memoryMB := lrp.memoryMB.toInt
  let memoryMB := if memoryMB > 0 ∧ enableContainerProxy then memoryMB + proxyMemoryAllocation
    else memoryMB
  { guid := lrpContainerGuid lrp.processGuid instanceGuid
    generateLogMetrics := true
    resource := ⟨memoryMB, lrp.diskMB.toInt, lrp.maxPids.toInt⟩
    tags := buildLRPTags marshal lrp instanceGuid }

def taskRequest (task : SchedulingTask) : AllocationRequest where
  guid := task.taskGuid
  generateLogMetrics := false
  resource := ⟨task.memoryMB.toInt, task.diskMB.toInt, task.maxPids.toInt⟩
  tags := buildTaskTags marshal task

end Requests

/-! ## The allocator -/

/-- What a run of the allocator meets. -/
structure AllocatorEnvironment where
  /-- The results of the calls of `generateInstanceGuid`. -/
  generateInstanceGuid : Nat → Except Executor.Error String
  now : Nat → Int

structure ContainerAllocator where
  parse : String → Option RootFSLocation
  marshal : List String → String
  stackPathMap : StackPathMap

namespace ContainerAllocator

variable (ca : ContainerAllocator)

def knowsRootFS (rootFS : String) : Bool :=
  match ca.stackPathMap.pathForRootFS ca.parse rootFS with
  | .ok _ => true
  | .error _ => false

/-- What the loop of `BatchLRPAllocationRequest` has collected. -/
structure LRPBatch where
  unallocatedLRPs : List SchedulingLRP
  requests : List AllocationRequest
  lrpGuidMap : GoMap String SchedulingLRP

/-- The loop of `BatchLRPAllocationRequest`. -/
def lrpBatch (enableContainerProxy : Bool) (proxyMemoryAllocation : Int)
    (generateInstanceGuid : Nat → Except Executor.Error String) :
    Nat → LRPBatch → List SchedulingLRP → LRPBatch
  | _, batch, [] => batch
  | i, batch, lrp :: lrps =>
    lrpBatch enableContainerProxy proxyMemoryAllocation generateInstanceGuid (i + 1)
      (match generateInstanceGuid i with
      | .error _ => { batch with unallocatedLRPs := batch.unallocatedLRPs ++ [lrp] }
      | .ok instanceGuid =>
        if !ca.knowsRootFS lrp.rootFs then
          { batch with unallocatedLRPs := batch.unallocatedLRPs ++ [lrp] }
        else
          { batch with
            requests := batch.requests ++ [lrpRequest ca.marshal enableContainerProxy
              proxyMemoryAllocation (lrp, instanceGuid)]
            lrpGuidMap := batch.lrpGuidMap.insert
              (lrpContainerGuid lrp.processGuid instanceGuid) lrp })
      lrps

/-- The call of `AllocateContainers`, which is not made for nothing. -/
def allocate (now : Nat → Int) (s : ContainerStore) (requests : List AllocationRequest) :
    ContainerStore × List AllocationFailure :=
  if requests.length > 0 then s.allocateContainers now 0 requests else (s, [])

def batchLRPAllocationRequest (env : AllocatorEnvironment) (enableContainerProxy : Bool)
    (proxyMemoryAllocation : Int) (s : ContainerStore) (lrps : List SchedulingLRP) :
    ContainerStore × List SchedulingLRP :=
  let batch := ca.lrpBatch enableContainerProxy proxyMemoryAllocation env.generateInstanceGuid 0
    ⟨[], [], ∅⟩ lrps
  let result := allocate env.now s batch.requests
  (result.1, batch.unallocatedLRPs ++
    result.2.filterMap fun failure => batch.lrpGuidMap.lookup failure.request.guid)

def batchTaskAllocationRequest (now : Nat → Int) (s : ContainerStore)
    (tasks : List SchedulingTask) : ContainerStore × List SchedulingTask :=
  let taskMap := GoMap.ofPairs (tasks.map fun task => (task.taskGuid, task))
  let failedTasks := tasks.filter fun task => !ca.knowsRootFS task.rootFs
  let requests := (tasks.filter fun task => ca.knowsRootFS task.rootFs).map
    (taskRequest ca.marshal)
  let result := allocate now s requests
  (result.1, failedTasks ++ result.2.filterMap fun failure => taskMap.lookup failure.request.guid)

end ContainerAllocator

/-! ## Perform -/

inductive PerformError
  | cellIdMismatch
  | executor (err : Executor.Error)

structure PerformEnvironment where
  remainingResources : Option Executor.Error
  evacuating : Bool
  lrps : AllocatorEnvironment
  tasks : Nat → Int

structure AuctionCellRep where
  cellID : String
  enableContainerProxy : Bool
  proxyMemoryAllocation : Int
  allocator : ContainerAllocator

/-- What `Perform` returns, and the store after it. -/
structure PerformResult where
  store : ContainerStore
  failedWork : Work
  err : Option PerformError

namespace AuctionCellRep

variable (a : AuctionCellRep)

def requiredMemory (lrp : SchedulingLRP) : Int32 :=
  if a.enableContainerProxy then lrp.memoryMB + Int32.ofInt a.proxyMemoryAllocation
  else lrp.memoryMB

/-- The loop that drops LRPs: those that are requested, and those that fail. -/
def fitMemory (remainingMemory : Int32) :
    List SchedulingLRP → List SchedulingLRP × List SchedulingLRP
  | [] => ([], [])
  | lrp :: lrps =>
    if a.requiredMemory lrp ≤ remainingMemory then
      let rest := fitMemory (remainingMemory - a.requiredMemory lrp) lrps
      (lrp :: rest.1, rest.2)
    else
      let rest := fitMemory remainingMemory lrps
      (rest.1, lrp :: rest.2)

/-- `sort.SliceStable` by memory, the largest first. -/
def sortByMemory (lrps : List SchedulingLRP) : List SchedulingLRP :=
  lrps.mergeSort fun lrp lrp' => lrp'.memoryMB ≤ lrp.memoryMB

def perform (env : PerformEnvironment) (s : ContainerStore) (work : Work) : PerformResult :=
  if work.cellID ≠ "" ∧ work.cellID ≠ a.cellID then ⟨s, work, some .cellIdMismatch⟩
  else
    match env.remainingResources with
    | some err => ⟨s, work, some (.executor err)⟩
    | none =>
      let work := { work with lrps := sortByMemory work.lrps }
      let lrps := a.fitMemory (Int32.ofInt s.remainingResources.memoryMB) work.lrps
      -- what fitMemory dropped is part of the work that comes back
      if env.evacuating then ⟨s, work, none⟩
      else
        let lrpResult := a.allocator.batchLRPAllocationRequest env.lrps a.enableContainerProxy
          a.proxyMemoryAllocation s lrps.1
        let taskResult := a.allocator.batchTaskAllocationRequest env.tasks lrpResult.1 work.tasks
        ⟨taskResult.1, { lrps := lrps.2 ++ lrpResult.2, tasks := taskResult.2 }, none⟩

end AuctionCellRep

/-! ## The LRPs -/

/-- The items that fail go to those that were not tried. -/
theorem perm_move_right {Item : Type*} {all tried untried reserved failed : List Item}
    (hall : all.Perm (tried ++ untried)) (htried : tried.Perm (reserved ++ failed)) :
    all.Perm (reserved ++ (untried ++ failed)) := by
  calc all.Perm (tried ++ untried) := hall
    _ |>.Perm (reserved ++ failed ++ untried) := htried.append_right untried
    _ = reserved ++ (failed ++ untried) := append_assoc _ _ _
    _ |>.Perm (reserved ++ (untried ++ failed)) := perm_append_comm.append_left reserved

namespace ContainerAllocator

variable {now : Nat → Int}

theorem allocate_eq (s : ContainerStore) (requests : List AllocationRequest) :
    allocate now s requests = s.allocateContainers now 0 requests := by
  cases requests <;> rfl

section LRPs

variable {ca : ContainerAllocator} {enableContainerProxy : Bool} {proxyMemoryAllocation : Int}
  {generateInstanceGuid : Nat → Except Executor.Error String}

def Distinct (generateInstanceGuid : Nat → Except Executor.Error String) : Prop :=
  ∀ i j guid, generateInstanceGuid i = .ok guid → generateInstanceGuid j = .ok guid → i = j

/-- What the loop knows after `i` turns: each LRP so far is unallocated, or there is a request
for it with a guid of its own, under which it is found. -/
structure LRPBatch.Holds (ca : ContainerAllocator) (enableContainerProxy : Bool)
    (proxyMemoryAllocation : Int) (generateInstanceGuid : Nat → Except Executor.Error String)
    (i : Nat) (lrps : List SchedulingLRP) (items : List (SchedulingLRP × String))
    (batch : LRPBatch) : Prop where
  lrps : lrps.Perm (items.map Prod.fst ++ batch.unallocatedLRPs)
  requests : batch.requests =
    items.map (lrpRequest ca.marshal enableContainerProxy proxyMemoryAllocation)
  found : ∀ item ∈ items, batch.lrpGuidMap.lookup item.2 = some item.1
  generated : ∀ item ∈ items, ∃ j < i, generateInstanceGuid j = .ok item.2

variable {i : Nat} {lrps : List SchedulingLRP} {items : List (SchedulingLRP × String)}
  {batch : LRPBatch}

theorem LRPBatch.Holds.unallocated {lrp : SchedulingLRP}
    (h : batch.Holds ca enableContainerProxy proxyMemoryAllocation generateInstanceGuid i lrps
      items) :
    LRPBatch.Holds ca enableContainerProxy proxyMemoryAllocation generateInstanceGuid (i + 1)
      (lrps ++ [lrp]) items { batch with unallocatedLRPs := batch.unallocatedLRPs ++ [lrp] } where
  lrps := by
    rw [← append_assoc]
    exact h.lrps.append_right [lrp]
  requests := h.requests
  found := h.found
  generated item hmem := by
    obtain ⟨j, hj, hguid⟩ := h.generated item hmem
    exact ⟨j, Nat.lt_succ_of_lt hj, hguid⟩

theorem LRPBatch.Holds.request (hdistinct : Distinct generateInstanceGuid) {lrp : SchedulingLRP}
    {instanceGuid : String} (hguid : generateInstanceGuid i = .ok instanceGuid)
    (h : batch.Holds ca enableContainerProxy proxyMemoryAllocation generateInstanceGuid i lrps
      items) :
    LRPBatch.Holds ca enableContainerProxy proxyMemoryAllocation generateInstanceGuid (i + 1)
      (lrps ++ [lrp]) (items ++ [(lrp, instanceGuid)])
      { batch with
        requests := batch.requests ++ [lrpRequest ca.marshal enableContainerProxy
          proxyMemoryAllocation (lrp, instanceGuid)]
        lrpGuidMap := batch.lrpGuidMap.insert instanceGuid lrp } where
  lrps := by
    refine (h.lrps.append_right [lrp]).trans ?_
    rw [map_append, append_assoc, append_assoc]
    exact perm_append_comm.append_left _
  requests := by
    rw [map_append, h.requests]
    rfl
  found item hmem := by
    rw [GoMap.lookup_insert_ite]
    rcases mem_append.mp hmem with hold | hnew
    -- an earlier LRP keeps its entry, since its guid comes from an earlier call
    · obtain ⟨j, hj, hguid'⟩ := h.generated item hold
      rw [if_neg, h.found item hold]
      intro heq
      rw [heq] at hguid'
      exact Nat.ne_of_lt hj (hdistinct j i _ hguid' hguid)
    · rw [mem_singleton.mp hnew, if_pos rfl]
  generated item hmem := by
    rcases mem_append.mp hmem with hold | hnew
    · obtain ⟨j, hj, hguid'⟩ := h.generated item hold
      exact ⟨j, Nat.lt_succ_of_lt hj, hguid'⟩
    · rw [mem_singleton.mp hnew]
      exact ⟨i, Nat.lt_succ_self i, hguid⟩

theorem lrpBatch_holds (hdistinct : Distinct generateInstanceGuid) {rest : List SchedulingLRP}
    (h : batch.Holds ca enableContainerProxy proxyMemoryAllocation generateInstanceGuid i lrps
      items) :
    ∃ items', LRPBatch.Holds ca enableContainerProxy proxyMemoryAllocation generateInstanceGuid
      (i + rest.length) (lrps ++ rest) items'
      (ca.lrpBatch enableContainerProxy proxyMemoryAllocation generateInstanceGuid i batch
        rest) := by
  induction rest generalizing i lrps items batch with
  | nil => exact ⟨items, by rw [append_nil]; exact h⟩
  | cons lrp rest ih =>
    have hlength : i + (lrp :: rest).length = i + 1 + rest.length := by
      rw [length_cons]
      omega
    rw [lrpBatch, hlength, append_cons]
    split
    · exact ih h.unallocated
    · rename_i instanceGuid hguid
      split
      · exact ih h.unallocated
      · exact ih (h.request hdistinct hguid)

theorem batchLRPAllocationRequest_spec {env : AllocatorEnvironment} {s : ContainerStore}
    (hdistinct : Distinct env.generateInstanceGuid) (hnamed : s.Named) :
    ∃ reserved : List ((SchedulingLRP × String) × Int),
      (ca.batchLRPAllocationRequest env enableContainerProxy proxyMemoryAllocation s
        lrps).1.Named ∧
      lrps.Perm (reserved.map (fun r => r.1.1) ++ (ca.batchLRPAllocationRequest env
        enableContainerProxy proxyMemoryAllocation s lrps).2) ∧
      (ca.batchLRPAllocationRequest env enableContainerProxy proxyMemoryAllocation s
        lrps).1.list.Perm (s.list ++ reserved.map fun (item, now) =>
          newReservedContainerFromAllocationRequest
            (lrpRequest ca.marshal enableContainerProxy proxyMemoryAllocation item) now) := by
  have hempty : LRPBatch.Holds ca enableContainerProxy proxyMemoryAllocation
      env.generateInstanceGuid 0 [] [] ⟨[], [], ∅⟩ :=
    ⟨List.Perm.refl [], rfl, nofun, nofun⟩
  obtain ⟨items, hbatch⟩ := lrpBatch_holds hdistinct hempty
  unfold batchLRPAllocationRequest
  dsimp only
  rw [allocate_eq, hbatch.requests]
  obtain ⟨reserved, failed, h⟩ := ContainerStore.allocateContainers_spec env.now 0 hnamed
  refine ⟨reserved, h.named, ?_, h.containers⟩
  -- the failures come back through the map from guids to LRPs
  rw [h.found Prod.fst hbatch.found]
  have hitems := h.items.map Prod.fst
  rw [map_append, map_map] at hitems
  exact perm_move_right hbatch.lrps hitems

end LRPs

/-! ## The tasks -/

theorem batchTaskAllocationRequest_spec (ca : ContainerAllocator) {s : ContainerStore}
    {tasks : List SchedulingTask} (htasks : (tasks.map fun task => task.taskGuid).Nodup)
    (hnamed : s.Named) :
    ∃ reserved : List (SchedulingTask × Int),
      (ca.batchTaskAllocationRequest now s tasks).1.Named ∧
      tasks.Perm (reserved.map Prod.fst ++ (ca.batchTaskAllocationRequest now s tasks).2) ∧
      (ca.batchTaskAllocationRequest now s tasks).1.list.Perm
        (s.list ++ reserved.map fun (task, time) =>
          newReservedContainerFromAllocationRequest (taskRequest ca.marshal task) time) := by
  -- the map has all tasks, the failures only name those whose root file system is known
  have hfound : ∀ task ∈ tasks.filter fun task => ca.knowsRootFS task.rootFs,
      (GoMap.ofPairs (tasks.map fun task => (task.taskGuid, task))).lookup
        (taskRequest ca.marshal task).guid = some task := by
    intro task hmem
    have htask := (mem_filter.mp hmem).1
    refine GoMap.lookup_ofPairs_of_unique (mem_map.mpr ⟨task, htask, rfl⟩) ?_
    intro other hother
    obtain ⟨task', htask', heq⟩ := mem_map.mp hother
    obtain ⟨hguid, rfl⟩ := Prod.mk.inj heq
    exact inj_on_of_nodup_map htasks htask' htask hguid
  have hsplit : tasks.Perm ((tasks.filter fun task => ca.knowsRootFS task.rootFs) ++
      tasks.filter fun task => !ca.knowsRootFS task.rootFs) :=
    (filter_append_perm _ tasks).symm
  unfold batchTaskAllocationRequest
  dsimp only
  rw [allocate_eq]
  obtain ⟨reserved, failed, h⟩ := ContainerStore.allocateContainers_spec now 0 hnamed
  refine ⟨reserved, h.named, ?_, h.containers⟩
  rw [h.found id hfound, map_id]
  exact perm_move_right hsplit h.items

end ContainerAllocator

/-! ## Conservation -/

namespace AuctionCellRep

variable {a : AuctionCellRep} {lrps : List SchedulingLRP} {s : ContainerStore} {work : Work}

theorem fitMemory_perm (remainingMemory : Int32) (lrps : List SchedulingLRP) :
    lrps.Perm ((a.fitMemory remainingMemory lrps).1 ++ (a.fitMemory remainingMemory lrps).2) := by
  induction lrps generalizing remainingMemory with
  | nil => exact List.Perm.refl []
  | cons lrp lrps ih =>
    rw [fitMemory]
    split
    · exact (ih _).cons lrp
    · exact ((ih _).cons lrp).trans perm_middle.symm

theorem sortByMemory_perm : (sortByMemory lrps).Perm lrps :=
  mergeSort_perm lrps _

def Misdirected (a : AuctionCellRep) (work : Work) : Prop :=
  work.cellID ≠ "" ∧ work.cellID ≠ a.cellID

def lrpContainer (a : AuctionCellRep) : (SchedulingLRP × String) × Int → Container
  | (item, now) => newReservedContainerFromAllocationRequest
      (lrpRequest a.allocator.marshal a.enableContainerProxy a.proxyMemoryAllocation item) now

def taskContainer (a : AuctionCellRep) : SchedulingTask × Int → Container
  | (task, now) =>
    newReservedContainerFromAllocationRequest (taskRequest a.allocator.marshal task) now

/-- A reservation with the guid and the tags by which the rep knows an LRP instance. -/
structure HoldsLRP (container : Container) (lrp : SchedulingLRP) (instanceGuid : String) :
    Prop where
  reserved : container.state = .reserved
  guid : container.guid = instanceGuid
  lifecycle : container.tags.lookup "lifecycle" = some "lrp"
  processGuid : container.tags.lookup "process-guid" = some lrp.processGuid
  processIndex : container.tags.lookup "process-index" = some (toString lrp.index)
  domain : container.tags.lookup "domain" = some lrp.domain
  instanceGuid : container.tags.lookup "instance-guid" = some instanceGuid

/-- A reservation with the guid and the tags by which the rep knows a task. -/
structure HoldsTask (container : Container) (task : SchedulingTask) : Prop where
  reserved : container.state = .reserved
  guid : container.guid = task.taskGuid
  lifecycle : container.tags.lookup "lifecycle" = some "task"
  domain : container.tags.lookup "domain" = some task.domain

theorem holdsLRP_lrpContainer {item : (SchedulingLRP × String) × Int} :
    HoldsLRP (a.lrpContainer item) item.1.1 item.1.2 := by
  have htags : (a.lrpContainer item).tags =
      buildLRPTags a.allocator.marshal item.1.1 item.1.2 := rfl
  refine ⟨rfl, rfl, ?_, ?_, ?_, ?_, ?_⟩ <;>
    simp [htags, buildLRPTags, GoMap.ofPairs, -AList.insert_empty]

theorem holdsTask_taskContainer {item : SchedulingTask × Int} :
    HoldsTask (a.taskContainer item) item.1 := by
  have htags : (a.taskContainer item).tags = buildTaskTags a.allocator.marshal item.1 := rfl
  refine ⟨rfl, rfl, ?_, ?_⟩ <;>
    simp [htags, buildTaskTags, GoMap.ofPairs, -AList.insert_empty]

/-- Each LRP and each task has a new container in the store or is in the work that comes
back. -/
structure Conserved (s : ContainerStore) (work : Work) (result : PerformResult)
    (placedLRPs : List (SchedulingLRP × Container))
    (placedTasks : List (SchedulingTask × Container)) : Prop where
  lrps : work.lrps.Perm (placedLRPs.map Prod.fst ++ result.failedWork.lrps)
  tasks : work.tasks.Perm (placedTasks.map Prod.fst ++ result.failedWork.tasks)
  containers :
    result.store.list.Perm (s.list ++ placedLRPs.map Prod.snd ++ placedTasks.map Prod.snd)
  holdsLRP : ∀ placed ∈ placedLRPs, ∃ instanceGuid, HoldsLRP placed.2 placed.1 instanceGuid
  holdsTask : ∀ placed ∈ placedTasks, HoldsTask placed.2 placed.1

/-- Nothing is reserved, and all the work comes back. -/
structure Returned (s : ContainerStore) (work : Work) (result : PerformResult) : Prop where
  store : result.store = s
  lrps : result.failedWork.lrps.Perm work.lrps
  tasks : result.failedWork.tasks = work.tasks

theorem Returned.conserved {result : PerformResult} (h : Returned s work result) :
    Conserved s work result [] [] where
  lrps := h.lrps.symm
  tasks := by
    rw [h.tasks]
    exact List.Perm.refl _
  containers := by
    rw [h.store, map_nil, map_nil, append_nil, append_nil]
  holdsLRP _ hmem := absurd hmem not_mem_nil
  holdsTask _ hmem := absurd hmem not_mem_nil

/-- The work is allocated when the cell has no reason to send it back. -/
theorem perform_allocates {env : PerformEnvironment} (hnamed : s.Named)
    (hguids : ContainerAllocator.Distinct env.lrps.generateInstanceGuid)
    (htasks : (work.tasks.map fun task => task.taskGuid).Nodup) (hcell : ¬ a.Misdirected work)
    (hresources : env.remainingResources = none) (hevacuating : env.evacuating = false) :
    ∃ placedLRPs placedTasks, Conserved s work (a.perform env s work) placedLRPs placedTasks := by
  have hfit := sortByMemory_perm.symm.trans
    (a.fitMemory_perm (Int32.ofInt s.remainingResources.memoryMB) (sortByMemory work.lrps))
  obtain ⟨reservedLRPs, hnamed', hlrps, hlist⟩ :=
    a.allocator.batchLRPAllocationRequest_spec
      hguids hnamed
  -- the tasks are reserved in the store that the LRPs have left
  obtain ⟨reservedTasks, -, htasks', hlist'⟩ :=
    a.allocator.batchTaskAllocationRequest_spec htasks hnamed'
  refine ⟨reservedLRPs.map fun item => (item.1.1, a.lrpContainer item),
    reservedTasks.map fun item => (item.1, a.taskContainer item), ?_⟩
  have hcell' : ¬ (work.cellID ≠ "" ∧ work.cellID ≠ a.cellID) := hcell
  unfold perform
  rw [if_neg hcell', hresources]
  rw [if_neg (by rw [hevacuating]; exact Bool.false_ne_true)]
  refine ⟨?_, ?_, ?_, ?_, ?_⟩
  · rw [map_map]
    exact perm_move_right hfit hlrps
  · rw [map_map]
    exact htasks'
  · rw [map_map, map_map]
    exact hlist'.trans (hlist.append_right _)
  · rintro placed hplaced
    obtain ⟨item, -, rfl⟩ := mem_map.mp hplaced
    exact ⟨_, holdsLRP_lrpContainer⟩
  · rintro placed hplaced
    obtain ⟨item, -, rfl⟩ := mem_map.mp hplaced
    exact holdsTask_taskContainer

/-- **Perform conserves work.**  If the work is for this cell, which is not evacuating, each
LRP and each task has a new container in the store or is in the work that comes back, and that
work has nothing else.  Otherwise nothing is reserved and all the work comes back. -/
theorem perform_conserves (a : AuctionCellRep) (env : PerformEnvironment) (work : Work)
    {config : ContainerConfig} {capacity : ExecutorResources} {s : ContainerStore}
    (hreach : Machine.Reaches ContainerStore.step (fun _ _ => True)
      (newContainerStore config capacity) s)
    (hguids : ContainerAllocator.Distinct env.lrps.generateInstanceGuid)
    (htasks : (work.tasks.map fun task => task.taskGuid).Nodup) :
    (∃ placedLRPs placedTasks, Conserved s work (a.perform env s work) placedLRPs placedTasks) ∧
    (a.Misdirected work ∨ env.evacuating = true → Returned s work (a.perform env s work)) ∧
    (a.Misdirected work → (a.perform env s work).err = some .cellIdMismatch) := by
  have hnamed : s.Named :=
    hreach.invariant ContainerStore.named_new fun _ _ _ h _ hstep => h.step hstep
  have hreturned : a.Misdirected work ∨ env.evacuating = true ∨ env.remainingResources ≠ none →
      Returned s work (a.perform env s work) := by
    unfold perform
    intro h
    split
    · exact ⟨rfl, List.Perm.refl _, rfl⟩
    · rename_i hcell
      split
      · exact ⟨rfl, List.Perm.refl _, rfl⟩
      · rename_i hresources
        rcases h with h | h | h
        · exact absurd h hcell
        · rw [if_pos h]
          exact ⟨rfl, sortByMemory_perm, rfl⟩
        · exact absurd hresources h
  refine ⟨?_, fun h => hreturned (h.imp_right Or.inl), fun h => ?_⟩
  · by_cases hback : a.Misdirected work ∨ env.evacuating = true ∨ env.remainingResources ≠ none
    · exact ⟨[], [], (hreturned hback).conserved⟩
    · simp only [not_or, Bool.not_eq_true, not_not] at hback
      exact perform_allocates hnamed hguids htasks hback.1 hback.2.2 hback.2.1
  · have hcell : work.cellID ≠ "" ∧ work.cellID ≠ a.cellID := h
    unfold perform
    rw [if_pos hcell]

/-- `json.Marshal` of strings that need no escapes; the empty list is a nil slice. -/
def sampleMarshal : List String → String
  | [] => "null"
  | first :: rest =>
    rest.foldl (fun text tag => text ++ ",\"" ++ tag ++ "\"") ("[\"" ++ first ++ "\"") ++ "]"

/-- A cell without stacks, which parses the one URL below. -/
def sampleRep : AuctionCellRep :=
  ⟨"cell", false, 0, ⟨fun _ => some ⟨"preloaded", "stack", ""⟩, sampleMarshal, ∅⟩⟩

def sampleLRP (rootFs : String) (memoryMB : Int32) : SchedulingLRP :=
  { (default : SchedulingLRP) with processGuid := "process", rootFs, memoryMB }

def sampleTask (taskGuid : String) : SchedulingTask :=
  { (default : SchedulingTask) with taskGuid, memoryMB := 512, placementTags := ["tag"] }

/-- The stack of the second LRP is not on the cell, and there is no room for the second task. -/
def sampleWork : Work where
  lrps := [sampleLRP "" 512, sampleLRP "preloaded:stack" 256]
  tasks := [sampleTask "task", sampleTask "other-task"]
  cellID := "cell"

def sampleEnvironment : PerformEnvironment where
  remainingResources := none
  evacuating := false
  lrps := ⟨fun i => if i = 0 then .ok "first" else if i = 1 then .ok "second"
    else .error .guidNotSpecified, fun _ => 0⟩
  tasks _ := 0

theorem distinct_sampleEnvironment :
    ContainerAllocator.Distinct sampleEnvironment.lrps.generateInstanceGuid := by
  intro i j guid hi hj
  simp only [sampleEnvironment] at hi hj
  grind

theorem perform_conserves_sample :
    (∃ placedLRPs placedTasks, Conserved ContainerStore.smallStore sampleWork
      (sampleRep.perform sampleEnvironment ContainerStore.smallStore sampleWork) placedLRPs
      placedTasks) ∧
    (sampleRep.perform sampleEnvironment ContainerStore.smallStore sampleWork).failedWork =
      { lrps := [sampleLRP "preloaded:stack" 256], tasks := [sampleTask "other-task"] } := by
  refine ⟨(perform_conserves sampleRep sampleEnvironment sampleWork .refl
    distinct_sampleEnvironment (by decide)).1, ?_⟩
  have hsort : sortByMemory sampleWork.lrps = sampleWork.lrps :=
    List.mergeSort_of_pairwise (by decide)
  unfold perform
  rw [hsort]
  decide

end AuctionCellRep

end Diego.Rep
