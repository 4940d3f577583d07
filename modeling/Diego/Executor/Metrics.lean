import Diego.Executor.Container
import Diego.Machine
import Mathlib.Algebra.Ring.Int.Defs

/-!
# The disk metrics of containers

`Metrics` of `depot/containerstore/containerstore.go` reports the disk usage and the disk
limit of the created and running containers.  Both numbers come from garden with the root
file system in them, and `Metrics` takes its size off again.

The limit was made in `createGardenContainer` of `storenode.go`, which adds the size of the
root file system only when there is a limit at all.  Everything is computed in `uint64`.
-/

namespace Diego.Executor

open List Option

/-! ## The model -/

/-- The parts of a store node that the limits and the metrics of a container depend on. -/
structure MeteredContainer where
  guid : String
  memoryMB : Int64
  diskMB : Int64
  rootFSPath : String := ""
  state : State := .reserved
  memoryLimit : UInt64 := 0
  diskLimit : UInt64 := 0
  /-- Whether `gardenContainer` is set. -/
  gardenContainer : Bool := false

/-- `RootFSSizeFromPath`. -/
abbrev RootFSSizer := String → UInt64

def diskLimitBytesHard (sizer : RootFSSizer) (info : MeteredContainer) : UInt64 :=
  let diskLimitBytesHard := info.diskMB.toUInt64 * 1024 * 1024
  if diskLimitBytesHard ≠ 0 then diskLimitBytesHard + sizer info.rootFSPath
  else diskLimitBytesHard

/-- What can happen to a container in the store. -/
inductive ContainerAction
  | nodeInitialize (rootFSPath : String)
  /-- `Create`, when everything it calls succeeds. -/
  | create
  /-- The process of the container is healthy. -/
  | markRunning
  | complete

def MeteredContainer.step (sizer : RootFSSizer) (info : MeteredContainer) :
    ContainerAction → Option MeteredContainer
  | .nodeInitialize rootFSPath =>
    if info.state.validateTransitionTo .initializing then
      some { info with state := .initializing, rootFSPath := rootFSPath }
    else none
  | .create =>
    if info.state.validateTransitionTo .created then
      some { info with
        state := .created
        gardenContainer := true
        memoryLimit := (info.memoryMB * 1024 * 1024).toUInt64
        diskLimit := diskLimitBytesHard sizer info }
    else none
  | .markRunning => if info.gardenContainer then some { info with state := .running } else none
  | .complete => some { info with state := .completed }

inductive MeteredAction
  | reserve (guid : String) (memoryMB diskMB : Int64)
  | change (guid : String) (action : ContainerAction)
  /-- The container is destroyed and leaves the store. -/
  | remove (guid : String)

abbrev MeteredStore := GoMap String MeteredContainer

def meteredStep (sizer : RootFSSizer) : MeteredAction → MeteredStore → Option MeteredStore
  | .reserve guid memoryMB diskMB, store =>
    if guid ∈ store then none
    else some (store.insert guid { guid := guid, memoryMB := memoryMB, diskMB := diskMB })
  | .change guid action, store =>
    (store.lookup guid).bind fun info =>
      (info.step sizer action).map fun info => store.insert guid info
  | .remove guid, store => some (store.erase guid)

/-- What garden reports about a container. -/
structure GardenMetrics where
  totalUsageTowardLimit : UInt64
  totalBytesUsed : UInt64
  cpuUsage : UInt64
  cpuEntitlement : UInt64
  age : Int64
  /-- The received and sent bytes. -/
  networkStat : Option (UInt64 × UInt64)

structure ContainerMetrics where
  memoryUsageInBytes : UInt64
  diskUsageInBytes : UInt64
  memoryLimitInBytes : UInt64
  diskLimitInBytes : UInt64
  timeSpentInCPU : Int64
  containerAgeInNanoseconds : UInt64
  absoluteCPUEntitlementInNanoseconds : UInt64
  rxInBytes : Option UInt64
  txInBytes : Option UInt64

def containerMetrics (sizer : RootFSSizer) (nodeInfo : MeteredContainer)
    (gardenMetric : GardenMetrics) : ContainerMetrics :=
  let rootFSSize := sizer nodeInfo.rootFSPath
  { memoryUsageInBytes := gardenMetric.totalUsageTowardLimit
    diskUsageInBytes := gardenMetric.totalBytesUsed - rootFSSize
    memoryLimitInBytes := nodeInfo.memoryLimit
    diskLimitInBytes := nodeInfo.diskLimit - rootFSSize
    timeSpentInCPU := gardenMetric.cpuUsage.toInt64
    containerAgeInNanoseconds := gardenMetric.age.toUInt64
    absoluteCPUEntitlementInNanoseconds := gardenMetric.cpuEntitlement
    rxInBytes := gardenMetric.networkStat.map Prod.fst
    txInBytes := gardenMetric.networkStat.map Prod.snd }

/-- The containers that have metrics. -/
def MeteredContainer.metered (info : MeteredContainer) : Bool :=
  info.state = .running || info.state = .created

/-- The answer of `BulkMetrics`: an entry for each container, which may be an error. -/
abbrev BulkMetrics := GoMap String (Except GoString GardenMetrics)

/-- The guids that `Metrics` asks garden about. -/
def containerGuids (store : MeteredStore) : List String :=
  (store.values.filter MeteredContainer.metered).map MeteredContainer.guid

/-- `Metrics` of the store, with the garden client's `BulkMetrics`. -/
def metrics (sizer : RootFSSizer) (bulkMetrics : List String → Except GoString BulkMetrics)
    (store : MeteredStore) : Except GoString (GoMap String ContainerMetrics) := do
  let nodes := store.values.filter MeteredContainer.metered
  let nodeInfoMap := GoMap.ofPairs (nodes.map fun nodeInfo => (nodeInfo.guid, nodeInfo))
  let gardenMetrics ← bulkMetrics (containerGuids store)
  return GoMap.ofPairs (nodeInfoMap.entries.filterMap fun entry =>
    match gardenMetrics.lookup entry.1 with
    | some (.ok gardenMetric) => some (entry.1, containerMetrics sizer entry.2 gardenMetric)
    | _ => none)

/-! ## The containers in the store -/

/-- What holds of every container in the store. -/
structure Limited (sizer : RootFSSizer) (guid : String) (info : MeteredContainer) : Prop where
  guid : info.guid = guid
  limit : info.gardenContainer = true → info.diskLimit = diskLimitBytesHard sizer info
  -- the root file system is set while the container is reserved, and never again
  begun : info.gardenContainer = true → info.state ≠ .reserved
  made : info.metered = true → info.gardenContainer = true

def AllLimited (sizer : RootFSSizer) (store : MeteredStore) : Prop :=
  ∀ guid info, store.lookup guid = some info → Limited sizer guid info

variable {sizer : RootFSSizer} {store next : MeteredStore} {guid : String}
  {info info' : MeteredContainer}

theorem Limited.step (h : Limited sizer guid info) {action : ContainerAction}
    (hstep : info.step sizer action = some info') : Limited sizer guid info' := by
  cases action with
  | nodeInitialize rootFSPath =>
    obtain ⟨hvalid, ⟨⟩⟩ := ite_none_right_eq_some.mp hstep
    have hreserved : info.state = .reserved := by
      revert hvalid
      cases info.state <;> simp [State.validateTransitionTo]
    exact ⟨h.guid, fun hmade => absurd hreserved (h.begun hmade), nofun, nofun⟩
  | create =>
    obtain ⟨-, ⟨⟩⟩ := ite_none_right_eq_some.mp hstep
    exact ⟨h.guid, fun _ => rfl, nofun, fun _ => rfl⟩
  | markRunning =>
    obtain ⟨hmade, ⟨⟩⟩ := ite_none_right_eq_some.mp hstep
    exact ⟨h.guid, h.limit, nofun, fun _ => hmade⟩
  | complete =>
    cases hstep
    exact ⟨h.guid, h.limit, nofun, nofun⟩

theorem AllLimited.insert (h : AllLimited sizer store) (hinfo : Limited sizer guid info) :
    AllLimited sizer (store.insert guid info) := by
  intro guid' info' hlookup
  rw [GoMap.lookup_insert_ite] at hlookup
  split at hlookup
  · rename_i heq
    cases hlookup
    rw [heq]
    exact hinfo
  · exact h guid' info' hlookup

theorem AllLimited.step (h : AllLimited sizer store) {action : MeteredAction}
    (hstep : meteredStep sizer action store = some next) : AllLimited sizer next := by
  cases action with
  | reserve guid memoryMB diskMB =>
    obtain ⟨-, ⟨⟩⟩ := ite_none_left_eq_some.mp hstep
    exact h.insert ⟨rfl, nofun, nofun, nofun⟩
  | change guid action =>
    obtain ⟨info, hlookup, hmap⟩ := bind_eq_some_iff.mp hstep
    obtain ⟨info', hinfo', rfl⟩ := map_eq_some_iff.mp hmap
    exact h.insert ((h guid info hlookup).step hinfo')
  | remove guid =>
    cases hstep
    exact fun guid' info hlookup => h guid' info (GoMap.lookup_erase_eq_some.mp hlookup).2

/-- A container that is created or running, and that garden reports about, has its entry. -/
theorem AllLimited.lookup_metrics (h : AllLimited sizer store)
    {bulkMetrics : List String → Except GoString BulkMetrics} {gardenMetrics : BulkMetrics}
    (hbulk : bulkMetrics (containerGuids store) = .ok gardenMetrics)
    (hlookup : store.lookup guid = some info) (hmetered : info.metered = true)
    {gardenMetric : GardenMetrics} (hentry : gardenMetrics.lookup guid = some (.ok gardenMetric)) :
    ∃ result, metrics sizer bulkMetrics store = .ok result ∧
      result.lookup guid = some (containerMetrics sizer info gardenMetric) := by
  have hguid := (h guid info hlookup).guid
  have hnode : (GoMap.ofPairs ((store.values.filter MeteredContainer.metered).map
      fun nodeInfo => (nodeInfo.guid, nodeInfo))).lookup guid = some info := by
    refine GoMap.lookup_ofPairs_of_unique (mem_map.mpr ⟨info, mem_filter.mpr
      ⟨GoMap.mem_values.mpr ⟨guid, hlookup⟩, hmetered⟩, by rw [hguid]⟩) ?_
    intro other hother
    obtain ⟨nodeInfo, hmem, heq⟩ := mem_map.mp hother
    obtain ⟨rfl, rfl⟩ := Prod.mk.inj heq
    -- containers with one guid are filed under it
    obtain ⟨guid', hlookup'⟩ := GoMap.mem_values.mp (mem_of_mem_filter hmem)
    rw [(h guid' nodeInfo hlookup').guid, hlookup'] at hlookup
    exact some.inj hlookup
  refine ⟨_, by simp only [metrics, hbulk]; rfl, GoMap.lookup_ofPairs_of_unique ?_ ?_⟩
  · refine mem_filterMap.mpr ⟨⟨guid, info⟩, GoMap.mem_entries_iff.mpr hnode, ?_⟩
    simp only [hentry]
  · intro other hother
    obtain ⟨⟨guid', nodeInfo⟩, hmem, heq⟩ := mem_filterMap.mp hother
    have hfound := GoMap.mem_entries_iff.mp hmem
    split at heq
    · rename_i found hreport
      obtain ⟨rfl, rfl⟩ := Prod.mk.inj (some.inj heq)
      cases hentry.symm.trans hreport
      cases hnode.symm.trans hfound
      rfl
    · cases heq

/-! ## The numbers -/

/-- A difference of unsigned numbers is right unless it is negative. -/
theorem toNat_sub_iff (used size : UInt64) :
    (used - size).toNat = used.toNat - size.toNat ↔ size ≤ used := by
  refine ⟨fun h => ?_, UInt64.toNat_sub_of_le _ _⟩
  have hsize := size.toNat_lt
  rw [UInt64.toNat_sub] at h
  rw [UInt64.le_iff_toNat_le]
  omega

/-- The reported limit is right for a limit that fits into a `uint64`, and for no limit if the
root file system is empty. -/
theorem diskLimit_sub_iff (hdisk : 0 ≤ info.diskMB) :
    (diskLimitBytesHard sizer info - sizer info.rootFSPath).toNat =
        info.diskMB.toInt.toNat * 1024 * 1024 ↔
      info.diskMB.toInt < 2 ^ 44 ∧ (info.diskMB.toInt = 0 → sizer info.rootFSPath = 0) := by
  have hint : 0 ≤ info.diskMB.toInt := Int64.le_iff_toInt_le.mp hdisk
  have hbytes : (info.diskMB.toUInt64 * 1024 * 1024).toNat =
      info.diskMB.toInt.toNat * 1024 * 1024 % 2 ^ 64 := by
    rw [UInt64.toNat_mul, UInt64.toNat_mul, Int64.toNat_toUInt64_of_le hdisk, Nat.mod_mul_mod]
    rfl
  unfold diskLimitBytesHard
  dsimp only
  generalize sizer info.rootFSPath = size
  have hsize := size.toNat_lt
  have hempty : size = 0 ↔ size.toNat = 0 := UInt64.toNat_inj.symm
  rw [hempty]
  split
  · rename_i hlimit
    rw [ne_eq, ← UInt64.toNat_inj, UInt64.toNat_zero] at hlimit
    rw [UInt64.add_sub_cancel]
    omega
  · -- the container has no limit, or one that is a multiple of 2^64
    rename_i hlimit
    rw [not_not.mp hlimit, UInt64.toNat_zero] at hbytes
    rw [not_not.mp hlimit, UInt64.toNat_sub, UInt64.toNat_zero]
    omega

/-- The disk numbers of an entry are those of the container, with a root file system of
some size. -/
structure DiskRight (info : MeteredContainer) (rootFSSize : UInt64) (gardenMetric : GardenMetrics)
    (entry : ContainerMetrics) : Prop where
  limit : entry.diskLimitInBytes.toNat = info.diskMB.toInt.toNat * 1024 * 1024
  usage : entry.diskUsageInBytes.toNat = gardenMetric.totalBytesUsed.toNat - rootFSSize.toNat

/-- **When the disk metrics of a container are right**: its limit in bytes fits into 64 bits,
without a limit its root file system has no size, and garden reports at least the size of the
root file system as used. -/
theorem metrics_disk_right_iff {actions : List MeteredAction}
    (hrun : Machine.run (meteredStep sizer) ∅ actions = some store)
    {bulkMetrics : List String → Except GoString BulkMetrics} {gardenMetrics : BulkMetrics}
    (hbulk : bulkMetrics (containerGuids store) = .ok gardenMetrics)
    (hlookup : store.lookup guid = some info)
    (hstate : info.state = .running ∨ info.state = .created) (hdisk : 0 ≤ info.diskMB)
    {gardenMetric : GardenMetrics} (hentry : gardenMetrics.lookup guid = some (.ok gardenMetric)) :
    ∃ result entry, metrics sizer bulkMetrics store = .ok result ∧
      result.lookup guid = some entry ∧
      (DiskRight info (sizer info.rootFSPath) gardenMetric entry ↔
        info.diskMB.toInt < 2 ^ 44 ∧ (info.diskMB.toInt = 0 → sizer info.rootFSPath = 0) ∧
          sizer info.rootFSPath ≤ gardenMetric.totalBytesUsed) := by
  have hlimited : AllLimited sizer store :=
    Machine.run_invariant (fun _ _ hnone => by simp at hnone) (fun _ _ _ _ h => h.step) hrun
  have hmetered : info.metered = true := by simpa [MeteredContainer.metered] using hstate
  obtain ⟨result, hresult, hfound⟩ := hlimited.lookup_metrics hbulk hlookup hmetered hentry
  refine ⟨result, _, hresult, hfound, ?_⟩
  have hinfo := hlimited guid info hlookup
  have hlimit := @diskLimit_sub_iff sizer info hdisk
  rw [← hinfo.limit (hinfo.made hmetered)] at hlimit
  rw [← and_assoc, ← hlimit, ← toNat_sub_iff]
  exact ⟨fun h => ⟨h.limit, h.usage⟩, fun h => ⟨h.1, h.2⟩⟩

/-- The steps to a created container, which has a root file system. -/
def createdSteps (diskMB : Int64) : List MeteredAction :=
  [.reserve "app" 1 diskMB, .change "app" (.nodeInitialize "rootfs"), .change "app" .create]

/-- A garden with one container, which uses some bytes. -/
def gardenUsing (bytes : UInt64) (_ : List String) : Except GoString BulkMetrics :=
  .ok ((∅ : BulkMetrics).insert "app" (.ok ⟨0, bytes, 0, 0, 0, none⟩))

theorem metrics_disk_right_sample : ∃ store result entry,
    Machine.run (meteredStep fun _ => 100) ∅ (createdSteps 2) = some store ∧
      metrics (fun _ => 100) (gardenUsing 150) store = .ok result ∧
      result.lookup "app" = some entry ∧ entry.diskLimitInBytes.toNat = 2097152 ∧
      entry.diskUsageInBytes.toNat = 50 := by
  obtain ⟨store, hrun, info, hlookup, hstate, hdisk⟩ : ∃ store,
      Machine.run (meteredStep fun _ => 100) ∅ (createdSteps 2) = some store ∧
      ∃ info, store.lookup "app" = some info ∧ info.state = .created ∧ info.diskMB = 2 :=
    ⟨_, rfl, _, rfl, rfl, rfl⟩
  have hbulk : gardenUsing 150 (containerGuids store) = .ok _ := rfl
  obtain ⟨result, entry, hresult, hfound, hright⟩ := metrics_disk_right_iff hrun hbulk hlookup
    (Or.inr hstate) (by rw [hdisk]; decide) (AList.lookup_insert _)
  rw [hdisk] at hright
  obtain ⟨hlimit, husage⟩ := hright.mpr ⟨by decide, by decide, by decide⟩
  rw [hdisk] at hlimit
  exact ⟨store, result, entry, hrun, hresult, hfound, hlimit, husage⟩

/-- A container without a disk limit is reported with a limit just below 2^64, and one that
uses less than its root file system with a usage just below 2^64. -/
theorem metrics_disk_wraps : ∃ store result entry,
    Machine.run (meteredStep fun _ => 100) ∅ (createdSteps 0) = some store ∧
      metrics (fun _ => 100) (gardenUsing 50) store = .ok result ∧
      result.lookup "app" = some entry ∧ entry.diskLimitInBytes.toNat = UInt64.size - 100 ∧
      entry.diskUsageInBytes.toNat = UInt64.size - 50 :=
  ⟨_, _, _, rfl, rfl, rfl, rfl, rfl⟩

end Diego.Executor
