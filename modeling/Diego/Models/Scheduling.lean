import Diego.Models.LRP
import Mathlib.Algebra.Order.Field.Rat

/-!
# The BBS models of the auction

What the auctioneer and the reps exchange: resources and placement constraints, the LRPs
and tasks to be scheduled, the work of a cell and the state a cell reports
(`bbs/models/scheduling_types.go`, `bbs/models/rootfs_providers.go`).

An `int32` of the source is an `Int32`, so sums wrap around as they do there; an `int` is
an `Int`.  Scores are `float64`s: the functions that compute them are written over any type
with the operations of `Float64`, none of which is assumed to obey a law.  `url.Parse` is a
parameter.
-/

namespace Diego.Models

/-- The operations on `float64` that scores use. -/
class Float64 (F : Type) where
  ofInt : Int → F
  add : F → F → F
  sub : F → F → F
  mul : F → F → F
  div : F → F → F
  lt : F → F → Bool

namespace Float64

instance : Float64 Float where
  ofInt := Float.ofInt
  add := Float.add
  sub := Float.sub
  mul := Float.mul
  div := Float.div
  lt a b := decide (a < b)

/-- Exact scores, which can be evaluated in a proof. -/
instance : Float64 ℚ where
  ofInt n := n
  add a b := a + b
  sub a b := a - b
  mul a b := a * b
  div a b := a / b
  lt a b := decide (a < b)

end Float64

/-! ## Resources and constraints -/

structure Resource where
  memoryMB : Int32
  diskMB : Int32
  maxPids : Int32
  deriving DecidableEq, Inhabited

def Resource.valid (r : Resource) : Bool :=
  r.diskMB ≥ 0 && r.memoryMB ≥ 0

theorem Resource.valid_iff {r : Resource} : r.valid ↔ 0 ≤ r.diskMB ∧ 0 ≤ r.memoryMB := by
  simp [Resource.valid]

structure Resources where
  memoryMB : Int32
  diskMB : Int32
  containers : Int
  deriving DecidableEq, Inhabited

namespace Resources

def subtract (r : Resources) (res : Resource) : Resources where
  memoryMB := r.memoryMB - res.memoryMB
  diskMB := r.diskMB - res.diskMB
  containers := r.containers - 1

section Score

variable {F : Type} [Float64 F]

def fractionUsed (available total : Int) : F :=
  Float64.sub (Float64.ofInt 1) (Float64.div (Float64.ofInt available) (Float64.ofInt total))

def computeScore (r total : Resources) : F :=
  let fractionUsedMemory := fractionUsed r.memoryMB.toInt total.memoryMB.toInt
  let fractionUsedDisk := fractionUsed r.diskMB.toInt total.diskMB.toInt
  let fractionUsedContainers := fractionUsed r.containers total.containers
  Float64.div
    (Float64.add (Float64.add fractionUsedMemory fractionUsedDisk) fractionUsedContainers)
    (Float64.ofInt 3)

end Score

end Resources

structure PlacementConstraint where
  placementTags : List String
  volumeDrivers : List String
  rootFs : String
  deriving DecidableEq, Inhabited

/-! ## LRPs, tasks and work -/

structure SchedulingLRP extends ActualLRPKey, PlacementConstraint, Resource where
  instanceGUID : String
  state : String
  deriving DecidableEq, Inhabited

namespace SchedulingLRP

def identifier (lrp : SchedulingLRP) : String :=
  lrp.processGuid ++ "." ++ toString lrp.index

/-- A copy goes through `NewSchedulingLRP`, which does not take a state. -/
def copy (lrp : SchedulingLRP) : SchedulingLRP :=
  { lrp with state := "" }

end SchedulingLRP

structure SchedulingTask extends PlacementConstraint, Resource where
  taskGuid : String
  domain : String
  deriving DecidableEq, Inhabited

namespace SchedulingTask

def identifier (task : SchedulingTask) : String :=
  task.taskGuid

def copy (task : SchedulingTask) : SchedulingTask :=
  task

end SchedulingTask

structure LRPStartRequest extends PlacementConstraint, Resource where
  processGuid : String
  domain : String
  indices : List Int
  deriving DecidableEq, Inhabited

structure TaskStartRequest where
  task : SchedulingTask
  deriving DecidableEq, Inhabited

structure Work where
  lrps : List SchedulingLRP := []
  tasks : List SchedulingTask := []
  cellID : String := ""
  deriving DecidableEq, Inhabited

/-- The `Problems` of an `InsufficientResourcesError`, whose keys are only ever these. -/
structure InsufficientResourcesError where
  containers : Bool
  disk : Bool
  memory : Bool
  deriving DecidableEq, Inhabited

namespace InsufficientResourcesError

/-- The keys of `Problems`, in the order in which the message lists them. -/
def problems (err : InsufficientResourcesError) : List String :=
  (if err.containers then ["containers"] else []) ++
    (if err.disk then ["disk"] else []) ++
    (if err.memory then ["memory"] else [])

def error (err : InsufficientResourcesError) : String :=
  if err.problems.isEmpty then "insufficient resources"
  else "insufficient resources: " ++ ", ".intercalate err.problems

end InsufficientResourcesError

/-! ## Cells -/

/-- What the rootfs providers read of a URL: its scheme and its opaque part. -/
structure RootFSURL where
  scheme : String
  body : String
  deriving DecidableEq, Inhabited

inductive RootFSProvider
  | arbitrary
  | fixedSet (rootfses : List String)
  deriving DecidableEq, Inhabited

def RootFSProvider.matches (provider : RootFSProvider) (url : RootFSURL) : Bool :=
  match provider with
  | .arbitrary => true
  | .fixedSet rootfses => rootfses.contains url.body

structure CellState where
  cellIndex : Int
  rootFSProviders : GoMap String RootFSProvider
  availableResources : Resources
  totalResources : Resources
  lrps : List SchedulingLRP
  tasks : List SchedulingTask
  startingContainerCount : Int
  volumeDrivers : List String
  placementTags : List String
  optionalPlacementTags : List String
  proxyMemoryAllocationMB : Int

namespace CellState

def addLRP (c : CellState) (lrp : SchedulingLRP) : CellState :=
  { c with
    availableResources := c.availableResources.subtract lrp.toResource
    startingContainerCount := c.startingContainerCount + 1
    lrps := c.lrps ++ [lrp] }

def addTask (c : CellState) (task : SchedulingTask) : CellState :=
  { c with
    availableResources := c.availableResources.subtract task.toResource
    startingContainerCount := c.startingContainerCount + 1
    tasks := c.tasks ++ [task] }

def resourceMatch (c : CellState) (res : Resource) : Except InsufficientResourcesError Unit :=
  let problems : InsufficientResourcesError :=
    { disk := c.availableResources.diskMB < res.diskMB
      memory := c.availableResources.memoryMB < res.memoryMB
      containers := c.availableResources.containers < 1 }
  if problems.problems.isEmpty then .ok () else .error problems

def computeScore {F : Type} [Float64 F] (c : CellState) (res : Resource)
    (startingContainerWeight : F) : F :=
  let remainingResources := c.availableResources.subtract res
  let startingContainerScore :=
    Float64.mul (Float64.ofInt c.startingContainerCount) startingContainerWeight
  Float64.add (remainingResources.computeScore c.totalResources) startingContainerScore

def matchRootFS (parse : String → Option RootFSURL) (c : CellState) (rootfs : String) : Bool :=
  match parse rootfs with
  | none => false
  | some url =>
    match c.rootFSProviders.lookup url.scheme with
    | none => false
    | some provider => provider.matches url

def matchVolumeDrivers (c : CellState) (volumeDrivers : List String) : Bool :=
  volumeDrivers.all fun requestedDriver => c.volumeDrivers.contains requestedDriver

def matchPlacementTags (c : CellState) (desiredPlacementTags : List String) : Bool :=
  let allTags := c.placementTags ++ c.optionalPlacementTags
  c.placementTags.all desiredPlacementTags.contains && desiredPlacementTags.all allTags.contains

theorem resourceMatch_eq_ok_iff {c : CellState} {res : Resource} :
    c.resourceMatch res = .ok () ↔ res.diskMB ≤ c.availableResources.diskMB ∧
      res.memoryMB ≤ c.availableResources.memoryMB ∧ 1 ≤ c.availableResources.containers := by
  unfold resourceMatch
  simp only [InsufficientResourcesError.problems]
  split <;> simp_all [Int32.not_lt]

end CellState

end Diego.Models
