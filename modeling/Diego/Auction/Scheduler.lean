import Diego.Auction.Cell
import Diego.Ledger
import Mathlib.Data.List.Sort
import Mathlib.Data.Prod.Lex

/-!
# The scheduler

`auction/auctionrunner/scheduler.go`, with `zone_sorter.go` and `sortable_auctions.go`.

Zones hold pointers to cells, so cells live in a heap and a zone is a list of references.
The maps of successful auctions and of all auctions seen, and the list of the failed ones,
form a `Ledger`, one for LRPs and one for tasks.

What the source leaves open is a `Runtime`: the order in which a `range` over the zones
visits them, once per auction; the order into which an unstable sort puts equal elements;
the order in which the cells' commits finish; and what the reps answer.  The order of a
result list that is collected from a map is that of the map's entries.
-/

namespace Diego.Auction

open Models

abbrev CellRef := Nat

abbrev Zone := List CellRef

abbrev Heap := CellRef → Cell

/-! ## Sorting -/

/-- A way to sort by `less` that need not be stable. -/
structure Sorting {α : Type} (less : α → α → Bool) where
  sort : List α → List α
  perm : ∀ l, (sort l).Perm l
  sorted : ∀ l, (sort l).Pairwise fun a b => less b a = false

/-- Insertion sort, where `less` compares by a key. -/
def Sorting.insertion {α β : Type} [LinearOrder β] (less : α → α → Bool) (key : α → β)
    (hless : ∀ a b, less a b = decide (key a < key b)) : Sorting less where
  sort := List.insertionSort fun a b => less b a = false
  perm := List.perm_insertionSort _
  sorted l := by
    have htotal : Std.Total fun a b => less b a = false :=
      ⟨fun a b => by simpa [hless] using le_total (key a) (key b)⟩
    have htrans : IsTrans α fun a b => less b a = false :=
      ⟨fun a b c => by simpa [hless] using le_trans⟩
    exact List.pairwise_insertionSort _ l

structure LRPByZone where
  zone : Zone
  instances : Nat

def lessLRPAuction (a b : LRPAuction) : Bool :=
  if a.index = b.index then a.memoryMB > b.memoryMB else a.index < b.index

def lessTaskAuction (a b : TaskAuction) : Bool :=
  a.memoryMB > b.memoryMB

def lessZone (a b : LRPByZone) : Bool :=
  a.instances < b.instances

structure Runtime where
  parse : String → Option RootFSURL
  rangeForLRP : String → List Zone → List Zone
  rangeForLRP_perm : ∀ identifier zones, (rangeForLRP identifier zones).Perm zones
  rangeForTask : String → List Zone → List Zone
  rangeForTask_perm : ∀ identifier zones, (rangeForTask identifier zones).Perm zones
  sortLRPs : Sorting lessLRPAuction
  sortTasks : Sorting lessTaskAuction
  sortZones : Sorting lessZone
  commitOrder : List CellRef → List CellRef
  commitOrder_perm : ∀ refs, (commitOrder refs).Perm refs
  perform : CellRef → Work → Option Work
  now : Int

/-- The runtime that keeps every order it is given. -/
def Runtime.inOrder (parse : String → Option RootFSURL)
    (perform : CellRef → Work → Option Work) (now : Int) : Runtime where
  parse
  rangeForLRP _ zones := zones
  rangeForLRP_perm _ zones := List.Perm.refl zones
  rangeForTask _ zones := zones
  rangeForTask_perm _ zones := List.Perm.refl zones
  sortLRPs := .insertion lessLRPAuction (fun a => toLex (a.index, -a.memoryMB.toInt)) <| by
    intro a b
    unfold lessLRPAuction
    split
    · rename_i heq
      simp [Prod.Lex.toLex_lt_toLex, heq, Int32.lt_iff_toInt_lt]
    · rename_i hne
      simp [Prod.Lex.toLex_lt_toLex, hne]
  sortTasks := .insertion lessTaskAuction (fun a => -a.memoryMB.toInt) <| by
    intro a b
    simp [lessTaskAuction, Int32.lt_iff_toInt_lt]
  sortZones := .insertion lessZone LRPByZone.instances fun _ _ => rfl
  commitOrder refs := refs
  commitOrder_perm refs := List.Perm.refl refs
  perform
  now

/-- No cell is in two zones or twice in one. -/
structure Scheduler (F : Type) where
  zones : GoMap String Zone
  zones_nodup : zones.values.flatten.Nodup
  binPackFirstFitWeight : F
  startingContainerWeight : F
  startingContainerCountMaximum : Int

/-! ## Filtering -/

def filterCell (parse : String → Option RootFSURL) (cells : Heap) (pc : PlacementConstraint)
    (found : List CellRef × Option PlacementError) (ref : CellRef) :
    List CellRef × Option PlacementError :=
  let state := (cells ref).state
  if state.matchRootFS parse pc.rootFs then
    let err := if found.2 = some .cellMismatch then some .volumeDriverMismatch else found.2
    if state.matchVolumeDrivers pc.volumeDrivers then
      let err := if err = some .volumeDriverMismatch
        then some (.placementTagMismatch pc.placementTags) else err
      if state.matchPlacementTags pc.placementTags then (found.1 ++ [ref], none)
      else (found.1, err)
    else (found.1, err)
  else found

def filterCells (parse : String → Option RootFSURL) (cells : Heap) (zone : Zone)
    (pc : PlacementConstraint) : Except PlacementError (List CellRef) :=
  match zone.foldl (filterCell parse cells pc) ([], some .cellMismatch) with
  | (matching, none) => .ok matching
  | (_, some err) => .error err

/-- The error that is kept of two zones. -/
def combineZoneError (zoneError : Option PlacementError) (err : PlacementError) : PlacementError :=
  match zoneError, err with
  | none, _ => err
  | some .cellMismatch, _ => err
  | some (.placementTagMismatch _), _ => err
  | some .volumeDriverMismatch, .placementTagMismatch _ => err
  | some zoneError, _ => zoneError

/-- The loop that filters the zones of an LRP (`filterZones`) and of a task. -/
def filterZonesBy {Z : Type} (filter : Z → Except PlacementError Z) :
    List Z → List Z → Option PlacementError → Except PlacementError (List Z)
  | [], [], some zoneError => .error zoneError
  | [], filteredZones, _ => .ok filteredZones
  | zone :: zones, filteredZones, zoneError =>
    match filter zone with
    | .error err => filterZonesBy filter zones filteredZones (combineZoneError zoneError err)
    | .ok zone => filterZonesBy filter zones (filteredZones ++ [zone]) zoneError

def filterZones (parse : String → Option RootFSURL) (cells : Heap) (zones : List LRPByZone)
    (lrpAuction : LRPAuction) : Except PlacementError (List LRPByZone) :=
  let filter (lrpZone : LRPByZone) : Except PlacementError LRPByZone := do
    let cells ← filterCells parse cells lrpZone.zone lrpAuction.toPlacementConstraint
    return { zone := cells, instances := lrpZone.instances }
  filterZonesBy filter zones [] none

def accumulateZonesByInstances (cells : Heap) (zones : List Zone) (processGuid : String) :
    List LRPByZone :=
  zones.map fun zone =>
    { zone, instances := (zone.map fun ref => (cells ref).instances processGuid).sum }

/-! ## Choosing a cell -/

section Bid

variable {F : Type}

/-- The best cell so far, and the problems that every cell without room had. -/
structure Bid (F : Type) where
  winnerCell : Option CellRef
  winnerScore : F
  problems : InsufficientResourcesError

def removeNonApplicableProblems (problems err : InsufficientResourcesError) :
    InsufficientResourcesError where
  containers := problems.containers && err.containers
  disk := problems.disk && err.disk
  memory := problems.memory && err.memory

variable [Float64 F]

def Bid.start : Bid F where
  winnerCell := none
  winnerScore := Float64.ofInt (10 ^ 20)
  problems := { containers := true, disk := true, memory := true }

def Bid.offer (score : CellRef → Except InsufficientResourcesError F) (bid : Bid F)
    (ref : CellRef) : Bid F :=
  match score ref with
  | .error err => { bid with problems := removeNonApplicableProblems bid.problems err }
  | .ok score =>
    if Float64.lt score bid.winnerScore then
      { bid with winnerCell := some ref, winnerScore := score }
    else bid

/-- The zones in order.  The search ends behind a zone in which, or before which, a cell
was found, unless the next zone has as many instances. -/
def Bid.zones (score : CellRef → Except InsufficientResourcesError F) :
    List LRPByZone → Bid F → Bid F
  | [], bid => bid
  | lrpByZone :: sortedZones, bid =>
    let bid := lrpByZone.zone.foldl (Bid.offer score) bid
    if sortedZones.head?.any (fun next => lrpByZone.instances = next.instances) then
      Bid.zones score sortedZones bid
    else if bid.winnerCell.isSome then bid
    else Bid.zones score sortedZones bid

/-- The winner and the heap in which the work is reserved on it. -/
def Bid.award (cells : Heap) (reserve : Cell → Except InsufficientResourcesError Cell)
    (bid : Bid F) : Except PlacementError (CellRef × Heap) :=
  match bid.winnerCell with
  | none => .error (.insufficientResources bid.problems)
  | some winnerCell =>
    match reserve (cells winnerCell) with
    | .error err => .error (.insufficientResources err)
    | .ok cell => .ok (winnerCell, Function.update cells winnerCell cell)

end Bid

/-! ## Scheduling -/

namespace Scheduler

variable {F : Type} [Float64 F]

/-- Every cell of every zone. -/
def refs (s : Scheduler F) : List CellRef :=
  s.zones.values.flatten

def scheduleLRPAuction (s : Scheduler F) (runtime : Runtime) (cells : Heap)
    (lrpAuction : LRPAuction) : Except PlacementError (LRPAuction × Heap) := do
  let zones := accumulateZonesByInstances cells
    (runtime.rangeForLRP lrpAuction.identifier s.zones.values) lrpAuction.processGuid
  let filteredZones ← filterZones runtime.parse cells zones lrpAuction
  let sortedZones := runtime.sortZones.sort filteredZones
  let bid := Bid.zones (fun ref => (cells ref).scoreForLRP lrpAuction.toSchedulingLRP
    s.startingContainerWeight s.binPackFirstFitWeight) sortedZones Bid.start
  let (winnerCell, cells') ←
    bid.award cells fun cell => cell.reserveLRP lrpAuction.toSchedulingLRP
  return ({ lrpAuction.copy with winner := (cells winnerCell).guid }, cells')

def scheduleTaskAuction (s : Scheduler F) (runtime : Runtime) (cells : Heap)
    (taskAuction : TaskAuction) : Except PlacementError (TaskAuction × Heap) := do
  let zones := runtime.rangeForTask taskAuction.identifier s.zones.values
  let filteredZones ← filterZonesBy
    (fun zone => filterCells runtime.parse cells zone taskAuction.toPlacementConstraint)
    zones [] none
  let bid := filteredZones.flatten.foldl (Bid.offer fun ref =>
    (cells ref).scoreForTask taskAuction.toSchedulingTask s.startingContainerWeight) Bid.start
  let (winnerCell, cells') ←
    bid.award cells fun cell => cell.reserveTask taskAuction.toSchedulingTask
  return ({ taskAuction.copy with winner := (cells winnerCell).guid }, cells')

def exceededInflightContainerCreation (s : Scheduler F) (currentInflight : Int) : Bool :=
  s.startingContainerCountMaximum > 0 && currentInflight ≥ s.startingContainerCountMaximum

end Scheduler

/-- The variables of `Schedule`. -/
structure Round where
  cells : Heap
  currentInflightContainerStarts : Int
  lrps : Ledger String LRPAuction
  tasks : Ledger String TaskAuction

namespace Round

def failLRP (round : Round) (lrpAuction : LRPAuction) (err : PlacementError) : Round :=
  { round with
    lrps := round.lrps.fail lrpAuction.identifier
      { lrpAuction with placementError := err.error } }

def failTask (round : Round) (taskAuction : TaskAuction) (err : PlacementError) : Round :=
  { round with
    tasks := round.tasks.fail taskAuction.identifier
      { taskAuction with placementError := err.error } }

def placeLRP (round : Round) (lrpAuction successfulStart : LRPAuction) (cells : Heap) : Round :=
  { round with
    cells
    currentInflightContainerStarts := round.currentInflightContainerStarts + 1
    lrps := round.lrps.place lrpAuction.identifier lrpAuction successfulStart }

def placeTask (round : Round) (taskAuction successfulTask : TaskAuction) (cells : Heap) : Round :=
  { round with
    cells
    currentInflightContainerStarts := round.currentInflightContainerStarts + 1
    tasks := round.tasks.place taskAuction.identifier taskAuction successfulTask }

/-- A rep could not start the work. -/
def failWork (round : Round) (failedWork : Work) : Round :=
  { round with
    lrps := (failedWork.lrps.map SchedulingLRP.identifier).foldl Ledger.revoke round.lrps
    tasks := (failedWork.tasks.map SchedulingTask.identifier).foldl Ledger.revoke round.tasks }

def results (round : Round) : AuctionResults where
  successfulLRPs := round.lrps.placed.values
  successfulTasks := round.tasks.placed.values
  failedLRPs := round.lrps.failed
  failedTasks := round.tasks.failed

end Round

namespace Scheduler

variable {F : Type} [Float64 F]

/-- One turn of the loop of `auctionLRP`. -/
def auctionLRP (s : Scheduler F) (runtime : Runtime) (round : Round)
    (lrpAuction : LRPAuction) : Round :=
  if s.exceededInflightContainerCreation round.currentInflightContainerStarts then
    round.failLRP lrpAuction .exceededInflightCreation
  else
    match s.scheduleLRPAuction runtime round.cells lrpAuction with
    | .error err => round.failLRP lrpAuction err
    | .ok (successfulStart, cells) => round.placeLRP lrpAuction successfulStart cells

/-- One turn of the loop over the tasks. -/
def auctionTask (s : Scheduler F) (runtime : Runtime) (round : Round)
    (taskAuction : TaskAuction) : Round :=
  if s.exceededInflightContainerCreation round.currentInflightContainerStarts then
    round.failTask taskAuction .exceededInflightCreation
  else
    match s.scheduleTaskAuction runtime round.cells taskAuction with
    | .error err => round.failTask taskAuction err
    | .ok (successfulTask, cells) => round.placeTask taskAuction successfulTask cells

def splitLRPS (lrps : List LRPAuction) : List LRPAuction × List LRPAuction :=
  match lrps.findIdx? fun lrp => lrp.index > 0 with
  | some idx => (lrps.take idx, lrps.drop idx)
  | none => ([], lrps)

def newRound (s : Scheduler F) (cells : Heap) : Round where
  cells
  currentInflightContainerStarts :=
    (s.refs.map fun ref => (cells ref).state.startingContainerCount).sum
  lrps := {}
  tasks := {}

/-- `Schedule` up to the commit of the cells: the LRPs with index zero, the tasks, and the
other LRPs. -/
def reserve (s : Scheduler F) (runtime : Runtime) (cells : Heap) (request : AuctionRequest) :
    Round :=
  let (lrpsBeforeTasks, lrpsAfterTasks) := splitLRPS (runtime.sortLRPs.sort request.lrps)
  let round := lrpsBeforeTasks.foldl (s.auctionLRP runtime) (s.newRound cells)
  let round := (runtime.sortTasks.sort request.tasks).foldl (s.auctionTask runtime) round
  lrpsAfterTasks.foldl (s.auctionLRP runtime) round

def commitCells (s : Scheduler F) (runtime : Runtime) (cells : Heap) : List Work :=
  (runtime.commitOrder s.refs).map fun ref => (cells ref).commit (runtime.perform ref)

def markResults (runtime : Runtime) (results : AuctionResults) : AuctionResults where
  failedLRPs := results.failedLRPs.map LRPAuction.attempted
  failedTasks := results.failedTasks.map TaskAuction.attempted
  successfulLRPs := results.successfulLRPs.map fun auction =>
    { auction.attempted with waitDuration := runtime.now - auction.queueTime }
  successfulTasks := results.successfulTasks.map fun auction =>
    { auction.attempted with waitDuration := runtime.now - auction.queueTime }

def schedule (s : Scheduler F) (runtime : Runtime) (cells : Heap) (request : AuctionRequest) :
    AuctionResults :=
  if s.zones.entries = [] then
    markResults runtime
      { successfulLRPs := []
        successfulTasks := []
        failedLRPs := request.lrps.map fun auction =>
          { auction with placementError := PlacementError.cellCommunication.error }
        failedTasks := request.tasks.map fun auction =>
          { auction with placementError := PlacementError.cellCommunication.error } }
  else
    let round := s.reserve runtime cells request
    let round := (s.commitCells runtime round.cells).foldl Round.failWork round
    markResults runtime round.results

end Scheduler

end Diego.Auction
