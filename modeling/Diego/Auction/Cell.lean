import Diego.Auction.Types
import Diego.Fallible

/-!
# Cells of an auction

`auction/auctionrunner/cell.go`.  A cell keeps the state its rep reported, updated with
what the auction has reserved on it so far, and the work to be sent to the rep.
-/

namespace Diego.Auction

open Models Fallible

def localityOffset : Int := 1000

structure Cell where
  guid : String
  state : CellState
  index : Int
  workToCommit : Work

namespace Cell

def new (guid : String) (state : CellState) : Cell where
  guid := guid
  state := state
  index := state.cellIndex
  workToCommit := { cellID := guid }

/-- Every function of a cell that scores or reserves asks first whether the resource fits,
and returns the problems if it does not. -/
def onMatch {α : Type} (c : Cell) (res : Resource) (result : α) :
    Except InsufficientResourcesError α := do
  c.state.resourceMatch res
  return result

theorem onMatch_eq_ok_iff {α : Type} {c : Cell} {res : Resource} {result found : α} :
    c.onMatch res result = .ok found ↔ c.state.resourceMatch res = .ok () ∧ found = result := by
  rw [onMatch, bind_eq_ok_iff]
  constructor
  · intro ⟨_, hmatch, hresult⟩
    exact ⟨hmatch, (Except.ok.inj hresult).symm⟩
  · intro ⟨hmatch, hresult⟩
    exact ⟨(), hmatch, by rw [hresult]; rfl⟩

section Score

variable {F : Type} [Float64 F]

/-- The resource an LRP needs on the cell, with the memory of its proxy. -/
def proxied (c : Cell) (lrp : SchedulingLRP) : Resource :=
  { lrp.toResource with
    memoryMB := lrp.memoryMB + Int32.ofInt c.state.proxyMemoryAllocationMB }

/-- How many instances of the process run on the cell. -/
def instances (c : Cell) (processGuid : String) : Nat :=
  c.state.lrps.countP fun lrp => lrp.processGuid = processGuid

def scoreForLRP (c : Cell) (lrp : SchedulingLRP)
    (startingContainerWeight binPackFirstFitWeight : F) :
    Except InsufficientResourcesError F :=
  let proxiedLRP := c.proxied lrp
  let localityScore := localityOffset * c.instances lrp.processGuid
  let resourceScore := c.state.computeScore proxiedLRP startingContainerWeight
  let indexScore := Float64.mul (Float64.ofInt c.index) binPackFirstFitWeight
  c.onMatch proxiedLRP
    (Float64.add (Float64.add resourceScore (Float64.ofInt localityScore)) indexScore)

def scoreForTask (c : Cell) (task : SchedulingTask) (startingContainerWeight : F) :
    Except InsufficientResourcesError F :=
  let localityScore := localityOffset * c.state.tasks.length
  let resourceScore := c.state.computeScore task.toResource startingContainerWeight
  c.onMatch task.toResource (Float64.add resourceScore (Float64.ofInt localityScore))

end Score

def withLRP (c : Cell) (lrp : SchedulingLRP) : Cell :=
  { c with
    state := c.state.addLRP lrp
    workToCommit := { c.workToCommit with lrps := c.workToCommit.lrps ++ [lrp] } }

def withTask (c : Cell) (task : SchedulingTask) : Cell :=
  { c with
    state := c.state.addTask task
    workToCommit := { c.workToCommit with tasks := c.workToCommit.tasks ++ [task] } }

def reserveLRP (c : Cell) (lrp : SchedulingLRP) : Except InsufficientResourcesError Cell :=
  c.onMatch lrp.toResource (c.withLRP lrp)

def reserveTask (c : Cell) (task : SchedulingTask) : Except InsufficientResourcesError Cell :=
  c.onMatch task.toResource (c.withTask task)

/-- The work the cell failed to start.  The rep is not called without work; what it does
is a parameter, `none` being an error.  An error may be a partial failure, so nothing is
started again. -/
def commit (c : Cell) (perform : Work → Option Work) : Work :=
  if c.workToCommit.lrps = [] ∧ c.workToCommit.tasks = [] then {}
  else (perform c.workToCommit).getD {}

end Cell

end Diego.Auction
