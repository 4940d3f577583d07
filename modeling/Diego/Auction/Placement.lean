import Diego.Auction.Scheduler

/-!
# What one auction does

However the zones are ordered, filtered and scored, an auction either fails or reserves its
work on one cell of the zones that has room for it: `auction_cases` says all that later
proofs need of an auction.  `reserve_eq_foldl` makes the three passes of `Schedule` one run
over the jobs of the request.
-/

namespace Diego.Auction

open Models Fallible List

/-- What an update of one cell does not touch is as before on every cell. -/
theorem update_frame {β : Type} (f : Cell → β) {cells : Heap} {ref : CellRef} (cell : Cell)
    (hcell : f cell = f (cells ref)) (other : CellRef) :
    f (Function.update cells ref cell other) = f (cells other) := by
  by_cases hother : other = ref
  · rw [hother, Function.update_self, hcell]
  · rw [Function.update_of_ne hother]

/-! ## Filtering keeps the cells that suit -/

def Cell.suits (c : Cell) (parse : String → Option RootFSURL) (pc : PlacementConstraint) : Bool :=
  c.state.matchRootFS parse pc.rootFs && c.state.matchVolumeDrivers pc.volumeDrivers &&
    c.state.matchPlacementTags pc.placementTags

section Filter

variable (parse : String → Option RootFSURL) (cells : Heap) (pc : PlacementConstraint)
  {found : List CellRef × Option PlacementError} {ref : CellRef}

theorem filterCell_fst :
    (filterCell parse cells pc found ref).1 =
      if (cells ref).suits parse pc then found.1 ++ [ref] else found.1 := by
  unfold filterCell Cell.suits
  grind

theorem filterCell_snd :
    (filterCell parse cells pc found ref).2 = none ↔
      found.2 = none ∨ (cells ref).suits parse pc = true := by
  unfold filterCell Cell.suits
  grind

variable (zone : Zone)

theorem foldl_filterCell_fst (found : List CellRef × Option PlacementError) :
    (zone.foldl (filterCell parse cells pc) found).1 =
      found.1 ++ zone.filter fun ref => (cells ref).suits parse pc := by
  induction zone generalizing found with
  | nil => simp
  | cons ref zone ih =>
    rw [foldl_cons, ih, filterCell_fst, filter_cons]
    split <;> simp

theorem foldl_filterCell_snd (found : List CellRef × Option PlacementError) :
    (zone.foldl (filterCell parse cells pc) found).2 = none ↔
      found.2 = none ∨ ∃ ref ∈ zone, (cells ref).suits parse pc = true := by
  induction zone generalizing found with
  | nil => simp
  | cons ref zone ih =>
    rw [foldl_cons, ih, filterCell_snd, exists_mem_cons_iff, or_assoc]

/-- A zone is left with its cells that suit, and turned down if there are none. -/
theorem filterCells_toOption :
    (filterCells parse cells zone pc).toOption =
      if ∃ ref ∈ zone, (cells ref).suits parse pc = true then
        some (zone.filter fun ref => (cells ref).suits parse pc)
      else none := by
  have hfst := foldl_filterCell_fst parse cells pc zone ([], some .cellMismatch)
  have hsnd := foldl_filterCell_snd parse cells pc zone ([], some .cellMismatch)
  unfold filterCells
  generalize zone.foldl (filterCell parse cells pc) ([], some .cellMismatch) = found at hfst hsnd
  obtain ⟨matching, err⟩ := found
  cases err with
  | none =>
    rw [if_pos (by simpa using hsnd)]
    exact congrArg some hfst
  | some err =>
    rw [if_neg (by simpa using hsnd)]
    rfl

theorem filterZonesBy_eq {Z : Type} {filter : Z → Except PlacementError Z}
    (zones filteredZones : List Z) (zoneError : Option PlacementError) :
    (filterZonesBy filter zones filteredZones zoneError).toOption.getD [] =
      filteredZones ++ zones.filterMap fun zone => (filter zone).toOption := by
  induction zones generalizing filteredZones zoneError with
  | nil =>
    cases filteredZones <;> cases zoneError <;> simp [filterZonesBy, Except.toOption]
  | cons zone zones ih =>
    rw [filterZonesBy]
    cases hzone : filter zone with
    | error err =>
      rw [ih, filterMap_cons, hzone]
      rfl
    | ok filtered =>
      rw [ih, filterMap_cons, hzone, append_assoc]
      rfl

end Filter

/-! ## A winner was scored -/

section Bid

variable {F : Type} {score : CellRef → Except InsufficientResourcesError F} {bid : Bid F}
  {candidates : List CellRef}

/-- The winner is one of the candidates, and was not turned down. -/
def Bid.Backed (score : CellRef → Except InsufficientResourcesError F)
    (candidates : List CellRef) (bid : Bid F) : Prop :=
  ∀ ref, bid.winnerCell = some ref → ref ∈ candidates ∧ ∃ points, score ref = .ok points

theorem Bid.of_award {cells cells' : Heap} {winnerCell : CellRef}
    {reserve : Cell → Except InsufficientResourcesError Cell}
    (h : bid.award cells reserve = .ok (winnerCell, cells')) :
    bid.winnerCell = some winnerCell ∧ ∃ cell, reserve (cells winnerCell) = .ok cell ∧
      cells' = Function.update cells winnerCell cell := by
  unfold Bid.award at h
  grind

variable [Float64 F] {sortedZones : List LRPByZone}

theorem Bid.backed_start : (Bid.start : Bid F).Backed score candidates := by
  intro ref hwinner
  exact absurd hwinner (by simp [Bid.start])

theorem Bid.Backed.offer (h : bid.Backed score candidates) {next : CellRef}
    (hnext : next ∈ candidates) : (bid.offer score next).Backed score candidates := by
  intro ref hwinner
  unfold Bid.offer at hwinner
  cases hscore : score next with
  | error err =>
    rw [hscore] at hwinner
    exact h ref hwinner
  | ok points =>
    rw [hscore] at hwinner
    dsimp only at hwinner
    split at hwinner
    · cases hwinner
      exact ⟨hnext, points, hscore⟩
    · exact h ref hwinner

theorem Bid.Backed.offers (h : bid.Backed score candidates) {zone : Zone}
    (hzone : ∀ ref ∈ zone, ref ∈ candidates) :
    (zone.foldl (Bid.offer score) bid).Backed score candidates := by
  induction zone generalizing bid with
  | nil => exact h
  | cons next zone ih =>
    rw [forall_mem_cons] at hzone
    exact ih (h.offer hzone.1) hzone.2

theorem Bid.Backed.zones (h : bid.Backed score candidates)
    (hzones : ∀ lrpByZone ∈ sortedZones, ∀ ref ∈ lrpByZone.zone, ref ∈ candidates) :
    (Bid.zones score sortedZones bid).Backed score candidates := by
  induction sortedZones generalizing bid with
  | nil => exact h
  | cons lrpByZone sortedZones ih =>
    rw [forall_mem_cons] at hzones
    have hoffers := h.offers hzones.1
    rw [Bid.zones]
    split_ifs
    · exact ih hoffers hzones.2
    · exact hoffers
    · exact ih hoffers hzones.2

/-- A scan of zones without a winner has gone through all of them. -/
theorem Bid.zones_of_no_winner (hnone : (Bid.zones score sortedZones bid).winnerCell = none) :
    Bid.zones score sortedZones bid =
      (sortedZones.flatMap LRPByZone.zone).foldl (Bid.offer score) bid := by
  induction sortedZones generalizing bid with
  | nil => rfl
  | cons lrpByZone sortedZones ih =>
    rw [flatMap_cons, foldl_append]
    rw [Bid.zones] at hnone ⊢
    split_ifs at hnone ⊢ with hnext hwinner
    · exact ih hnone
    · rw [hnone] at hwinner
      cases hwinner
    · exact ih hnone

end Bid

/-! ## Jobs -/

/-- A request of either kind. -/
inductive Job
  | lrp (lrpAuction : LRPAuction)
  | task (taskAuction : TaskAuction)

namespace Job

def lrp? : Job → Option LRPAuction
  | lrp lrpAuction => some lrpAuction
  | task _ => none

def task? : Job → Option TaskAuction
  | lrp _ => none
  | task taskAuction => some taskAuction

def constraint : Job → PlacementConstraint
  | lrp lrpAuction => lrpAuction.toPlacementConstraint
  | task taskAuction => taskAuction.toPlacementConstraint

/-- What the job asks of a cell, with the memory of the proxy of an LRP. -/
def demand (c : Cell) : Job → Resource
  | lrp lrpAuction => c.proxied lrpAuction.toSchedulingLRP
  | task taskAuction => taskAuction.toResource

def resource : Job → Resource
  | lrp lrpAuction => lrpAuction.toResource
  | task taskAuction => taskAuction.toResource

def reserve (job : Job) (c : Cell) : Except InsufficientResourcesError Cell :=
  match job with
  | lrp lrpAuction => c.reserveLRP lrpAuction.toSchedulingLRP
  | task taskAuction => c.reserveTask taskAuction.toSchedulingTask

end Job

namespace Round

/-- The job fails: nothing else changes. -/
def fail (round : Round) (err : PlacementError) : Job → Round
  | .lrp lrpAuction => round.failLRP lrpAuction err
  | .task taskAuction => round.failTask taskAuction err

def place (round : Round) (ref : CellRef) : Job → Round
  | .lrp lrpAuction =>
    round.placeLRP lrpAuction { lrpAuction.copy with winner := (round.cells ref).guid }
      (Function.update round.cells ref ((round.cells ref).withLRP lrpAuction.toSchedulingLRP))
  | .task taskAuction =>
    round.placeTask taskAuction { taskAuction.copy with winner := (round.cells ref).guid }
      (Function.update round.cells ref ((round.cells ref).withTask taskAuction.toSchedulingTask))

end Round

/-! ## One auction -/

def LRPByZone.offers (lrpByZone : LRPByZone) : List (Nat × CellRef) :=
  lrpByZone.zone.map (lrpByZone.instances, ·)

def zoneInstances (cells : Heap) (processGuid : String) (zone : Zone) : Nat :=
  (zone.map fun ref => (cells ref).instances processGuid).sum

namespace Scheduler

variable {F : Type} {s : Scheduler F} {runtime : Runtime} {cells : Heap} {job : Job}
  {lrpAuction : LRPAuction} {taskAuction : TaskAuction} {ref : CellRef}
  {filteredZones : List LRPByZone}

def zonesForLRP (s : Scheduler F) (runtime : Runtime) (cells : Heap) (lrpAuction : LRPAuction) :
    Except PlacementError (List LRPByZone) :=
  filterZones runtime.parse cells (accumulateZonesByInstances cells
    (runtime.rangeForLRP lrpAuction.identifier s.zones.values) lrpAuction.processGuid) lrpAuction

def zonesForTask (s : Scheduler F) (runtime : Runtime) (cells : Heap)
    (taskAuction : TaskAuction) : Except PlacementError (List Zone) :=
  filterZonesBy
    (fun zone => filterCells runtime.parse cells zone taskAuction.toPlacementConstraint)
    (runtime.rangeForTask taskAuction.identifier s.zones.values) [] none

/-- The cells that an auction goes through: those that suit, each with the instances on all cells
of its zone. -/
theorem mem_offers_iff {n : Nat}
    (hfilter : (s.zonesForLRP runtime cells lrpAuction).toOption.getD [] = filteredZones) :
    (n, ref) ∈ filteredZones.flatMap LRPByZone.offers ↔
      ∃ zone ∈ s.zones.values, zoneInstances cells lrpAuction.processGuid zone = n ∧ ref ∈ zone ∧
        (cells ref).suits runtime.parse lrpAuction.toPlacementConstraint = true := by
  have hrange := runtime.rangeForLRP_perm lrpAuction.identifier s.zones.values
  have hcells : ∀ lrpZone : LRPByZone,
      (do
        let cells ← filterCells runtime.parse cells lrpZone.zone lrpAuction.toPlacementConstraint
        return ({ zone := cells, instances := lrpZone.instances } : LRPByZone)).toOption =
      (filterCells runtime.parse cells lrpZone.zone
        lrpAuction.toPlacementConstraint).toOption.map fun cells =>
          { zone := cells, instances := lrpZone.instances } := by
    intro lrpZone
    cases filterCells runtime.parse cells lrpZone.zone lrpAuction.toPlacementConstraint <;> rfl
  rw [← hfilter, zonesForLRP, filterZones, filterZonesBy_eq, nil_append, accumulateZonesByInstances]
  simp only [filterMap_map, Function.comp_def, hcells, filterCells_toOption]
  simp only [mem_flatMap, mem_filterMap, LRPByZone.offers, mem_map, hrange.mem_iff]
  constructor
  · rintro ⟨lrpByZone, ⟨zone, hzone, hsome⟩, ref', href', hpair⟩
    obtain ⟨rfl, rfl⟩ := Prod.mk.inj hpair
    split at hsome
    · cases hsome
      obtain ⟨href, hsuits⟩ := mem_filter.mp href'
      exact ⟨zone, hzone, rfl, href, hsuits⟩
    · cases hsome
  · rintro ⟨zone, hzone, rfl, href, hsuits⟩
    let suiting := zone.filter fun ref =>
      (cells ref).suits runtime.parse lrpAuction.toPlacementConstraint
    refine ⟨⟨suiting, zoneInstances cells lrpAuction.processGuid zone⟩, ⟨zone, hzone, ?_⟩, ref,
      mem_filter.mpr ⟨href, hsuits⟩, rfl⟩
    rw [if_pos ⟨ref, href, hsuits⟩]
    rfl

/-- The cell is in a zone and meets the constraint of the job. -/
def Matches (s : Scheduler F) (runtime : Runtime) (cells : Heap) (job : Job) (ref : CellRef) :
    Prop :=
  ref ∈ s.refs ∧ (cells ref).suits runtime.parse job.constraint = true

variable [Float64 F] {round : Round}

def score (s : Scheduler F) (cells : Heap) (job : Job) (ref : CellRef) :
    Except InsufficientResourcesError F :=
  match job with
  | .lrp lrpAuction => (cells ref).scoreForLRP lrpAuction.toSchedulingLRP
      s.startingContainerWeight s.binPackFirstFitWeight
  | .task taskAuction => (cells ref).scoreForTask taskAuction.toSchedulingTask
      s.startingContainerWeight

/-- A cell is scored if the job fits, and turned down for its problems if not. -/
theorem exists_score_eq :
    ∃ points, s.score cells job ref = (cells ref).onMatch (job.demand (cells ref)) points := by
  cases job <;> exact ⟨_, rfl⟩

theorem resourceMatch_of_score {points : F} (h : s.score cells job ref = .ok points) :
    (cells ref).state.resourceMatch (job.demand (cells ref)) = .ok () := by
  obtain ⟨points', hscore⟩ := s.exists_score_eq
  exact (Cell.onMatch_eq_ok_iff.mp (hscore.symm.trans h)).1

/-- An auction goes through the cells that suit.  Its winner is one of them, and without a winner
it has gone through all. -/
structure Scan (s : Scheduler F) (runtime : Runtime) (cells : Heap) (job : Job)
    (candidates : List CellRef) (bid : Bid F) : Prop where
  mem_iff : ∀ ref, ref ∈ candidates ↔ s.Matches runtime cells job ref
  backed : bid.Backed (s.score cells job) candidates
  complete : bid.winnerCell = none →
    bid = candidates.foldl (Bid.offer (s.score cells job)) Bid.start

theorem scan_lrp
    (hfilter : (s.zonesForLRP runtime cells lrpAuction).toOption.getD [] = filteredZones) :
    s.Scan runtime cells (.lrp lrpAuction)
      ((runtime.sortZones.sort filteredZones).flatMap LRPByZone.zone)
      (Bid.zones (s.score cells (.lrp lrpAuction)) (runtime.sortZones.sort filteredZones)
        Bid.start) where
  mem_iff ref := by
    have hoffers : ref ∈ filteredZones.flatMap LRPByZone.zone ↔
        ∃ n, (n, ref) ∈ filteredZones.flatMap LRPByZone.offers := by
      simp [LRPByZone.offers]
    rw [((runtime.sortZones.perm filteredZones).flatMap_right _).mem_iff]
    simp only [hoffers, mem_offers_iff hfilter, Matches, Scheduler.refs, mem_flatten]
    constructor
    · rintro ⟨n, zone, hzone, -, href, hsuits⟩
      exact ⟨⟨zone, hzone, href⟩, hsuits⟩
    · rintro ⟨⟨zone, hzone, href⟩, hsuits⟩
      exact ⟨_, zone, hzone, rfl, href, hsuits⟩
  backed := Bid.Backed.zones Bid.backed_start fun lrpByZone hlrpByZone _ href =>
    mem_flatMap.mpr ⟨lrpByZone, hlrpByZone, href⟩
  complete := Bid.zones_of_no_winner

theorem scan_task {filteredZones : List Zone}
    (hfilter : (s.zonesForTask runtime cells taskAuction).toOption.getD [] = filteredZones) :
    s.Scan runtime cells (.task taskAuction) filteredZones.flatten
      (filteredZones.flatten.foldl (Bid.offer (s.score cells (.task taskAuction)))
        Bid.start) where
  mem_iff ref := by
    have hrange := runtime.rangeForTask_perm taskAuction.identifier s.zones.values
    rw [← hfilter, zonesForTask, filterZonesBy_eq, nil_append]
    simp only [filterCells_toOption, mem_flatten, mem_filterMap, Matches, Scheduler.refs,
      hrange.mem_iff, Option.ite_none_right_eq_some]
    constructor
    · rintro ⟨suiting, ⟨zone, hzone, -, ⟨⟩⟩, href⟩
      obtain ⟨href, hsuits⟩ := mem_filter.mp href
      exact ⟨⟨zone, hzone, href⟩, hsuits⟩
    · rintro ⟨⟨zone, hzone, href⟩, hsuits⟩
      exact ⟨_, ⟨zone, hzone, ⟨ref, href, hsuits⟩, rfl⟩, mem_filter.mpr ⟨href, hsuits⟩⟩
  backed := Bid.Backed.offers Bid.backed_start fun _ => id
  complete _ := rfl

/-- An auction ends with the award of its scan. -/
theorem scheduleLRPAuction_eq (runtime : Runtime) (cells : Heap) (lrpAuction : LRPAuction) :
    s.scheduleLRPAuction runtime cells lrpAuction = (do
      let filteredZones ← s.zonesForLRP runtime cells lrpAuction
      let (winnerCell, cells') ← (Bid.zones (s.score cells (.lrp lrpAuction))
        (runtime.sortZones.sort filteredZones) Bid.start).award cells (Job.lrp lrpAuction).reserve
      return ({ lrpAuction.copy with winner := (cells winnerCell).guid }, cells')) :=
  rfl

/-- The cells after an auction of either kind. -/
def scheduleAuction (s : Scheduler F) (runtime : Runtime) (cells : Heap) :
    Job → Except PlacementError Heap
  | .lrp lrpAuction => Prod.snd <$> s.scheduleLRPAuction runtime cells lrpAuction
  | .task taskAuction => Prod.snd <$> s.scheduleTaskAuction runtime cells taskAuction

/-- One turn of one of the three loops. -/
def auction (s : Scheduler F) (runtime : Runtime) (round : Round) : Job → Round
  | .lrp lrpAuction => s.auctionLRP runtime round lrpAuction
  | .task taskAuction => s.auctionTask runtime round taskAuction

/-- At the limit a job fails without an auction.  Otherwise its auction fails, or it is reserved on
a cell that has room for it and for its proxy. -/
theorem auction_cases (runtime : Runtime) (round : Round) (job : Job) :
    if s.exceededInflightContainerCreation round.currentInflightContainerStarts then
      s.auction runtime round job = round.fail .exceededInflightCreation job
    else
      (∃ err, s.scheduleAuction runtime round.cells job = .error err ∧
        s.auction runtime round job = round.fail err job) ∨
      ∃ ref ∈ s.refs,
        (round.cells ref).state.resourceMatch (job.demand (round.cells ref)) = .ok () ∧
        (round.cells ref).state.resourceMatch job.resource = .ok () ∧
        s.auction runtime round job = round.place ref job := by
  cases job with
  | lrp lrpAuction =>
    rw [auction, auctionLRP, scheduleAuction]
    split
    · rfl
    · cases hschedule : s.scheduleLRPAuction runtime round.cells lrpAuction with
      | error err => exact Or.inl ⟨err, rfl, rfl⟩
      | ok result =>
        obtain ⟨filteredZones, hfilter, h⟩ := bind_eq_ok_iff.mp hschedule
        obtain ⟨⟨ref, _⟩, haward, h⟩ := bind_eq_ok_iff.mp h
        obtain rfl := Except.ok.inj h
        obtain ⟨hwinner, cell, hreserve, rfl⟩ := Bid.of_award haward
        obtain ⟨hmatch, rfl⟩ := Cell.onMatch_eq_ok_iff.mp hreserve
        have hscan := scan_lrp (congrArg (·.toOption.getD []) hfilter)
        obtain ⟨href, points, hscore⟩ := hscan.backed ref hwinner
        exact Or.inr ⟨ref, ((hscan.mem_iff ref).mp href).1, resourceMatch_of_score hscore, hmatch,
          rfl⟩
  | task taskAuction =>
    rw [auction, auctionTask, scheduleAuction]
    split
    · rfl
    · cases hschedule : s.scheduleTaskAuction runtime round.cells taskAuction with
      | error err => exact Or.inl ⟨err, rfl, rfl⟩
      | ok result =>
        obtain ⟨filteredZones, hfilter, h⟩ := bind_eq_ok_iff.mp hschedule
        obtain ⟨⟨ref, _⟩, haward, h⟩ := bind_eq_ok_iff.mp h
        obtain rfl := Except.ok.inj h
        obtain ⟨hwinner, cell, hreserve, rfl⟩ := Bid.of_award haward
        obtain ⟨hmatch, rfl⟩ := Cell.onMatch_eq_ok_iff.mp hreserve
        have hscan := scan_task (congrArg (·.toOption.getD []) hfilter)
        have href := (hscan.mem_iff ref).mp (hscan.backed ref hwinner).1
        exact Or.inr ⟨ref, href.1, hmatch, hmatch, rfl⟩

/-- A job fails, or it is reserved on a cell. -/
theorem auction_fail_or_place :
    (∃ err, s.auction runtime round job = round.fail err job) ∨
      ∃ ref ∈ s.refs,
        (round.cells ref).state.resourceMatch (job.demand (round.cells ref)) = .ok () ∧
        (round.cells ref).state.resourceMatch job.resource = .ok () ∧
        s.auction runtime round job = round.place ref job := by
  have hcases := s.auction_cases runtime round job
  split at hcases
  · exact Or.inl ⟨_, hcases⟩
  · exact hcases.imp_left fun ⟨err, _, heq⟩ => ⟨err, heq⟩

end Scheduler

/-! ## One run -/

/-- No work is reserved yet. -/
def Scheduler.Fresh {F : Type} (s : Scheduler F) (cells : Heap) : Prop :=
  ∀ ref ∈ s.refs, (cells ref).workToCommit.lrps = [] ∧ (cells ref).workToCommit.tasks = []

/-- The jobs of a request, in the order of `Schedule`. -/
def Runtime.jobs (runtime : Runtime) (request : AuctionRequest) : List Job :=
  let lrps := Scheduler.splitLRPS (runtime.sortLRPs.sort request.lrps)
  lrps.1.map .lrp ++ ((runtime.sortTasks.sort request.tasks).map .task ++ lrps.2.map .lrp)

theorem Scheduler.splitLRPS_append (lrps : List LRPAuction) :
    (splitLRPS lrps).1 ++ (splitLRPS lrps).2 = lrps := by
  unfold splitLRPS
  split
  · exact take_append_drop _ _
  · rfl

variable (runtime : Runtime) (request : AuctionRequest)

theorem Runtime.lrps_jobs : ((runtime.jobs request).filterMap Job.lrp?).Perm request.lrps := by
  have hsplit := Scheduler.splitLRPS_append (runtime.sortLRPs.sort request.lrps)
  have hjobs : (runtime.jobs request).filterMap Job.lrp? = runtime.sortLRPs.sort request.lrps := by
    conv_rhs => rw [← hsplit]
    simp [Runtime.jobs, Function.comp_def, Job.lrp?]
  rw [hjobs]
  exact runtime.sortLRPs.perm request.lrps

theorem Runtime.tasks_jobs : ((runtime.jobs request).filterMap Job.task?).Perm request.tasks := by
  have hjobs : (runtime.jobs request).filterMap Job.task? =
      runtime.sortTasks.sort request.tasks := by
    simp [Runtime.jobs, Function.comp_def, Job.task?]
  rw [hjobs]
  exact runtime.sortTasks.perm request.tasks

namespace Scheduler

variable {F : Type} [Float64 F]

theorem reserve_eq_foldl (s : Scheduler F) (runtime : Runtime) (cells : Heap)
    (request : AuctionRequest) :
    s.reserve runtime cells request =
      (runtime.jobs request).foldl (s.auction runtime) (s.newRound cells) := by
  rw [Runtime.jobs, foldl_append, foldl_append, foldl_map, foldl_map, foldl_map]
  rfl

end Scheduler

/-! ### A small pool of cells -/

def sampleState (memoryMB : Int32) : CellState where
  cellIndex := 0
  rootFSProviders := GoMap.ofPairs [("docker", .arbitrary)]
  availableResources := { memoryMB, diskMB := 100, containers := 10 }
  totalResources := { memoryMB, diskMB := 100, containers := 10 }
  lrps := []
  tasks := []
  startingContainerCount := 0
  volumeDrivers := []
  placementTags := []
  optionalPlacementTags := []
  proxyMemoryAllocationMB := 5

def sampleCells (memoryMB : Int32) (ref : CellRef) : Cell :=
  Cell.new (if ref = 0 then "cell-0" else "cell-1") (sampleState memoryMB)

def sampleLRP (index : Int) : LRPAuction where
  processGuid := "process"
  index := index
  domain := "domain"
  placementTags := []
  volumeDrivers := []
  rootFs := "image"
  memoryMB := 10
  diskMB := 10
  maxPids := 0
  instanceGUID := ""
  state := ""
  queueTime := 3

def sampleTask : TaskAuction where
  taskGuid := "task"
  domain := "domain"
  placementTags := []
  volumeDrivers := []
  rootFs := "image"
  memoryMB := 10
  diskMB := 10
  maxPids := 0
  queueTime := 4

/-- Two zones of one cell each. -/
def sampleScheduler : Scheduler ℚ where
  zones := GoMap.ofPairs [("z1", [0]), ("z2", [1])]
  zones_nodup := by decide
  binPackFirstFitWeight := 0
  startingContainerWeight := 0
  startingContainerCountMaximum := 0

/-- The second cell starts nothing. -/
def sampleRuntime : Runtime :=
  Runtime.inOrder (fun rootfs => some { scheme := "docker", body := rootfs })
    (fun ref work => if ref = 0 then some {} else some work) 7

def sampleRequest : AuctionRequest where
  lrps := [sampleLRP 1, sampleLRP 0]
  tasks := [sampleTask]

end Diego.Auction
