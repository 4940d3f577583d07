import Diego.Auction.Placement

/-!
# The capacity of a cell

A cell should not be given more than it reported to have.  `ScoreForLRP` turns an LRP down
that does not fit together with its proxy, and the rep charges every LRP for its proxy; but
`AddLRP` takes only the LRP itself off the available resources.  So the available memory of
a cell is the reported memory without what was reserved and without any proxy (`Booked`),
and the reported memory covers the proxies exactly as long as the available memory still
does (`Booked.covers_iff`).

`Roomy` is the check that the bookkeeping leaves out: where an LRP or a task is reserved, there
is room for it and for the proxies of all LRPs of the cell.  No cell is over-committed if and
only if every reservation of the run passes it.
-/

namespace Diego.Auction

open Models List

/-- The sum of what is reserved, as an integer. -/
def reservedMB (work : Work) (mb : Resource → Int32) : Int :=
  (work.lrps.map fun lrp => (mb lrp.toResource).toInt).sum +
    (work.tasks.map fun task => (mb task.toResource).toInt).sum

/-- The reported resources cover the work: a container, the disk and the memory of every
LRP and task, and the memory of a proxy for every LRP. -/
def Covers (reported : CellState) (work : Work) : Prop :=
  (work.lrps.length + work.tasks.length : Int) ≤ reported.availableResources.containers ∧
    reservedMB work Resource.diskMB ≤ reported.availableResources.diskMB.toInt ∧
    (work.tasks.map fun task => task.memoryMB.toInt).sum +
        (work.lrps.map fun lrp => lrp.memoryMB.toInt + reported.proxyMemoryAllocationMB).sum ≤
      reported.availableResources.memoryMB.toInt

instance (reported : CellState) (work : Work) : Decidable (Covers reported work) :=
  inferInstanceAs (Decidable (_ ∧ _ ∧ _))

/-- A cell does not report to have less than nothing. -/
def NonNegative (reported : CellState) : Prop :=
  0 ≤ reported.availableResources.containers ∧ 0 ≤ reported.availableResources.diskMB ∧
    0 ≤ reported.availableResources.memoryMB

instance (reported : CellState) : Decidable (NonNegative reported) :=
  inferInstanceAs (Decidable (_ ∧ _ ∧ _))

/-- The available resources of a cell are the reported ones without the reserved ones. -/
structure Booked (reported : CellState) (c : Cell) : Prop where
  proxy : c.state.proxyMemoryAllocationMB = reported.proxyMemoryAllocationMB
  containers : c.state.availableResources.containers =
    reported.availableResources.containers -
      (c.workToCommit.lrps.length + c.workToCommit.tasks.length)
  disk : c.state.availableResources.diskMB.toInt =
    reported.availableResources.diskMB.toInt - reservedMB c.workToCommit Resource.diskMB
  memory : c.state.availableResources.memoryMB.toInt =
    reported.availableResources.memoryMB.toInt - reservedMB c.workToCommit Resource.memoryMB

section Booked

variable {reported : CellState} {c : Cell}

theorem sum_proxies (lrps : List SchedulingLRP) (proxy : Int) :
    (lrps.map fun lrp => lrp.memoryMB.toInt + proxy).sum =
      (lrps.map fun lrp => lrp.memoryMB.toInt).sum + proxy * lrps.length := by
  induction lrps with
  | nil => simp
  | cons lrp lrps ih =>
    rw [map_cons, sum_cons, map_cons, sum_cons, length_cons]
    push_cast
    rw [Int.mul_add]
    omega

/-- What is left has to pay for the proxies. -/
theorem Booked.covers_iff (h : Booked reported c) :
    Covers reported c.workToCommit ↔
      0 ≤ c.state.availableResources.containers ∧ 0 ≤ c.state.availableResources.diskMB.toInt ∧
      c.state.proxyMemoryAllocationMB * c.workToCommit.lrps.length ≤
        c.state.availableResources.memoryMB.toInt := by
  have hmemory := h.memory
  rw [Covers, sum_proxies, h.containers, h.disk, hmemory, h.proxy, reservedMB, reservedMB]
  constructor
  · intro ⟨hcontainers, hdisk, hmemory⟩
    exact ⟨by omega, by omega, by omega⟩
  · intro ⟨hcontainers, hdisk, hmemory⟩
    exact ⟨by omega, by omega, by omega⟩

theorem booked_of_fresh (hlrps : c.workToCommit.lrps = []) (htasks : c.workToCommit.tasks = []) :
    Booked c.state c := by
  refine ⟨rfl, ?_, ?_, ?_⟩ <;> simp [reservedMB, hlrps, htasks]

/-- `c'` is `c` with one more reservation, of an LRP or of a task. -/
structure Reserves (c : Cell) (res : Resource) (c' : Cell) : Prop where
  proxy : c'.state.proxyMemoryAllocationMB = c.state.proxyMemoryAllocationMB
  available : c'.state.availableResources = c.state.availableResources.subtract res
  count : c'.workToCommit.lrps.length + c'.workToCommit.tasks.length =
    c.workToCommit.lrps.length + c.workToCommit.tasks.length + 1
  lrps : c.workToCommit.lrps.length ≤ c'.workToCommit.lrps.length
  reserved : ∀ mb, reservedMB c'.workToCommit mb = reservedMB c.workToCommit mb + (mb res).toInt

theorem reserves_withLRP {lrp : SchedulingLRP} : Reserves c lrp.toResource (c.withLRP lrp) where
  proxy := rfl
  available := rfl
  count := by
    simp only [Cell.withLRP, length_append, length_singleton]
    omega
  lrps := by
    simp only [Cell.withLRP, length_append]
    omega
  reserved mb := by
    simp only [reservedMB, Cell.withLRP, map_append, sum_append, map_singleton, sum_singleton]
    omega

theorem reserves_withTask {task : SchedulingTask} :
    Reserves c task.toResource (c.withTask task) where
  proxy := rfl
  available := rfl
  count := by
    simp only [Cell.withTask, length_append, length_singleton]
    omega
  lrps := Nat.le_refl _
  reserved mb := by
    simp only [reservedMB, Cell.withTask, map_append, sum_append, map_singleton, sum_singleton]
    omega

variable {c' : Cell} {res : Resource}

/-- A reservation of a resource that fits keeps the books. -/
theorem Booked.reserve (h : Booked reported c) (hreserves : Reserves c res c')
    (hvalid : res.valid) (hmatch : c.state.resourceMatch res = .ok ()) : Booked reported c' := by
  obtain ⟨hdisk, hmemory, -⟩ := CellState.resourceMatch_eq_ok_iff.mp hmatch
  obtain ⟨hdisk0, hmemory0⟩ := Resource.valid_iff.mp hvalid
  refine ⟨hreserves.proxy.trans h.proxy, ?_, ?_, ?_⟩
  · have hcount := hreserves.count
    have hbooked := h.containers
    rw [hreserves.available, Resources.subtract]
    dsimp only
    omega
  · rw [hreserves.available, hreserves.reserved, Resources.subtract]
    have hsub := Int32.toInt_sub_of_le _ _ hdisk0 hdisk
    have hbooked := h.disk
    dsimp only
    omega
  · rw [hreserves.available, hreserves.reserved, Resources.subtract]
    have hsub := Int32.toInt_sub_of_le _ _ hmemory0 hmemory
    have hbooked := h.memory
    dsimp only
    omega

/-- A reservation of a resource that fits leaves the cell covered if and only if the memory
that was available pays for it and for the proxies of all LRPs. -/
theorem Booked.covers_reserve_iff (h : Booked reported c) (hreserves : Reserves c res c')
    (hvalid : res.valid) (hmatch : c.state.resourceMatch res = .ok ()) :
    Covers reported c'.workToCommit ↔
      res.memoryMB.toInt + c.state.proxyMemoryAllocationMB * c'.workToCommit.lrps.length ≤
        c.state.availableResources.memoryMB.toInt := by
  obtain ⟨hdisk, hmemory, hcontainers⟩ := CellState.resourceMatch_eq_ok_iff.mp hmatch
  obtain ⟨hdisk0, hmemory0⟩ := Resource.valid_iff.mp hvalid
  have hdiskSub := Int32.toInt_sub_of_le _ _ hdisk0 hdisk
  have hmemorySub := Int32.toInt_sub_of_le _ _ hmemory0 hmemory
  have hdisk := Int32.le_iff_toInt_le.mp hdisk
  rw [(h.reserve hreserves hvalid hmatch).covers_iff, hreserves.available, hreserves.proxy,
    Resources.subtract]
  dsimp only
  constructor
  · omega
  · intro hroom
    exact ⟨by omega, by omega, by omega⟩

/-- A reservation does not free anything. -/
theorem Booked.covers_of_reserve (h : Booked reported c) (hreserves : Reserves c res c')
    (hvalid : res.valid) (hmatch : c.state.resourceMatch res = .ok ())
    (hproxy : 0 ≤ c.state.proxyMemoryAllocationMB) (hcovers : Covers reported c'.workToCommit) :
    Covers reported c.workToCommit := by
  have hroom := (h.covers_reserve_iff hreserves hvalid hmatch).mp hcovers
  obtain ⟨hdisk, -, hcontainers⟩ := CellState.resourceMatch_eq_ok_iff.mp hmatch
  obtain ⟨hdisk0, hmemory0⟩ := Resource.valid_iff.mp hvalid
  rw [Int32.le_iff_toInt_le] at hdisk hdisk0 hmemory0
  refine h.covers_iff.mpr ⟨by omega, hdisk0.trans hdisk, ?_⟩
  have hlrps : c.state.proxyMemoryAllocationMB * (c.workToCommit.lrps.length : Int) ≤
      c.state.proxyMemoryAllocationMB * c'.workToCommit.lrps.length :=
    Int.mul_le_mul_of_nonneg_left (Int.ofNat_le.mpr hreserves.lrps) hproxy
  have hzero : (0 : Int32).toInt = 0 := rfl
  omega

end Booked

/-! ## The run -/

namespace Scheduler

variable {F : Type} [Float64 F]

/-- What is reserved on a cell. -/
def reservations (cells : Heap) (ref : CellRef) : Nat :=
  (cells ref).workToCommit.lrps.length + (cells ref).workToCommit.tasks.length

/-- On the cell on which the job is reserved, if there is one, there was room for it and for the
proxies of all LRPs that are then reserved. -/
def Roomy (s : Scheduler F) (runtime : Runtime) (round : Round) (job : Job) : Prop :=
  ∀ ref ∈ s.refs,
    reservations (s.auction runtime round job).cells ref ≠ reservations round.cells ref →
    job.resource.memoryMB.toInt + (round.cells ref).state.proxyMemoryAllocationMB *
        ((s.auction runtime round job).cells ref).workToCommit.lrps.length ≤
      (round.cells ref).state.availableResources.memoryMB.toInt

instance (s : Scheduler F) (runtime : Runtime) (round : Round) :
    DecidablePred (s.Roomy runtime round) :=
  fun _ => inferInstanceAs (Decidable (∀ ref ∈ s.refs, _ → _))

/-- There is room for every reservation of a run. -/
def RoomyRun (s : Scheduler F) (runtime : Runtime) : Round → List Job → Prop
  | _, [] => True
  | round, job :: jobs =>
    s.Roomy runtime round job ∧ s.RoomyRun runtime (s.auction runtime round job) jobs

instance (s : Scheduler F) (runtime : Runtime) :
    ∀ round jobs, Decidable (s.RoomyRun runtime round jobs)
  | _, [] => inferInstanceAs (Decidable True)
  | round, job :: jobs =>
    have := instDecidableRoomyRun s runtime (s.auction runtime round job) jobs
    inferInstanceAs (Decidable (_ ∧ _))

/-- The books of every cell are kept. -/
def Kept (s : Scheduler F) (cells : Heap) (round : Round) : Prop :=
  ∀ ref ∈ s.refs, Booked (cells ref).state (round.cells ref)

/-- No cell is over-committed. -/
def Covered (s : Scheduler F) (cells : Heap) (round : Round) : Prop :=
  ∀ ref ∈ s.refs, Covers (cells ref).state (round.cells ref).workToCommit

section Run

variable {s : Scheduler F} {runtime : Runtime} {cells : Heap} {round : Round} {job : Job}

omit [Float64 F] in
theorem kept_newRound (hfresh : s.Fresh cells) : s.Kept cells (s.newRound cells) :=
  fun ref href => booked_of_fresh (hfresh ref href).1 (hfresh ref href).2

omit [Float64 F] in
theorem covered_newRound (hfresh : s.Fresh cells)
    (hreported : ∀ ref ∈ s.refs, NonNegative (cells ref).state) :
    s.Covered cells (s.newRound cells) := by
  intro ref href
  obtain ⟨hcontainers, hdisk, hmemory⟩ := hreported ref href
  refine (kept_newRound hfresh ref href).covers_iff.mpr
    ⟨hcontainers, Int32.le_iff_toInt_le.mp hdisk, ?_⟩
  have hlrps : ((s.newRound cells).cells ref).workToCommit.lrps = [] := (hfresh ref href).1
  rw [hlrps, length_nil, Nat.cast_zero, Int.mul_zero]
  exact Int32.le_iff_toInt_le.mp hmemory

/-- An auction leaves every cell alone but the one on which it reserves the job. -/
theorem auction_reserves (s : Scheduler F) (runtime : Runtime) (round : Round) (job : Job)
    (ref : CellRef) :
    (s.auction runtime round job).cells ref = round.cells ref ∨
      Reserves (round.cells ref) job.resource ((s.auction runtime round job).cells ref) ∧
        (round.cells ref).state.resourceMatch job.resource = .ok () := by
  rcases s.auction_fail_or_place with ⟨err, heq⟩ | ⟨winner, -, -, hmatch, heq⟩
  · rw [heq]
    cases job <;> exact Or.inl rfl
  · rw [heq]
    by_cases hwinner : ref = winner
    · subst hwinner
      refine Or.inr ⟨?_, hmatch⟩
      cases job with
      | lrp lrpAuction =>
        simp only [Round.place, Round.placeLRP, Function.update_self]
        exact reserves_withLRP
      | task taskAuction =>
        simp only [Round.place, Round.placeTask, Function.update_self]
        exact reserves_withTask
    · cases job <;> exact Or.inl (Function.update_of_ne hwinner _ _)

theorem Kept.auction (h : s.Kept cells round) (hvalid : job.resource.valid) :
    s.Kept cells (s.auction runtime round job) := by
  intro ref href
  rcases s.auction_reserves runtime round job ref with heq | ⟨hreserves, hmatch⟩
  · rw [heq]
    exact h ref href
  · exact (h ref href).reserve hreserves hvalid hmatch

/-- After an auction all cells are covered if and only if they were and there was room. -/
theorem Kept.covered_auction_iff (h : s.Kept cells round) (hvalid : job.resource.valid)
    (hproxy : ∀ ref ∈ s.refs, 0 ≤ (cells ref).state.proxyMemoryAllocationMB) :
    s.Covered cells (s.auction runtime round job) ↔
      s.Covered cells round ∧ s.Roomy runtime round job := by
  constructor
  · refine fun hcovered => ⟨fun ref href => ?_, fun ref href hreserved => ?_⟩
    · have hcovers := hcovered ref href
      rcases s.auction_reserves runtime round job ref with heq | ⟨hreserves, hmatch⟩
      · rwa [heq] at hcovers
      · refine (h ref href).covers_of_reserve hreserves hvalid hmatch ?_ hcovers
        rw [(h ref href).proxy]
        exact hproxy ref href
    · rcases s.auction_reserves runtime round job ref with heq | ⟨hreserves, hmatch⟩
      · rw [reservations, reservations, heq] at hreserved
        exact absurd rfl hreserved
      · exact ((h ref href).covers_reserve_iff hreserves hvalid hmatch).mp (hcovered ref href)
  · rintro ⟨hcovered, hroomy⟩ ref href
    rcases s.auction_reserves runtime round job ref with heq | ⟨hreserves, hmatch⟩
    · rw [heq]
      exact hcovered ref href
    · refine ((h ref href).covers_reserve_iff hreserves hvalid hmatch).mpr (hroomy ref href ?_)
      rw [reservations, reservations, hreserves.count]
      exact Nat.succ_ne_self _

theorem Kept.covered_run_iff (h : s.Kept cells round) {jobs : List Job}
    (hvalid : ∀ job ∈ jobs, job.resource.valid)
    (hproxy : ∀ ref ∈ s.refs, 0 ≤ (cells ref).state.proxyMemoryAllocationMB) :
    s.Covered cells (jobs.foldl (s.auction runtime) round) ↔
      s.Covered cells round ∧ s.RoomyRun runtime round jobs := by
  induction jobs generalizing round with
  | nil => exact (and_iff_left trivial).symm
  | cons job jobs ih =>
    rw [forall_mem_cons] at hvalid
    rw [foldl_cons, ih (h.auction hvalid.1) hvalid.2, h.covered_auction_iff hvalid.1 hproxy,
      and_assoc]
    rfl

end Run

theorem valid_of_mem_jobs {runtime : Runtime} {request : AuctionRequest}
    (hlrps : ∀ auction ∈ request.lrps, auction.toResource.valid)
    (htasks : ∀ auction ∈ request.tasks, auction.toResource.valid) :
    ∀ job ∈ runtime.jobs request, job.resource.valid := by
  intro job hjob
  cases job with
  | lrp lrpAuction =>
    refine hlrps lrpAuction ((runtime.lrps_jobs request).mem_iff.mp ?_)
    exact mem_filterMap.mpr ⟨_, hjob, rfl⟩
  | task taskAuction =>
    refine htasks taskAuction ((runtime.tasks_jobs request).mem_iff.mp ?_)
    exact mem_filterMap.mpr ⟨_, hjob, rfl⟩

/-- **When no cell is over-committed**: after all reservations of `Schedule` every cell is covered
if and only if there was room for each reservation. -/
theorem reserve_covered_iff {s : Scheduler F} (runtime : Runtime) {cells : Heap}
    (request : AuctionRequest) (hfresh : s.Fresh cells)
    (hreported : ∀ ref ∈ s.refs, NonNegative (cells ref).state)
    (hproxy : ∀ ref ∈ s.refs, 0 ≤ (cells ref).state.proxyMemoryAllocationMB)
    (hlrps : ∀ auction ∈ request.lrps, auction.toResource.valid)
    (htasks : ∀ auction ∈ request.tasks, auction.toResource.valid) :
    (∀ ref ∈ s.refs,
      Covers (cells ref).state ((s.reserve runtime cells request).cells ref).workToCommit) ↔
    s.RoomyRun runtime (s.newRound cells) (runtime.jobs request) := by
  rw [s.reserve_eq_foldl]
  refine ((kept_newRound hfresh).covered_run_iff ?_ hproxy).trans
    (and_iff_right (covered_newRound hfresh hreported))
  exact valid_of_mem_jobs hlrps htasks

theorem reserve_covered_sample :
    let round := sampleScheduler.reserve sampleRuntime (sampleCells 100) sampleRequest
    (round.cells 0).workToCommit.lrps.length = 1 ∧
      ∀ ref ∈ sampleScheduler.refs,
        Covers (sampleCells 100 ref).state (round.cells ref).workToCommit := by
  have hfresh : sampleScheduler.Fresh (sampleCells 100) := fun ref href => ⟨rfl, rfl⟩
  have hcovered := reserve_covered_iff sampleRuntime sampleRequest hfresh (by decide)
    (by decide) (by decide) (by decide)
  exact ⟨by decide +kernel, hcovered.mpr (by decide +kernel)⟩

/-- One zone of one cell. -/
def singleCell : Scheduler ℚ where
  zones := GoMap.ofPairs [("z1", [0])]
  zones_nodup := by decide
  binPackFirstFitWeight := 0
  startingContainerWeight := 0
  startingContainerCountMaximum := 0

def twoInstances : AuctionRequest where
  lrps := [sampleLRP 0, sampleLRP 1]
  tasks := []

/-- A cell with 25 MB takes two LRPs of 10 MB whose proxies take 5 MB each: the second one
finds 15 MB, as if the first had no proxy. -/
theorem proxies_overcommit_cell :
    let round := singleCell.reserve sampleRuntime (sampleCells 25) twoInstances
    NonNegative (sampleCells 25 0).state ∧
      0 ≤ (sampleCells 25 0).state.proxyMemoryAllocationMB ∧
      (∀ auction ∈ twoInstances.lrps, auction.toResource.valid) ∧
      (round.cells 0).workToCommit.lrps.map SchedulingLRP.identifier = ["process.0", "process.1"] ∧
      ¬ Covers (sampleCells 25 0).state (round.cells 0).workToCommit :=
  ⟨by decide, by decide, by decide, by decide +kernel, by decide +kernel⟩

end Scheduler

end Diego.Auction
