import Diego.Auction.Failures
import Diego.Auction.Priority

/-!
# The limit of containers in flight

`Schedule` counts the containers that are starting: those that the cells report, and one more for
every job that it reserves.  At the limit it fails the jobs that are left without an auction.

The counter moves only when a job is reserved on a cell (`Counted.auction`), in all three passes, so
at every turn it is the reported number and the number of jobs reserved so far.
-/

namespace Diego.Auction

open Models Fallible PlacementError List Function

/-! ## The errors of an auction -/

theorem toList_head?_append {a b : String} {c : Char} (h : a.toList.head? = some c) :
    (a ++ b).toList.head? = some c := by
  rw [String.toList_append, List.head?_append, h]
  rfl

variable {err : PlacementError} {cells : Heap} {round : Round} {job : Job}

/-- The text of another placement error has another first letter. -/
theorem PlacementError.error_ne_exceeded (h : err ≠ .exceededInflightCreation) :
    err.error ≠ exceededInflightCreation.error := by
  have hother : ∀ {text : String} {c : Char}, text.toList.head? = some c → c ≠ 'w' →
      text ≠ exceededInflightCreation.error := by
    rintro _ c hhead hc rfl
    exact hc (Option.some.inj hhead).symm
  cases err with
  | cellMismatch | volumeDriverMismatch | cellCommunication => decide
  | placementTagMismatch tags =>
    have hhead : (placementTagMismatchError tags).toList.head? = some 'f' := by
      unfold placementTagMismatchError
      split
      · decide
      · exact toList_head?_append (by decide)
      · exact toList_head?_append (toList_head?_append (toList_head?_append (by decide)))
    exact hother hhead (by decide)
  | insufficientResources problems =>
    have hhead : problems.error.toList.head? = some 'i' := by
      unfold InsufficientResourcesError.error
      split
      · decide
      · exact toList_head?_append (by decide)
    exact hother hhead (by decide)
  | exceededInflightCreation => exact absurd rfl h

/-- What all errors of the zones are is the error that is kept of them. -/
theorem of_filterZonesBy {Z : Type} {filter : Z → Except PlacementError Z}
    {P : PlacementError → Prop} (hfilter : ∀ zone err, filter zone = .error err → P err)
    {zones filteredZones : List Z} {zoneError : Option PlacementError}
    (hzoneError : ∀ err ∈ zoneError, P err)
    (h : filterZonesBy filter zones filteredZones zoneError = .error err) : P err := by
  induction zones generalizing filteredZones zoneError with
  | nil => cases filteredZones <;> cases zoneError <;> simp_all [filterZonesBy]
  | cons zone zones ih =>
    rw [filterZonesBy] at h
    cases hzone : filter zone with
    | ok filtered =>
      rw [hzone] at h
      exact ih hzoneError h
    | error zoneErr =>
      rw [hzone] at h
      refine ih ?_ h
      rintro _ ⟨⟩
      unfold combineZoneError
      split <;> first | exact hfilter zone _ hzone | exact hzoneError _ rfl

/-- Once a zone is left, only resources can be lacking. -/
theorem Bid.award_ne_exceeded {F : Type} {bid : Bid F}
    {reserve : Cell → Except InsufficientResourcesError Cell}
    (h : bid.award cells reserve = .error err) : err ≠ .exceededInflightCreation := by
  unfold Bid.award at h
  grind

theorem filterCells_ne_exceeded {parse : String → Option RootFSURL} {zone : Zone}
    {pc : PlacementConstraint} (h : filterCells parse cells zone pc = .error err) :
    err ≠ .exceededInflightCreation := by
  rcases filterCells_isMismatch _ _ _ h with rfl | rfl | rfl <;> exact PlacementError.noConfusion

namespace Scheduler

variable {F : Type} [Float64 F] {s : Scheduler F} {runtime : Runtime} {cells : Heap}
  {err : PlacementError}

/-- An auction that was held does not fail for the limit. -/
theorem scheduleAuction_ne_exceeded {job : Job}
    (h : s.scheduleAuction runtime cells job = .error err) : err ≠ .exceededInflightCreation := by
  cases job with
  | lrp lrpAuction =>
    rcases bind_eq_error_iff.mp (map_eq_error_iff.mp h) with hfilter | ⟨filteredZones, -, h⟩
    · refine of_filterZonesBy (P := (· ≠ _)) (fun zone err hzone => ?_) (by simp) hfilter
      rcases bind_eq_error_iff.mp hzone with hcells | ⟨matching, -, hreturn⟩
      · exact filterCells_ne_exceeded hcells
      · cases hreturn
    · rcases bind_eq_error_iff.mp h with haward | ⟨winner, -, hreturn⟩
      · exact Bid.award_ne_exceeded haward
      · cases hreturn
  | task taskAuction =>
    rcases bind_eq_error_iff.mp (map_eq_error_iff.mp h) with hfilter | ⟨filteredZones, -, h⟩
    · exact of_filterZonesBy (P := (· ≠ _)) (fun _ _ => filterCells_ne_exceeded) (by simp) hfilter
    · rcases bind_eq_error_iff.mp h with haward | ⟨winner, -, hreturn⟩
      · exact Bid.award_ne_exceeded haward
      · cases hreturn

end Scheduler

/-! ## One turn -/

def Round.Fails (round next : Round) (err : PlacementError) : Job → Prop
  | .lrp lrpAuction => next.lrps.failed =
      round.lrps.failed ++ [{ lrpAuction with placementError := err.error }]
  | .task taskAuction => next.tasks.failed =
      round.tasks.failed ++ [{ taskAuction with placementError := err.error }]

theorem Round.fails_fail : round.Fails (round.fail err job) err job := by
  cases job <;> rfl

theorem Round.fails_inj {next : Round} {err' : PlacementError} (h : round.Fails next err job)
    (h' : round.Fails next err' job) : err.error = err'.error := by
  cases job with
  | lrp lrpAuction =>
    have heq := append_cancel_left (h.symm.trans h')
    exact congrArg AuctionRecord.placementError
      (congrArg LRPAuction.toAuctionRecord (head_eq_of_cons_eq heq))
  | task taskAuction =>
    have heq := append_cancel_left (h.symm.trans h')
    exact congrArg AuctionRecord.placementError
      (congrArg TaskAuction.toAuctionRecord (head_eq_of_cons_eq heq))

theorem Round.not_fails_place {ref : CellRef} : ¬ round.Fails (round.place ref job) err job := by
  cases job <;> simp [Round.Fails, Round.place, Round.placeLRP, Round.placeTask, Ledger.place]

def Cell.reserved (c : Cell) : Nat :=
  c.workToCommit.lrps.length + c.workToCommit.tasks.length

namespace Scheduler

variable {F : Type} {s : Scheduler F} {cells : Heap} {round : Round} {runtime : Runtime}
  {ref : CellRef}

def startingContainers (s : Scheduler F) (cells : Heap) : Int :=
  (s.refs.map fun ref => (cells ref).state.startingContainerCount).sum

/-- The LRPs and tasks that are reserved on the cells. -/
def reservedJobs (s : Scheduler F) (cells : Heap) : Nat :=
  (s.refs.map fun ref => (cells ref).reserved).sum

theorem reservedJobs_update (href : ref ∈ s.refs) {cell : Cell}
    (hcell : cell.reserved = (cells ref).reserved + 1) :
    s.reservedJobs (update cells ref cell) = s.reservedJobs cells + 1 := by
  have hnodup : s.refs.Nodup := s.zones_nodup
  obtain ⟨before, after, hrefs⟩ := append_of_mem href
  rw [hrefs, nodup_middle, nodup_cons, mem_append, not_or] at hnodup
  have hother : ∀ refs : List CellRef, ref ∉ refs →
      refs.map (fun other => (update cells ref cell other).reserved) =
        refs.map fun other => (cells other).reserved := by
    refine fun refs hnot => map_congr_left fun other hmem => ?_
    rw [update_of_ne (ne_of_mem_of_not_mem hmem hnot)]
  unfold reservedJobs
  simp only [hrefs, map_append, map_cons, hother before hnodup.1.1, hother after hnodup.1.2,
    update_self, sum_append, sum_cons]
  omega

variable [Float64 F] {job : Job} {jobs : List Job}

omit [Float64 F] in
theorem reservedJobs_place (href : ref ∈ s.refs) (round : Round) (job : Job) :
    s.reservedJobs (round.place ref job).cells = s.reservedJobs round.cells + 1 := by
  cases job with
  | lrp lrpAuction =>
    refine reservedJobs_update href ?_
    simp only [Cell.reserved, Cell.withLRP, length_append, length_singleton]
    omega
  | task taskAuction =>
    refine reservedJobs_update href ?_
    simp only [Cell.reserved, Cell.withTask, length_append, length_singleton]
    omega

/-- The counter is the number of containers that were starting and of the jobs reserved since, and
passes the limit only if it was past it from the start. -/
structure Counted (s : Scheduler F) (cells : Heap) (round : Round) : Prop where
  counter : round.currentInflightContainerStarts =
    s.startingContainers cells + (s.reservedJobs round.cells - s.reservedJobs cells)
  limit : 0 < s.startingContainerCountMaximum → round.currentInflightContainerStarts ≤
    max (s.startingContainers cells) s.startingContainerCountMaximum

omit [Float64 F] in
theorem counted_newRound : s.Counted cells (s.newRound cells) where
  counter := by
    change s.startingContainers cells = _ + ((s.reservedJobs cells : Int) - s.reservedJobs cells)
    omega
  limit _ := le_max_left _ _

omit [Float64 F] in
theorem exceeded_iff {currentInflight : Int} :
    s.exceededInflightContainerCreation currentInflight = true ↔
      0 < s.startingContainerCountMaximum ∧ s.startingContainerCountMaximum ≤ currentInflight := by
  simp [exceededInflightContainerCreation]

theorem Counted.auction (h : s.Counted cells round) :
    s.Counted cells (s.auction runtime round job) := by
  have hcases := s.auction_cases runtime round job
  split at hcases
  · rw [hcases]
    cases job <;> exact ⟨h.counter, h.limit⟩
  · rename_i hlimit
    rcases hcases with ⟨err, -, hfail⟩ | ⟨ref, href, -, -, hplace⟩
    · rw [hfail]
      cases job <;> exact ⟨h.counter, h.limit⟩
    · have hcounter := h.counter
      have hreserved := reservedJobs_place href round job
      have hstarts : (round.place ref job).currentInflightContainerStarts =
          round.currentInflightContainerStarts + 1 := by
        cases job <;> rfl
      rw [exceeded_iff] at hlimit
      rw [hplace]
      refine ⟨?_, fun hpos => ?_⟩
      · omega
      · omega

/-- The variables of `Schedule` after some of its turns. -/
def after (s : Scheduler F) (runtime : Runtime) (cells : Heap) (jobs : List Job) : Round :=
  jobs.foldl (s.auction runtime) (s.newRound cells)

theorem after_concat : s.after runtime cells (jobs ++ [job]) =
      s.auction runtime (s.after runtime cells jobs) job := by
  rw [after, foldl_append]
  rfl

theorem counted_after (runtime : Runtime) (cells : Heap) (jobs : List Job) :
    s.Counted cells (s.after runtime cells jobs) := by
  induction jobs using reverseRecOn with
  | nil => exact counted_newRound
  | append_singleton jobs job ih =>
    rw [after_concat]
    exact ih.auction

/-- After these turns the containers in flight have reached the limit. -/
def AtLimit (s : Scheduler F) (runtime : Runtime) (cells : Heap) (jobs : List Job) : Prop :=
  0 < s.startingContainerCountMaximum ∧
    s.startingContainerCountMaximum ≤ s.startingContainers cells +
      (s.reservedJobs (s.after runtime cells jobs).cells - s.reservedJobs cells)

theorem exceeded_iff_atLimit :
    s.exceededInflightContainerCreation
        (s.after runtime cells jobs).currentInflightContainerStarts = true ↔
      s.AtLimit runtime cells jobs := by
  rw [exceeded_iff, (s.counted_after runtime cells jobs).counter, AtLimit]

/-- A job fails for the limit exactly at the limit. -/
theorem fails_exceeded_iff :
    (s.after runtime cells jobs).Fails (s.after runtime cells (jobs ++ [job]))
        .exceededInflightCreation job ↔ s.AtLimit runtime cells jobs := by
  rw [after_concat, ← exceeded_iff_atLimit]
  have hcases := s.auction_cases runtime (s.after runtime cells jobs) job
  split at hcases
  · rename_i hlimit
    rw [hcases]
    exact iff_of_true Round.fails_fail hlimit
  · rename_i hlimit
    refine iff_of_false (fun hfails => ?_) hlimit
    rcases hcases with ⟨err, herr, hfail⟩ | ⟨ref, -, -, -, hplace⟩
    · rw [hfail] at hfails
      exact error_ne_exceeded (scheduleAuction_ne_exceeded herr)
        (Round.fails_inj Round.fails_fail hfails)
    · rw [hplace] at hfails
      exact Round.not_fails_place hfails

/-! ## The whole call -/

theorem reserved_le_limit {request : AuctionRequest}
    (hlimit : 0 < s.startingContainerCountMaximum) :
    (s.reservedJobs (s.reserve runtime cells request).cells : Int) - s.reservedJobs cells ≤
      max 0 (s.startingContainerCountMaximum - s.startingContainers cells) := by
  have hcounted := s.counted_after runtime cells (runtime.jobs request)
  rw [after, ← reserve_eq_foldl] at hcounted
  have hcounter := hcounted.counter
  have hle := hcounted.limit hlimit
  omega

/-- **The limit of containers in flight is respected and used.**  The jobs that are reserved fit
under the limit, and a job fails for the limit exactly if its turn comes at the limit. -/
theorem inflight_limit (s : Scheduler F) (runtime : Runtime) (cells : Heap)
    (request : AuctionRequest) :
    (0 < s.startingContainerCountMaximum →
      (s.reservedJobs (s.reserve runtime cells request).cells : Int) - s.reservedJobs cells ≤
        max 0 (s.startingContainerCountMaximum - s.startingContainers cells)) ∧
    ∀ before job after, s.decisions runtime cells request = before ++ job :: after →
      ((s.after runtime cells before).Fails (s.after runtime cells (before ++ [job]))
        .exceededInflightCreation job ↔ s.AtLimit runtime cells before) :=
  ⟨reserved_le_limit, fun _ _ _ _ => fails_exceeded_iff⟩

end Scheduler

end Diego.Auction
