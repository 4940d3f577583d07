import Diego.Auction.Placement

/-!
# Conservation of auctions

`Schedule` returns every auction it was given exactly once, as a success or as a failure,
with one more attempt; and a success names a cell to which its work was sent.

The LRPs and the tasks are two ledgers whose placed items are spread over the cells: what
is placed is the work to be committed.  Every auction keeps this (`Conserves.auction`), and
so does the run (`Conserves.run`).  A rep that hands back some of its work, each piece at
most once, revokes placed items, each at most once.
-/

namespace Diego.Auction

open Models List

/-- A rep answers with an error or with some of the work it was given, no piece of which it
names twice. -/
def Runtime.Honest (runtime : Runtime) : Prop :=
  ∀ ref work failedWork, runtime.perform ref work = some failedWork →
    (failedWork.lrps.map SchedulingLRP.identifier).Subperm
      (work.lrps.map SchedulingLRP.identifier) ∧
    (failedWork.tasks.map SchedulingTask.identifier).Subperm
      (work.tasks.map SchedulingTask.identifier)

/-- The work of the cell starts the LRP of the auction, and the auction names the cell. -/
def HoldsLRP (cells : Heap) (auction : LRPAuction) (ref : CellRef) (lrp : SchedulingLRP) : Prop :=
  auction.winner = (cells ref).guid ∧ lrp.copy = auction.toSchedulingLRP

/-- The work of the cell starts the task of the auction, and the auction names the cell. -/
def HoldsTask (cells : Heap) (auction : TaskAuction) (ref : CellRef) (task : SchedulingTask) :
    Prop :=
  auction.winner = (cells ref).guid ∧ task.copy = auction.toSchedulingTask

/-- The state of a round after some LRPs and tasks. -/
structure Conserves {F : Type} (s : Scheduler F) (cells : Heap) (lrps : List LRPAuction)
    (tasks : List TaskAuction) (round : Round) : Prop where
  guid : ∀ ref, (round.cells ref).guid = (cells ref).guid
  lrps : round.lrps.Spread (fun auction => auction.identifier) LRPAuction.requested
    SchedulingLRP.identifier (HoldsLRP cells) s.refs
    (fun ref => (round.cells ref).workToCommit.lrps) lrps
  tasks : round.tasks.Spread (fun auction => auction.identifier) TaskAuction.requested
    SchedulingTask.identifier (HoldsTask cells) s.refs
    (fun ref => (round.cells ref).workToCommit.tasks) tasks

theorem notMem_of_nodup_map_append {A : Type} {f : A → String} {items rest : List A} {item : A}
    (hnodup : ((items ++ ([item] ++ rest)).map f).Nodup) : f item ∉ items.map f := by
  rw [map_append, nodup_append] at hnodup
  intro hmem
  exact hnodup.2.2 _ hmem _ mem_cons_self rfl

section Run

variable {F : Type} {s : Scheduler F} {runtime : Runtime} {cells : Heap}
  {lrps : List LRPAuction} {tasks : List TaskAuction} {round : Round}

theorem conserves_newRound (hfresh : s.Fresh cells) :
    Conserves s cells [] [] (s.newRound cells) where
  guid _ := rfl
  lrps := Ledger.spread_empty fun ref href => (hfresh ref href).1
  tasks := Ledger.spread_empty fun ref href => (hfresh ref href).2

variable [Float64 F]

theorem Conserves.auctionLRP (h : Conserves s cells lrps tasks round) {lrpAuction : LRPAuction}
    (hnew : lrpAuction.identifier ∉ lrps.map fun auction => auction.identifier) :
    Conserves s cells (lrps ++ [lrpAuction]) tasks (s.auction runtime round (.lrp lrpAuction)) := by
  rcases s.auction_fail_or_place with
    ⟨err, heq⟩ | ⟨ref, href, -, -, heq⟩
  · rw [heq]
    exact ⟨h.guid, h.lrps.fail hnew rfl, h.tasks⟩
  · rw [heq]
    have hguid := update_frame Cell.guid
      ((round.cells ref).withLRP lrpAuction.toSchedulingLRP) rfl
    have htasks := update_frame (·.workToCommit.tasks)
      ((round.cells ref).withLRP lrpAuction.toSchedulingLRP) rfl
    have hself := congrArg (·.workToCommit.lrps) (Function.update_self ref
      ((round.cells ref).withLRP lrpAuction.toSchedulingLRP) round.cells)
    refine ⟨?_, ?_, h.tasks.congr htasks⟩
    · intro other
      exact (hguid other).trans (h.guid other)
    · -- The LRP goes to the work of one cell, and no other work changes.
      refine h.lrps.place hnew rfl rfl s.zones_nodup href hself ?_ rfl ⟨h.guid ref, rfl⟩
      intro other hother
      exact congrArg (·.workToCommit.lrps) (Function.update_of_ne hother _ round.cells)

theorem Conserves.auctionTask (h : Conserves s cells lrps tasks round) {taskAuction : TaskAuction}
    (hnew : taskAuction.identifier ∉ tasks.map fun auction => auction.identifier) :
    Conserves s cells lrps (tasks ++ [taskAuction])
      (s.auction runtime round (.task taskAuction)) := by
  rcases s.auction_fail_or_place with
    ⟨err, heq⟩ | ⟨ref, href, -, -, heq⟩
  · rw [heq]
    exact ⟨h.guid, h.lrps, h.tasks.fail hnew rfl⟩
  · rw [heq]
    have hguid := update_frame Cell.guid
      ((round.cells ref).withTask taskAuction.toSchedulingTask) rfl
    have hlrps := update_frame (·.workToCommit.lrps)
      ((round.cells ref).withTask taskAuction.toSchedulingTask) rfl
    have hself := congrArg (·.workToCommit.tasks) (Function.update_self ref
      ((round.cells ref).withTask taskAuction.toSchedulingTask) round.cells)
    refine ⟨?_, h.lrps.congr hlrps, ?_⟩
    · intro other
      exact (hguid other).trans (h.guid other)
    · refine h.tasks.place hnew rfl rfl s.zones_nodup href hself ?_ rfl ⟨h.guid ref, rfl⟩
      intro other hother
      exact congrArg (·.workToCommit.tasks) (Function.update_of_ne hother _ round.cells)

theorem Conserves.run {jobs : List Job} (h : Conserves s cells lrps tasks round)
    (hlrps : ((lrps ++ jobs.filterMap Job.lrp?).map fun auction => auction.identifier).Nodup)
    (htasks : ((tasks ++ jobs.filterMap Job.task?).map
      fun auction => auction.identifier).Nodup) :
    Conserves s cells (lrps ++ jobs.filterMap Job.lrp?) (tasks ++ jobs.filterMap Job.task?)
      (jobs.foldl (s.auction runtime) round) := by
  induction jobs generalizing lrps tasks round with
  | nil =>
    rw [filterMap_nil, filterMap_nil, append_nil, append_nil]
    exact h
  | cons job jobs ih =>
    cases job with
    | lrp lrpAuction =>
      have hcons : (Job.lrp lrpAuction :: jobs).filterMap Job.lrp? =
          [lrpAuction] ++ jobs.filterMap Job.lrp? := rfl
      have hnew := notMem_of_nodup_map_append (hcons ▸ hlrps)
      rw [hcons, ← append_assoc] at hlrps ⊢
      exact ih (h.auctionLRP hnew) hlrps htasks
    | task taskAuction =>
      have hcons : (Job.task taskAuction :: jobs).filterMap Job.task? =
          [taskAuction] ++ jobs.filterMap Job.task? := rfl
      have hnew := notMem_of_nodup_map_append (hcons ▸ htasks)
      rw [hcons, ← append_assoc] at htasks ⊢
      exact ih (h.auctionTask hnew) hlrps htasks

end Run

/-! ## The commit -/

section Commit

variable {c : Cell}

/-- What a cell hands back is some of its work. -/
theorem Cell.commit_subperm {runtime : Runtime} (hhonest : runtime.Honest) {ref : CellRef} :
    ((c.commit (runtime.perform ref)).lrps.map SchedulingLRP.identifier).Subperm
      (c.workToCommit.lrps.map SchedulingLRP.identifier) ∧
    ((c.commit (runtime.perform ref)).tasks.map SchedulingTask.identifier).Subperm
      (c.workToCommit.tasks.map SchedulingTask.identifier) := by
  unfold Cell.commit
  split
  · exact ⟨nil_subperm, nil_subperm⟩
  · cases hperform : runtime.perform ref c.workToCommit with
    | none => exact ⟨nil_subperm, nil_subperm⟩
    | some failedWork => exact hhonest ref c.workToCommit failedWork hperform

/-- The failed works of the cells, as one list of identifiers. -/
theorem foldl_failWork (works : List Work) (round : Round) :
    (works.foldl Round.failWork round).lrps =
        (works.flatMap fun work => work.lrps.map SchedulingLRP.identifier).foldl Ledger.revoke
          round.lrps ∧
      (works.foldl Round.failWork round).tasks =
        (works.flatMap fun work => work.tasks.map SchedulingTask.identifier).foldl Ledger.revoke
          round.tasks := by
  induction works generalizing round with
  | nil => exact ⟨rfl, rfl⟩
  | cons work works ih =>
    obtain ⟨hlrps, htasks⟩ := ih (round.failWork work)
    rw [flatMap_cons, flatMap_cons, foldl_append, foldl_append]
    exact ⟨hlrps, htasks⟩

variable {F : Type} {s : Scheduler F} {runtime : Runtime} {cells : Heap}
  {lrps : List LRPAuction} {tasks : List TaskAuction} {round : Round} {works : List Work}

/-- The LRPs and the tasks are accounted for after the commit. -/
theorem Conserves.commit (h : Conserves s cells lrps tasks round) (hhonest : runtime.Honest) :
    let round' := (s.commitCells runtime round.cells).foldl Round.failWork round
    round'.lrps.Accounts (fun auction => auction.identifier) LRPAuction.requested lrps ∧
      round'.tasks.Accounts (fun auction => auction.identifier) TaskAuction.requested tasks := by
  dsimp only
  obtain ⟨hlrps, htasks⟩ := foldl_failWork (s.commitCells runtime round.cells) round
  rw [hlrps, htasks]
  constructor
  · refine h.lrps.revokes ?_
    rw [Scheduler.commitCells, flatMap_map, map_flatMap]
    exact flatMap_subperm (runtime.commitOrder_perm s.refs)
      fun ref => (Cell.commit_subperm hhonest).1
  · refine h.tasks.revokes ?_
    rw [Scheduler.commitCells, flatMap_map, map_flatMap]
    exact flatMap_subperm (runtime.commitOrder_perm s.refs)
      fun ref => (Cell.commit_subperm hhonest).2

theorem Conserves.holds_lrp (h : Conserves s cells lrps tasks round) {auction : LRPAuction}
    (hmem : auction ∈ (works.foldl Round.failWork round).results.successfulLRPs) :
    ∃ ref ∈ s.refs, auction.winner = (round.cells ref).guid ∧
      ∃ lrp ∈ (round.cells ref).workToCommit.lrps, lrp.copy = auction.toSchedulingLRP := by
  rw [Round.results, (foldl_failWork works round).1] at hmem
  obtain ⟨ref, href, lrp, hlrp, hwinner, hcopy⟩ := h.lrps.held_of_mem_revokes hmem
  exact ⟨ref, href, hwinner.trans (h.guid ref).symm, lrp, hlrp, hcopy⟩

theorem Conserves.holds_task (h : Conserves s cells lrps tasks round) {auction : TaskAuction}
    (hmem : auction ∈ (works.foldl Round.failWork round).results.successfulTasks) :
    ∃ ref ∈ s.refs, auction.winner = (round.cells ref).guid ∧
      ∃ task ∈ (round.cells ref).workToCommit.tasks, task.copy = auction.toSchedulingTask := by
  rw [Round.results, (foldl_failWork works round).2] at hmem
  obtain ⟨ref, href, task, htask, hwinner, hcopy⟩ := h.tasks.held_of_mem_revokes hmem
  exact ⟨ref, href, hwinner.trans (h.guid ref).symm, task, htask, hcopy⟩

end Commit

/-! ## The results -/

section Results

variable {F : Type} [Float64 F] {s : Scheduler F} {runtime : Runtime} {cells : Heap}
  {request : AuctionRequest} {results : AuctionResults}

/-- The reservations of a request whose identifiers are distinct. -/
theorem conserves_reserve (runtime : Runtime) (hfresh : s.Fresh cells)
    (hlrps : (request.lrps.map fun auction => auction.identifier).Nodup)
    (htasks : (request.tasks.map fun auction => auction.identifier).Nodup) :
    Conserves s cells ((runtime.jobs request).filterMap Job.lrp?)
      ((runtime.jobs request).filterMap Job.task?) (s.reserve runtime cells request) := by
  rw [s.reserve_eq_foldl]
  refine (conserves_newRound hfresh).run ?_ ?_
  · exact (((runtime.lrps_jobs request).map _).nodup_iff).mpr hlrps
  · exact (((runtime.tasks_jobs request).map _).nodup_iff).mpr htasks

omit [Float64 F] in
theorem requested_markResults_lrps :
    ((Scheduler.markResults runtime results).successfulLRPs ++
        (Scheduler.markResults runtime results).failedLRPs).map LRPAuction.requested =
      ((results.successfulLRPs ++ results.failedLRPs).map LRPAuction.requested).map
        LRPAuction.attempted := by
  simp [Scheduler.markResults, Function.comp_def, LRPAuction.requested, LRPAuction.attempted]

omit [Float64 F] in
theorem requested_markResults_tasks :
    ((Scheduler.markResults runtime results).successfulTasks ++
        (Scheduler.markResults runtime results).failedTasks).map TaskAuction.requested =
      ((results.successfulTasks ++ results.failedTasks).map TaskAuction.requested).map
        TaskAuction.attempted := by
  simp [Scheduler.markResults, Function.comp_def, TaskAuction.requested, TaskAuction.attempted]

/-- `Schedule` returns every LRP and every task of the request exactly once, as a success
or as a failure and with one more attempt, and nothing else.  A success names a cell whose
committed work contains it. -/
theorem schedule_conserves (hfresh : s.Fresh cells) (hhonest : runtime.Honest)
    (hlrps : (request.lrps.map fun auction => auction.identifier).Nodup)
    (htasks : (request.tasks.map fun auction => auction.identifier).Nodup) :
    let results := s.schedule runtime cells request
    let committed := (s.reserve runtime cells request).cells
    ((results.successfulLRPs ++ results.failedLRPs).map LRPAuction.requested).Perm
        ((request.lrps.map LRPAuction.requested).map LRPAuction.attempted) ∧
      ((results.successfulTasks ++ results.failedTasks).map TaskAuction.requested).Perm
        ((request.tasks.map TaskAuction.requested).map TaskAuction.attempted) ∧
      (∀ auction ∈ results.successfulLRPs, ∃ ref ∈ s.refs,
        auction.winner = (committed ref).guid ∧
        ∃ lrp ∈ (committed ref).workToCommit.lrps, lrp.copy = auction.toSchedulingLRP) ∧
      ∀ auction ∈ results.successfulTasks, ∃ ref ∈ s.refs,
        auction.winner = (committed ref).guid ∧
        ∃ task ∈ (committed ref).workToCommit.tasks, task.copy = auction.toSchedulingTask := by
  dsimp only
  unfold Scheduler.schedule
  split
  · rw [requested_markResults_lrps, requested_markResults_tasks]
    refine ⟨?_, ?_, fun auction hmem => absurd hmem List.not_mem_nil,
      fun auction hmem => absurd hmem List.not_mem_nil⟩
    · simp [Function.comp_def, LRPAuction.requested]
    · simp [Function.comp_def, TaskAuction.requested]
  · have hround := conserves_reserve runtime hfresh hlrps htasks
    obtain ⟨haccountsLRPs, haccountsTasks⟩ := hround.commit hhonest
    rw [requested_markResults_lrps, requested_markResults_tasks]
    refine ⟨?_, ?_, fun auction hmem => ?_, fun auction hmem => ?_⟩
    · exact (haccountsLRPs.perm.trans ((runtime.lrps_jobs request).map _)).map _
    · exact (haccountsTasks.perm.trans ((runtime.tasks_jobs request).map _)).map _
    · obtain ⟨placed, hplaced, rfl⟩ := List.mem_map.mp hmem
      have hholds := hround.holds_lrp hplaced
      exact hholds
    · obtain ⟨placed, hplaced, rfl⟩ := List.mem_map.mp hmem
      have hholds := hround.holds_task hplaced
      exact hholds

end Results

/-! ### A round in which one cell hands its work back -/

theorem honest_sampleRuntime : sampleRuntime.Honest := by
  intro ref work failedWork hperform
  have hperform : (if ref = 0 then some {} else some work) = some failedWork := hperform
  split at hperform
  · cases hperform
    exact ⟨nil_subperm, nil_subperm⟩
  · cases hperform
    exact ⟨List.Subperm.refl _, List.Subperm.refl _⟩

theorem schedule_conserves_sample :
    let results := sampleScheduler.schedule sampleRuntime (sampleCells 100) sampleRequest
    results.successfulLRPs.map (fun auction => auction.identifier) = ["process.1"] ∧
      results.failedLRPs.map (fun auction => auction.identifier) = ["process.0"] ∧
      ((results.successfulLRPs ++ results.failedLRPs).map LRPAuction.requested).Perm
        ((sampleRequest.lrps.map LRPAuction.requested).map LRPAuction.attempted) := by
  have hfresh : sampleScheduler.Fresh (sampleCells 100) := fun ref href => ⟨rfl, rfl⟩
  have hlrps : (sampleRequest.lrps.map fun auction => auction.identifier).Nodup := by decide
  have htasks : (sampleRequest.tasks.map fun auction => auction.identifier).Nodup := by decide
  have hconserves := schedule_conserves hfresh honest_sampleRuntime hlrps htasks
  exact ⟨by decide +kernel, by decide +kernel, hconserves.1⟩

end Diego.Auction
