import Diego.Auction.Placement

/-!
# The order of the decisions

`Schedule` decides one auction after the other, in three passes.  Here every decision, be it an
auction or a refusal because too many containers are starting, is written down as it is made
(`reserveLogged`), and the list is compared with the order that the passes are there for: LRPs with
index zero, tasks, and the other LRPs.

The split point of the LRPs is the first one with an index above zero.  Where there is none,
`splitLRPS` puts all LRPs behind the tasks, so the order holds exactly for the requests of
`decisions_prioritised_iff`.
-/

namespace Diego.Auction

open Models List

/-! ## What is decided when -/

namespace Scheduler

variable {F : Type} [Float64 F] {s : Scheduler F} {runtime : Runtime}

/-- One turn of one of the three loops, with a note of it. -/
def auctionLogged (s : Scheduler F) (runtime : Runtime) (logged : Round × List Job) (job : Job) :
    Round × List Job :=
  (s.auction runtime logged.1 job, logged.2 ++ [job])

/-- `reserve`, with a note of every decision. -/
def reserveLogged (s : Scheduler F) (runtime : Runtime) (cells : Heap) (request : AuctionRequest) :
    Round × List Job :=
  let (lrpsBeforeTasks, lrpsAfterTasks) := splitLRPS (runtime.sortLRPs.sort request.lrps)
  let auctionLRP logged lrpAuction := s.auctionLogged runtime logged (.lrp lrpAuction)
  let auctionTask logged taskAuction := s.auctionLogged runtime logged (.task taskAuction)
  let logged := lrpsBeforeTasks.foldl auctionLRP (s.newRound cells, [])
  let logged := (runtime.sortTasks.sort request.tasks).foldl auctionTask logged
  lrpsAfterTasks.foldl auctionLRP logged

/-- The decisions of `Schedule` in the order in which they are made.  Without zones it makes
none. -/
def decisions (s : Scheduler F) (runtime : Runtime) (cells : Heap) (request : AuctionRequest) :
    List Job :=
  if s.zones.entries = [] then [] else (s.reserveLogged runtime cells request).2

theorem foldl_auctionLogged (jobs : List Job) (logged : Round × List Job) :
    jobs.foldl (s.auctionLogged runtime) logged =
      (jobs.foldl (s.auction runtime) logged.1, logged.2 ++ jobs) := by
  induction jobs generalizing logged with
  | nil => simp
  | cons job jobs ih =>
    rw [foldl_cons, ih]
    simp [auctionLogged]

/-- The notes change nothing, and list the jobs of the request. -/
theorem reserveLogged_eq (cells : Heap) (request : AuctionRequest) :
    s.reserveLogged runtime cells request =
      (s.reserve runtime cells request, runtime.jobs request) := by
  have hjobs : s.reserveLogged runtime cells request =
      (runtime.jobs request).foldl (s.auctionLogged runtime) (s.newRound cells, []) := by
    rw [Runtime.jobs, foldl_append, foldl_append, foldl_map, foldl_map, foldl_map]
    rfl
  rw [hjobs, foldl_auctionLogged, reserve_eq_foldl, nil_append]

end Scheduler

/-! ## The order -/

/-- The first job may be decided before the second. -/
def Job.Before : Job → Job → Prop
  | .lrp a, .lrp b => a.index < b.index ∨ a.index = b.index ∧ b.memoryMB ≤ a.memoryMB
  | .lrp a, .task _ => a.index ≤ 0
  | .task _, .lrp b => 0 < b.index
  | .task a, .task b => b.memoryMB ≤ a.memoryMB

/-- LRPs with index zero, then tasks, then LRPs with an index above zero; LRPs by increasing index
and then by decreasing memory, tasks by decreasing memory. -/
def Prioritised (jobs : List Job) : Prop :=
  jobs.Pairwise Job.Before

theorem before_of_sortLRPs {a b : LRPAuction} (h : lessLRPAuction b a = false) :
    Job.Before (.lrp a) (.lrp b) := by
  unfold lessLRPAuction at h
  by_cases hindex : b.index = a.index
  · rw [if_pos hindex, decide_eq_false_iff_not, Int32.not_lt] at h
    exact Or.inr ⟨hindex.symm, h⟩
  · rw [if_neg hindex, decide_eq_false_iff_not] at h
    exact Or.inl (by omega)

theorem before_of_sortTasks {a b : TaskAuction} (h : lessTaskAuction b a = false) :
    Job.Before (.task a) (.task b) := by
  rw [lessTaskAuction, decide_eq_false_iff_not, Int32.not_lt] at h
  exact h

variable {runtime : Runtime} {request : AuctionRequest} {lrps : List LRPAuction}

theorem Runtime.pairwise_lrps (request : AuctionRequest) :
    (runtime.sortLRPs.sort request.lrps).Pairwise fun a b => Job.Before (.lrp a) (.lrp b) :=
  (runtime.sortLRPs.sorted request.lrps).imp before_of_sortLRPs

theorem Runtime.pairwise_tasks (request : AuctionRequest) :
    (runtime.sortTasks.sort request.tasks).Pairwise fun a b => Job.Before (.task a) (.task b) :=
  (runtime.sortTasks.sorted request.tasks).imp before_of_sortTasks

/-- Where there is an LRP with an index above zero, the sorted LRPs are split at the first one. -/
theorem splitLRPS_index (hsorted : lrps.Pairwise fun a b => Job.Before (.lrp a) (.lrp b))
    (hexists : ∃ lrp ∈ lrps, 0 < lrp.index) :
    (∀ lrp ∈ (Scheduler.splitLRPS lrps).1, lrp.index ≤ 0) ∧
      ∀ lrp ∈ (Scheduler.splitLRPS lrps).2, 0 < lrp.index := by
  unfold Scheduler.splitLRPS
  split
  · rename_i idx hidx
    obtain ⟨hlt, hpivot, hbefore⟩ := findIdx?_eq_some_iff_getElem.mp hidx
    have hpivot : 0 < lrps[idx].index := by simpa using hpivot
    constructor
    · intro lrp hlrp
      obtain ⟨i, hi, rfl⟩ := mem_take_iff_getElem.mp hlrp
      have hfirst := hbefore i (by omega)
      simpa using hfirst
    · intro lrp hlrp
      have hafter : (lrps.drop idx).Pairwise fun a b => Job.Before (.lrp a) (.lrp b) :=
        hsorted.drop
      rw [drop_eq_getElem_cons hlt] at hlrp hafter
      rcases mem_cons.mp hlrp with rfl | hlrp
      · exact hpivot
      · rcases rel_of_pairwise_cons hafter hlrp with hless | ⟨heq, -⟩
        · omega
        · omega
  · rename_i hnone
    obtain ⟨lrp, hlrp, hpos⟩ := hexists
    have hnot := findIdx?_eq_none_iff.mp hnone lrp hlrp
    simp [hpos] at hnot

/-- Where there is none, nothing comes before the tasks. -/
theorem splitLRPS_of_not_exists (hall : ∀ lrp ∈ lrps, lrp.index ≤ 0) :
    Scheduler.splitLRPS lrps = ([], lrps) := by
  have hnone : lrps.findIdx? (fun lrp => lrp.index > 0) = none := by
    rw [findIdx?_eq_none_iff]
    intro lrp hlrp
    have hindex := hall lrp hlrp
    simpa using hindex
  rw [Scheduler.splitLRPS, hnone]

theorem prioritised_append {before after : List LRPAuction} {tasks : List TaskAuction} :
    Prioritised (before.map .lrp ++ (tasks.map .task ++ after.map .lrp)) ↔
      ((before ++ after).Pairwise fun a b => Job.Before (.lrp a) (.lrp b)) ∧
        (tasks.Pairwise fun a b => Job.Before (.task a) (.task b)) ∧
        (∀ lrp ∈ before, ∀ task ∈ tasks, Job.Before (.lrp lrp) (.task task)) ∧
        ∀ task ∈ tasks, ∀ lrp ∈ after, Job.Before (.task task) (.lrp lrp) := by
  unfold Prioritised
  grind

/-- The jobs are in order exactly where an LRP with an index above zero marks the split point, or
where there are no two kinds of jobs to order. -/
theorem Runtime.prioritised_jobs_iff :
    Prioritised (runtime.jobs request) ↔
      (∃ lrp ∈ request.lrps, 0 < lrp.index) ∨ request.lrps = [] ∨ request.tasks = [] := by
  have hlrps := runtime.pairwise_lrps request
  have htasks := runtime.pairwise_tasks request
  have hlrpsPerm := runtime.sortLRPs.perm request.lrps
  have htasksPerm := runtime.sortTasks.perm request.tasks
  rw [Runtime.jobs, prioritised_append, Scheduler.splitLRPS_append]
  by_cases hexists : ∃ lrp ∈ request.lrps, 0 < lrp.index
  · have hsorted : ∃ lrp ∈ runtime.sortLRPs.sort request.lrps, 0 < lrp.index := by
      obtain ⟨lrp, hlrp, hpos⟩ := hexists
      exact ⟨lrp, hlrpsPerm.mem_iff.mpr hlrp, hpos⟩
    obtain ⟨hbefore, hafter⟩ := splitLRPS_index hlrps hsorted
    exact iff_of_true ⟨hlrps, htasks, fun lrp hlrp _ _ => hbefore lrp hlrp,
      fun _ _ lrp hlrp => hafter lrp hlrp⟩ (Or.inl hexists)
  · have hall : ∀ lrp ∈ runtime.sortLRPs.sort request.lrps, lrp.index ≤ 0 := by
      intro lrp hlrp
      by_contra hindex
      exact hexists ⟨lrp, hlrpsPerm.mem_iff.mp hlrp, by omega⟩
    rw [splitLRPS_of_not_exists hall]
    constructor
    · rintro ⟨-, -, -, hlast⟩
      refine Or.inr ?_
      by_contra hboth
      obtain ⟨hlrpsNe, htasksNe⟩ := not_or.mp hboth
      obtain ⟨lrp, hlrp⟩ := exists_mem_of_ne_nil _ hlrpsNe
      obtain ⟨task, htask⟩ := exists_mem_of_ne_nil _ htasksNe
      have hlrp := hlrpsPerm.mem_iff.mpr hlrp
      have hpos : 0 < lrp.index := hlast task (htasksPerm.mem_iff.mpr htask) lrp hlrp
      have hindex := hall lrp hlrp
      omega
    · rintro (hexists' | hnil | hnil)
      · exact absurd hexists' hexists
      · rw [hnil] at hlrpsPerm ⊢
        rw [hlrpsPerm.eq_nil]
        exact ⟨.nil, htasks, by simp, by simp⟩
      · rw [hnil] at htasksPerm ⊢
        rw [htasksPerm.eq_nil]
        exact ⟨hlrps, .nil, by simp, by simp⟩

/-- **Every job of a request is decided once, and the decisions are in the order of priority
exactly when the request has an LRP with an index above zero, or has no LRPs or no tasks.** -/
theorem decisions_prioritised_iff {F : Type} [Float64 F] (s : Scheduler F) (runtime : Runtime)
    (cells : Heap) (request : AuctionRequest) (hzones : s.zones.entries ≠ []) :
    ((s.decisions runtime cells request).filterMap Job.lrp?).Perm request.lrps ∧
      ((s.decisions runtime cells request).filterMap Job.task?).Perm request.tasks ∧
      (Prioritised (s.decisions runtime cells request) ↔
        (∃ lrp ∈ request.lrps, 0 < lrp.index) ∨ request.lrps = [] ∨ request.tasks = []) := by
  have hdecisions : s.decisions runtime cells request = runtime.jobs request := by
    rw [Scheduler.decisions, if_neg hzones, Scheduler.reserveLogged_eq]
  rw [hdecisions]
  exact ⟨runtime.lrps_jobs request, runtime.tasks_jobs request, runtime.prioritised_jobs_iff⟩

theorem decisions_prioritised_sample :
    Prioritised (sampleScheduler.decisions sampleRuntime (sampleCells 100) sampleRequest) := by
  have h := decisions_prioritised_iff sampleScheduler sampleRuntime (sampleCells 100) sampleRequest
    (by decide)
  exact h.2.2.mpr (Or.inl ⟨sampleLRP 1, List.mem_cons_self, by decide⟩)

/-- A task and the first instance of an LRP: the task goes first. -/
theorem decisions_task_first :
    sampleScheduler.decisions sampleRuntime (sampleCells 100)
        { lrps := [sampleLRP 0], tasks := [sampleTask] } =
      [.task sampleTask, .lrp (sampleLRP 0)] ∧
      ¬ Prioritised [.task sampleTask, .lrp (sampleLRP 0)] := by
  constructor
  · rfl
  · intro hprioritised
    have hindex : 0 < (sampleLRP 0).index :=
      List.rel_of_pairwise_cons hprioritised List.mem_cons_self
    exact absurd hindex (by decide)

end Diego.Auction
