import Diego.Auction.Types
import Diego.GoMap
import Diego.Machine

/-!
# The batch and the runner

`auction/auctionrunner/batch.go` and the loop of `auction_runner.go`.  Any number of callers
add auctions to a batch, and one runner drains it.  The batch has a lock and a channel
`HasWork` with one slot; the runner listens to `HasWork`, or, when it could not fetch the
cell reps, to a channel of its own that holds the work it received.

Receiving does not take the lock, so a call that adds auctions is two steps: the append,
which takes the lock, and the claim to have work, which releases it; the runner may
receive in between.  `DedupeAndDrain` is two steps for the same reason.  A step is an
`Action`; an action that is not possible in a state leads nowhere.

Whenever the batch holds an auction, a wake-up is owed, and the batches that were drained,
one after the other, followed by what the batch holds, are exactly what was added.
-/

namespace Diego.Auction.Runner

open Models hiding Work
open List

/-! ## Auctions of start requests -/

/-- The auctions that `AddLRPStarts` appends. -/
def lrpAuctionsOf (now : Int) (starts : List LRPStartRequest) : List LRPAuction :=
  starts.flatMap fun start => start.indices.map fun index =>
    { processGuid := start.processGuid
      index := (Int32.ofInt index).toInt
      domain := start.domain
      toPlacementConstraint := start.toPlacementConstraint
      toResource := start.toResource
      instanceGUID := ""
      state := ""
      queueTime := now }

/-- The auctions that `AddTasks` appends. -/
def taskAuctionsOf (now : Int) (tasks : List TaskStartRequest) : List TaskAuction :=
  tasks.map fun request => { toSchedulingTask := request.task, queueTime := now }

/-! ## Deduplication -/

section Dedupe

variable {A : Type} (idOf : A → String)

/-- One turn of a loop of `DedupeAndDrain`: the auctions that are kept, and the identifiers
that are present. -/
def dedupeStep (kept : List A × GoMap String Bool) (auction : A) : List A × GoMap String Bool :=
  if (kept.2.lookup (idOf auction)).getD false then kept
  else (kept.1 ++ [auction], kept.2.insert (idOf auction) true)

def dedupe (auctions : List A) : List A :=
  (auctions.foldl (dedupeStep idOf) ([], ∅)).1

structure FirstPerIdentifier (auctions kept : List A) : Prop where
  sublist : kept.Sublist auctions
  nodup : (kept.map idOf).Nodup
  first : ∀ i, kept.find? (fun auction => idOf auction = i) =
    auctions.find? fun auction => idOf auction = i

variable {idOf} {auctions : List A}

/-- One more auction, whose identifier is present or not. -/
theorem FirstPerIdentifier.dedupeStep {kept : List A × GoMap String Bool}
    (h : FirstPerIdentifier idOf auctions kept.1)
    (hpresent : ∀ i, (kept.2.lookup i).getD false = true ↔ i ∈ kept.1.map idOf) {auction : A} :
    FirstPerIdentifier idOf (auctions ++ [auction]) (dedupeStep idOf kept auction).1 ∧
      ∀ i, ((dedupeStep idOf kept auction).2.lookup i).getD false = true ↔
        i ∈ (dedupeStep idOf kept auction).1.map idOf := by
  unfold Runner.dedupeStep
  by_cases hmem : idOf auction ∈ kept.1.map idOf
  · rw [if_pos ((hpresent _).mpr hmem)]
    refine ⟨⟨h.sublist.trans (sublist_append_left _ _), h.nodup, fun i => ?_⟩, hpresent⟩
    rw [List.find?_append, ← h.first i]
    by_cases hi : idOf auction = i
    · -- The identifier is present, so it is found among the earlier auctions.
      obtain ⟨earlier, hearlier, hid⟩ := mem_map.mp hmem
      have hfound : (kept.1.find? fun auction => idOf auction = i).isSome :=
        List.find?_isSome.mpr ⟨earlier, hearlier, by simp [hid, hi]⟩
      rw [Option.or_of_isSome hfound]
    · simp [hi]
  · rw [if_neg fun hlookup => hmem ((hpresent _).mp hlookup)]
    refine ⟨⟨h.sublist.append (List.Sublist.refl _), ?_, fun i => ?_⟩, fun i => ?_⟩
    · rw [map_append, nodup_append]
      refine ⟨h.nodup, nodup_singleton _, ?_⟩
      intro i hi j hj
      rw [mem_singleton.mp hj]
      rintro rfl
      exact hmem hi
    · rw [List.find?_append, List.find?_append, h.first i]
    · rw [GoMap.lookup_insert_ite]
      by_cases hi : i = idOf auction
      · simp [hi]
      · rw [if_neg hi, hpresent i]
        simp [hi]

theorem firstPerIdentifier_dedupe : FirstPerIdentifier idOf auctions (dedupe idOf auctions) := by
  have hfold : ∀ (rest seen : List A) (kept : List A × GoMap String Bool),
      FirstPerIdentifier idOf seen kept.1 →
      (∀ i, (kept.2.lookup i).getD false = true ↔ i ∈ kept.1.map idOf) →
      FirstPerIdentifier idOf (seen ++ rest) (rest.foldl (dedupeStep idOf) kept).1 := by
    intro rest
    induction rest with
    | nil =>
      intro seen kept h _
      rw [append_nil]
      exact h
    | cons auction rest ih =>
      intro seen kept h hpresent
      obtain ⟨hstep, hpresent'⟩ := h.dedupeStep hpresent
      have hrest := ih (seen ++ [auction]) _ hstep hpresent'
      rw [append_assoc] at hrest
      exact hrest
  refine hfold auctions [] ([], ∅) ⟨List.Sublist.refl _, nodup_nil, fun i => rfl⟩ ?_
  simp

end Dedupe

/-! ## States -/

structure Work where
  traceID : String
  deriving DecidableEq, Inhabited

/-- Who holds the batch's lock: a caller that has appended auctions and has yet to claim to
have work, or the runner, which has yet to empty `HasWork`. -/
inductive Lock
  | free
  | adding (auctions : AuctionRequest) (traceID : String)
  | draining
  deriving DecidableEq, Inhabited

/-- The auctions of the call that has yet to claim to have work. -/
def Lock.unclaimed : Lock → AuctionRequest
  | adding auctions _ => auctions
  | _ => { lrps := [], tasks := [] }

/-- The channel the runner listens to. -/
inductive Channel
  | batch
  | retry (slot : Option Work)
  deriving DecidableEq, Inhabited

/-- Where the runner is in its loop. -/
inductive Phase
  | waiting
  | fetchingReps (work : Work)
  | fetchingStates (work : Work)
  | draining (auctions : AuctionRequest)
  | auctioning (request : AuctionRequest)
  | stopped
  deriving DecidableEq, Inhabited

structure State where
  lrpAuctions : List LRPAuction := []
  taskAuctions : List TaskAuction := []
  lock : Lock := .free
  hasWork : Option Work := none
  channel : Channel := .batch
  phase : Phase := .waiting
  /-- What was added so far, in the order of the appends. -/
  added : AuctionRequest := { lrps := [], tasks := [] }
  /-- The batches that were drained so far. -/
  drained : List AuctionRequest := []
  deriving DecidableEq, Inhabited

inductive Action
  | addLRPStarts (now : Int) (starts : List LRPStartRequest) (traceID : String)
  | addTasks (now : Int) (tasks : List TaskStartRequest) (traceID : String)
  | claimToHaveWork
  | receive
  | failToFetchReps
  | fetchReps
  | takeBatch
  | emptyHasWork
  | completeAuction
  | stop
  deriving DecidableEq, Inhabited

namespace State

/-- `claimToHaveWork`: a send that does not block. -/
def claim (state : State) (traceID : String) : Option Work :=
  match state.hasWork with
  | some work => some work
  | none => some { traceID }

def step : Action → State → Option State
  | .addLRPStarts now starts traceID, state =>
    if state.lock = .free then
      let auctions := lrpAuctionsOf now starts
      some { state with
        lrpAuctions := state.lrpAuctions ++ auctions
        lock := .adding { lrps := auctions, tasks := [] } traceID
        added := { state.added with lrps := state.added.lrps ++ auctions } }
    else none
  | .addTasks now tasks traceID, state =>
    if state.lock = .free then
      let auctions := taskAuctionsOf now tasks
      some { state with
        taskAuctions := state.taskAuctions ++ auctions
        lock := .adding { lrps := [], tasks := auctions } traceID
        added := { state.added with tasks := state.added.tasks ++ auctions } }
    else none
  | .claimToHaveWork, state =>
    match state.lock with
    | .adding _ traceID => some { state with hasWork := state.claim traceID, lock := .free }
    | _ => none
  | .receive, state =>
    match state.phase, state.channel, state.hasWork with
    | .waiting, .batch, some work =>
      some { state with hasWork := none, phase := .fetchingReps work }
    | .waiting, .retry (some work), _ =>
      some { state with channel := .retry none, phase := .fetchingReps work }
    | _, _, _ => none
  | .failToFetchReps, state =>
    match state.phase with
    | .fetchingReps work =>
      some { state with channel := .retry (some work), phase := .waiting }
    | _ => none
  | .fetchReps, state =>
    match state.phase with
    | .fetchingReps work =>
      some { state with channel := .batch, phase := .fetchingStates work }
    | _ => none
  | .takeBatch, state =>
    match state.phase, state.lock with
    | .fetchingStates _, .free =>
      let auctions := { lrps := state.lrpAuctions, tasks := state.taskAuctions }
      some { state with
        lrpAuctions := []
        taskAuctions := []
        lock := .draining
        phase := .draining auctions
        drained := state.drained ++ [auctions] }
    | _, _ => none
  | .emptyHasWork, state =>
    match state.phase, state.lock with
    | .draining auctions, .draining =>
      some { state with
        hasWork := none
        lock := .free
        phase := .auctioning
          { lrps := dedupe (fun auction => auction.identifier) auctions.lrps
            tasks := dedupe (fun auction => auction.identifier) auctions.tasks } }
    | _, _ => none
  | .completeAuction, state =>
    match state.phase with
    | .auctioning _ => some { state with phase := .waiting }
    | _ => none
  | .stop, state =>
    match state.phase with
    | .waiting => some { state with phase := .stopped }
    | _ => none

/-- The batch holds an auction that was not drained.  The auctions of a call count from its
claim on, with which the critical section of the call ends. -/
def HoldsAuction (state : State) : Prop :=
  state.lock.unclaimed.lrps.length < state.lrpAuctions.length ∨
    state.lock.unclaimed.tasks.length < state.taskAuctions.length

/-- A token is in `HasWork` or in the runner's own channel, or the runner has received one
and has not yet called `DedupeAndDrain`. -/
def Owed (state : State) : Prop :=
  state.hasWork.isSome ∨ (∃ work, state.channel = .retry (some work)) ∨
    (∃ work, state.phase = .fetchingReps work) ∨ ∃ work, state.phase = .fetchingStates work

/-- What every step keeps. -/
structure Sound (state : State) : Prop where
  owed : state.HoldsAuction → state.Owed
  empty : state.lock = .draining → state.lrpAuctions = [] ∧ state.taskAuctions = []
  lrps : state.drained.flatMap AuctionRequest.lrps ++ state.lrpAuctions = state.added.lrps
  tasks : state.drained.flatMap AuctionRequest.tasks ++ state.taskAuctions = state.added.tasks
  draining : ∀ auctions, state.phase = .draining auctions → state.drained.getLast? = some auctions
  auctioning : ∀ request, state.phase = .auctioning request →
    ∃ auctions, state.drained.getLast? = some auctions ∧
      FirstPerIdentifier (fun auction => auction.identifier) auctions.lrps request.lrps ∧
      FirstPerIdentifier (fun auction => auction.identifier) auctions.tasks request.tasks

section Sound

variable {state state' : State} {now : Int} {traceID : String}

theorem sound_initial : Sound {} where
  owed hholds := absurd hholds (by simp [HoldsAuction])
  empty hlock := nomatch hlock
  lrps := rfl
  tasks := rfl
  draining _ hphase := nomatch hphase
  auctioning _ hphase := nomatch hphase

theorem Sound.addLRPStarts (h : Sound state) {starts : List LRPStartRequest}
    (hstep : state.step (.addLRPStarts now starts traceID) = some state') : Sound state' := by
  rw [State.step] at hstep
  split at hstep
  · rename_i hlock
    cases hstep
    refine ⟨fun hholds => h.owed ?_, nofun, ?_, h.tasks, h.draining, h.auctioning⟩
    · simp only [HoldsAuction, hlock, Lock.unclaimed, length_append, length_nil]
        at hholds ⊢
      omega
    · rw [← append_assoc, h.lrps]
  · exact nomatch hstep

theorem Sound.addTasks (h : Sound state) {tasks : List TaskStartRequest}
    (hstep : state.step (.addTasks now tasks traceID) = some state') : Sound state' := by
  rw [State.step] at hstep
  split at hstep
  · rename_i hlock
    cases hstep
    refine ⟨fun hholds => h.owed ?_, nofun, h.lrps, ?_, h.draining, h.auctioning⟩
    · simp only [HoldsAuction, hlock, Lock.unclaimed, length_append, length_nil]
        at hholds ⊢
      omega
    · rw [← append_assoc, h.tasks]
  · exact nomatch hstep

theorem isSome_claim : (state.claim traceID).isSome := by
  unfold claim
  split <;> rfl

theorem Sound.claimToHaveWork (h : Sound state)
    (hstep : state.step .claimToHaveWork = some state') : Sound state' := by
  rw [State.step] at hstep
  split at hstep
  · cases hstep
    exact ⟨fun _ => Or.inl isSome_claim, nofun, h.lrps, h.tasks, h.draining, h.auctioning⟩
  · exact nomatch hstep

theorem Sound.receive (h : Sound state) (hstep : state.step .receive = some state') :
    Sound state' := by
  rw [State.step] at hstep
  split at hstep
  · cases hstep
    exact ⟨fun _ => Or.inr (Or.inr (Or.inl ⟨_, rfl⟩)), h.empty, h.lrps, h.tasks, nofun, nofun⟩
  · cases hstep
    exact ⟨fun _ => Or.inr (Or.inr (Or.inl ⟨_, rfl⟩)), h.empty, h.lrps, h.tasks, nofun, nofun⟩
  · exact nomatch hstep

theorem Sound.failToFetchReps (h : Sound state)
    (hstep : state.step .failToFetchReps = some state') : Sound state' := by
  rw [State.step] at hstep
  split at hstep
  · rename_i work hphase
    cases hstep
    exact ⟨fun _ => Or.inr (Or.inl ⟨work, rfl⟩), h.empty, h.lrps, h.tasks, nofun, nofun⟩
  · exact nomatch hstep

theorem Sound.fetchReps (h : Sound state) (hstep : state.step .fetchReps = some state') :
    Sound state' := by
  rw [State.step] at hstep
  split at hstep
  · rename_i work hphase
    cases hstep
    exact ⟨fun _ => Or.inr (Or.inr (Or.inr ⟨work, rfl⟩)), h.empty, h.lrps, h.tasks, nofun, nofun⟩
  · exact nomatch hstep

theorem not_holdsAuction (hlrps : state.lrpAuctions = []) (htasks : state.taskAuctions = []) :
    ¬ state.HoldsAuction := by
  simp [HoldsAuction, hlrps, htasks]

theorem Sound.takeBatch (h : Sound state) (hstep : state.step .takeBatch = some state') :
    Sound state' := by
  rw [State.step] at hstep
  split at hstep
  · cases hstep
    refine ⟨fun hholds => absurd hholds (not_holdsAuction rfl rfl), fun _ => ⟨rfl, rfl⟩, ?_, ?_,
      fun auctions hphase => ?_, nofun⟩
    · rw [flatMap_append, append_nil, flatMap_singleton, h.lrps]
    · rw [flatMap_append, append_nil, flatMap_singleton, h.tasks]
    · rw [← Phase.draining.inj hphase]
      exact List.getLast?_concat
  · exact nomatch hstep

/-- The runner empties `HasWork` while the batch is empty and nobody can add to it. -/
theorem Sound.emptyHasWork (h : Sound state) (hstep : state.step .emptyHasWork = some state') :
    Sound state' := by
  rw [State.step] at hstep
  split at hstep
  · rename_i auctions hphase hlock
    cases hstep
    obtain ⟨hlrps, htasks⟩ := h.empty hlock
    refine ⟨fun hholds => absurd hholds (not_holdsAuction hlrps htasks),
      nofun, h.lrps, h.tasks, nofun,
      fun request hrequest => ⟨auctions, h.draining auctions hphase, ?_⟩⟩
    rw [← Phase.auctioning.inj hrequest]
    exact ⟨firstPerIdentifier_dedupe, firstPerIdentifier_dedupe⟩
  · exact nomatch hstep

/-- The runner has nothing to lose when it is auctioning or waiting. -/
theorem Sound.withPhase (h : Sound state) {phase : Phase}
    (hreps : ∀ work, state.phase ≠ .fetchingReps work)
    (hstates : ∀ work, state.phase ≠ .fetchingStates work)
    (hdraining : ∀ auctions, phase ≠ .draining auctions)
    (hauctioning : ∀ request, phase ≠ .auctioning request) :
    Sound { state with phase } where
  owed hholds := by
    rcases h.owed hholds with hwork | hretry | ⟨work, hphase⟩ | ⟨work, hphase⟩
    · exact Or.inl hwork
    · exact Or.inr (Or.inl hretry)
    · exact absurd hphase (hreps work)
    · exact absurd hphase (hstates work)
  empty := h.empty
  lrps := h.lrps
  tasks := h.tasks
  draining auctions hphase := absurd hphase (hdraining auctions)
  auctioning request hphase := absurd hphase (hauctioning request)

theorem Sound.step (h : Sound state) {action : Action}
    (hstep : state.step action = some state') : Sound state' := by
  cases action with
  | addLRPStarts now starts traceID => exact h.addLRPStarts hstep
  | addTasks now tasks traceID => exact h.addTasks hstep
  | claimToHaveWork => exact h.claimToHaveWork hstep
  | receive => exact h.receive hstep
  | failToFetchReps => exact h.failToFetchReps hstep
  | fetchReps => exact h.fetchReps hstep
  | takeBatch => exact h.takeBatch hstep
  | emptyHasWork => exact h.emptyHasWork hstep
  | completeAuction =>
    rw [State.step] at hstep
    split at hstep
    · rename_i request hphase
      cases hstep
      exact h.withPhase (by simp [hphase]) (by simp [hphase]) nofun nofun
    · exact nomatch hstep
  | stop =>
    rw [State.step] at hstep
    split at hstep
    · rename_i hphase
      cases hstep
      exact h.withPhase (by simp [hphase]) (by simp [hphase]) nofun nofun
    · exact nomatch hstep

end Sound

/-- No auction is lost between the batch and the runner.  After every run, a batch
that holds an auction is owed a wake-up; every added auction is in the batch or in exactly one
of the drained batches; and what the runner auctions is the first auction of every identifier
of the last one. -/
theorem no_auction_lost {state : State} {actions : List Action}
    (hrun : Machine.run step {} actions = some state) :
    (state.HoldsAuction → state.Owed) ∧
      state.drained.flatMap AuctionRequest.lrps ++ state.lrpAuctions = state.added.lrps ∧
      state.drained.flatMap AuctionRequest.tasks ++ state.taskAuctions = state.added.tasks ∧
      ∀ request, state.phase = .auctioning request →
        ∃ auctions, state.drained.getLast? = some auctions ∧
          FirstPerIdentifier (fun auction => auction.identifier) auctions.lrps request.lrps ∧
          FirstPerIdentifier (fun auction => auction.identifier) auctions.tasks
            request.tasks := by
  have hsound : Sound state :=
    Machine.run_invariant sound_initial (fun _ _ _ _ h hstep => h.step hstep) hrun
  exact ⟨hsound.owed, hsound.lrps, hsound.tasks, hsound.auctioning⟩

/-! ### A retry, and a task that arrives after the batch was drained -/

def sampleStart : LRPStartRequest where
  processGuid := "process"
  domain := "domain"
  indices := [0, 1, 0]
  placementTags := []
  volumeDrivers := []
  rootFs := "image"
  memoryMB := 10
  diskMB := 10
  maxPids := 0

def sampleTaskStart : TaskStartRequest where
  task :=
    { taskGuid := "task"
      domain := "domain"
      placementTags := []
      volumeDrivers := []
      rootFs := "image"
      memoryMB := 10
      diskMB := 10
      maxPids := 0 }

def sampleActions : List Action :=
  [.addLRPStarts 1 [sampleStart] "first", .claimToHaveWork, .receive, .failToFetchReps, .receive,
    .fetchReps, .takeBatch, .emptyHasWork, .addTasks 2 [sampleTaskStart] "second", .claimToHaveWork]

def sampleEnd : State :=
  (Machine.run step {} sampleActions).getD {}

theorem no_auction_lost_sample :
    sampleEnd.lrpAuctions = [] ∧ sampleEnd.taskAuctions.length = 1 ∧ sampleEnd.Owed ∧
      (sampleEnd.drained.map fun auctions => auctions.lrps.length) = [3] ∧
      sampleEnd.drained.flatMap AuctionRequest.lrps ++ sampleEnd.lrpAuctions =
        sampleEnd.added.lrps := by
  have hrun : Machine.run step {} sampleActions = some sampleEnd := rfl
  have hlost := no_auction_lost hrun
  have hholds : sampleEnd.HoldsAuction := Or.inr (by decide)
  exact ⟨rfl, rfl, hlost.1 hholds, rfl, hlost.2.1⟩

end State

end Diego.Auction.Runner
