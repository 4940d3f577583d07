import Diego.Machine
import Mathlib.Data.List.Perm.Subperm

/-!
# The work pool

`workpool/workpool.go` and `throttler.go`.  Callers submit works, and at most `maxWorkers`
goroutines take them from a channel and execute them, until the pool is stopped.

Goroutines differ only in where they are, so the pool counts them.  A step begins at each access
to the channels, to `stopped` and to the mutex; who moves next and which case a `select` takes is
the action.  Works end.

Each step of a goroutine takes something off `toDo`, so the pool comes to rest.
-/

namespace Diego

open List

structure WorkPool (Work : Type) where
  maxWorkers : Nat
  capacity : Nat
  workQueue : List Work := []
  /-- The channel is closed. -/
  stopping : Bool := false
  stopped : Bool := false
  numWorkers : Nat := 0
  /-- The works of the calls of `Submit` that are in the `select`. -/
  sending : List Work := []
  /-- `Submit` after its send, and before `addWorker`. -/
  sent : Nat := 0
  adding : Nat := 0
  draining : Nat := 0
  /-- `Stop` before it closes `stopping`. -/
  closing : Nat := 0
  /-- Workers at the head of the loop, and in the outer `select`. -/
  looping : Nat := 0
  waiting : Nat := 0
  working : List Work := []
  /-- Workers in the inner `select`, and before they decrement `numWorkers`. -/
  continuing : Nat := 0
  leaving : Nat := 0
  submitted : List Work := []
  executed : List Work := []
  dropped : List Work := []

def newWorkPoolWithPending {Work : Type} (maxWorkers pending : Nat) : WorkPool Work :=
  { maxWorkers, capacity := maxWorkers + pending }

namespace WorkPool

variable {Work : Type} [DecidableEq Work]

inductive Action (Work : Type)
  | submit (work : Work)
  | stop
  | send (work : Work)
  | abandon (work : Work)
  | recheck
  | addWorker
  | drain
  | close
  | loop
  | receive
  | quit
  | finish (work : Work)
  | again
  | rest
  | leave

def step : Action Work → WorkPool Work → Option (WorkPool Work)
  | .submit work, p => some (if p.stopped then p
      else { p with sending := work :: p.sending, submitted := p.submitted ++ [work] })
  | .stop, p => some (if p.stopped then p
      else { p with stopped := true, closing := p.closing + 1 })
  | .send work, p =>
    if work ∈ p.sending ∧ p.workQueue.length < p.capacity then some { p with
      sending := p.sending.erase work, workQueue := p.workQueue ++ [work], sent := p.sent + 1 }
    else none
  | .abandon work, p =>
    if work ∈ p.sending ∧ p.stopping then
      some { p with sending := p.sending.erase work, dropped := work :: p.dropped }
    else none
  | .recheck, p =>
    if 0 < p.sent then some (if p.stopped then
      { p with sent := p.sent - 1, draining := p.draining + 1 }
      else { p with sent := p.sent - 1, adding := p.adding + 1 })
    else none
  | .addWorker, p =>
    if 0 < p.adding then some (if p.numWorkers = p.maxWorkers then
      { p with adding := p.adding - 1 }
      else { p with
        adding := p.adding - 1, numWorkers := p.numWorkers + 1, looping := p.looping + 1 })
    else none
  | .drain, p =>
    if 0 < p.draining then some (match p.workQueue with
      | [] => { p with draining := p.draining - 1 }
      | work :: workQueue => { p with workQueue, dropped := work :: p.dropped })
    else none
  | .close, p =>
    if 0 < p.closing then
      some { p with stopping := true, closing := p.closing - 1, draining := p.draining + 1 }
    else none
  | .loop, p =>
    if 0 < p.looping then some (if p.stopped then
      { p with looping := p.looping - 1, leaving := p.leaving + 1 }
      else { p with looping := p.looping - 1, waiting := p.waiting + 1 })
    else none
  | .receive, p =>
    if 0 < p.waiting ∧ p.workQueue ≠ [] then some { p with
      workQueue := p.workQueue.tail, waiting := p.waiting - 1,
      working := p.workQueue.take 1 ++ p.working }
    else none
  | .quit, p =>
    if 0 < p.waiting ∧ p.stopping then
      some { p with waiting := p.waiting - 1, leaving := p.leaving + 1 }
    else none
  | .finish work, p =>
    if work ∈ p.working then some { p with
      working := p.working.erase work, continuing := p.continuing + 1,
      executed := work :: p.executed }
    else none
  | .again, p =>
    if 0 < p.continuing ∧ p.workQueue ≠ [] then some { p with
      workQueue := p.workQueue.tail, continuing := p.continuing - 1,
      working := p.workQueue.take 1 ++ p.working }
    else none
  -- the `default` case, or the one of a closed `stopping`
  | .rest, p =>
    if 0 < p.continuing ∧ (p.workQueue = [] ∨ p.stopping) then
      some { p with continuing := p.continuing - 1, looping := p.looping + 1 }
    else none
  | .leave, p =>
    if 0 < p.leaving then some { p with leaving := p.leaving - 1, numWorkers := p.numWorkers - 1 }
    else none

/-- Where works are. -/
def works (p : WorkPool Work) : List Work :=
  p.sending ++ p.workQueue ++ p.working ++ p.executed ++ p.dropped

structure Sound (maxWorkers capacity : Nat) (p : WorkPool Work) : Prop where
  fixed : p.maxWorkers = maxWorkers ∧ p.capacity = capacity
  workers : p.looping + p.waiting + p.working.length + p.continuing + p.leaving = p.numWorkers
  bounded : p.numWorkers ≤ p.maxWorkers
  stops : p.stopped = true ↔ p.stopping = true ∨ 0 < p.closing
  drains : 0 < p.draining → p.stopped = true
  stays : p.stopped = false → p.leaving = 0 ∧ p.dropped = []
  manned : p.stopped = false → 0 < p.maxWorkers → p.workQueue ≠ [] →
    0 < p.sent + p.adding + p.numWorkers
  drained : p.stopped = true → p.workQueue ≠ [] → 0 < p.sent + p.draining + p.closing
  placed : ∀ work, p.submitted.count work = p.works.count work

variable {p next : WorkPool Work} {action : Action Work} {actions : List (Action Work)}
  {maxWorkers pending capacity : Nat}

omit [DecidableEq Work] in
theorem of_guard {c : Prop} [Decidable c] (h : (if c then some p else none) = some next) :
    c ∧ p = next := by
  simpa using h

theorem Sound.stopped (h : p.Sound maxWorkers capacity) (hstopping : p.stopping = true) :
    p.stopped ≠ false := by
  rw [h.stops.mpr (Or.inl hstopping)]
  exact nofun

/-- No step loses a work or makes one. -/
theorem Sound.placed_step (h : p.Sound maxWorkers capacity) (hstep : step action p = some next)
    (work : Work) : next.submitted.count work = next.works.count work := by
  have hplaced := h.placed work
  unfold works at hplaced ⊢
  cases action with
  | submit _ | stop =>
    obtain rfl := Option.some.inj hstep
    split <;> grind -ring -linarith
  | receive | again =>
    obtain ⟨⟨-, hne⟩, rfl⟩ := of_guard hstep
    obtain ⟨first, workQueue, hqueue⟩ := exists_cons_of_ne_nil hne
    grind -ring -linarith
  | recheck | addWorker | drain | loop =>
    obtain ⟨-, rfl⟩ := of_guard hstep
    split <;> grind -ring -linarith
  | send _ | abandon _ | finish _ | close | quit | rest | leave =>
    obtain ⟨hcan, rfl⟩ := of_guard hstep
    grind -ring -linarith

theorem Sound.step (h : p.Sound maxWorkers capacity) (hstep : step action p = some next) :
    next.Sound maxWorkers capacity := by
  have hworkers := h.workers
  have hbounded := h.bounded
  have hplaced := h.placed_step hstep
  cases action with
  | submit work =>
    obtain rfl := Option.some.inj hstep
    revert hplaced
    split
    · exact fun _ => h
    · exact fun hplaced => { h with placed := hplaced }
  | stop =>
    obtain rfl := Option.some.inj hstep
    split
    · exact h
    · exact { h with
        stops := iff_of_true rfl (Or.inr (Nat.succ_pos _))
        drains := fun _ => rfl
        stays := nofun
        manned := nofun
        drained := fun _ _ => Nat.add_pos_right _ (Nat.succ_pos _) }
  | send work =>
    obtain ⟨-, rfl⟩ := of_guard hstep
    exact { h with
      manned := fun _ _ _ => by dsimp only; omega
      drained := fun _ _ => by dsimp only; omega
      placed := hplaced }
  | abandon work =>
    obtain ⟨⟨-, hstopping⟩, rfl⟩ := of_guard hstep
    exact { h with
      stays := fun hrunning => absurd hrunning (h.stopped hstopping)
      placed := hplaced }
  | recheck =>
    obtain ⟨hsent, rfl⟩ := of_guard hstep
    split
    · rename_i hstopped
      exact { h with
        drains := fun _ => hstopped
        manned := fun hrunning => absurd hstopped (Bool.eq_false_iff.mp hrunning)
        drained := fun _ _ => by dsimp only; omega }
    · rename_i hrunning
      exact { h with
        manned := fun _ _ _ => by dsimp only; omega
        drained := fun hstopped => absurd hstopped hrunning }
  | addWorker =>
    obtain ⟨hadding, rfl⟩ := of_guard hstep
    split
    · exact { h with manned := fun _ hmax _ => by dsimp only at hmax ⊢; omega }
    · exact { h with
        workers := by dsimp only; omega
        bounded := by dsimp only; omega
        manned := fun _ _ _ => by dsimp only; omega }
  | drain =>
    obtain ⟨hdraining, rfl⟩ := of_guard hstep
    have hstopped := h.drains hdraining
    revert hplaced
    split
    · rename_i hqueue
      exact fun _ => { h with
        drains := fun _ => hstopped
        drained := fun _ hne => absurd hqueue hne }
    · exact fun hplaced => { h with
        stays := fun hrunning => absurd hstopped (Bool.eq_false_iff.mp hrunning)
        manned := fun hrunning => absurd hstopped (Bool.eq_false_iff.mp hrunning)
        drained := fun _ _ => by dsimp only; omega
        placed := hplaced }
  | close =>
    obtain ⟨hclosing, rfl⟩ := of_guard hstep
    have hstopped := h.stops.mpr (Or.inr hclosing)
    exact { h with
      stops := iff_of_true hstopped (Or.inl rfl)
      drains := fun _ => hstopped
      drained := fun _ _ => by dsimp only; omega }
  | loop =>
    obtain ⟨hlooping, rfl⟩ := of_guard hstep
    split
    · rename_i hstopped
      exact { h with
        workers := by dsimp only; omega
        stays := fun hrunning => absurd hstopped (Bool.eq_false_iff.mp hrunning) }
    · exact { h with workers := by dsimp only; omega }
  | receive | again =>
    obtain ⟨⟨hpos, hne⟩, rfl⟩ := of_guard hstep
    have hqueue := length_pos_iff.mpr hne
    exact { h with
      workers := by
        simp only [length_append, length_take]
        omega
      manned := fun hrunning hmax _ => h.manned hrunning hmax hne
      drained := fun hstopped _ => h.drained hstopped hne
      placed := hplaced }
  | quit =>
    obtain ⟨⟨hwaiting, hstopping⟩, rfl⟩ := of_guard hstep
    exact { h with
      workers := by dsimp only; omega
      stays := fun hrunning => absurd hrunning (h.stopped hstopping) }
  | finish work =>
    obtain ⟨hmem, rfl⟩ := of_guard hstep
    have hpos := length_pos_of_mem hmem
    exact { h with
      workers := by
        simp only [length_erase_of_mem hmem]
        omega
      placed := hplaced }
  | rest =>
    obtain ⟨⟨hcontinuing, -⟩, rfl⟩ := of_guard hstep
    exact { h with workers := by dsimp only; omega }
  | leave =>
    obtain ⟨hleaving, rfl⟩ := of_guard hstep
    -- a worker leaves a stopped pool only
    have hstopped : p.stopped ≠ false := fun hrunning =>
      absurd (h.stays hrunning).1 (Nat.pos_iff_ne_zero.mp hleaving)
    exact { h with
      workers := by dsimp only; omega
      bounded := by dsimp only; omega
      stays := fun hrunning => absurd hrunning hstopped
      manned := fun hrunning => absurd hrunning hstopped }

theorem Sound.perm (h : p.Sound maxWorkers capacity) : p.submitted.Perm p.works :=
  perm_iff_count.mpr h.placed

theorem sound_new (h : maxWorkers + pending = capacity) :
    (newWorkPoolWithPending maxWorkers pending : WorkPool Work).Sound maxWorkers capacity := by
  constructor <;> simp [newWorkPoolWithPending, works, h]

section

variable (hrun : Machine.run step (newWorkPoolWithPending maxWorkers pending) actions = some p)
include hrun

theorem sound_of_run : p.Sound maxWorkers (maxWorkers + pending) :=
  Machine.run_invariant (sound_new rfl) (fun _ _ _ _ h hstep => h.step hstep) hrun

/-- **A pool executes each work at most once, and at most `maxWorkers` at a time.**  A work that
was submitted waits, is executed, or is dropped, which happens in a stopped pool only. -/
theorem executes_once : p.working.length ≤ maxWorkers ∧ p.submitted.Perm p.works ∧
    (p.stopped = false → p.dropped = []) := by
  have hsound := sound_of_run hrun
  obtain ⟨hfixed, hworkers, hbounded, -⟩ := id hsound
  exact ⟨by omega, hsound.perm, fun hstopped => (hsound.stays hstopped).2⟩

end

/-- One worker executes a work, and the pool is stopped before it takes the other. -/
def stoppedEarly : List (Action Nat) :=
  [.submit 1, .submit 2, .send 1, .recheck, .addWorker, .loop, .receive, .send 2, .recheck,
    .addWorker, .stop, .finish 1, .close, .drain, .drain, .rest, .loop, .leave]

def stoppedPool : WorkPool Nat :=
  { maxWorkers := 1, capacity := 1, stopping := true, stopped := true, submitted := [1, 2],
    executed := [1], dropped := [2] }

theorem run_stoppedEarly :
    Machine.run step (newWorkPoolWithPending 1 0) stoppedEarly = some stoppedPool :=
  rfl

theorem executes_once_stopped : stoppedPool.submitted.Perm stoppedPool.works :=
  (executes_once run_stoppedEarly).2.1

/-! ## Coming to rest -/

/-- `Submit` or `Stop` is called. -/
def Action.call : Action Work → Bool
  | .submit _ | .stop => true
  | _ => false

def AtRest (p : WorkPool Work) : Prop :=
  ∀ action : Action Work, action.call = false → step action p = none

/-- What the goroutines have to do, with a price for each place. -/
def toDo (p : WorkPool Work) : Nat :=
  10 * p.sending.length + 5 * (p.sent + p.working.length) +
    4 * (p.workQueue.length + p.adding + p.continuing) + 3 * p.looping +
    2 * (p.waiting + p.closing) + p.draining + p.leaving

theorem toDo_call (hcall : action.call = true) (hstep : step action p = some next) :
    next.toDo ≤ p.toDo + 10 := by
  cases action with
  | submit work | stop =>
    obtain rfl := Option.some.inj hstep
    split <;> simp only [toDo, length_cons] <;> omega
  | _ => exact nomatch hcall

theorem toDo_step (hcall : action.call = false) (hstep : step action p = some next) :
    next.toDo < p.toDo := by
  cases action with
  | submit _ | stop => exact nomatch hcall
  | send work | abandon work =>
    obtain ⟨⟨hmem, -⟩, rfl⟩ := of_guard hstep
    have hpos := length_pos_of_mem hmem
    simp only [toDo, length_erase_of_mem hmem, length_append, length_singleton]
    omega
  | finish work =>
    obtain ⟨hmem, rfl⟩ := of_guard hstep
    have hpos := length_pos_of_mem hmem
    simp only [toDo, length_erase_of_mem hmem]
    omega
  | receive | again =>
    obtain ⟨⟨hpos, hne⟩, rfl⟩ := of_guard hstep
    have hqueue := length_pos_iff.mpr hne
    simp only [toDo, length_append, length_take, length_tail]
    omega
  | drain =>
    obtain ⟨hpos, rfl⟩ := of_guard hstep
    split
    · simp only [toDo]
      omega
    · rename_i hqueue
      simp only [toDo, hqueue, length_cons]
      omega
  | recheck | addWorker | loop =>
    obtain ⟨hpos, rfl⟩ := of_guard hstep
    split <;> simp only [toDo] <;> omega
  | close | quit | rest | leave =>
    obtain ⟨hcan, rfl⟩ := of_guard hstep
    simp only [toDo]
    omega

theorem toDo_run (hrun : Machine.run step p actions = some next) :
    next.toDo + actions.countP (!·.call) ≤ p.toDo + 10 * actions.countP (·.call) := by
  induction actions generalizing p with
  | nil =>
    cases hrun
    simp
  | cons action actions ih =>
    obtain ⟨mid, hstep, hrest⟩ := Option.bind_eq_some_iff.mp hrun
    have hlater := ih hrest
    rw [countP_cons, countP_cons]
    cases hcall : action.call with
    | true =>
      have hfirst := toDo_call hcall hstep
      simp only [Bool.not_true, Bool.false_eq_true, if_false, if_true]
      omega
    | false =>
      have hfirst := toDo_step hcall hstep
      simp only [Bool.not_false, Bool.false_eq_true, if_false, if_true]
      omega

omit [DecidableEq Work] in
theorem not_of_none {c : Prop} [Decidable c] (h : (if c then some p else none) = none) : ¬ c := by
  simpa using h

/-- A pool at rest waits for works, or has no goroutine. -/
theorem Sound.atRest (h : p.Sound maxWorkers capacity) (hmax : 0 < maxWorkers)
    (hcapacity : 0 < capacity) (hrest : p.AtRest) :
    p.sending = [] ∧ p.workQueue = [] ∧ p.working = [] ∧ (p.stopped = true → p.numWorkers = 0) := by
  obtain ⟨hfixed, hworkers, -, hstops, -, -, hmanned, hdrained, -⟩ := h
  have hsent := not_of_none (hrest .recheck rfl)
  have hadding := not_of_none (hrest .addWorker rfl)
  have hdraining := not_of_none (hrest .drain rfl)
  have hclosing := not_of_none (hrest .close rfl)
  have hlooping := not_of_none (hrest .loop rfl)
  have hleaving := not_of_none (hrest .leave rfl)
  have hwaiting := not_of_none (hrest .receive rfl)
  have hquit := not_of_none (hrest .quit rfl)
  have hagain := not_of_none (hrest .again rfl)
  have hcontinuing := not_of_none (hrest .rest rfl)
  have hworking : p.working = [] :=
    eq_nil_iff_forall_not_mem.mpr fun work => not_of_none (hrest (.finish work) rfl)
  have hqueue : p.workQueue = [] := by grind
  refine ⟨?_, hqueue, hworking, by grind⟩
  refine eq_nil_iff_forall_not_mem.mpr fun work hmem => ?_
  refine not_of_none (hrest (.send work) rfl) ⟨hmem, ?_⟩
  rw [hqueue, hfixed.2]
  exact hcapacity

/-- **A pool comes to rest**: its goroutines take at most ten steps for each call.  It has then
executed every work that was submitted, or is stopped and has no goroutine left. -/
theorem comes_to_rest (hmax : 0 < maxWorkers)
    (hrun : Machine.run step (newWorkPoolWithPending maxWorkers pending) actions = some p) :
    actions.countP (!·.call) ≤ 10 * actions.countP (·.call) ∧
      (p.AtRest → p.submitted.Perm (p.executed ++ p.dropped) ∧
        if p.stopped then p.numWorkers = 0 else p.dropped = []) := by
  have hsound := sound_of_run hrun
  refine ⟨?_, fun hrest => ?_⟩
  · have hbound := toDo_run hrun
    simp [newWorkPoolWithPending, toDo] at hbound
    omega
  · obtain ⟨hsending, hqueue, hworking, hstopped⟩ := hsound.atRest hmax (by omega) hrest
    refine ⟨?_, ?_⟩
    · simpa [works, hsending, hqueue, hworking] using hsound.perm
    · split
      · exact hstopped ‹_›
      · exact (hsound.stays (Bool.not_eq_true _ ▸ ‹_›)).2

theorem comes_to_rest_stopped : stoppedPool.AtRest ∧ stoppedPool.numWorkers = 0 := by
  have hrest : stoppedPool.AtRest := by
    intro action hcall
    cases action with
    | submit _ | stop => exact nomatch hcall
    | _ => simp [step, stoppedPool]
  exact ⟨hrest, ((comes_to_rest Nat.one_pos run_stoppedEarly).2 hrest).2⟩

/-! ## The throttler -/

def newThrottler (maxWorkers : Nat) (works : List Work) : WorkPool Work :=
  if works.length < maxWorkers then newWorkPoolWithPending works.length 0
  else newWorkPoolWithPending maxWorkers (works.length - maxWorkers)

/-- `Throttler.Work` submits one work after the other, and stops the pool when all are done. -/
def throttles (works : List Work) : Action Work → WorkPool Work → Bool
  | .submit work, p =>
    works[p.submitted.length]? = some work ∧ p.sending = [] ∧ p.sent + p.adding = 0
  | .stop, p => p.executed.length = works.length
  | _, _ => true

structure Throttled (maxWorkers : Nat) (works : List Work) (p : WorkPool Work) : Prop where
  sound : p.Sound (min works.length maxWorkers) works.length
  submitted : p.submitted = works.take p.submitted.length
  stopped : p.stopped = true → works.length ≤ p.executed.length

variable {works : List Work}

theorem throttled_new : Throttled maxWorkers works (newThrottler maxWorkers works) := by
  have heq : newThrottler maxWorkers works =
      newWorkPoolWithPending (min works.length maxWorkers) (works.length - maxWorkers) := by
    grind [newThrottler]
  rw [heq]
  exact ⟨sound_new (by omega), rfl, nofun⟩

/-- What the goroutines of the pool leave alone. -/
theorem frame_step (hcall : action.call = false) (hstep : step action p = some next) :
    next.submitted = p.submitted ∧ next.stopped = p.stopped ∧
      p.executed.length ≤ next.executed.length := by
  cases action with
  | submit _ | stop => exact nomatch hcall
  | recheck | addWorker | drain | loop =>
    obtain ⟨-, rfl⟩ := of_guard hstep
    split <;> exact ⟨rfl, rfl, Nat.le_refl _⟩
  | finish work =>
    obtain ⟨-, rfl⟩ := of_guard hstep
    exact ⟨rfl, rfl, Nat.le_succ _⟩
  | send _ | abandon _ | close | receive | quit | again | rest | leave =>
    obtain ⟨-, rfl⟩ := of_guard hstep
    exact ⟨rfl, rfl, Nat.le_refl _⟩

theorem Throttled.step (h : Throttled maxWorkers works p) (hcond : throttles works action p = true)
    (hstep : step action p = some next) : Throttled maxWorkers works next := by
  obtain ⟨hsound, hsubmitted, hstopped⟩ := h
  refine ⟨hsound.step hstep, ?_, ?_⟩
  · cases action with
    | submit work =>
      obtain rfl := Option.some.inj hstep
      split
      · exact hsubmitted
      · rw [length_append, length_singleton, take_add_one, ← hsubmitted,
          (of_decide_eq_true hcond).1]
        rfl
    | stop =>
      obtain rfl := Option.some.inj hstep
      split <;> exact hsubmitted
    | _ =>
      rw [(frame_step rfl hstep).1]
      exact hsubmitted
  · cases action with
    | submit work =>
      obtain rfl := Option.some.inj hstep
      split <;> exact hstopped
    | stop =>
      obtain rfl := Option.some.inj hstep
      have hexecuted := of_decide_eq_true hcond
      split <;> exact fun _ => Nat.le_of_eq hexecuted.symm
    | _ =>
      obtain ⟨-, hsame, hexecuted⟩ := frame_step rfl hstep
      exact fun hstop => Nat.le_trans (hstopped (hsame ▸ hstop)) hexecuted

/-- **A throttler executes all its works before it stops its pool**, at most `maxWorkers` at a
time, and has room in the channel for each work. -/
theorem throttler_executes_all
    (hreach : Machine.Reaches step (throttles works · ·) (newThrottler maxWorkers works) p) :
    p.working.length ≤ maxWorkers ∧ (p.sending ≠ [] → p.workQueue.length < p.capacity) ∧
      (p.stopped = true → p.executed.Perm works) := by
  obtain ⟨hsound, hsubmitted, hstopped⟩ :=
    hreach.invariant throttled_new fun _ _ _ h hcond => h.step hcond
  obtain ⟨hfixed, hcount, hbounded, -⟩ := id hsound
  have hperm := hsound.perm
  have hsublist : p.submitted.Sublist works := hsubmitted ▸ take_sublist ..
  refine ⟨by omega, fun hsending => ?_, fun hstop => ?_⟩
  · have hpos := length_pos_iff.mpr hsending
    have hle := hperm.length_eq ▸ hsublist.length_le
    grind [WorkPool.works]
  · have hexecuted : p.executed.Sublist p.works :=
      (sublist_append_right ..).trans (sublist_append_left ..)
    exact ((hexecuted.subperm.trans hperm.symm.subperm).trans
      hsublist.subperm).perm_of_length_le (hstopped hstop)

/-- Two workers execute three works. -/
def threeWorks : List (Action Nat) :=
  [.submit 1, .send 1, .recheck, .addWorker, .submit 2, .send 2, .recheck, .addWorker,
    .submit 3, .send 3, .recheck, .addWorker, .loop, .receive, .loop, .receive, .finish 2, .again,
    .finish 1, .finish 3, .stop]

theorem throttler_executes_three :
    ∃ p, Machine.run step (newThrottler 2 [1, 2, 3]) threeWorks = some p ∧ p.stopped = true ∧
      p.executed.Perm [1, 2, 3] := by
  have hmeets : Machine.Meets step (throttles [1, 2, 3] · ·) (newThrottler 2 [1, 2, 3])
      threeWorks := by decide
  exact ⟨_, rfl, rfl, (throttler_executes_all (Machine.reaches_of_run hmeets rfl)).2.2 rfl⟩

end WorkPool

end Diego
