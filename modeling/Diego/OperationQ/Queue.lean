import Diego.GoMap
import Diego.Machine

/-!
# The operation queue

`operationq/queue.go`.  A dispatcher receives operations and hands each to a goroutine of
its own; an operation whose key is busy waits in the sliding buffer of its key.  When a
goroutine reports that its operation is complete, the dispatcher takes the next operation
of the key from the buffer, or deletes the buffer.

The channels are unbuffered: a push and a report are each one step of the dispatcher
together with the goroutine that sends.  An operation is known by its arrival, the number
of operations received before it, so that pushing an operation twice is two operations.

For one key, what has begun to execute, what is launched and what is in the buffer form a
`line`.  It is always a sublist of what was received for the key, and an operation that
was received and is not in line had at least `capacity` later ones behind it when it left
(`Orderly`).
-/

namespace Diego.OperationQ

open Machine List
open scoped List

/-! ## The model -/

section Buffer

variable {α : Type*}

structure SlidingBuffer (α : Type*) where
  buffer : List α
  capacity : Nat

def newSlidingBuffer (capacity : Nat) : SlidingBuffer α :=
  ⟨[], capacity⟩

namespace SlidingBuffer

/-- `Push`, and whether it has taken the operation. -/
def push (b : SlidingBuffer α) (op : α) : SlidingBuffer α × Bool :=
  if b.capacity = 0 then (b, false)
  else
    let buffer := b.buffer ++ [op]
    ({ b with buffer := if buffer.length > b.capacity then buffer.tail else buffer }, true)

def pop (b : SlidingBuffer α) : Option (α × SlidingBuffer α) :=
  match b.buffer with
  | [] => none
  | elem :: buffer => some (elem, { b with buffer := buffer })

def len (b : SlidingBuffer α) : Nat :=
  b.buffer.length

/-- What `Push` leaves in a buffer that holds no more than its capacity: nothing is taken,
or there is room, or the first operation has to go. -/
theorem push_spec {b : SlidingBuffer α} {op : α} (hlength : b.buffer.length ≤ b.capacity) :
    (b.push op).1.capacity = b.capacity ∧ (b.push op).1.buffer.length ≤ b.capacity ∧
      (b.capacity = 0 ∧ (b.push op).1.buffer = b.buffer ∨
        (b.push op).1.buffer = b.buffer ++ [op] ∨
        ∃ head tail, b.buffer = head :: tail ∧ (tail ++ [op]).length = b.capacity ∧
          (b.push op).1.buffer = tail ++ [op]) := by
  unfold push
  by_cases hzero : b.capacity = 0
  · rw [if_pos hzero]
    exact ⟨rfl, hlength, Or.inl ⟨hzero, rfl⟩⟩
  · rw [if_neg hzero]
    dsimp only
    by_cases hfull : (b.buffer ++ [op]).length > b.capacity
    · rw [if_pos hfull]
      cases hbuffer : b.buffer with
      | nil =>
        rw [hbuffer, nil_append, length_singleton] at hfull
        omega
      | cons head tail =>
        rw [hbuffer] at hlength hfull
        simp only [length_cons, length_append, length_nil] at hlength hfull
        have hexact : (tail ++ [op]).length = b.capacity := by
          rw [length_append, length_singleton]
          omega
        exact ⟨rfl, Nat.le_of_eq hexact, Or.inr (Or.inr ⟨head, tail, rfl, hexact, rfl⟩)⟩
    · rw [if_neg hfull]
      exact ⟨rfl, Nat.not_lt.mp hfull, Or.inr (Or.inl rfl)⟩

end SlidingBuffer

end Buffer

variable {Op K : Type*}

/-- An operation as the dispatcher received it. -/
structure Received (Op : Type*) where
  arrival : Nat
  operation : Op
  deriving DecidableEq

/-- Where the goroutine of an operation is. -/
inductive Stage
  /-- Started by the dispatcher, before it calls `Execute`. -/
  | launched
  | executing
  /-- `Execute` has returned, and the completion is not reported yet. -/
  | reporting
  deriving DecidableEq

/-- A goroutine in `execute`. -/
structure Goroutine (Op : Type*) where
  received : Received Op
  stage : Stage
  deriving DecidableEq

structure MultiQueue (Op K : Type*) [DecidableEq K] where
  queues : GoMap K (SlidingBuffer (Received Op)) := ∅
  capacity : Nat
  goroutines : List (Goroutine Op) := []
  received : List (Received Op) := []
  /-- What has begun to execute, in order. -/
  executed : List (Received Op) := []

inductive Action (Op : Type*)
  | push (op : Op)
  /-- The goroutine of the operation calls `Execute`. -/
  | start (op : Received Op)
  /-- `Execute` returns. -/
  | finish (op : Received Op)
  /-- The dispatcher receives the completion of the operation. -/
  | complete (op : Received Op)

section Step

variable [DecidableEq Op] [DecidableEq K] (key : Op → K)

def newSlidingQueue (capacity : Nat) : MultiQueue Op K :=
  { capacity := capacity }

namespace MultiQueue

variable (q : MultiQueue Op K)

/-- `go q.execute(op)`. -/
def launch (op : Received Op) : MultiQueue Op K :=
  { q with goroutines := ⟨op, .launched⟩ :: q.goroutines }

/-- The goroutine of an operation goes from one stage to the next. -/
def advance (op : Received Op) (stage next : Stage) : MultiQueue Op K :=
  { q with goroutines := ⟨op, next⟩ :: q.goroutines.erase ⟨op, stage⟩ }

/-- The case of `run` for an operation from `pushChan`. -/
def receive (op : Op) : MultiQueue Op K :=
  let arrived : Received Op := ⟨q.received.length, op⟩
  let q := { q with received := q.received ++ [arrived] }
  match q.queues.lookup (key op) with
  | some queue => { q with queues := q.queues.insert (key op) (queue.push arrived).1 }
  | none =>
    { q with queues := q.queues.insert (key op) (newSlidingBuffer q.capacity) }.launch arrived

/-- The case of `run` for a key from `completeChan`.  A key without a queue would make the
dispatcher call a method of a nil buffer. -/
def completed (queueKey : K) : Option (MultiQueue Op K) :=
  (q.queues.lookup queueKey).map fun queue =>
    if queue.len = 0 then { q with queues := q.queues.erase queueKey }
    else
      match queue.pop with
      | some (op, queue) =>
        { q with queues := q.queues.insert queueKey queue }.launch op
      | none => q

end MultiQueue

def step : Action Op → MultiQueue Op K → Option (MultiQueue Op K)
  | .push op, q => some (q.receive key op)
  | .start op, q =>
    if ⟨op, .launched⟩ ∈ q.goroutines then
      some { q.advance op .launched .executing with executed := q.executed ++ [op] }
    else none
  | .finish op, q =>
    if ⟨op, .executing⟩ ∈ q.goroutines then some (q.advance op .executing .reporting) else none
  | .complete op, q =>
    if ⟨op, .reporting⟩ ∈ q.goroutines then
      { q with goroutines := q.goroutines.erase ⟨op, .reporting⟩ }.completed (key op.operation)
    else none

end Step

/-! ## The view of one key -/

/-- What concerns the operations of one key. -/
structure View (Op : Type*) where
  queue : Option (SlidingBuffer (Received Op))
  goroutines : List (Goroutine Op)
  received : List (Received Op)
  executed : List (Received Op)

namespace View

/-- The operations that are handed to a goroutine and not executed yet. -/
@[simp] def launched (v : View Op) : List (Received Op) :=
  (v.goroutines.filter fun g => g.stage = .launched).map Goroutine.received

@[simp] def buffer (v : View Op) : List (Received Op) :=
  (v.queue.map SlidingBuffer.buffer).getD []

/-- The operations in the order in which they are, or will be, executed. -/
@[simp] def line (v : View Op) : List (Received Op) :=
  v.executed ++ (v.launched ++ v.buffer)

/-- The number of operations received after one. -/
def later (v : View Op) (op : Received Op) : Nat :=
  v.received.countP fun other => op.arrival < other.arrival

@[simp] def launch (v : View Op) (op : Received Op) : View Op :=
  { v with goroutines := ⟨op, .launched⟩ :: v.goroutines }

def receive (v : View Op) (capacity : Nat) (op : Received Op) : View Op :=
  match v.queue with
  | some queue => { v with received := v.received ++ [op], queue := some (queue.push op).1 }
  | none =>
    { v with
      received := v.received ++ [op]
      queue := some (newSlidingBuffer capacity) }.launch op

variable [DecidableEq Op]

@[simp] def advance (v : View Op) (op : Received Op) (stage next : Stage) : View Op :=
  { v with goroutines := ⟨op, next⟩ :: v.goroutines.erase ⟨op, stage⟩ }

def start (v : View Op) (op : Received Op) : View Op :=
  { v.advance op .launched .executing with executed := v.executed ++ [op] }

def complete (v : View Op) (op : Received Op) (queue : SlidingBuffer (Received Op)) : View Op :=
  let v := { v with goroutines := v.goroutines.erase ⟨op, .reporting⟩ }
  if queue.len = 0 then { v with queue := none }
  else
    match queue.pop with
    | some (op, queue) => { v with queue := some queue }.launch op
    | none => v

end View

/-! ## Operations of one key -/

/-- The operations of one key are handled in order: there is a goroutine exactly while
there is a queue, the line is a part of what was received, and what is neither executed nor
in line had `capacity` operations received behind it. -/
structure View.Orderly (capacity : Nat) (v : View Op) : Prop where
  goroutines : v.goroutines.length = if v.queue.isSome then 1 else 0
  queue : ∀ queue, v.queue = some queue → queue.capacity = capacity ∧ queue.buffer.length ≤ capacity
  line : v.line <+ v.received
  arrivals : v.received.Pairwise fun op other => op.arrival < other.arrival
  skipped : ∀ op ∈ v.received, op ∉ v.line → capacity ≤ v.later op

namespace View.Orderly

variable {capacity : Nat} {v : View Op} {op : Received Op} {v' : View Op}
  {queue : SlidingBuffer (Received Op)}

theorem new : (⟨none, [], [], []⟩ : View Op).Orderly capacity where
  goroutines := rfl
  queue queue hqueue := by simp at hqueue
  line := List.Sublist.refl _
  arrivals := List.Pairwise.nil
  skipped op hmem := absurd hmem not_mem_nil

/-- Without a queue nothing is waiting. -/
theorem goroutines_eq_nil (h : v.Orderly capacity) (hqueue : v.queue = none) :
    v.goroutines = [] := by
  have hlength := h.goroutines
  rw [hqueue] at hlength
  exact length_eq_zero_iff.mp hlength

/-- A goroutine is the only one of its key, and there is a queue for it. -/
theorem eq_singleton (h : v.Orderly capacity) {g : Goroutine Op} (hmem : g ∈ v.goroutines) :
    v.goroutines = [g] ∧ ∃ queue, v.queue = some queue := by
  have hlength := h.goroutines
  cases hqueue : v.queue with
  | none =>
    rw [h.goroutines_eq_nil hqueue] at hmem
    exact absurd hmem not_mem_nil
  | some queue =>
    rw [hqueue] at hlength
    obtain ⟨found, hfound⟩ := length_eq_one_iff.mp hlength
    rw [hfound] at hmem
    rw [hfound, mem_singleton.mp hmem]
    exact ⟨rfl, queue, rfl⟩

/-- What is received later is behind everything that came before. -/
theorem arrivals_concat (h : v.Orderly capacity)
    (hlast : ∀ other ∈ v.received, other.arrival < op.arrival) :
    (v.received ++ [op]).Pairwise fun op other => op.arrival < other.arrival := by
  rw [pairwise_append]
  refine ⟨h.arrivals, pairwise_singleton _ _, ?_⟩
  intro other hother op' hop'
  rw [mem_singleton.mp hop']
  exact hlast other hother

/-- The operation at the head of a full buffer has the rest of the buffer behind it. -/
theorem length_le_later {head : Received Op} {tail received : List (Received Op)}
    (hsublist : head :: tail <+ received)
    (harrivals : received.Pairwise fun op other => op.arrival < other.arrival) :
    tail.length ≤ received.countP fun other => head.arrival < other.arrival := by
  have hpairwise := pairwise_cons.mp (harrivals.sublist hsublist)
  calc tail.length
      = tail.countP fun other => head.arrival < other.arrival :=
        (countP_eq_length.mpr fun other hother => by
          simpa using hpairwise.1 other hother).symm
    _ ≤ received.countP fun other => head.arrival < other.arrival :=
        ((sublist_cons_self head tail).trans hsublist).countP_le

/-- One more operation is received: it is enough to account for what leaves the line. -/
theorem concat (h : v.Orderly capacity) (hlast : ∀ other ∈ v.received, other.arrival < op.arrival)
    (hone : v'.goroutines.length = if v'.queue.isSome then 1 else 0)
    (hqueue : ∀ queue, v'.queue = some queue →
      queue.capacity = capacity ∧ queue.buffer.length ≤ capacity)
    (hreceived : v'.received = v.received ++ [op]) (hline : v'.line <+ v.line ++ [op])
    (hskipped : ∀ other ∈ v.line ++ [op], other ∉ v'.line → capacity ≤ v'.later other) :
    v'.Orderly capacity where
  goroutines := hone
  queue := hqueue
  line := by
    rw [hreceived]
    exact hline.trans (h.line.append (List.Sublist.refl _))
  arrivals := by
    rw [hreceived]
    exact h.arrivals_concat hlast
  skipped other hmem hnot := by
    by_cases hold : other ∈ v.line ++ [op]
    · exact hskipped other hold hnot
    · rw [mem_append, not_or] at hold
      rw [hreceived] at hmem
      have hbefore : other ∈ v.received := (mem_append.mp hmem).resolve_right hold.2
      calc capacity
          ≤ v.later other := h.skipped other hbefore hold.1
        _ ≤ v'.later other := by
            rw [View.later, View.later, hreceived]
            exact (sublist_append_left v.received [op]).countP_le

/-- An operation whose key is idle is launched. -/
theorem receive_none (h : v.Orderly capacity) (hqueue : v.queue = none)
    (hlast : ∀ other ∈ v.received, other.arrival < op.arrival) :
    (v.receive capacity op).Orderly capacity := by
  have hgoroutines := h.goroutines_eq_nil hqueue
  have hline : (v.receive capacity op).line = v.line ++ [op] := by
    simp [View.receive, newSlidingBuffer, hgoroutines, hqueue]
  refine h.concat hlast ?_ ?_ ?_ ?_ ?_
  · simp [View.receive, hgoroutines, hqueue]
  · intro queue hnew
    have heq : newSlidingBuffer capacity = queue := by
      simpa [View.receive, hqueue] using hnew
    rw [← heq]
    exact ⟨rfl, Nat.zero_le _⟩
  · simp [View.receive, hqueue]
  · rw [hline]
  · intro other hmem hnot
    rw [hline] at hnot
    exact absurd hmem hnot

/-- An operation whose key is busy waits, and the first that waits may have to go. -/
theorem receive_some (h : v.Orderly capacity) (hqueue : v.queue = some queue)
    (hlast : ∀ other ∈ v.received, other.arrival < op.arrival) :
    (v.receive capacity op).Orderly capacity := by
  obtain ⟨rfl, hlength⟩ := h.queue queue hqueue
  have hreceived : (v.receive queue.capacity op).received = v.received ++ [op] := by
    simp [View.receive, hqueue]
  have hline : v.line = v.executed ++ (v.launched ++ queue.buffer) := by
    simp [hqueue]
  have hline' : (v.receive queue.capacity op).line =
      v.executed ++ (v.launched ++ (queue.push op).1.buffer) := by
    simp [View.receive, hqueue]
  obtain ⟨hcapacity, hlength', hcases⟩ := SlidingBuffer.push_spec hlength
  refine h.concat hlast ?_ ?_ hreceived ?_ ?_
  · have hone := h.goroutines
    simpa [View.receive, hqueue] using hone
  · intro queue' hnew
    have heq : (queue.push op).1 = queue' := by simpa [View.receive, hqueue] using hnew
    rw [← heq]
    exact ⟨hcapacity, hlength'⟩
  · rw [hline', hline]
    rcases hcases with ⟨-, hbuffer⟩ | hbuffer | ⟨head, tail, hold, -, hbuffer⟩
    · rw [hbuffer]
      exact sublist_append_left _ _
    · rw [hbuffer]
      simp
    · rw [hbuffer, hold]
      simp
  · intro other hmem hnot
    rw [hline'] at hnot
    rw [hline] at hmem
    rcases hcases with ⟨hzero, -⟩ | hbuffer | ⟨head, tail, hold, hfull, hbuffer⟩
    · rw [hzero]
      exact Nat.zero_le _
    · rw [hbuffer] at hnot
      exact absurd (by simpa using hmem) hnot
    · -- the head of the full buffer is what goes
      rw [hbuffer] at hnot
      rw [hold] at hmem
      have hhead : other = head := by
        simp only [mem_append, mem_cons] at hmem hnot
        tauto
      have hsublist : head :: (tail ++ [op]) <+ v.received ++ [op] := by
        have hin : head :: tail <+ v.line := by
          rw [hline, hold]
          exact (sublist_append_right _ _).trans (sublist_append_right _ _)
        exact (hin.trans h.line).append (List.Sublist.refl [op])
      have hbehind := length_le_later hsublist (h.arrivals_concat hlast)
      rw [hhead, View.later, hreceived, ← hfull]
      simpa using hbehind

/-- A view with the same line and the same operations received is as orderly. -/
theorem congr (h : v.Orderly capacity)
    (hone : v'.goroutines.length = if v'.queue.isSome then 1 else 0)
    (hqueue : ∀ queue, v'.queue = some queue →
      queue.capacity = capacity ∧ queue.buffer.length ≤ capacity) (hline : v'.line = v.line)
    (hreceived : v'.received = v.received) : v'.Orderly capacity where
  goroutines := hone
  queue := hqueue
  line := by
    rw [hline, hreceived]
    exact h.line
  arrivals := by
    rw [hreceived]
    exact h.arrivals
  skipped other hmem hnot := by
    rw [hreceived] at hmem
    rw [hline] at hnot
    rw [View.later, hreceived]
    exact h.skipped other hmem hnot

variable [DecidableEq Op]

theorem start (h : v.Orderly capacity) (hmem : ⟨op, .launched⟩ ∈ v.goroutines) :
    (v.start op).Orderly capacity := by
  obtain ⟨hgoroutines, queue, hqueue⟩ := h.eq_singleton hmem
  refine h.congr ?_ h.queue ?_ rfl
  · simp [View.start, hgoroutines, hqueue]
  · simp [View.start, hgoroutines]

theorem finish (h : v.Orderly capacity) (hmem : ⟨op, .executing⟩ ∈ v.goroutines) :
    (v.advance op .executing .reporting).Orderly capacity := by
  obtain ⟨hgoroutines, queue, hqueue⟩ := h.eq_singleton hmem
  refine h.congr ?_ h.queue ?_ rfl
  · simp [hgoroutines, hqueue]
  · simp [hgoroutines]

theorem complete (h : v.Orderly capacity) (hmem : ⟨op, .reporting⟩ ∈ v.goroutines)
    (hqueue : v.queue = some queue) : (v.complete op queue).Orderly capacity := by
  obtain ⟨hgoroutines, -⟩ := h.eq_singleton hmem
  obtain ⟨hcapacity, hlength⟩ := h.queue queue hqueue
  cases hbuffer : queue.buffer with
  | nil =>
    have hlen : queue.len = 0 := by simp [SlidingBuffer.len, hbuffer]
    refine h.congr ?_ ?_ ?_ ?_
    · simp [View.complete, hlen, hgoroutines]
    · intro queue' hnew
      simp [View.complete, hlen] at hnew
    · simp [View.complete, hlen, hgoroutines, hqueue, hbuffer]
    · simp [View.complete, hlen]
  | cons head tail =>
    have hlen : queue.len ≠ 0 := by simp [SlidingBuffer.len, hbuffer]
    have hpop : queue.pop = some (head, { queue with buffer := tail }) := by
      simp [SlidingBuffer.pop, hbuffer]
    rw [hbuffer, length_cons] at hlength
    refine h.congr ?_ ?_ ?_ ?_
    · simp [View.complete, hlen, hpop, hgoroutines]
    · intro queue' hnew
      have heq : { queue with buffer := tail } = queue' := by
        simpa [View.complete, hlen, hpop] using hnew
      rw [← heq]
      exact ⟨hcapacity, by dsimp only; omega⟩
    · simp [View.complete, hlen, hpop, hgoroutines, hqueue, hbuffer]
    · simp [View.complete, hlen, hpop]

end View.Orderly

/-! ## The queue -/

section Run

variable [DecidableEq Op] [DecidableEq K] {key : Op → K} {q next : MultiQueue Op K}
  {op : Received Op}

/-- What concerns the operations of one key. -/
@[simp] def MultiQueue.view (key : Op → K) (q : MultiQueue Op K) (k : K) : View Op where
  queue := q.queues.lookup k
  goroutines := q.goroutines.filter fun g => key g.received.operation = k
  received := q.received.filter fun op => key op.operation = k
  executed := q.executed.filter fun op => key op.operation = k

omit [DecidableEq Op] in
theorem view_receive (op : Op) (k : K) :
    (q.receive key op).view key k =
      if key op = k then (q.view key k).receive q.capacity ⟨q.received.length, op⟩
      else q.view key k := by
  by_cases hk : key op = k
  · subst hk
    rw [if_pos rfl]
    unfold MultiQueue.receive View.receive
    dsimp only [MultiQueue.view]
    cases q.queues.lookup (key op) with
    | none => simp [MultiQueue.launch, View.launch]
    | some queue => simp
  · rw [if_neg hk]
    unfold MultiQueue.receive
    dsimp only [MultiQueue.view]
    cases q.queues.lookup (key op) with
    | none => simp [MultiQueue.launch, hk, Ne.symm hk]
    | some queue => simp [hk, Ne.symm hk]

theorem view_advance (op : Received Op) (stage after : Stage) (k : K) :
    (q.advance op stage after).view key k =
      if key op.operation = k then (q.view key k).advance op stage after else q.view key k := by
  by_cases hk : key op.operation = k
  · simp [MultiQueue.advance, hk, erase_filter]
  · simp [MultiQueue.advance, hk, ← erase_filter]

theorem view_start (op : Received Op) (k : K) :
    MultiQueue.view key
        { q.advance op .launched .executing with executed := q.executed ++ [op] } k =
      if key op.operation = k then (q.view key k).start op else q.view key k := by
  have hadvance : (q.advance op .launched .executing).view key k = _ := view_advance op _ _ k
  by_cases hk : key op.operation = k
  · rw [if_pos hk] at hadvance ⊢
    rw [View.start, ← hadvance]
    simp [hk]
  · rw [if_neg hk] at hadvance ⊢
    rw [← hadvance]
    simp [MultiQueue.advance, hk]

theorem view_erase {stage : Stage} {k : K} :
    MultiQueue.view key { q with goroutines := q.goroutines.erase ⟨op, stage⟩ } k =
      { q.view key k with goroutines := (q.view key k).goroutines.erase ⟨op, stage⟩ } := by
  simp [erase_filter]

/-- A completion concerns its key alone, since what waits in a buffer has the buffer's key. -/
theorem view_complete {queue : SlidingBuffer (Received Op)}
    (hqueue : q.queues.lookup (key op.operation) = some queue)
    (hbuffer : ∀ waiting ∈ queue.buffer, key waiting.operation = key op.operation) {k : K}
    (hnext : { q with goroutines := q.goroutines.erase ⟨op, .reporting⟩ }.completed
      (key op.operation) = some next) :
    next.view key k =
      if key op.operation = k then (q.view key k).complete op queue else q.view key k := by
  have herase : MultiQueue.view key
      { q with goroutines := q.goroutines.erase ⟨op, .reporting⟩ } k = _ := view_erase
  simp only [MultiQueue.completed, hqueue, Option.map_some, Option.some.injEq] at hnext
  cases hwaiting : queue.buffer with
  | nil =>
    rw [if_pos (by simp [SlidingBuffer.len, hwaiting])] at hnext
    subst hnext
    by_cases hk : key op.operation = k
    · subst hk
      rw [View.complete, ← herase]
      simp [SlidingBuffer.len, hwaiting]
    · have hnot : (⟨op, .reporting⟩ : Goroutine Op) ∉ (q.view key k).goroutines := by
        simp [hk]
      rw [erase_of_not_mem hnot] at herase
      rw [if_neg hk]
      refine Eq.trans ?_ herase
      simp [Ne.symm hk]
  | cons head tail =>
    have hhead : key head.operation = key op.operation :=
      hbuffer head (by rw [hwaiting]; exact mem_cons_self)
    have hlen : queue.len ≠ 0 := by simp [SlidingBuffer.len, hwaiting]
    have hpop : queue.pop = some (head, { queue with buffer := tail }) := by
      simp [SlidingBuffer.pop, hwaiting]
    rw [if_neg hlen, hpop] at hnext
    subst hnext
    by_cases hk : key op.operation = k
    · subst hk
      rw [View.complete, ← herase]
      simp [hlen, hpop, MultiQueue.launch, hhead]
    · have hnot : (⟨op, .reporting⟩ : Goroutine Op) ∉ (q.view key k).goroutines := by
        simp [hk]
      rw [erase_of_not_mem hnot] at herase
      rw [if_neg hk]
      refine Eq.trans ?_ herase
      simp [MultiQueue.launch, hhead, hk, Ne.symm hk]

/-- The operations of every key are handled in order, and arrivals are numbered. -/
structure MultiQueue.Orderly (key : Op → K) (capacity : Nat) (q : MultiQueue Op K) : Prop where
  capacity_eq : q.capacity = capacity
  arrivals : ∀ op ∈ q.received, op.arrival < q.received.length
  view : ∀ k, (q.view key k).Orderly capacity

namespace MultiQueue.Orderly

variable {capacity : Nat}

omit [DecidableEq Op] in
theorem new : (newSlidingQueue capacity : MultiQueue Op K).Orderly key capacity where
  capacity_eq := rfl
  arrivals _ hmem := absurd hmem not_mem_nil
  view _ := View.Orderly.new

omit [DecidableEq Op] in
/-- A step that changes the view of one key needs to keep that one orderly. -/
theorem of_view (h : q.Orderly key capacity) (hcapacity : next.capacity = q.capacity)
    (harrivals : ∀ op ∈ next.received, op.arrival < next.received.length) (k : K)
    (f : View Op → View Op)
    (hview : ∀ k', next.view key k' = if k = k' then f (q.view key k') else q.view key k')
    (hf : (f (q.view key k)).Orderly capacity) : next.Orderly key capacity where
  capacity_eq := hcapacity.trans h.capacity_eq
  arrivals := harrivals
  view k' := by
    rw [hview]
    split
    · rename_i hk
      exact hk ▸ hf
    · exact h.view k'

omit [DecidableEq Op] in
theorem receive (h : q.Orderly key capacity) (op : Op) :
    (q.receive key op).Orderly key capacity := by
  have hreceived : (q.receive key op).received = q.received ++ [⟨q.received.length, op⟩] := by
    unfold MultiQueue.receive
    dsimp only
    split <;> rfl
  have hcapacity : (q.receive key op).capacity = q.capacity := by
    unfold MultiQueue.receive
    dsimp only
    split <;> rfl
  refine h.of_view hcapacity ?_ (key op)
    (fun v => v.receive q.capacity ⟨q.received.length, op⟩) (view_receive op) ?_
  · intro other hmem
    rw [hreceived, mem_append, mem_singleton] at hmem
    rw [hreceived, length_append, length_singleton]
    rcases hmem with hold | rfl
    · have hlt := h.arrivals other hold
      omega
    · exact Nat.lt_succ_self _
  · have hlast : ∀ other ∈ (q.view key (key op)).received, other.arrival < q.received.length :=
      fun other hmem => h.arrivals other (mem_of_mem_filter hmem)
    rw [h.capacity_eq]
    cases hqueue : (q.view key (key op)).queue with
    | none => exact (h.view (key op)).receive_none hqueue hlast
    | some queue => exact (h.view (key op)).receive_some hqueue hlast

omit [DecidableEq Op] in
theorem mem_view {op : Received Op} {stage : Stage} (hmem : ⟨op, stage⟩ ∈ q.goroutines) :
    ⟨op, stage⟩ ∈ (q.view key (key op.operation)).goroutines :=
  mem_filter.mpr ⟨hmem, by simp⟩

theorem step (h : q.Orderly key capacity) {action : Action Op}
    (hstep : OperationQ.step key action q = some next) : next.Orderly key capacity := by
  cases action with
  | push op => exact Option.some.inj hstep ▸ h.receive op
  | start op =>
    obtain ⟨hmem, heq⟩ := Option.ite_none_right_eq_some.mp hstep
    cases heq
    exact h.of_view rfl h.arrivals (key op.operation) (fun v => v.start op) (view_start op)
      ((h.view _).start (mem_view hmem))
  | finish op =>
    obtain ⟨hmem, heq⟩ := Option.ite_none_right_eq_some.mp hstep
    cases heq
    exact h.of_view rfl h.arrivals (key op.operation)
      (fun v => v.advance op .executing .reporting) (view_advance op _ _)
      ((h.view _).finish (mem_view hmem))
  | complete op =>
    obtain ⟨hmem, hstep⟩ := Option.ite_none_right_eq_some.mp hstep
    have hview := h.view (key op.operation)
    obtain ⟨-, queue, hqueue⟩ := hview.eq_singleton (mem_view hmem)
    have hlookup : q.queues.lookup (key op.operation) = some queue := hqueue
    have hbuffer : ∀ waiting ∈ queue.buffer, key waiting.operation = key op.operation := by
      intro waiting hwaiting
      have hline : waiting ∈ (q.view key (key op.operation)).line := by
        simp [hlookup, hwaiting]
      exact of_decide_eq_true (mem_filter.mp (hview.line.subset hline)).2
    have hsame : next.capacity = q.capacity ∧ next.received = q.received := by
      simp only [MultiQueue.completed, hlookup, Option.map_some, Option.some.injEq] at hstep
      subst hstep
      split
      · exact ⟨rfl, rfl⟩
      · split <;> exact ⟨rfl, rfl⟩
    refine h.of_view hsame.1 (by rw [hsame.2]; exact h.arrivals) (key op.operation)
      (fun v => v.complete op queue) (fun k => view_complete hqueue hbuffer hstep) ?_
    exact hview.complete (mem_view hmem) hqueue

theorem run (h : q.Orderly key capacity) {actions : List (Action Op)}
    (hrun : Machine.run (OperationQ.step key) q actions = some next) :
    next.Orderly key capacity := by
  refine run_invariant h ?_ hrun
  intro action _ q next hq hstep
  exact hq.step hstep

end MultiQueue.Orderly

/-- The operation has begun to execute, has a goroutine or waits in the buffer of its key:
what was received and is none of these has been skipped. -/
def MultiQueue.Handled (key : Op → K) (q : MultiQueue Op K) (op : Received Op) : Prop :=
  op ∈ q.executed ∨ (∃ g ∈ q.goroutines, g.received = op) ∨
    ∃ queue, q.queues.lookup (key op.operation) = some queue ∧ op ∈ queue.buffer

omit [DecidableEq Op] in
theorem handled_of_mem_line (hmem : op ∈ (q.view key (key op.operation)).line) :
    q.Handled key op := by
  rcases mem_append.mp hmem with hexecuted | hwaiting
  · exact Or.inl (mem_of_mem_filter hexecuted)
  · rcases mem_append.mp hwaiting with hlaunched | hbuffer
    · obtain ⟨g, hg, hop⟩ := mem_map.mp hlaunched
      exact Or.inr (Or.inl ⟨g, mem_of_mem_filter (mem_of_mem_filter hg), hop⟩)
    · cases hqueue : q.queues.lookup (key op.operation) with
      | none => simp [View.buffer, MultiQueue.view, hqueue] at hbuffer
      | some queue =>
        refine Or.inr (Or.inr ⟨queue, hqueue, ?_⟩)
        simpa [View.buffer, MultiQueue.view, hqueue] using hbuffer

/-- **The operation queue keeps order and drops only what it may.**  After every run of
pushes and of the goroutines of a queue, for every key:

* there is one goroutine at most, so one operation at most executes;
* the operations executed are, in order, some of those received, each once;
* an operation that was received and skipped had at least `capacity` later ones received;
* with a positive capacity the latest operation received is not skipped;
* there is a queue exactly while there is a goroutine. -/
theorem queue_keeps_order {capacity : Nat} {actions : List (Action Op)}
    (hrun : run (step key) (newSlidingQueue capacity) actions = some q) (k : K) :
    (q.goroutines.filter fun g => key g.received.operation = k).length ≤ 1 ∧
    (q.view key k).executed <+ (q.view key k).received ∧
    ((q.view key k).received.Pairwise fun op other => op.arrival < other.arrival) ∧
    (∀ op ∈ (q.view key k).received, ¬ q.Handled key op →
      capacity ≤ (q.view key k).received.countP fun other => op.arrival < other.arrival) ∧
    (1 ≤ capacity → ∀ op, (q.view key k).received.getLast? = some op → q.Handled key op) ∧
    (k ∈ q.queues ↔ ∃ g ∈ q.goroutines, key g.received.operation = k) := by
  have hview := (MultiQueue.Orderly.new.run hrun).view k
  have hskipped : ∀ op ∈ (q.view key k).received, ¬ q.Handled key op →
      capacity ≤ (q.view key k).later op := by
    intro op hmem hnot
    refine hview.skipped op hmem fun hline => hnot ?_
    have hk : key op.operation = k := of_decide_eq_true (mem_filter.mp hmem).2
    rw [← hk] at hline
    exact handled_of_mem_line hline
  have hone := hview.goroutines
  refine ⟨?_, (sublist_append_left _ _).trans hview.line, hview.arrivals, hskipped, ?_, ?_⟩
  · change (q.view key k).goroutines.length ≤ 1
    rw [hone]
    split <;> omega
  · intro hpositive op hlast
    by_contra hnot
    obtain ⟨before, hreceived⟩ := getLast?_eq_some_iff.mp hlast
    have hmem : op ∈ (q.view key k).received := by
      rw [hreceived]
      exact mem_append_right _ mem_cons_self
    -- nothing was received after it
    have hnone : (q.view key k).later op = 0 := by
      have harrivals := hview.arrivals
      rw [hreceived, pairwise_append] at harrivals
      rw [View.later, hreceived, countP_eq_zero]
      intro other hother
      rcases mem_append.mp hother with hbefore | hsame
      · have hlt := harrivals.2.2 other hbefore op mem_cons_self
        simpa using Nat.le_of_lt hlt
      · rw [mem_singleton.mp hsame]
        simp
    have hle := hskipped op hmem hnot
    omega
  · rw [← AList.lookup_isSome]
    constructor
    · intro hqueue
      have hlength : (q.view key k).goroutines.length = 1 := by
        rw [hone]
        exact if_pos hqueue
      obtain ⟨g, hg⟩ := length_eq_one_iff.mp hlength
      have hmem : g ∈ (q.view key k).goroutines := by
        rw [hg]
        exact mem_cons_self
      exact ⟨g, mem_of_mem_filter hmem, of_decide_eq_true (mem_filter.mp hmem).2⟩
    · rintro ⟨g, hg, hk⟩
      have hmem : g ∈ (q.view key k).goroutines := mem_filter.mpr ⟨hg, decide_eq_true hk⟩
      obtain ⟨-, queue, hqueue⟩ := hview.eq_singleton hmem
      exact Option.isSome_iff_exists.mpr ⟨queue, hqueue⟩

end Run

/-- A queue of capacity 1 receives three operations of one key and runs two of them: the
second is skipped, with one later operation received. -/
theorem queue_keeps_order_sample : ∃ q : MultiQueue String String,
    run (step id) (newSlidingQueue 1) [.push "a", .push "a", .push "a", .start ⟨0, "a"⟩,
      .finish ⟨0, "a"⟩, .complete ⟨0, "a"⟩, .start ⟨2, "a"⟩] = some q ∧
    q.executed = [⟨0, "a"⟩, ⟨2, "a"⟩] ∧
    (∀ op ∈ (q.view id "a").received, ¬ q.Handled id op →
      1 ≤ (q.view id "a").received.countP fun other => op.arrival < other.arrival) := by
  have hrun : run (step id) (newSlidingQueue 1 : MultiQueue String String) [.push "a", .push "a",
      .push "a", .start ⟨0, "a"⟩, .finish ⟨0, "a"⟩, .complete ⟨0, "a"⟩, .start ⟨2, "a"⟩] =
      some _ := rfl
  exact ⟨_, hrun, rfl, (queue_keeps_order hrun "a").2.2.2.1⟩

end Diego.OperationQ
