import Mathlib.Logic.Function.Basic

/-!
# Mutual exclusion

Threads with program counters and one lock.  `Held holds pc lock` says that a thread whose
program counter is inside a critical section is the holder of the lock.  A step of one thread
acquires the lock, releases it or keeps it (`Passes`), and each of the three keeps the
discipline.
-/

namespace Diego.Mutex

variable {Id Pc : Type*} [DecidableEq Id] {holds : Pc → Bool} {pc : Id → Pc} {lock : Option Id}
  {c c' : Id} {state : Pc}

/-- A thread in a critical section is the holder of the lock. -/
def Held (holds : Pc → Bool) (pc : Id → Pc) (lock : Option Id) : Prop :=
  ∀ c, holds (pc c) = true → lock = some c

omit [DecidableEq Id] in
/-- There is at most one thread in a critical section. -/
theorem Held.unique (h : Held holds pc lock) (hc : holds (pc c) = true)
    (hc' : holds (pc c') = true) : c' = c :=
  Option.some.inj ((h c' hc').symm.trans (h c hc))

omit [DecidableEq Id] in
theorem Held.outside (h : Held holds pc none) : holds (pc c) = false := by
  cases hc : holds (pc c) with
  | false => rfl
  | true => exact nomatch h c hc

theorem Held.acquire (h : Held holds pc none) :
    Held holds (Function.update pc c state) (some c) := by
  intro c' hc'
  by_cases heq : c' = c
  · rw [heq]
  · rw [Function.update_of_ne heq, h.outside] at hc'
    simp at hc'

theorem Held.release (h : Held holds pc lock) (hc : holds (pc c) = true)
    (hstate : holds state = false) : Held holds (Function.update pc c state) none := by
  intro c' hc'
  by_cases heq : c' = c
  · rw [heq, Function.update_self, hstate] at hc'
    simp at hc'
  · rw [Function.update_of_ne heq] at hc'
    exact absurd (h.unique hc hc') heq

theorem Held.keep (h : Held holds pc lock) (hstate : holds state = true → holds (pc c) = true) :
    Held holds (Function.update pc c state) lock := by
  intro c' hc'
  by_cases heq : c' = c
  · rw [heq, Function.update_self] at hc'
    rw [heq]
    exact h c (hstate hc')
  · rw [Function.update_of_ne heq] at hc'
    exact h c' hc'

/-- What happens to the lock when the thread `c` goes from `before` to `after`. -/
inductive Passes (holds : Pc → Bool) (c : Id) (before after : Pc) (lock lock' : Option Id) : Prop
  | acquire (hfree : lock = none) (hlock : lock' = some c)
  | keep (hlock : lock' = lock) (hafter : holds after = true → holds before = true)
  | release (hlock : lock' = none) (hbefore : holds before = true) (hafter : holds after = false)

theorem Held.passes {lock' : Option Id} (h : Held holds pc lock)
    (hpasses : Passes holds c (pc c) state lock lock') :
    Held holds (Function.update pc c state) lock' := by
  cases hpasses with
  | acquire hfree hlock =>
    subst hfree hlock
    exact h.acquire
  | keep hlock hafter =>
    subst hlock
    exact h.keep hafter
  | release hlock hbefore hafter =>
    subst hlock
    exact h.release hbefore hafter

end Diego.Mutex
