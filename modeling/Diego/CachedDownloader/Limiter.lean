import Diego.GoMap
import Diego.Machine

/-!
# The limiter of the cached downloader

`acquireLimiter` and `releaseLimiter` of `cacheddownloader/cached_downloader.go`: one download
at a time for each cache key.  The map `inProgress` has a channel for every key that somebody
downloads; whoever finds one waits until it is closed and tries again.

The map is only touched under `c.lock`, so the part of a call between `Lock` and `Unlock` is
one step.  Between two turns of its loop a caller keeps a channel that it read from the map
earlier, and the map may have another channel for the key by then, or none.  The invariant
`Exact` says that the channels in the map are those of the holders, and that a channel some
caller waits for is in the map or closed.
-/

namespace Diego.CachedDownloader

open Function

abbrev ChanRef := Nat

abbrev CallerId := Nat

/-- Where a caller is.  A caller calls `acquireLimiter` once, and `releaseLimiter` once after
it got the limiter. -/
inductive Caller
  | idle
  /-- At the start of the loop of `acquireLimiter`. -/
  | trying (cacheKey : String)
  /-- At the `select`, with the channel that it read. -/
  | waiting (cacheKey : String) (rateLimiter : ChanRef)
  | acquired (cacheKey : String) (rateLimiter : ChanRef)
  /-- `acquireLimiter` returned `DownloadCancelledError`. -/
  | cancelled
  | released

structure Limiter where
  inProgress : GoMap String ChanRef
  /-- The number of channels that were made. -/
  channels : Nat
  /-- How often each channel was closed.  Go panics at the second time. -/
  closes : ChanRef → Nat
  callers : CallerId → Caller

def newLimiter : Limiter where
  inProgress := ∅
  channels := 0
  closes _ := 0
  callers _ := .idle

namespace Limiter

variable (l : Limiter) (c : CallerId)

def setCaller (state : Caller) : Limiter :=
  { l with callers := Function.update l.callers c state }

def acquireLimiter (cacheKey : String) : Option Limiter :=
  match l.callers c with
  | .idle => some (l.setCaller c (.trying cacheKey))
  | _ => none

/-- From `c.lock.Lock()` to `c.lock.Unlock()`. -/
def tryAcquire : Option Limiter :=
  match l.callers c with
  | .trying cacheKey =>
    match l.inProgress.lookup cacheKey with
    | some rateLimiter => some (l.setCaller c (.waiting cacheKey rateLimiter))
    | none => some
        { l.setCaller c (.acquired cacheKey l.channels) with
          inProgress := l.inProgress.insert cacheKey l.channels
          channels := l.channels + 1 }
  | _ => none

/-- The case of the `select` that receives from the channel, which is closed then. -/
def receive : Option Limiter :=
  match l.callers c with
  | .waiting cacheKey rateLimiter =>
    if 0 < l.closes rateLimiter then some (l.setCaller c (.trying cacheKey)) else none
  | _ => none

/-- The case of the `select` that receives from `cancelChan`. -/
def cancel : Option Limiter :=
  match l.callers c with
  | .waiting _ _ => some (l.setCaller c .cancelled)
  | _ => none

/-- `releaseLimiter` with the channel that the caller got. -/
def releaseLimiter : Option Limiter :=
  match l.callers c with
  | .acquired cacheKey rateLimiter => some
      { l.setCaller c .released with
        inProgress := l.inProgress.erase cacheKey
        closes := Function.update l.closes rateLimiter (l.closes rateLimiter + 1) }
  | _ => none

end Limiter

inductive LimiterAction
  | acquireLimiter (c : CallerId) (cacheKey : String)
  | tryAcquire (c : CallerId)
  | receive (c : CallerId)
  | cancel (c : CallerId)
  | releaseLimiter (c : CallerId)

def Limiter.step : LimiterAction → Limiter → Option Limiter
  | .acquireLimiter c cacheKey, l => l.acquireLimiter c cacheKey
  | .tryAcquire c, l => l.tryAcquire c
  | .receive c, l => l.receive c
  | .cancel c, l => l.cancel c
  | .releaseLimiter c, l => l.releaseLimiter c

namespace Limiter

variable {l l' : Limiter} {c : CallerId} {cacheKey : String}

/-! ## What the steps do -/

variable {state : Caller} {rateLimiter : ChanRef} {c' : CallerId}

theorem callers_setCaller_self : (l.setCaller c state).callers c = state :=
  update_self _ _ _

theorem callers_setCaller_of_ne (h : c' ≠ c) : (l.setCaller c state).callers c' = l.callers c' :=
  update_of_ne h _ _

theorem of_callers_setCaller {state' : Caller} (h : (l.setCaller c state).callers c' = state') :
    c' = c ∧ state = state' ∨ c' ≠ c ∧ l.callers c' = state' := by
  by_cases heq : c' = c
  · subst heq
    exact Or.inl ⟨rfl, callers_setCaller_self.symm.trans h⟩
  · exact Or.inr ⟨heq, (callers_setCaller_of_ne heq).symm.trans h⟩

theorem acquireLimiter_spec (h : l.acquireLimiter c cacheKey = some l') :
    l.callers c = .idle ∧ l' = l.setCaller c (.trying cacheKey) := by
  unfold acquireLimiter at h
  grind

theorem tryAcquire_spec (h : l.tryAcquire c = some l') :
    ∃ cacheKey, l.callers c = .trying cacheKey ∧
      ((∃ rateLimiter, l.inProgress.lookup cacheKey = some rateLimiter ∧
          l' = l.setCaller c (.waiting cacheKey rateLimiter)) ∨
        (l.inProgress.lookup cacheKey = none ∧
          l' = { l.setCaller c (.acquired cacheKey l.channels) with
            inProgress := l.inProgress.insert cacheKey l.channels
            channels := l.channels + 1 })) := by
  unfold tryAcquire at h
  grind

theorem receive_spec (h : l.receive c = some l') :
    ∃ cacheKey rateLimiter, l.callers c = .waiting cacheKey rateLimiter ∧
      0 < l.closes rateLimiter ∧ l' = l.setCaller c (.trying cacheKey) := by
  unfold receive at h
  grind

theorem cancel_spec (h : l.cancel c = some l') :
    ∃ cacheKey rateLimiter, l.callers c = .waiting cacheKey rateLimiter ∧
      l' = l.setCaller c .cancelled := by
  unfold cancel at h
  grind

theorem releaseLimiter_spec (h : l.releaseLimiter c = some l') :
    ∃ cacheKey rateLimiter, l.callers c = .acquired cacheKey rateLimiter ∧
      l' = { l.setCaller c .released with
        inProgress := l.inProgress.erase cacheKey
        closes := update l.closes rateLimiter (l.closes rateLimiter + 1) } := by
  unfold releaseLimiter at h
  grind

/-! ## The invariant -/

/-- The channels in the map are those of the holders, they are open, and no two holders share
one.  A channel that somebody waits for is in the map or closed. -/
structure Exact (l : Limiter) : Prop where
  entry : ∀ cacheKey rateLimiter, l.inProgress.lookup cacheKey = some rateLimiter ↔
    ∃ c, l.callers c = .acquired cacheKey rateLimiter
  holder : ∀ c c' cacheKey cacheKey' rateLimiter, l.callers c = .acquired cacheKey rateLimiter →
    l.callers c' = .acquired cacheKey' rateLimiter → c' = c
  held : ∀ c cacheKey rateLimiter, l.callers c = .acquired cacheKey rateLimiter →
    l.closes rateLimiter = 0 ∧ rateLimiter < l.channels
  waited : ∀ c cacheKey rateLimiter, l.callers c = .waiting cacheKey rateLimiter →
    l.inProgress.lookup cacheKey = some rateLimiter ∨ 0 < l.closes rateLimiter
  closes : ∀ rateLimiter, l.closes rateLimiter ≤ 1
  unmade : ∀ rateLimiter, l.channels ≤ rateLimiter → l.closes rateLimiter = 0

theorem exact_new : newLimiter.Exact where
  entry _ _ := ⟨nofun, fun ⟨_, h⟩ => nomatch h⟩
  holder _ _ _ _ _ h := nomatch h
  held _ _ _ h := nomatch h
  waited _ _ _ h := nomatch h
  closes _ := Nat.zero_le 1
  unmade _ _ := rfl

/-- The two callers that hold a key have the same channel, and so are one. -/
theorem Exact.unique (h : l.Exact) {rateLimiter' : ChanRef}
    (hc : l.callers c = .acquired cacheKey rateLimiter)
    (hc' : l.callers c' = .acquired cacheKey rateLimiter') : c' = c := by
  have hentry := (h.entry cacheKey rateLimiter).mpr ⟨c, hc⟩
  have hentry' := (h.entry cacheKey rateLimiter').mpr ⟨c', hc'⟩
  obtain rfl := Option.some.inj (hentry.symm.trans hentry')
  exact h.holder c c' cacheKey cacheKey rateLimiter hc hc'

/-- A caller that holds nothing moves to a state in which it holds nothing either. -/
theorem Exact.setCaller (h : l.Exact)
    (hbefore : ∀ cacheKey rateLimiter, l.callers c ≠ .acquired cacheKey rateLimiter)
    (hafter : ∀ cacheKey rateLimiter, state ≠ .acquired cacheKey rateLimiter)
    (hwaits : ∀ cacheKey rateLimiter, state = .waiting cacheKey rateLimiter →
      l.inProgress.lookup cacheKey = some rateLimiter) : (l.setCaller c state).Exact := by
  have hacquired : ∀ {c' cacheKey rateLimiter},
      (l.setCaller c state).callers c' = .acquired cacheKey rateLimiter ↔
        l.callers c' = .acquired cacheKey rateLimiter := by
    intro c' cacheKey rateLimiter
    by_cases heq : c' = c
    · subst heq
      rw [callers_setCaller_self]
      exact iff_of_false (hafter _ _) (hbefore _ _)
    · rw [callers_setCaller_of_ne heq]
  refine ⟨?_, ?_, ?_, ?_, h.closes, h.unmade⟩
  · intro cacheKey rateLimiter
    simp only [hacquired]
    exact h.entry cacheKey rateLimiter
  · intro c₁ c₂ key₁ key₂ rateLimiter h₁ h₂
    exact h.holder c₁ c₂ key₁ key₂ rateLimiter (hacquired.mp h₁) (hacquired.mp h₂)
  · intro c' cacheKey rateLimiter hc'
    exact h.held c' cacheKey rateLimiter (hacquired.mp hc')
  · intro c' cacheKey rateLimiter hc'
    rcases of_callers_setCaller hc' with ⟨-, hstate⟩ | ⟨-, hbefore⟩
    · exact Or.inl (hwaits cacheKey rateLimiter hstate)
    · exact h.waited c' cacheKey rateLimiter hbefore

/-- A caller that finds no channel for its key puts a new one there. -/
theorem Exact.acquire (h : l.Exact) (hcaller : l.callers c = .trying cacheKey)
    (hfree : l.inProgress.lookup cacheKey = none) :
    Exact { l.setCaller c (.acquired cacheKey l.channels) with
      inProgress := l.inProgress.insert cacheKey l.channels
      channels := l.channels + 1 } := by
  have hkeep : ∀ {key chan}, l.inProgress.lookup key = some chan →
      (l.inProgress.insert cacheKey l.channels).lookup key = some chan := by
    intro key chan hlookup
    rw [GoMap.lookup_insert_ite, if_neg]
    · exact hlookup
    · rintro rfl
      exact nomatch hfree.symm.trans hlookup
  have hfresh : ∀ {c' key}, l.callers c' ≠ .acquired key l.channels :=
    fun hc' => absurd (h.held _ _ _ hc').2 (Nat.lt_irrefl _)
  refine ⟨?_, ?_, ?_, ?_, h.closes, fun chan hle => h.unmade chan (Nat.le_of_succ_le hle)⟩
  · intro key chan
    constructor
    · rw [GoMap.lookup_insert_ite]
      split
      · rename_i heq
        rintro ⟨⟩
        exact ⟨c, heq ▸ callers_setCaller_self⟩
      · intro hlookup
        obtain ⟨c', hc'⟩ := (h.entry key chan).mp hlookup
        have hne : c' ≠ c := by
          rintro rfl
          exact nomatch hcaller.symm.trans hc'
        exact ⟨c', (callers_setCaller_of_ne hne).trans hc'⟩
    · rintro ⟨c', hc'⟩
      rcases of_callers_setCaller hc' with ⟨-, ⟨⟩⟩ | ⟨-, hbefore⟩
      · exact AList.lookup_insert _
      · exact hkeep ((h.entry key chan).mpr ⟨c', hbefore⟩)
  · intro c₁ c₂ key₁ key₂ chan h₁ h₂
    rcases of_callers_setCaller h₁ with ⟨rfl, ⟨⟩⟩ | ⟨-, hbefore₁⟩
    · exact (of_callers_setCaller h₂).elim And.left fun hother => absurd hother.2 hfresh
    · rcases of_callers_setCaller h₂ with ⟨-, ⟨⟩⟩ | ⟨-, hbefore₂⟩
      · exact absurd hbefore₁ hfresh
      · exact h.holder c₁ c₂ key₁ key₂ chan hbefore₁ hbefore₂
  · intro c' key chan hc'
    rcases of_callers_setCaller hc' with ⟨-, ⟨⟩⟩ | ⟨-, hbefore⟩
    · exact ⟨h.unmade _ le_rfl, Nat.lt_succ_self _⟩
    · exact (h.held c' key chan hbefore).imp_right Nat.lt_succ_of_lt
  · intro c' key chan hc'
    rcases of_callers_setCaller hc' with ⟨-, ⟨⟩⟩ | ⟨-, hbefore⟩
    exact (h.waited c' key chan hbefore).imp_left hkeep

/-- The holder of a key closes its channel and takes it out of the map. -/
theorem Exact.release (h : l.Exact) (hcaller : l.callers c = .acquired cacheKey rateLimiter) :
    Exact { l.setCaller c .released with
      inProgress := l.inProgress.erase cacheKey
      closes := update l.closes rateLimiter (l.closes rateLimiter + 1) } := by
  have hothers : ∀ {c' key chan}, (l.setCaller c .released).callers c' = .acquired key chan →
      c' ≠ c ∧ l.callers c' = .acquired key chan :=
    fun hc' => (of_callers_setCaller hc').resolve_left fun hself => nomatch hself.2
  have hclosed := (h.held c cacheKey rateLimiter hcaller).1
  refine ⟨?_, ?_, ?_, ?_, ?_, ?_⟩
  · intro key chan
    rw [GoMap.lookup_erase_eq_some, h.entry key chan]
    constructor
    · rintro ⟨hkey, c', hc'⟩
      have hne : c' ≠ c := by
        rintro rfl
        exact hkey (Caller.acquired.inj (hc'.symm.trans hcaller)).1
      exact ⟨c', (callers_setCaller_of_ne hne).trans hc'⟩
    · rintro ⟨c', hc'⟩
      obtain ⟨hne, hbefore⟩ := hothers hc'
      refine ⟨?_, c', hbefore⟩
      rintro rfl
      exact hne (h.unique hcaller hbefore)
  · intro c₁ c₂ key₁ key₂ chan h₁ h₂
    exact h.holder c₁ c₂ key₁ key₂ chan (hothers h₁).2 (hothers h₂).2
  · intro c' key chan hc'
    obtain ⟨hne, hbefore⟩ := hothers hc'
    -- the channel that is closed is that of nobody else
    have hchan : chan ≠ rateLimiter := by
      rintro rfl
      exact hne (h.holder c c' cacheKey key chan hcaller hbefore)
    dsimp only
    rw [update_of_ne hchan]
    exact h.held c' key chan hbefore
  · intro c' key chan hc'
    rcases of_callers_setCaller hc' with ⟨-, ⟨⟩⟩ | ⟨-, hbefore⟩
    have hwaits := h.waited c' key chan hbefore
    by_cases hchan : chan = rateLimiter
    · subst hchan
      right
      dsimp only
      rw [update_self]
      exact Nat.succ_pos _
    · dsimp only
      rw [update_of_ne hchan]
      refine hwaits.imp_left ?_
      intro hlookup
      refine GoMap.lookup_erase_eq_some.mpr ⟨?_, hlookup⟩
      rintro rfl
      have hentry := (h.entry key rateLimiter).mpr ⟨c, hcaller⟩
      exact hchan (Option.some.inj (hlookup.symm.trans hentry))
  · intro chan
    dsimp only
    by_cases hchan : chan = rateLimiter
    · rw [hchan, update_self, hclosed]
    · rw [update_of_ne hchan]
      exact h.closes chan
  · intro chan hle
    have hlt := (h.held c cacheKey rateLimiter hcaller).2
    dsimp only
    rw [update_of_ne (Nat.ne_of_gt (lt_of_lt_of_le hlt hle))]
    exact h.unmade chan hle

theorem Exact.step (h : l.Exact) {action : LimiterAction}
    (hstep : Limiter.step action l = some l') : l'.Exact := by
  cases action with
  | acquireLimiter c cacheKey =>
    obtain ⟨hcaller, rfl⟩ := acquireLimiter_spec hstep
    refine h.setCaller ?_ nofun nofun
    rw [hcaller]
    exact nofun
  | tryAcquire c =>
    obtain ⟨cacheKey, hcaller, ⟨rateLimiter, hlookup, rfl⟩ | ⟨hfree, rfl⟩⟩ :=
      tryAcquire_spec hstep
    · refine h.setCaller ?_ nofun ?_
      · rw [hcaller]
        exact nofun
      · rintro _ _ ⟨⟩
        exact hlookup
    · exact h.acquire hcaller hfree
  | receive c =>
    obtain ⟨cacheKey, rateLimiter, hcaller, -, rfl⟩ := receive_spec hstep
    refine h.setCaller ?_ nofun nofun
    rw [hcaller]
    exact nofun
  | cancel c =>
    obtain ⟨cacheKey, rateLimiter, hcaller, rfl⟩ := cancel_spec hstep
    refine h.setCaller ?_ nofun nofun
    rw [hcaller]
    exact nofun
  | releaseLimiter c =>
    obtain ⟨cacheKey, rateLimiter, hcaller, rfl⟩ := releaseLimiter_spec hstep
    exact h.release hcaller

/-! ## The mutex -/

/-- A caller has got the limiter of a key and not released it yet. -/
def Holds (l : Limiter) (c : CallerId) (cacheKey : String) (rateLimiter : ChanRef) : Prop :=
  l.callers c = .acquired cacheKey rateLimiter

/-- What the limiter promises. -/
structure IsMutex (l : Limiter) : Prop where
  exclusive : ∀ c c' cacheKey rateLimiter rateLimiter', l.Holds c cacheKey rateLimiter →
    l.Holds c' cacheKey rateLimiter' → c' = c
  /-- Who waits does so on the channel of the current holder, or on one that is closed. -/
  waited : ∀ c cacheKey rateLimiter, l.callers c = .waiting cacheKey rateLimiter →
    (∃ c', l.Holds c' cacheKey rateLimiter) ∨ 0 < l.closes rateLimiter
  /-- After a release all who wait on the channel can try again. -/
  retry : ∀ c cacheKey rateLimiter, l.Holds c cacheKey rateLimiter →
    ∃ l', Limiter.step (.releaseLimiter c) l = some l' ∧
      ∀ c' cacheKey', l.callers c' = .waiting cacheKey' rateLimiter →
        (Limiter.step (.receive c') l').isSome
  /-- Whatever is in the map belongs to others than a caller that was cancelled. -/
  cancelled : ∀ c, l.callers c = .cancelled →
    (∀ cacheKey rateLimiter, ¬ l.Holds c cacheKey rateLimiter) ∧
      ∀ cacheKey rateLimiter, l.inProgress.lookup cacheKey = some rateLimiter →
        ∃ c', c' ≠ c ∧ l.Holds c' cacheKey rateLimiter
  closedOnce : ∀ rateLimiter, l.closes rateLimiter ≤ 1
  entry : ∀ cacheKey rateLimiter, l.inProgress.lookup cacheKey = some rateLimiter ↔
    ∃ c, l.Holds c cacheKey rateLimiter

theorem retry_of_acquired (hcaller : l.callers c = .acquired cacheKey rateLimiter) :
    ∃ l', Limiter.step (.releaseLimiter c) l = some l' ∧
      ∀ c' cacheKey', l.callers c' = .waiting cacheKey' rateLimiter →
        (Limiter.step (.receive c') l').isSome := by
  have hrelease : Limiter.step (.releaseLimiter c) l = some
      { l.setCaller c .released with
        inProgress := l.inProgress.erase cacheKey
        closes := update l.closes rateLimiter (l.closes rateLimiter + 1) } := by
    simp only [Limiter.step, releaseLimiter, hcaller]
  refine ⟨_, hrelease, ?_⟩
  intro c' cacheKey' hc'
  have hne : c' ≠ c := by
    rintro rfl
    exact nomatch hc'.symm.trans hcaller
  have hcaller' : (l.setCaller c .released).callers c' = .waiting cacheKey' rateLimiter :=
    (callers_setCaller_of_ne hne).trans hc'
  simp [Limiter.step, receive, hcaller']

theorem Exact.isMutex (h : l.Exact) : l.IsMutex where
  exclusive _ _ _ _ _ := h.unique
  waited c cacheKey rateLimiter hc :=
    (h.waited c cacheKey rateLimiter hc).imp_left (h.entry cacheKey rateLimiter).mp
  retry _ _ _ := retry_of_acquired
  cancelled c hc := by
    have hnone : ∀ cacheKey rateLimiter, ¬ l.Holds c cacheKey rateLimiter :=
      fun _ _ hholds => nomatch hc.symm.trans hholds
    refine ⟨hnone, ?_⟩
    intro cacheKey rateLimiter hlookup
    obtain ⟨c', hc'⟩ := (h.entry cacheKey rateLimiter).mp hlookup
    refine ⟨c', ?_, hc'⟩
    rintro rfl
    exact hnone cacheKey rateLimiter hc'
  closedOnce := h.closes
  entry := h.entry

/-- **The limiter is a mutex for each key**, in every state that is reached by any number of
callers, with any keys and cancellations. -/
theorem isMutex_of_reaches
    (hreach : Machine.Reaches Limiter.step (fun _ _ => True) newLimiter l) : l.IsMutex :=
  (hreach.invariant exact_new fun _ _ _ h _ => h.step).isMutex

/-- A caller waits for another one, tries again once the channel is closed, and meanwhile a
third one has taken the key. -/
def contendedSteps : List LimiterAction :=
  [.acquireLimiter 0 "droplet", .tryAcquire 0, .acquireLimiter 1 "droplet", .tryAcquire 1,
    .releaseLimiter 0, .acquireLimiter 2 "droplet", .tryAcquire 2, .receive 1, .tryAcquire 1]

theorem isMutex_after_contention :
    ∃ l, Machine.run Limiter.step newLimiter contendedSteps = some l ∧
      l.callers 1 = .waiting "droplet" 1 ∧ l.IsMutex := by
  obtain ⟨l, hrun, hwaits⟩ : ∃ l, Machine.run Limiter.step newLimiter contendedSteps = some l ∧
      l.callers 1 = .waiting "droplet" 1 := ⟨_, rfl, rfl⟩
  have hmeets : Machine.Meets Limiter.step (fun _ _ => True) newLimiter contendedSteps := by
    decide
  exact ⟨l, hrun, hwaits, isMutex_of_reaches (Machine.reaches_of_run hmeets hrun)⟩

end Limiter

end Diego.CachedDownloader
