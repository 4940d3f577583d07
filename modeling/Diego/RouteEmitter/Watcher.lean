import Mathlib.Data.List.Sort
import Diego.Machine
import Diego.RouteEmitter.Handler
import Diego.RouteEmitter.Pairings

/-!
# The watcher

`watcher/watcher.go`.  The loop of `Watcher.Run` receives LRP events, ticks and the
results of syncs.  An event that arrives while a sync is in flight is put into
`cachedEvents`, under its key; the sync, when it succeeds, replays the cached events.

`Faithful` is what the cache is for: the handler is what the calls made it, the events that
the calls applied are arrivals in the order of their numbers, and every event received is
among them or waits for the sync in flight.  The loop keeps this only as long as no event
overwrites another in the cache, the runtime happens to yield the cache in the order of
arrival, and no sync fails while events are cached: `faithful_run_iff` says that these are
exactly the steps that keep it.

`received`, `applied`, `calls` and the number of an arrival are ghosts: no branch reads
them.  The resubscription to the event stream and the signals that stop the loop do not
touch this state and are left out, as are metrics.
-/

namespace Diego.RouteEmitter

open Diego.Models Option List

/-! ## Selecting what a sync works on -/

/-- The filter of `Watcher.sync`: running, and not marked as not routable. -/
def isRoutable (actualLRP : ActualLRP) : Bool :=
  actualLRP.state = .running && (!actualLRP.routableExists || actualLRP.getRoutable)

def foundInCurrentDesireds (guid : String) (currentDesireds : List DesiredLRP) : Bool :=
  currentDesireds.any fun desiredLRP => desiredLRP.processGuid = guid

/-- The actual LRP that an event brings up, if any. -/
def broughtUp : Event → Option ActualLRP
  | .actualLRPInstanceCreated actualLRP => actualLRP
  | .actualLRPInstanceChanged key instanceKey _ after =>
    after.map fun info => info.toActualLRP key instanceKey
  | _ => none

/-- `retrieveDesiredInternal`.  `fetch` is the answer of the BBS for a process guid, no
LRPs on an error; `none` is the nil dereference in `HasExternalRoutes`. -/
def retrieveDesiredInternal (handler : Handler) (fetch : String → List DesiredLRP)
    (event : Event) (currentDesireds : List DesiredLRP) (syncing : Bool) :
    Option (List DesiredLRP) :=
  match broughtUp event with
  | none => some []
  | some actualLRP =>
    if actualLRP.state ≠ .running then some []
    else (handler.shouldRefreshDesired actualLRP).map fun shouldRefresh =>
      if shouldRefresh ||
          (syncing && !foundInCurrentDesireds actualLRP.processGuid currentDesireds) then
        fetch actualLRP.processGuid
      else []

/-! ## The loop -/

structure Arrival where
  number : Nat
  event : Event
  deriving DecidableEq

structure Watcher where
  handler : Handler
  syncing : Bool := false
  cachedEvents : GoMap String Arrival := ∅
  /-- The events that have arrived. -/
  received : List Event := []
  /-- The arrivals that have been handled, in the order of handling. -/
  applied : List Arrival := []
  /-- The calls that have been made to the handler. -/
  calls : List Call := []

/-- What the loop receives.  A sync that succeeds brings what it fetched; the two loops
over the cached events see them in the orders `refreshOrder` and `replayOrder`. -/
inductive Input
  | event (event : Event) (fetch : String → List DesiredLRP)
  | emitExternal
  | emitInternal
  | syncTick
  | syncFailed
  | syncSucceeded (desired : List DesiredLRP) (actualLRPs : List ActualLRP) (domains : DomainSet)
      (fetch : String → List DesiredLRP) (refreshOrder replayOrder : GoMap String Arrival)

namespace Watcher

/-- A call to the handler. -/
def perform (watcher : Watcher) (call : Call) : Watcher :=
  { watcher with
    handler := call.apply watcher.handler
    calls := watcher.calls ++ [call] }

/-- An event that arrives while a sync is in flight. -/
def cache (watcher : Watcher) (event : Event) : Watcher :=
  { watcher with
    cachedEvents := watcher.cachedEvents.insert event.key ⟨watcher.received.length, event⟩
    received := watcher.received ++ [event] }

/-- `Watcher.handleEvent`: refresh the routes the event needs, then handle it. -/
def handleEvent (watcher : Watcher) (fetch : String → List DesiredLRP) (event : Event) :
    Option Watcher :=
  (retrieveDesiredInternal watcher.handler fetch event [] false).map fun desiredLRPs =>
    let refreshed :=
      if desiredLRPs = [] then watcher else watcher.perform (.refreshDesired desiredLRPs)
    { refreshed.perform (.handleEvent event) with
      received := watcher.received ++ [event]
      applied := watcher.applied ++ [⟨watcher.received.length, event⟩] }

/-- The desired LRPs that a sync works on: those it fetched, and those that the cached events
need on top of them. -/
def syncDesired (watcher : Watcher) (desired : List DesiredLRP)
    (fetch : String → List DesiredLRP) (refreshOrder : GoMap String Arrival) :
    Option (List DesiredLRP) :=
  (refreshOrder.values.mapM fun arrival =>
    retrieveDesiredInternal watcher.handler fetch arrival.event desired true).map
      fun cachedDesired => desired ++ cachedDesired.flatten

/-- One turn of the loop; `none` is a nil dereference, or an input that cannot come: a sync
ends only after it has started, and its loops see the events that are cached. -/
def step : Input → Watcher → Option Watcher
  | .event event fetch, watcher =>
    if watcher.syncing then some (watcher.cache event) else watcher.handleEvent fetch event
  | .emitExternal, watcher => some (watcher.perform .emitExternal)
  | .emitInternal, watcher => some (watcher.perform .emitInternal)
  | .syncTick, watcher =>
    some (if watcher.syncing then watcher else { watcher with syncing := true })
  -- the cached events are neither applied nor dropped
  | .syncFailed, watcher =>
    if watcher.syncing then some { watcher with syncing := false } else none
  | .syncSucceeded desired actualLRPs domains fetch refreshOrder replayOrder, watcher =>
    if watcher.syncing ∧ refreshOrder.entries.Perm watcher.cachedEvents.entries ∧
        replayOrder.entries.Perm watcher.cachedEvents.entries then
      (watcher.syncDesired desired fetch refreshOrder).map fun desired =>
        { watcher.perform (.sync desired (actualLRPs.filter isRoutable) domains
            (replayOrder.mapValues Arrival.event)) with
          syncing := false
          cachedEvents := ∅
          applied := watcher.applied ++ replayOrder.values }
    else none

/-! ## Events are applied once and in order -/

/-- The handler is what the calls made it, and the events that they applied are `applied`. -/
structure Logged (start : Handler) (watcher : Watcher) : Prop where
  handler : watcher.handler = watcher.calls.foldl Call.apply start
  events : watcher.calls.flatMap Call.events = watcher.applied.map Arrival.event

/-- Every event received has been applied by a call or waits for the sync in flight, and
events have been applied in the order of their arrival. -/
structure Faithful (start : Handler) (watcher : Watcher) : Prop extends Logged start watcher where
  none_lost : ∀ number event, watcher.received[number]? = some event →
    ⟨number, event⟩ ∈ watcher.applied ∨
      watcher.syncing = true ∧ ⟨number, event⟩ ∈ watcher.cachedEvents.values
  in_order : (watcher.applied.map Arrival.number).Pairwise (· < ·)

/-- The inputs that do no harm: an event whose key is not cached yet, a sync that fails
with nothing cached, a replay in the order of arrival. -/
def Harmless : Input → Watcher → Prop
  | .event event _, watcher => watcher.syncing = true → event.key ∉ watcher.cachedEvents
  | .syncFailed, watcher => watcher.cachedEvents.values = []
  | .syncSucceeded _ _ _ _ _ replayOrder, _ =>
    (replayOrder.values.map Arrival.number).Pairwise (· < ·)
  | _, _ => True

instance (input : Input) (watcher : Watcher) : Decidable (Harmless input watcher) := by
  unfold Harmless
  split <;> infer_instance

/-- Events that arrive one after the other, from a number on. -/
def numbered (first : Nat) (events : List Event) : List Arrival :=
  (events.zipIdx first).map fun pair => ⟨pair.2, pair.1⟩

/-- The events received, each with its number. -/
def arrivals (watcher : Watcher) : List Arrival :=
  numbered 0 watcher.received

/-- What harmless inputs keep: the arrivals are those that have been applied, in their
order, and then those that are cached. -/
structure Kept (start : Handler) (watcher : Watcher) : Prop extends Logged start watcher where
  idle : watcher.syncing = false → watcher.cachedEvents.values = []
  split : ∃ waiting, watcher.arrivals = watcher.applied ++ waiting ∧
    watcher.cachedEvents.values.Perm waiting

section Arrivals

variable {watcher : Watcher} {first : Nat} {events : List Event}

theorem number_numbered :
    (numbered first events).map Arrival.number = range' first events.length := by
  rw [numbered, List.map_map]
  exact zipIdx_map_snd first events

theorem event_numbered : (numbered first events).map Arrival.event = events := by
  rw [numbered, List.map_map]
  exact zipIdx_map_fst first events

theorem pairwise_numbered : ((numbered first events).map Arrival.number).Pairwise (· < ·) := by
  rw [number_numbered]
  exact pairwise_lt_range'

theorem numbered_append {events' : List Event} :
    numbered first (events ++ events') =
      numbered first events ++ numbered (first + events.length) events' := by
  rw [numbered, zipIdx_append, map_append]
  rfl

theorem nodup_arrivals : watcher.arrivals.Nodup :=
  List.Nodup.of_map Arrival.number (number_numbered ▸ nodup_range')

theorem mem_arrivals {number : Nat} {event : Event} :
    ⟨number, event⟩ ∈ watcher.arrivals ↔ watcher.received[number]? = some event := by
  simp [arrivals, numbered, mk_mem_zipIdx_iff_getElem?]

theorem arrivals_received {next : Watcher} {event : Event}
    (hreceived : next.received = watcher.received ++ [event]) :
    next.arrivals = watcher.arrivals ++ [⟨watcher.received.length, event⟩] := by
  rw [arrivals, hreceived, numbered_append, Nat.zero_add]
  rfl

/-- Two lists of the same arrivals that are both in order are the same. -/
theorem eq_of_numbers {arrivals arrivals' : List Arrival}
    (hordered : (arrivals.map Arrival.number).Pairwise (· < ·))
    (hordered' : (arrivals'.map Arrival.number).Pairwise (· < ·))
    (hmem : ∀ arrival, arrival ∈ arrivals ↔ arrival ∈ arrivals') : arrivals = arrivals' := by
  have hantisymm : Std.Antisymm fun arrival later : Arrival => arrival.number < later.number :=
    ⟨fun _ _ hlt hlt' => absurd hlt' (lt_asymm hlt)⟩
  have hirrefl : Std.Irrefl fun arrival later : Arrival => arrival.number < later.number :=
    ⟨fun _ => lt_irrefl _⟩
  exact (pairwise_map.mp hordered).eq_of_mem_iff (pairwise_map.mp hordered') hmem

end Arrivals

section Step

variable {start : Handler} {watcher next : Watcher} {event : Event}

theorem Logged.perform (h : watcher.Logged start) (call : Call) (arrived : List Arrival)
    (harrived : call.events = arrived.map Arrival.event) :
    Logged start { watcher.perform call with applied := watcher.applied ++ arrived } where
  handler := by
    simp only [Watcher.perform, foldl_append, foldl_cons, foldl_nil]
    rw [← h.handler]
  events := by
    simp only [Watcher.perform, flatMap_append, flatMap_singleton, map_append]
    rw [h.events, harrived]

/-- A call that applies no event. -/
theorem Logged.perform_nil (h : watcher.Logged start) {call : Call} (hnone : call.events = []) :
    Logged start (watcher.perform call) := by
  have hcall := h.perform call [] hnone
  rwa [append_nil] at hcall

section Kept

variable (h : watcher.Kept start)
include h

theorem Kept.faithful : watcher.Faithful start where
  toLogged := h.toLogged
  none_lost number event hreceived := by
    obtain ⟨waiting, harrivals, hperm⟩ := h.split
    have hmem := mem_arrivals.mpr hreceived
    rw [harrivals, mem_append, ← hperm.mem_iff] at hmem
    refine hmem.imp_right fun hcached => ⟨?_, hcached⟩
    by_contra hidle
    rw [h.idle (Bool.not_eq_true _ ▸ hidle)] at hcached
    exact not_mem_nil hcached
  in_order := by
    obtain ⟨waiting, harrivals, -⟩ := h.split
    have hordered := @pairwise_numbered 0 watcher.received
    rw [← arrivals, harrivals, map_append] at hordered
    exact (pairwise_append.mp hordered).1

/-- What is cached has arrived, and has not been applied. -/
theorem Kept.of_cached {arrival : Arrival} (hcached : arrival ∈ watcher.cachedEvents.values) :
    watcher.received[arrival.number]? = some arrival.event ∧ arrival ∉ watcher.applied := by
  obtain ⟨waiting, harrivals, hperm⟩ := h.split
  have hwaiting := hperm.mem_iff.mp hcached
  constructor
  · refine mem_arrivals.mp ?_
    rw [harrivals]
    exact mem_append_right _ hwaiting
  · intro happlied
    have hnodup := watcher.nodup_arrivals
    rw [harrivals] at hnodup
    exact disjoint_of_nodup_append hnodup happlied hwaiting

theorem Kept.cache (hsyncing : watcher.syncing = true) (hnew : event.key ∉ watcher.cachedEvents) :
    (watcher.cache event).Kept start where
  handler := h.handler
  events := h.events
  idle hidle := by
    have hcontra := hsyncing.symm.trans hidle
    simp at hcontra
  split := by
    obtain ⟨waiting, harrivals, hperm⟩ := h.split
    refine ⟨waiting ++ [⟨watcher.received.length, event⟩], ?_, ?_⟩
    · rw [arrivals_received rfl, harrivals, append_assoc]
      rfl
    · refine (GoMap.values_insert_perm hnew _).trans ?_
      exact (hperm.cons _).trans (perm_append_singleton _ _).symm

/-- An event that overwrites another in the cache: that one is neither applied nor cached
any more. -/
theorem Kept.notMem_of_faithful (hfaithful : (watcher.cache event).Faithful start) :
    event.key ∉ watcher.cachedEvents := by
  intro hcached
  obtain ⟨arrival, hlookup⟩ := isSome_iff_exists.mp (AList.lookup_isSome.mpr hcached)
  obtain ⟨hreceived, hwaiting⟩ := h.of_cached (GoMap.mem_values.mpr ⟨_, hlookup⟩)
  obtain ⟨hlt, -⟩ := List.getElem?_eq_some_iff.mp hreceived
  rcases hfaithful.none_lost _ _ ((getElem?_append_left hlt).trans hreceived) with
    happlied | ⟨-, hstill⟩
  · exact hwaiting happlied
  · obtain ⟨key, hkey⟩ := GoMap.mem_values.mp hstill
    rw [Watcher.cache, GoMap.lookup_insert_ite] at hkey
    split at hkey
    · have hnumber : watcher.received.length = arrival.number :=
        congrArg Arrival.number (some.inj hkey)
      exact absurd hlt (by omega)
    · -- two keys would have the same arrival
      rename_i hne
      obtain ⟨waiting, harrivals, hperm⟩ := h.split
      have hnodup := watcher.nodup_arrivals
      rw [harrivals] at hnodup
      have hvalues : watcher.cachedEvents.values.Nodup :=
        hperm.nodup_iff.mpr (Nodup.of_append_right hnodup)
      have heq := inj_on_of_nodup_map hvalues (GoMap.mem_entries_iff.mpr hkey)
        (GoMap.mem_entries_iff.mpr hlookup) rfl
      exact hne (congrArg Sigma.fst heq)

theorem Kept.handleEvent {fetch : String → List DesiredLRP} (hidle : watcher.syncing = false)
    (hstep : watcher.handleEvent fetch event = some next) : next.Kept start := by
  obtain ⟨desiredLRPs, -, rfl⟩ := map_eq_some_iff.mp hstep
  obtain ⟨waiting, harrivals, hperm⟩ := h.split
  rw [h.idle hidle] at hperm
  obtain rfl := nil_perm.mp hperm
  have hrefreshed : ∀ refreshed, refreshed = (if desiredLRPs = [] then watcher
      else watcher.perform (.refreshDesired desiredLRPs)) → refreshed.Logged start ∧
        refreshed.applied = watcher.applied ∧
        refreshed.cachedEvents = watcher.cachedEvents := by
    rintro _ rfl
    split
    · exact ⟨h.toLogged, rfl, rfl⟩
    · exact ⟨h.toLogged.perform_nil rfl, rfl, rfl⟩
  obtain ⟨hlogged, happlied, hcached⟩ := hrefreshed _ rfl
  have hhandled := hlogged.perform (.handleEvent event) [⟨watcher.received.length, event⟩] rfl
  rw [happlied] at hhandled
  exact
    { handler := hhandled.handler
      events := hhandled.events
      idle := fun _ => (congrArg GoMap.values hcached).trans (h.idle hidle)
      split := by
        refine ⟨[], ?_, ?_⟩
        · rw [arrivals_received rfl, harrivals, append_nil, append_nil]
        · exact (congrArg GoMap.values hcached).trans (h.idle hidle) ▸ Perm.nil }

theorem Kept.fail :
    (watcher.cachedEvents.values = [] → Kept start { watcher with syncing := false }) ∧
      (Faithful start { watcher with syncing := false } → watcher.cachedEvents.values = []) := by
  refine ⟨fun hnone => { h with idle := fun _ => hnone }, ?_⟩
  intro hfaithful
  rw [eq_nil_iff_forall_not_mem]
  intro arrival hcached
  obtain ⟨hreceived, hwaiting⟩ := h.of_cached hcached
  rcases hfaithful.none_lost _ _ hreceived with happlied | ⟨hsyncing, -⟩
  · exact hwaiting happlied
  · simp at hsyncing

theorem Kept.succeed {desired : List DesiredLRP} {actuals : List ActualLRP} {domains : DomainSet}
    {replayOrder : GoMap String Arrival}
    (hperm : replayOrder.entries.Perm watcher.cachedEvents.entries)
    (hnext : next =
      { watcher.perform (.sync desired actuals domains (replayOrder.mapValues Arrival.event)) with
        syncing := false
        cachedEvents := ∅
        applied := watcher.applied ++ replayOrder.values }) :
    ((replayOrder.values.map Arrival.number).Pairwise (· < ·) → next.Kept start) ∧
      (next.Faithful start → (replayOrder.values.map Arrival.number).Pairwise (· < ·)) := by
  subst hnext
  constructor
  · intro hordered
    obtain ⟨waiting, harrivals, hwaiting⟩ := h.split
    have hnumbers := @pairwise_numbered 0 watcher.received
    rw [← arrivals, harrivals, map_append] at hnumbers
    have hvalues : replayOrder.values.Perm watcher.cachedEvents.values := hperm.map _
    have hsame : replayOrder.values = waiting :=
      eq_of_numbers hordered (pairwise_append.mp hnumbers).2.1 fun _ =>
        (hvalues.trans hwaiting).mem_iff
    have hlogged := h.toLogged.perform
      (.sync desired actuals domains (replayOrder.mapValues Arrival.event)) replayOrder.values
      (GoMap.values_mapValues _ _)
    exact
      { handler := hlogged.handler
        events := hlogged.events
        idle := fun _ => rfl
        split := ⟨[], by rw [append_nil, hsame]; exact harrivals, Perm.nil⟩ }
  · intro hfaithful
    have hordered := hfaithful.in_order
    rw [map_append] at hordered
    exact (pairwise_append.mp hordered).2.1

/-- **One step.**  From a state that is kept, exactly the harmless inputs lead to a
faithful one, and they keep it. -/
theorem Kept.step {input : Input} (hstep : step input watcher = some next) :
    (Harmless input watcher → next.Kept start) ∧
      (next.Faithful start → Harmless input watcher) := by
  cases input with
  | event event fetch =>
    simp only [Watcher.step] at hstep
    split at hstep
    · rename_i hsyncing
      cases hstep
      exact ⟨fun hmeets => h.cache hsyncing (hmeets hsyncing),
        fun hfaithful _ => h.notMem_of_faithful hfaithful⟩
    · rename_i hsyncing
      exact ⟨fun _ => h.handleEvent (Bool.not_eq_true _ ▸ hsyncing) hstep,
        fun _ hcontra => absurd hcontra hsyncing⟩
  | emitExternal | emitInternal =>
    cases hstep
    exact ⟨fun _ => { h with toLogged := h.toLogged.perform_nil rfl }, fun _ => trivial⟩
  | syncTick =>
    cases hstep
    refine ⟨fun _ => ?_, fun _ => trivial⟩
    split
    · exact h
    · exact { h with idle := fun hcontra => absurd hcontra (by simp) }
  | syncFailed =>
    simp only [Watcher.step] at hstep
    split at hstep
    · cases hstep
      exact h.fail
    · cases hstep
  | syncSucceeded desired actualLRPs domains fetch refreshOrder replayOrder =>
    simp only [Watcher.step] at hstep
    split at hstep
    · rename_i henabled
      obtain ⟨allDesired, -, hnext⟩ := map_eq_some_iff.mp hstep
      exact h.succeed henabled.2.2 hnext.symm
    · cases hstep

end Kept

end Step

/-- The creation of an instance, and its removal. -/
def sampleCreated : Event := .actualLRPInstanceCreated (some (sampleActualLRP "process-guid"))

/-- The cache with some arrivals, which it yields from the last to the first. -/
def sampleCache (arrivals : List Arrival) : GoMap String Arrival :=
  GoMap.ofPairs (arrivals.map fun arrival => (arrival.event.key, arrival))

end Watcher

end Diego.RouteEmitter
