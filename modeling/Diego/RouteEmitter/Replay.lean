import Diego.RouteEmitter.Freshness
import Diego.RouteEmitter.Watcher

/-!
# Replaying cached events

`Sync` replays the events that arrived during the sync on the table built from the
snapshot.  The cache holds one event per key and yields them in any order, so the replay
may lack events and see others in another order than they arrived in.

Every event acts on each entry of the table by its own changes (`eventChanges`), so a
replay is a replay on each entry for itself.  An entry for which the events that touch it
have all been kept, and are yielded in the order of arrival, ends as it should
(`InOrder.replayEntry`); and since `Swap` with fresh domains takes over the content of the
new table as it is, a sync goes wrong exactly when some entry does.
-/

namespace Diego.RouteEmitter

open Diego.Models InternalRoutingTable List Option

/-! ## Events on one entry -/

section OneEntry

variable (kind : TableKind) (key : RoutingKey)

def eventChanges (event : Event) : List Change :=
  changesAt key ((eventOperations event).flatMap fun operation => operation.changes kind)

/-- Whether an event does anything to the entry of a key. -/
def touches (event : Event) : Bool :=
  !(eventChanges kind key event).isEmpty

/-- The entry of a key after a replay. -/
def replayEntry (events : List Event) (current : Option RoutableEndpoints) :
    Option RoutableEndpoints :=
  updates Change.apply (events.flatMap (eventChanges kind key)) current

/-- The events that do not touch the entry make no difference to it. -/
theorem replayEntry_filter {events : List Event} {current : Option RoutableEndpoints} :
    replayEntry kind key (events.filter (touches kind key)) current =
      replayEntry kind key events current := by
  have hchanges : (events.filter (touches kind key)).flatMap (eventChanges kind key) =
      events.flatMap (eventChanges kind key) := by
    induction events with
    | nil => rfl
    | cons event events ih =>
      rw [filter_cons, flatMap_cons]
      split
      · rw [flatMap_cons, ih]
      · rename_i huntouched
        have hnil : eventChanges kind key event = [] := by
          simpa [touches] using huntouched
        rw [hnil, nil_append, ih]
  rw [replayEntry, hchanges]
  rfl

end OneEntry

/-- **Handling events is a replay on every entry.** -/
theorem lookup_foldl_handleEvent (handler : Handler) (events : List Event) (part : Part)
    (key : RoutingKey) :
    ((events.foldl Handler.handleEvent handler).routingTable.part part).entries.lookup key =
      replayEntry (handler.routingTable.part part).kind key events
        ((handler.routingTable.part part).entries.lookup key) := by
  rw [routingTable_foldl_handleEvent, lookup_run, flatMap_assoc, changesAt_flatMap]
  rfl

/-! ## Tables with the same content -/

/-- Two entries have the same routes and endpoints. -/
def RoutableEndpoints.Agrees (entry entry' : RoutableEndpoints) : Prop :=
  entry.routes = entry'.routes ∧ entry.endpoints.Same entry'.endpoints

def SameContent (table table' : RoutingTable) : Prop :=
  ∀ part key, ((table.part part).entries.read key).Agrees ((table'.part part).entries.read key)

/-- Two sequences of events leave the same on every entry of a table. -/
def SameReplay (table : RoutingTable) (events events' : List Event) : Prop :=
  ∀ part key, RoutableEndpoints.Agrees
    ((replayEntry (table.part part).kind key events
      ((table.part part).entries.lookup key)).getD default)
    ((replayEntry (table.part part).kind key events'
      ((table.part part).entries.lookup key)).getD default)

/-- All domains are fresh, as far as the table has routes. -/
def AllFresh (table : RoutingTable) (domains : DomainSet) : Prop :=
  ∀ part key, ((table.part part).entries.read key).routes ≠ [] →
    ((table.part part).entries.read key).domain ∈ domains

section Swap

variable {table new new' : RoutingTable} {domains : DomainSet}

/-- What `Swap` leaves depends on the content of the new table only. -/
theorem SameContent.swap (h : SameContent new new') :
    SameContent (table.swap new domains).table (table.swap new' domains).table := by
  intro part key
  obtain ⟨hroutes, hendpoints⟩ := h part key
  simp only [RoutableEndpoints.Agrees, GoMap.read, part_swap, lookup_swap, endpoints_swapEntry] at *
  refine ⟨?_, hendpoints⟩
  cases (table.part part).entries.lookup key with
  | none => exact hroutes
  | some existing =>
    refine (routes_stored _ true).trans (Eq.trans ?_ (routes_stored _ true).symm)
    simp only [mergeUnfreshRoutes, hroutes]

/-- With fresh domains it is the content of the new table. -/
theorem sameContent_swap_iff (hfresh : AllFresh table domains) :
    SameContent (table.swap new domains).table (table.swap new' domains).table ↔
      SameContent new new' := by
  refine ⟨fun h part key => ?_, SameContent.swap⟩
  have hentry := h part key
  simp only [RoutableEndpoints.Agrees, GoMap.read, part_swap, lookup_swap, endpoints_swapEntry,
    routes_swapEntry_of_fresh (hfresh part key)] at hentry
  exact hentry

end Swap

section Sync

variable {handler : Handler} {desired : List DesiredLRP} {actuals : List ActualLRP}
  {domains : DomainSet} {events events' : List Event}

/-- Two replays end with the same content exactly when they leave the same on every entry. -/
theorem sameContent_foldl_handleEvent_iff :
    SameContent (events.foldl Handler.handleEvent handler).routingTable
        (events'.foldl Handler.handleEvent handler).routingTable ↔
      SameReplay handler.routingTable events events' := by
  refine forall_congr' fun part => forall_congr' fun key => ?_
  rw [GoMap.read, GoMap.read, lookup_foldl_handleEvent, lookup_foldl_handleEvent]

theorem SameReplay.syncReplaying
    (h : SameReplay (handler.snapshotTable desired actuals) events events') :
    SameContent (handler.syncReplaying desired actuals domains events).routingTable
      (handler.syncReplaying desired actuals domains events').routingTable := by
  rw [routingTable_syncReplaying, routingTable_syncReplaying]
  exact SameContent.swap (sameContent_foldl_handleEvent_iff.mpr h)

theorem sameContent_syncReplaying_iff (hfresh : AllFresh handler.routingTable domains) :
    SameContent (handler.syncReplaying desired actuals domains events).routingTable
        (handler.syncReplaying desired actuals domains events').routingTable ↔
      SameReplay (handler.snapshotTable desired actuals) events events' := by
  rw [routingTable_syncReplaying, routingTable_syncReplaying, sameContent_swap_iff hfresh]
  exact sameContent_foldl_handleEvent_iff

end Sync

/-! ## A sync of the watcher -/

/-- The event that an input brings. -/
def Input.arrives : Input → Option Event
  | .event arriving _ => some arriving
  | _ => none

def Input.endsSync : Input → Bool
  | .syncFailed => true
  | .syncSucceeded _ _ _ _ _ _ => true
  | _ => false

namespace Watcher

/-- What the loop caches while a sync is in flight. -/
theorem cachedEvents_run {start watcher : Watcher} {inputs : List Input}
    (hsyncing : start.syncing = true) (hinputs : ∀ input ∈ inputs, input.endsSync = false)
    (hrun : Machine.run step start inputs = some watcher) :
    watcher.cachedEvents =
      (numbered start.received.length (inputs.filterMap Input.arrives)).foldl
        (fun cached arrival => cached.insert arrival.event.key arrival) start.cachedEvents := by
  induction inputs generalizing start with
  | nil =>
    cases hrun
    rfl
  | cons input inputs ih =>
    obtain ⟨next, hnext, hrest⟩ := bind_eq_some_iff.mp hrun
    rw [forall_mem_cons] at hinputs
    cases input with
    | event event fetch =>
      rw [step, if_pos hsyncing] at hnext
      cases hnext
      have hcached := @ih (start.cache event) hsyncing hinputs.2 hrest
      rw [show (start.cache event).received.length = start.received.length + 1 from
        length_append] at hcached
      exact hcached
    | emitExternal =>
      exact @ih (start.perform .emitExternal) hsyncing hinputs.2 (some.inj hnext ▸ hrest)
    | emitInternal =>
      exact @ih (start.perform .emitInternal) hsyncing hinputs.2 (some.inj hnext ▸ hrest)
    | syncTick =>
      rw [step, if_pos hsyncing] at hnext
      exact @ih start hsyncing hinputs.2 (some.inj hnext ▸ hrest)
    | syncFailed | syncSucceeded desired actualLRPs domains fetch refreshOrder replayOrder =>
      exact absurd hinputs.1 (by simp [Input.endsSync])

/-- On the entry of a key the replay is what arrived: no event that touches the entry is
overwritten in the cache, and those that do are yielded in the order of arrival. -/
structure InOrder (arrived : List Arrival) (replayOrder : GoMap String Arrival)
    (kind : TableKind) (key : RoutingKey) : Prop where
  kept : arrived.Pairwise fun arrival later =>
    touches kind key arrival.event = true → later.event.key ≠ arrival.event.key
  ordered : ((replayOrder.values.filter fun arrival => touches kind key arrival.event).map
    Arrival.number).Pairwise (· < ·)

/-- Events with different keys, all yielded in the order of arrival. -/
theorem inOrder_of_distinct {arrived : List Arrival} {replayOrder : GoMap String Arrival}
    (hkeys : (arrived.map fun arrival => arrival.event.key).Nodup)
    (hordered : (replayOrder.values.map Arrival.number).Pairwise (· < ·)) {kind : TableKind}
    {key : RoutingKey} : InOrder arrived replayOrder kind key where
  kept := (pairwise_map.mp hkeys).imp fun hne _ heq => hne heq.symm
  ordered := hordered.sublist (filter_sublist.map _)

theorem map_filter_touches {kind : TableKind} {key : RoutingKey} {arrivals : List Arrival} :
    (arrivals.filter fun arrival => touches kind key arrival.event).map Arrival.event =
      (arrivals.map Arrival.event).filter (touches kind key) := by
  rw [List.filter_map]
  rfl

/-- Such an entry ends as if all the events were handled in the order of arrival. -/
theorem InOrder.replayEntry {first : Nat} {events : List Event}
    {cachedEvents replayOrder : GoMap String Arrival} {kind : TableKind} {key : RoutingKey}
    (h : InOrder (numbered first events) replayOrder kind key)
    (hcached : cachedEvents = GoMap.ofPairs
      ((numbered first events).map fun arrival => (arrival.event.key, arrival)))
    (hperm : replayOrder.entries.Perm cachedEvents.entries) {current : Option RoutableEndpoints} :
    replayEntry kind key (replayOrder.values.map Arrival.event) current =
      replayEntry kind key events current := by
  have hvalues : replayOrder.values.Perm cachedEvents.values := hperm.map _
  have hsame : (replayOrder.values.filter fun arrival => touches kind key arrival.event) =
      (numbered first events).filter fun arrival => touches kind key arrival.event := by
    refine eq_of_numbers h.ordered ?_ fun arrival => ?_
    · exact (pairwise_numbered.sublist (filter_sublist.map _))
    · rw [mem_filter, mem_filter, hvalues.mem_iff, GoMap.mem_values, hcached]
      refine and_congr_left fun htouches => ⟨?_, fun hmem => ?_⟩
      · rintro ⟨cacheKey, hlookup⟩
        obtain ⟨found, hfound, heq⟩ := mem_map.mp (GoMap.mem_of_lookup_ofPairs hlookup)
        cases heq
        exact hfound
      · obtain ⟨before, later, hsplit⟩ := append_of_mem hmem
        refine ⟨arrival.event.key, ?_⟩
        have hkept := h.kept
        rw [hsplit, pairwise_append, pairwise_cons] at hkept
        rw [hsplit, map_append, map_cons]
        refine GoMap.lookup_ofPairs_of_last fun pair hpair => ?_
        obtain ⟨other, hother, rfl⟩ := mem_map.mp hpair
        exact hkept.2.1.1 other hother htouches
  rw [← replayEntry_filter kind key, ← @replayEntry_filter kind key events]
  congr 1
  have hevents := congrArg (map Arrival.event) hsame
  rw [map_filter_touches, map_filter_touches, event_numbered] at hevents
  exact hevents

/-- **A sync agrees with handling all events in order** where every entry sees its events as
they arrived; and with all domains fresh it agrees exactly when on every entry of the snapshot
the cached events, as the map yields them, leave what all the events in the order of their
arrival leave. -/
theorem sync_eq_in_order_iff {start watcher next : Watcher} {inputs : List Input}
    (hsyncing : start.syncing = true) (hempty : start.cachedEvents = ∅)
    (hinputs : ∀ input ∈ inputs, input.endsSync = false)
    (hrun : Machine.run step start inputs = some watcher)
    {desired allDesired : List DesiredLRP} {actualLRPs : List ActualLRP} {domains : DomainSet}
    {fetch : String → List DesiredLRP} {refreshOrder replayOrder : GoMap String Arrival}
    (hdesired : watcher.syncDesired desired fetch refreshOrder = some allDesired)
    (hstep : step (.syncSucceeded desired actualLRPs domains fetch refreshOrder replayOrder)
      watcher = some next) :
    ((∀ part key, InOrder (numbered start.received.length (inputs.filterMap Input.arrives))
        replayOrder ((watcher.handler.snapshotTable allDesired
          (actualLRPs.filter isRoutable)).part part).kind key) →
      SameContent next.handler.routingTable (watcher.handler.syncReplaying allDesired
        (actualLRPs.filter isRoutable) domains (inputs.filterMap Input.arrives)).routingTable) ∧
    (AllFresh watcher.handler.routingTable domains →
      (SameContent next.handler.routingTable (watcher.handler.syncReplaying allDesired
          (actualLRPs.filter isRoutable) domains (inputs.filterMap Input.arrives)).routingTable ↔
        SameReplay (watcher.handler.snapshotTable allDesired (actualLRPs.filter isRoutable))
          (replayOrder.values.map Arrival.event) (inputs.filterMap Input.arrives))) := by
  have hcached := cachedEvents_run hsyncing hinputs hrun
  simp only [step, hdesired] at hstep
  split at hstep
  · rename_i henabled
    cases hstep
    have hhandler : ∀ handler : Handler,
        handler.sync allDesired (actualLRPs.filter isRoutable) domains
            (replayOrder.mapValues Arrival.event) =
          handler.syncReplaying allDesired (actualLRPs.filter isRoutable) domains
            (replayOrder.values.map Arrival.event) := by
      intro handler
      rw [Handler.sync, GoMap.values_mapValues]
    simp only [perform, Call.apply, hhandler]
    refine ⟨fun hordered => SameReplay.syncReplaying fun part key => ?_,
      sameContent_syncReplaying_iff⟩
    rw [(hordered part key).replayEntry ?_ henabled.2.2]
    · exact ⟨rfl, fun _ => rfl⟩
    · rw [hcached, hempty, GoMap.ofPairs, foldl_map]
  · cases hstep

/-- A watcher with the events cached that arrive during a sync. -/
def sampleWatcher (events : List Event) : Watcher :=
  events.foldl cache { handler := sampleHandler, syncing := true }

def firstDesired : DesiredLRP :=
  sampleDesiredLRP "process-guid" "" 1

/-- The routes of a desired LRP change and its instance comes up. -/
def sampleArrivals : List Event :=
  [.desiredLRPChanged (some firstDesired)
    (some (sampleDesiredLRP "process-guid" "https://service.example.com" 2)), sampleCreated]

/-- The sync then succeeds, and the runtime yields the cache in the order of arrival. -/
def sampleSync : Input :=
  .syncSucceeded [firstDesired] [] ["domain"] (fun _ => [])
    (sampleWatcher sampleArrivals).cachedEvents (sampleCache (numbered 0 sampleArrivals).reverse)

theorem sync_eq_in_order_sample : ∃ next,
    step sampleSync (sampleWatcher sampleArrivals) = some next ∧
      SameContent next.handler.routingTable
        (sampleHandler.syncReplaying [firstDesired] [] ["domain"] sampleArrivals).routingTable := by
  obtain ⟨next, hnext⟩ : ∃ next, step sampleSync (sampleWatcher sampleArrivals) = some next :=
    isSome_iff_exists.mp (by decide +kernel)
  have hinputs : ∀ input ∈ sampleArrivals.map fun event => Input.event event fun _ => [],
      input.endsSync = false := by
    intro input hinput
    obtain ⟨event, -, rfl⟩ := mem_map.mp hinput
    rfl
  have hrun : Machine.run step { handler := sampleHandler, syncing := true }
      (sampleArrivals.map fun event => .event event fun _ => []) =
        some (sampleWatcher sampleArrivals) := rfl
  have hdesired : (sampleWatcher sampleArrivals).syncDesired [firstDesired] (fun _ => [])
      (sampleWatcher sampleArrivals).cachedEvents = some [firstDesired] := by
    decide +kernel
  refine ⟨next, hnext, (sync_eq_in_order_iff rfl rfl hinputs hrun hdesired hnext).1 ?_⟩
  exact fun part key => inOrder_of_distinct (by decide) (by decide)

/-- The desired LRP with its route to a second port. -/
def twoPorts : DesiredLRP :=
  { firstDesired with
    routes := some { cfRouter :=
      [{ hostnames := ["foo.example.com"], port := 8080 },
        { hostnames := ["bar.example.com"], port := 9090 }] } }

/-- Two changes of one desired LRP during a sync: the first removes the route to the
second port, the second overwrites it in the cache. -/
def overwritten : List Event :=
  [.desiredLRPChanged (some twoPorts) (some (sampleDesiredLRP "process-guid" "" 2)),
    .desiredLRPChanged (some (sampleDesiredLRP "process-guid" "" 2))
      (some (sampleDesiredLRP "process-guid" "https://service.example.com" 3))]

/-- The removal of the route is lost. -/
theorem overwritten_event_is_lost : ∃ watcher next,
    Machine.run step { handler := sampleHandler, syncing := true }
        (overwritten.map fun event => .event event fun _ => []) = some watcher ∧
      step (.syncSucceeded [twoPorts] [] ["domain"] (fun _ => []) watcher.cachedEvents
        watcher.cachedEvents) watcher = some next ∧
      ((next.handler.routingTable.part .http).entries.read ⟨"process-guid", 9090⟩).routes ≠ [] ∧
      (((sampleHandler.syncReplaying [twoPorts] [] ["domain"] overwritten).routingTable.part
        .http).entries.read ⟨"process-guid", 9090⟩).routes = [] := by
  refine ⟨sampleWatcher overwritten, _, rfl, rfl, ?_, ?_⟩
  · decide
  · decide

end Watcher

end Diego.RouteEmitter
