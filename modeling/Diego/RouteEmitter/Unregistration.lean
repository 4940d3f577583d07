import Diego.RouteEmitter.Announcements
import Diego.RouteEmitter.Freshness

/-!
# The unregistration cache

The handler remembers what it has unregistered, and the sender repeats these messages;
a route that comes back has to be taken out of the cache again.  Only the handlers of
`Changed` events and `Sync` keep the cache in step with the table.  The handlers of
`Created` events and `RefreshDesired` register routes without looking at it, and a
pairing that goes away takes another one with the same router identity with it.

`CacheFree` is the invariant, in the form that also covers the replay of `Sync`, where
the events change the cache of the handler but the table of the snapshot.  `Call.Safe`
is the condition on a call under which it is kept (`Safe`, `SafeReplay`), and
`cache_holds_no_live_route` is the result about runs.
-/

namespace Diego.RouteEmitter

open Diego.Models InternalRoutingTable Handler List

/-! ## The cache -/

namespace UnregistrationCache

variable {cache : UnregistrationCache} {messages : List RegistryMessage} {i : RouterIdentity}

theorem mem_add :
    i ∈ cache.add messages ↔ i ∈ cache ∨ ∃ message ∈ messages, message.identity = i := by
  induction messages generalizing cache with
  | nil => simp [add]
  | cons message messages ih =>
    rw [add, foldl_cons, ← add, ih, AList.mem_insert, exists_mem_cons_iff]
    tauto

theorem mem_remove :
    i ∈ cache.remove messages ↔ i ∈ cache ∧ ¬ ∃ message ∈ messages, message.identity = i := by
  induction messages generalizing cache with
  | nil => simp [remove]
  | cons message messages ih =>
    rw [remove, foldl_cons, ← remove, ih, AList.mem_erase, exists_mem_cons_iff, not_or]
    tauto

def Filed (cache : UnregistrationCache) : Prop :=
  ∀ i message, cache.lookup i = some message → message.identity = i

theorem Filed.add (h : cache.Filed) : (cache.add messages).Filed := by
  induction messages generalizing cache with
  | nil => exact h
  | cons message messages ih =>
    refine ih ?_
    intro i found hlookup
    rw [GoMap.lookup_insert_ite] at hlookup
    split at hlookup
    · rename_i hidentity
      rw [← Option.some.inj hlookup, hidentity]
    · exact h i found hlookup

theorem Filed.remove (h : cache.Filed) : (cache.remove messages).Filed := by
  induction messages generalizing cache with
  | nil => exact h
  | cons message messages ih =>
    refine ih ?_
    intro i found hlookup
    exact h i found (GoMap.lookup_erase_eq_some.mp hlookup).2

end UnregistrationCache

def Handler.cached (handler : Handler) : Set RouterIdentity :=
  {i | i ∈ handler.unregistrationCache}

theorem cached_cacheAndEmit (handler : Handler) (outcome : Outcome) :
    (handler.cacheAndEmit outcome).cached =
      (handler.cached ∪ outcome.unregistered) \ outcome.registered := by
  ext i
  have hmem : i ∈ (handler.unregistrationCache.add outcome.messages.unregistrationMessages).remove
      outcome.messages.registrationMessages ↔
      (i ∈ handler.unregistrationCache ∨
        ∃ message ∈ outcome.messages.unregistrationMessages, message.identity = i) ∧
      ¬ ∃ message ∈ outcome.messages.registrationMessages, message.identity = i := by
    rw [UnregistrationCache.mem_remove, UnregistrationCache.mem_add]
  exact hmem

/-- The identities of the watched pairings that are in the cache belong to pairings that
the table does not have.  A watched pairing is known by the address that `flag` selects,
which during a replay may not be the one the table selects. -/
def CacheFree (watched : Set Pairing) (flag : Bool) (handler : Handler) : Prop :=
  ∀ p ∈ watched, ∀ i ∈ handler.cached, Pairing.identity flag p = some i →
    Pairing.identity handler.routingTable.directInstanceRoute p = some i ∧
      p ∉ handler.routingTable.pairings

/-- A pairing of the table that has the identity of a watched pairing is that pairing. -/
def Distinct (watched : Set Pairing) (flag : Bool) (table : RoutingTable) : Prop :=
  ∀ p ∈ watched, ∀ q ∈ table.pairings, ∀ i, Pairing.identity flag p = some i →
    Pairing.identity table.directInstanceRoute q = some i →
      Pairing.identity table.directInstanceRoute p = some i ∧ (p ∈ table.pairings → p = q)

/-- No watched pairing that the operation can bring is in the cache. -/
def BringsUncached (watched : Set Pairing) (flag : Bool) (handler : Handler)
    (operation : Operation) : Prop :=
  ∀ p ∈ handler.routingTable.httpRoutesRoutingTable.brought operation, p ∈ watched →
    ∀ i, Pairing.identity flag p = some i → i ∉ handler.cached

section Step

variable {watched : Set Pairing} {flag : Bool} {handler : Handler} {table : RoutingTable}
  {outcome : Outcome}

/-- A step that keeps the cache in step with the table.  What was in the cache before
must belong to pairings that are not there before and after. -/
theorem cacheFree_cacheAndEmit
    (hcache : ∀ p ∈ watched, ∀ i ∈ handler.cached, Pairing.identity flag p = some i →
      Pairing.identity handler.routingTable.directInstanceRoute p = some i ∧
        (p ∈ handler.routingTable.pairings → p ∉ outcome.table.pairings))
    (hannounces : handler.routingTable.Announces outcome)
    (hdistinct : Distinct watched flag handler.routingTable) :
    CacheFree watched flag (handler.cacheAndEmit outcome) := by
  obtain ⟨hdirect, added, removed, hcovers, hregistered, hunregistered⟩ := hannounces
  intro p hp i hi hidentity
  rw [cached_cacheAndEmit] at hi
  obtain ⟨hcached, hnot⟩ := hi
  rw [hregistered] at hnot
  have hadded : ∀ q ∈ added, Pairing.identity handler.routingTable.directInstanceRoute q ≠ some i :=
    fun q hq hidentity => hnot ⟨q, hq, hidentity⟩
  -- in the table after, the pairing can only be one that was there before
  suffices hbefore : Pairing.identity handler.routingTable.directInstanceRoute p = some i ∧
      (p ∈ handler.routingTable.pairings → p ∉ outcome.table.pairings) by
    refine ⟨?_, fun hafter => ?_⟩
    · exact (congrArg (fun direct => Pairing.identity direct p) hdirect).trans hbefore.1
    · rcases hcovers.new hafter with hold | hnew
      · exact hbefore.2 hold hafter
      · exact hadded p hnew hbefore.1
  rcases hcached with hcached | hremoved
  · exact hcache p hp i hcached hidentity
  · rw [hunregistered] at hremoved
    obtain ⟨q, hq, hq'⟩ := hremoved
    have hqold : q ∈ handler.routingTable.pairings :=
      (hcovers.known hq).resolve_right fun hnew => hadded q hnew hq'
    obtain ⟨hidentity', hsame⟩ := hdistinct p hp q hqold i hidentity hq'
    refine ⟨hidentity', ?_⟩
    intro hold hafter
    obtain rfl := hsame hold
    exact hadded p (hcovers.gone ⟨hq, hafter⟩) hidentity'

theorem CacheFree.cacheAndEmit (h : CacheFree watched flag handler)
    (hannounces : handler.routingTable.Announces outcome)
    (hdistinct : Distinct watched flag handler.routingTable) :
    CacheFree watched flag (handler.cacheAndEmit outcome) := by
  refine cacheFree_cacheAndEmit (fun p hp i hi hidentity => ?_) hannounces hdistinct
  obtain ⟨hidentity', hgone⟩ := h p hp i hi hidentity
  exact ⟨hidentity', fun hold => absurd hold hgone⟩

theorem directInstanceRoute_operate (operation : Operation) :
    (table.operate operation).table.directInstanceRoute = table.directInstanceRoute := by
  rw [RoutingTable.operate_eq_outcome]
  exact operate_directInstanceRoute _ _

/-- A step that does not look at the cache. -/
theorem CacheFree.emit (h : CacheFree watched flag handler) {operation : Operation}
    (hbrings : BringsUncached watched flag handler operation) :
    CacheFree watched flag (handler.emit (handler.routingTable.operate operation)) := by
  intro p hp i hi hidentity
  have hcached : i ∈ handler.cached := hi
  obtain ⟨hidentity', hgone⟩ := h p hp i hcached hidentity
  refine ⟨?_, fun hafter => ?_⟩
  · rw [← hidentity']
    exact congrArg (fun direct => Pairing.identity direct p)
      (directInstanceRoute_operate operation)
  · have hafter :
        p ∈ (handler.routingTable.httpRoutesRoutingTable.operate operation).1.pairings := by
      have heq := RoutingTable.operate_eq_outcome handler.routingTable operation
      rw [← show (handler.routingTable.operate operation).table.httpRoutesRoutingTable =
        (handler.routingTable.httpRoutesRoutingTable.operate operation).1 by rw [heq]; rfl]
      exact hafter
    rcases pairings_operate_subset _ hafter with hold | hbrought
    · exact hgone hold
    · exact hbrings p hbrought hp i hidentity hcached

/-- The condition on an event: a change finds no two pairings of one identity, a creation
brings nothing that is in the cache. -/
def Safe (watched : Set Pairing) (flag : Bool) (handler : Handler) (event : Event) : Prop :=
  if caches event then Distinct watched flag handler.routingTable
  else ∀ operation ∈ eventOperations event, BringsUncached watched flag handler operation

section Event

variable {actualLRPs : Set ActualLRP}
  (hagree : (Supply.mk .http actualLRPs).EndpointsAgree)
  (hprocess : (Supply.mk .http actualLRPs).OneProcess)
include hagree hprocess

theorem CacheFree.handleEvent (h : CacheFree watched flag handler)
    (hsound : handler.routingTable.Sound actualLRPs) {event : Event}
    (hwithin : ∀ operation ∈ eventOperations event, operation.Within ⟨.http, actualLRPs⟩)
    (hsafe : Safe watched flag handler event) :
    CacheFree watched flag (handler.handleEvent event) := by
  unfold Safe at hsafe
  rcases handleEvent_cases handler event with ⟨hsame, -⟩ | ⟨hcaches, operation, hone, hemit⟩ |
    ⟨before, after, rfl⟩ | ⟨key, instanceKey, before, after, rfl⟩
  · rwa [hsame]
  · rw [hcaches, hone] at hsafe
    rw [hemit]
    exact h.emit (hsafe operation mem_cons_self)
  · exact h.cacheAndEmit (hsound.announces_operate hagree hprocess
      (hwithin (.setRoutes before after) mem_cons_self)) hsafe
  · exact h.cacheAndEmit (hsound.announces_actualUpdate hagree hprocess hwithin) hsafe

end Event

end Step

/-! ## Replays -/

def SafeReplay (watched : Set Pairing) (flag : Bool) : Handler → List Event → Prop
  | _, [] => True
  | handler, event :: events =>
    Safe watched flag handler event ∧ SafeReplay watched flag (handler.handleEvent event) events

section Replay

variable {watched : Set Pairing} {flag : Bool} {handler : Handler} {events : List Event}

theorem CacheFree.replay {actualLRPs : Set ActualLRP}
    (hagree : (Supply.mk .http actualLRPs).EndpointsAgree)
    (hprocess : (Supply.mk .http actualLRPs).OneProcess) (h : CacheFree watched flag handler)
    (hsound : handler.routingTable.Sound actualLRPs)
    (hwithin : ∀ event ∈ events, ∀ operation ∈ eventOperations event,
      operation.Within ⟨.http, actualLRPs⟩) (hsafe : SafeReplay watched flag handler events) :
    CacheFree watched flag (events.foldl Handler.handleEvent handler) := by
  induction events generalizing handler with
  | nil => exact h
  | cons event events ih =>
    rw [forall_mem_cons] at hwithin
    refine ih (h.handleEvent hagree hprocess hsound hwithin.1 hsafe.1) ?_ hwithin.2 hsafe.2
    rw [routingTable_handleEvent]
    exact hsound.run hwithin.1

theorem unregistrationCache_handleEvent {event : Event} :
    (handler.handleEvent event).unregistrationCache = handler.unregistrationCache ∨
      caches event = true ∧
        ∃ outcome, handler.handleEvent event = handler.cacheAndEmit outcome := by
  rcases handleEvent_cases handler event with ⟨hsame, -⟩ | ⟨-, operation, -, hemit⟩ |
    ⟨before, after, rfl⟩ | ⟨key, instanceKey, before, after, rfl⟩
  · exact Or.inl (by rw [hsame])
  · exact Or.inl (by rw [hemit]; rfl)
  · exact Or.inr ⟨rfl, _, rfl⟩
  · exact Or.inr ⟨rfl, _, rfl⟩

theorem unregistrationCache_replay (hcaches : ∀ event ∈ events, caches event = false) :
    (events.foldl handleEvent handler).unregistrationCache = handler.unregistrationCache := by
  induction events generalizing handler with
  | nil => rfl
  | cons event events ih =>
    rw [forall_mem_cons] at hcaches
    rw [foldl_cons, ih hcaches.2]
    refine unregistrationCache_handleEvent.resolve_right ?_
    intro hcache
    rw [hcaches.1] at hcache
    simp at hcache

theorem filed_cacheAndEmit (h : handler.unregistrationCache.Filed) {outcome : Outcome} :
    (handler.cacheAndEmit outcome).unregistrationCache.Filed :=
  h.add.remove

theorem filed_replay (h : handler.unregistrationCache.Filed) :
    (events.foldl handleEvent handler).unregistrationCache.Filed := by
  induction events generalizing handler with
  | nil => exact h
  | cons event events ih =>
    refine ih ?_
    rcases unregistrationCache_handleEvent with hsame | ⟨-, outcome, hcache⟩
    · rwa [hsame]
    · rw [hcache]
      exact filed_cacheAndEmit h

end Replay

/-- With fresh domains a `Swap` leaves the pairings of the new table. -/
theorem pairings_swap_of_fresh {table other : InternalRoutingTable} {domains : DomainSet}
    (hfresh : ∀ key, (table.entries.read key).routes ≠ [] →
      (table.entries.read key).domain ∈ domains) :
    (table.swap other domains).1.pairings ⊆ other.pairings := by
  intro p hp
  obtain ⟨key, hroute, hendpoint⟩ := Set.mem_iUnion.mp hp
  rw [lookup_swap] at hroute hendpoint
  rw [routes_swapEntry_of_fresh (hfresh key)] at hroute
  rw [endpoints_swapEntry] at hendpoint
  exact Set.mem_iUnion.mpr ⟨key, hroute, hendpoint⟩

/-! ## Runs of calls -/

def SafeRefresh : Handler → List DesiredLRP → Prop
  | _, [] => True
  | handler, desiredLRP :: desiredLRPs =>
    BringsUncached Set.univ handler.routingTable.directInstanceRoute handler
      (.setRoutes none (some desiredLRP)) ∧
    SafeRefresh (handler.emit (handler.routingTable.setRoutes none (some desiredLRP))) desiredLRPs

namespace Call

/-- The call adds endpoints of supplied actual LRPs only. -/
def Within (actualLRPs : Set ActualLRP) : Call → Prop
  | .handleEvent event =>
    ∀ operation ∈ eventOperations event, operation.Within ⟨.http, actualLRPs⟩
  | .refreshDesired _ => True
  | .sync _ actuals _ cachedEvents =>
    (∀ actualLRP ∈ actuals, actualLRP ∈ actualLRPs) ∧
      ∀ event ∈ cachedEvents.values, ∀ operation ∈ eventOperations event,
        operation.Within ⟨.http, actualLRPs⟩
  | .emitExternal => True
  | .emitInternal => True

/-- The condition on a call.  A `Sync` finds no two pairings of one identity; its replay
watches the pairings of the table; and if the replay changes the cache, the domains of
the routes in the table are fresh. -/
def Safe (handler : Handler) : Call → Prop
  | .handleEvent event =>
    RouteEmitter.Safe Set.univ handler.routingTable.directInstanceRoute handler event
  | .refreshDesired desiredLRPs => SafeRefresh handler desiredLRPs
  | .sync desired actuals domains cachedEvents =>
    Distinct Set.univ handler.routingTable.directInstanceRoute handler.routingTable ∧
      SafeReplay handler.routingTable.pairings handler.routingTable.directInstanceRoute
        (handler.forReplay desired actuals) cachedEvents.values ∧
      ((∃ event ∈ cachedEvents.values, caches event = true) → ∀ key,
        (handler.routingTable.httpRoutesRoutingTable.entries.read key).routes ≠ [] →
        (handler.routingTable.httpRoutesRoutingTable.entries.read key).domain ∈ domains)
  | .emitExternal => True
  | .emitInternal => True

end Call

/-- Some run of safe calls, starting with an empty table and an empty cache, ends in
the state. -/
inductive Reaches (actualLRPs : Set ActualLRP) : Handler → Prop
  | start (handler : Handler) (normalize : String → String) (direct tcpTLSEnabled : Bool)
      (htable : handler.routingTable = newRoutingTable normalize direct tcpTLSEnabled)
      (hcache : handler.unregistrationCache = ∅) : Reaches actualLRPs handler
  | call {handler : Handler} (call : Call) (hreaches : Reaches actualLRPs handler)
      (hwithin : call.Within actualLRPs) (hsafe : call.Safe handler) :
      Reaches actualLRPs (call.apply handler)

/-- What safe calls keep. -/
structure Clean (actualLRPs : Set ActualLRP) (handler : Handler) : Prop where
  sound : handler.routingTable.Sound actualLRPs
  cacheFree : CacheFree Set.univ handler.routingTable.directInstanceRoute handler
  filed : handler.unregistrationCache.Filed

variable {handler : Handler}

theorem clean_start {actualLRPs : Set ActualLRP} {normalize : String → String}
    {direct tcpTLSEnabled : Bool}
    (htable : handler.routingTable = newRoutingTable normalize direct tcpTLSEnabled)
    (hcache : handler.unregistrationCache = ∅) : Clean actualLRPs handler where
  sound := by
    rw [htable]
    exact RoutingTable.sound_newRoutingTable
  cacheFree p _ i hi _ := by
    rw [cached, hcache] at hi
    exact absurd hi (AList.notMem_empty i)
  filed i message hlookup := by
    rw [hcache] at hlookup
    simp at hlookup

theorem directInstanceRoute_run (table : RoutingTable) (operations : List Operation) :
    (table.run operations).directInstanceRoute = table.directInstanceRoute := by
  induction operations generalizing table with
  | nil => rfl
  | cons operation operations ih =>
    rw [run_cons, ih, directInstanceRoute_operate]

section Calls

variable {actualLRPs : Set ActualLRP} {handler : Handler}

theorem Clean.refreshDesired (h : Clean actualLRPs handler) {desiredLRPs : List DesiredLRP}
    (hsafe : SafeRefresh handler desiredLRPs) :
    Clean actualLRPs (handler.refreshDesired desiredLRPs) := by
  induction desiredLRPs generalizing handler with
  | nil => exact h
  | cons desiredLRP desiredLRPs ih =>
    refine ih ⟨?_, ?_, h.filed⟩ hsafe.2
    · exact @RoutingTable.Sound.operate _ _ h.sound (.setRoutes none (some desiredLRP)) trivial
    · have hfree := h.cacheFree.emit hsafe.1
      rw [← directInstanceRoute_operate (.setRoutes none (some desiredLRP))]
        at hfree
      exact hfree

/-- A message in the cache is none that the current table registers. -/
theorem Clean.identity_ne (h : Clean actualLRPs handler)
    {message : RegistryMessage} (hmessage : message ∈ handler.unregistrationCache.list)
    {live : RegistryMessage}
    (hlive : live ∈ handler.routingTable.getExternalRoutingEvents.2.registrationMessages) :
    message.identity ≠ live.identity := by
  intro hidentity
  obtain ⟨i, hlookup⟩ := GoMap.mem_values.mp hmessage
  have hcached : live.identity ∈ handler.cached := by
    rw [← hidentity, h.filed i message hlookup]
    exact AList.lookup_isSome.mp (by rw [hlookup]; rfl)
  rcases mem_append.mp hlive with hhttp | htcp
  · obtain ⟨p, hp, hp'⟩ := mem_registeredIdentities.mp ⟨live, hhttp, rfl⟩
    rw [registered_getRoutingEvents] at hp
    exact (h.cacheFree p (Set.mem_univ p) _ hcached hp').2 hp
  · -- the TCP table has no HTTP route
    obtain ⟨p, hp, hp'⟩ := mem_registeredIdentities.mp ⟨live, htcp, rfl⟩
    rw [registered_getRoutingEvents] at hp
    obtain ⟨key, ⟨route, hroute, hhash⟩, -⟩ := Set.mem_iUnion.mp hp
    have hnone := h.sound.noHTTP .tcp (by decide) key route hroute
    rw [hhash] at hnone
    rw [identity_eq_none hnone] at hp'
    simp at hp'

variable (hagree : (Supply.mk .http actualLRPs).EndpointsAgree)
  (hprocess : (Supply.mk .http actualLRPs).OneProcess) {desired : List DesiredLRP}
  {actuals : List ActualLRP}
include hagree hprocess

theorem Clean.handleEvent (h : Clean actualLRPs handler) {event : Event}
    (hwithin : (Call.handleEvent event).Within actualLRPs)
    (hsafe : (Call.handleEvent event).Safe handler) :
    Clean actualLRPs (handler.handleEvent event) where
  sound := by
    rw [routingTable_handleEvent]
    exact h.sound.run hwithin
  cacheFree := by
    have hfree := h.cacheFree.handleEvent hagree hprocess h.sound hwithin hsafe
    rwa [routingTable_handleEvent, directInstanceRoute_run]
  filed := @filed_replay handler [event] h.filed

omit hagree hprocess in
/-- The table of a snapshot of known instances. -/
theorem sound_snapshotTable (hwithin : ∀ actualLRP ∈ actuals, actualLRP ∈ actualLRPs) :
    (handler.snapshotTable desired actuals).Sound actualLRPs := by
  rw [snapshotTable_eq_run]
  refine RoutingTable.sound_newRoutingTable.run ?_
  intro operation hmem
  rcases mem_append.mp hmem with hset | hadd
  · obtain ⟨lrp, -, rfl⟩ := mem_map.mp hset
    exact trivial
  · obtain ⟨actualLRP, hactual, rfl⟩ := mem_map.mp hadd
    exact hwithin actualLRP hactual

theorem Clean.sync (h : Clean actualLRPs handler) {domains : DomainSet}
    {cachedEvents : GoMap String Event}
    (hwithin : (Call.sync desired actuals domains cachedEvents).Within actualLRPs)
    (hsafe : (Call.sync desired actuals domains cachedEvents).Safe handler) :
    Clean actualLRPs (handler.sync desired actuals domains cachedEvents) := by
  obtain ⟨hdistinct, hreplay, hfresh⟩ := hsafe
  have hsnapshot : (handler.snapshotTable desired actuals).Sound actualLRPs :=
    sound_snapshotTable hwithin.1
  generalize hnew : handler.forReplay desired actuals = new at hreplay
  have hnewTable : new.routingTable = handler.snapshotTable desired actuals := by
    rw [← hnew]
    rfl
  have hnewCache : new.unregistrationCache = handler.unregistrationCache := by
    rw [← hnew]
    rfl
  -- no watched pairing is in the cache when the replay starts
  have hstart : CacheFree handler.routingTable.pairings
      handler.routingTable.directInstanceRoute new := by
    intro p hp i hi hidentity
    rw [Handler.cached, hnewCache] at hi
    exact absurd hp (h.cacheFree p (Set.mem_univ p) i hi hidentity).2
  have hend := hstart.replay hagree hprocess (hnewTable ▸ hsnapshot) hwithin.2 hreplay
  have hreplayed : (cachedEvents.values.foldl Handler.handleEvent new).routingTable.Sound
      actualLRPs := by
    rw [routingTable_foldl_handleEvent, hnewTable]
    refine hsnapshot.run ?_
    intro operation hmem
    obtain ⟨event, hevent, hmem⟩ := mem_flatMap.mp hmem
    exact hwithin.2 event hevent operation hmem
  have hsync : handler.sync desired actuals domains cachedEvents =
      { handler with
        unregistrationCache := (cachedEvents.values.foldl Handler.handleEvent
          new).unregistrationCache }.cacheAndEmit (handler.routingTable.swap
            (cachedEvents.values.foldl Handler.handleEvent new).routingTable domains) := by
    rw [← hnew]
    rfl
  rw [hsync]
  generalize hfinal : cachedEvents.values.foldl Handler.handleEvent new = replayed at *
  refine ⟨h.sound.swap hreplayed, ?_, filed_cacheAndEmit ?_⟩
  · refine cacheFree_cacheAndEmit (fun p _ i hi hidentity => ⟨hidentity, fun hold hafter => ?_⟩)
      (h.sound.announces_swap hagree hprocess hreplayed) hdistinct
    by_cases hcaches : ∃ event ∈ cachedEvents.values, caches event = true
    · refine (hend p hold i hi hidentity).2 ?_
      exact pairings_swap_of_fresh (hfresh hcaches) hafter
    · -- the replay has left the cache alone
      push Not at hcaches
      have hsame := @unregistrationCache_replay new cachedEvents.values fun event hevent =>
        Bool.not_eq_true _ ▸ hcaches event hevent
      rw [hfinal, hnewCache] at hsame
      have hi : i ∈ handler.cached := by
        rw [Handler.cached, ← hsame]
        exact hi
      exact (h.cacheFree p (Set.mem_univ p) i hi hidentity).2 hold
  · have hfiled := @filed_replay new cachedEvents.values (hnewCache ▸ h.filed)
    rwa [hfinal] at hfiled

end Calls

/-- **The unregistration cache never holds a live route**, in every state that a run of
safe calls reaches. -/
theorem cache_holds_no_live_route {actualLRPs : Set ActualLRP}
    (hagree : (Supply.mk .http actualLRPs).EndpointsAgree)
    (hprocess : (Supply.mk .http actualLRPs).OneProcess) {handler : Handler}
    (h : Reaches actualLRPs handler) :
    ∀ message ∈ handler.unregistrationCache.list,
    ∀ live ∈ handler.routingTable.getExternalRoutingEvents.2.registrationMessages,
      message.identity ≠ live.identity := by
  have hclean : Clean actualLRPs handler := by
    induction h with
    | start handler normalize direct tcpTLSEnabled htable hcache =>
      exact clean_start htable hcache
    | call call hreaches hwithin hsafe ih =>
      cases call with
      | handleEvent event => exact ih.handleEvent hagree hprocess hwithin hsafe
      | refreshDesired desiredLRPs => exact ih.refreshDesired hsafe
      | sync desired actuals domains cachedEvents =>
        exact ih.sync hagree hprocess hwithin hsafe
      | emitExternal | emitInternal => exact ⟨ih.sound, ih.cacheFree, ih.filed⟩
  intro message hmessage live hlive
  exact hclean.identity_ne hmessage hlive

variable {operation : Operation}

theorem bringsUncached_of_empty {watched : Set Pairing} {flag : Bool}
    (hcache : handler.unregistrationCache = ∅) : BringsUncached watched flag handler operation := by
  intro p _ _ i _ hi
  rw [cached, hcache] at hi
  exact absurd hi (AList.notMem_empty i)

def sampleUnrouted : DesiredLRP :=
  { sampleDesiredLRP "process-guid" "" 2 with routes := none }

/-- The handler with the route of one running instance. -/
def sampleMapped : Handler :=
  (sampleHandler.handleEvent (.desiredLRPCreated (some (sampleDesiredLRP "process-guid" "" 1))))
    |>.handleEvent (.actualLRPInstanceCreated (some (sampleActualLRP "process-guid")))

/-- The handler after the route has been removed. -/
def sampleUnmapped : Handler :=
  sampleMapped.handleEvent
    (.desiredLRPChanged (some (sampleDesiredLRP "process-guid" "" 1)) (some sampleUnrouted))

theorem distinct_sample : Distinct Set.univ false sampleMapped.routingTable := by
  intro p _ q hq i hp' hq'
  refine ⟨hp', ?_⟩
  intro hp
  have hone : ∀ p, p ∈ sampleMapped.routingTable.pairings → p = samplePairing := by
    intro p hp
    rw [RoutingTable.pairings, ← registered_getRoutingEvents] at hp
    obtain ⟨registration, hmem, rfl⟩ := hp
    revert registration
    decide
  rw [hone p hp, hone q hq]

theorem reaches_sampleUnmapped :
    Reaches (sampleSupply ["process-guid"]).actualLRPs sampleUnmapped := by
  have hstart : Reaches (sampleSupply ["process-guid"]).actualLRPs sampleHandler :=
    .start sampleHandler id false false rfl rfl
  have hrouted := hstart.call
    (.handleEvent (.desiredLRPCreated (some (sampleDesiredLRP "process-guid" "" 1))))
    (fun operation hmem => by rw [mem_singleton.mp hmem]; trivial)
    (fun operation _ => bringsUncached_of_empty rfl)
  have hmapped := hrouted.call
    (.handleEvent (.actualLRPInstanceCreated (some (sampleActualLRP "process-guid"))))
    (fun operation hmem => by
      rw [mem_singleton.mp hmem]
      exact ⟨"process-guid", mem_cons_self, rfl⟩)
    (fun operation _ => bringsUncached_of_empty rfl)
  exact hmapped.call (.handleEvent (.desiredLRPChanged
    (some (sampleDesiredLRP "process-guid" "" 1)) (some sampleUnrouted)))
    (fun operation hmem => by rw [mem_singleton.mp hmem]; trivial) distinct_sample

/-- The removal is remembered, and the removed route is not live. -/
theorem cache_holds_no_live_route_sample :
    sampleUnmapped.unregistrationCache.list ≠ [] ∧
      ∀ message ∈ sampleUnmapped.unregistrationCache.list,
      ∀ live ∈ sampleUnmapped.routingTable.getExternalRoutingEvents.2.registrationMessages,
        message.identity ≠ live.identity :=
  ⟨by decide, cache_holds_no_live_route sampleSupply_endpointsAgree
    sampleSupply_oneProcess reaches_sampleUnmapped⟩

/-- The handler after the route has come back by `RefreshDesired`. -/
def sampleRemapped : Handler :=
  sampleUnmapped.refreshDesired [sampleDesiredLRP "process-guid" "" 3]

/-- `RefreshDesired` does not take the route out of the cache. -/
theorem refreshed_route_stays_cached :
    ∃ message ∈ sampleRemapped.unregistrationCache.list,
    ∃ live ∈ sampleRemapped.routingTable.getExternalRoutingEvents.2.registrationMessages,
      message.identity = live.identity := by
  decide

end Diego.RouteEmitter
