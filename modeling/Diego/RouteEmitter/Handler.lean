import Diego.RouteEmitter.Entries

/-!
# The route handler

`routehandlers/handler.go` and `unregistration/cache.go`.  The handler keeps the
routing table and the unregistration cache; every LRP event becomes operations on
the table, whose messages go to the emitters and, for some events, into the cache.

An emitter that is not nil is modelled by what it has published; publishing does
not fail here, since a failure is only logged.  The cache is keyed by a hash of the
message, which is taken not to fail and to be injective on the fields it covers: the
router identity.

`eventOperations` is the normal form of an event, the operations it performs on the
table (`routingTable_handleEvent`).
-/

namespace Diego.RouteEmitter

open Diego.Models

/-! ## The unregistration cache -/

/-- The cache of `unregistration/cache.go`, by router identity. -/
abbrev UnregistrationCache := GoMap RouterIdentity RegistryMessage

namespace UnregistrationCache

def add (cache : UnregistrationCache) (registryMessages : List RegistryMessage) :
    UnregistrationCache :=
  registryMessages.foldl (fun cache message => cache.insert message.identity message) cache

def remove (cache : UnregistrationCache) (registryMessages : List RegistryMessage) :
    UnregistrationCache :=
  registryMessages.foldl (fun cache message => cache.erase message.identity) cache

def list (cache : UnregistrationCache) : List RegistryMessage :=
  cache.values

end UnregistrationCache

/-! ## The handler -/

structure Handler where
  routingTable : RoutingTable
  /-- The NATS emitter, by what it has published. -/
  natsEmitter : Option (List MessagesToEmit)
  /-- The routing API emitter, by what it has published. -/
  routingAPIEmitter : Option (List TCPRouteMappings)
  tcpTLSEnabled : Bool
  unregistrationCache : UnregistrationCache

namespace Handler

def emitMessages (handler : Handler) (messagesToEmit : MessagesToEmit)
    (routeMappings : TCPRouteMappings) : Handler :=
  { handler with
    natsEmitter := handler.natsEmitter.map fun published => published ++ [messagesToEmit]
    routingAPIEmitter :=
      handler.routingAPIEmitter.map fun published => published ++ [routeMappings] }

def emitExternal (handler : Handler) : Handler :=
  let events := handler.routingTable.getExternalRoutingEvents
  handler.emitMessages events.2 events.1

def emitInternal (handler : Handler) : Handler :=
  { handler with
    natsEmitter := handler.natsEmitter.map fun published =>
      published ++ [handler.routingTable.getInternalRoutingEvents.2] }

def emit (handler : Handler) (outcome : Outcome) : Handler :=
  { handler with routingTable := outcome.table }.emitMessages outcome.messages outcome.mappings

/-- The same, and the messages are recorded in the unregistration cache. -/
def cacheAndEmit (handler : Handler) (outcome : Outcome) : Handler :=
  { handler with
    routingTable := outcome.table
    unregistrationCache :=
      (handler.unregistrationCache.add outcome.messages.unregistrationMessages).remove
        outcome.messages.registrationMessages }.emitMessages outcome.messages outcome.mappings

def handleDesiredCreate (handler : Handler) (desiredLRP : Option DesiredLRP) : Handler :=
  handler.emit (handler.routingTable.setRoutes none desiredLRP)

def handleDesiredUpdate (handler : Handler) (before after : Option DesiredLRP) : Handler :=
  handler.cacheAndEmit (handler.routingTable.setRoutes before after)

def handleDesiredDelete (handler : Handler) (desiredLRP : Option DesiredLRP) : Handler :=
  handler.emit (handler.routingTable.removeRoutes desiredLRP)

def handleActualCreate (handler : Handler) (actualLRP : ActualLRP) : Handler :=
  if actualLRP.state ≠ .running then handler
  else handler.emit (handler.routingTable.addEndpoint actualLRP)

/-- A second call on the table; the results are merged. -/
def andThen (outcome : Outcome) (next : RoutingTable → Outcome) : Outcome where
  table := (next outcome.table).table
  mappings := outcome.mappings.merge (next outcome.table).mappings
  messages := outcome.messages.merge (next outcome.table).messages

/-- The `switch` of `handleActualUpdate`. -/
def actualUpdate (routingTable : RoutingTable) (before after : ActualLRP) : Outcome :=
  if after.state = .running then
    let outcome :=
      if !after.routableExists || after.getRoutable then routingTable.addEndpoint after
      else if before.getRoutable then routingTable.removeEndpoint after
      else ⟨routingTable, {}, {}⟩
    if before.state = .running ∧ before.presence = .ordinary ∧ after.presence = .evacuating then
      andThen outcome fun table => table.removeEndpoint before
    else outcome
  else if before.state = .running then routingTable.removeEndpoint before
  else ⟨routingTable, {}, {}⟩

def handleActualUpdate (handler : Handler) (before after : ActualLRP) : Handler :=
  handler.cacheAndEmit (actualUpdate handler.routingTable before after)

def handleActualDelete (handler : Handler) (actualLRP : ActualLRP) : Handler :=
  if actualLRP.state ≠ .running then handler
  else handler.emit (handler.routingTable.removeEndpoint actualLRP)

/-- `HandleEvent`.  An event with a nil actual LRP is logged and dropped, and so is a crash, which
the `switch` does not know. -/
def handleEvent (handler : Handler) : Event → Handler
  | .desiredLRPCreated desiredLRP => handler.handleDesiredCreate desiredLRP
  | .desiredLRPChanged before after => handler.handleDesiredUpdate before after
  | .desiredLRPRemoved desiredLRP => handler.handleDesiredDelete desiredLRP
  | .actualLRPInstanceCreated (some actualLRP) => handler.handleActualCreate actualLRP
  | .actualLRPInstanceCreated none => handler
  | .actualLRPInstanceChanged key instanceKey (some before) (some after) =>
    handler.handleActualUpdate (before.toActualLRP key instanceKey)
      (after.toActualLRP key instanceKey)
  | .actualLRPInstanceChanged _ _ _ _ => handler
  | .actualLRPInstanceRemoved (some actualLRP) => handler.handleActualDelete actualLRP
  | .actualLRPInstanceRemoved none => handler
  | .actualLRPCrashed _ _ => handler

def refreshDesired (handler : Handler) (desiredLRPs : List DesiredLRP) : Handler :=
  desiredLRPs.foldl (fun handler desiredLRP =>
    handler.emit (handler.routingTable.setRoutes none (some desiredLRP))) handler

def shouldRefreshDesired (handler : Handler) (actualLRP : ActualLRP) : Option Bool :=
  (handler.routingTable.hasExternalRoutes actualLRP).map fun has => !has

/-- The table `Sync` builds from a snapshot. -/
def snapshotTable (handler : Handler) (desired : List DesiredLRP) (actuals : List ActualLRP) :
    RoutingTable :=
  let newTable := newRoutingTable handler.routingTable.httpRoutesRoutingTable.normalize false
    handler.tcpTLSEnabled
  let newTable := desired.foldl (fun table lrp => (table.setRoutes none (some lrp)).table) newTable
  actuals.foldl (fun table lrp => (table.addEndpoint lrp).table) newTable

/-- The replay runs on the new table and without emitters, but with the unregistration cache of
the handler. -/
def forReplay (handler : Handler) (desired : List DesiredLRP) (actuals : List ActualLRP) :
    Handler :=
  { handler with
    routingTable := handler.snapshotTable desired actuals
    natsEmitter := none
    routingAPIEmitter := none }

/-- `Sync`, with the cached events in the order of the replay. -/
def syncReplaying (handler : Handler) (desired : List DesiredLRP) (actuals : List ActualLRP)
    (domains : DomainSet) (events : List Event) : Handler :=
  let replayed := events.foldl handleEvent (handler.forReplay desired actuals)
  { handler with unregistrationCache := replayed.unregistrationCache }.cacheAndEmit
    (handler.routingTable.swap replayed.routingTable domains)

/-- `Sync` replays the cached events in the order in which the map yields them. -/
def sync (handler : Handler) (desired : List DesiredLRP) (actuals : List ActualLRP)
    (domains : DomainSet) (cachedEvents : GoMap String Event) : Handler :=
  handler.syncReplaying desired actuals domains cachedEvents.values

end Handler

/-- The calls the watcher makes. -/
inductive Call
  | handleEvent (event : Event)
  | refreshDesired (desiredLRPs : List DesiredLRP)
  | sync (desired : List DesiredLRP) (actuals : List ActualLRP) (domains : DomainSet)
      (cachedEvents : GoMap String Event)
  | emitExternal
  | emitInternal

namespace Call

def apply (handler : Handler) : Call → Handler
  | .handleEvent event => handler.handleEvent event
  | .refreshDesired desiredLRPs => handler.refreshDesired desiredLRPs
  | .sync desired actuals domains cachedEvents => handler.sync desired actuals domains cachedEvents
  | .emitExternal => handler.emitExternal
  | .emitInternal => handler.emitInternal

/-- The events that a call applies to the table, in their order. -/
def events : Call → List Event
  | .handleEvent event => [event]
  | .sync _ _ _ cachedEvents => cachedEvents.values
  | _ => []

end Call

/-! ## Events as operations -/

/-- The operations of `handleActualUpdate` on the table. -/
def updateOperations (before after : ActualLRP) : List Operation :=
  if after.state = .running then
    (if !after.routableExists || after.getRoutable then [.addEndpoint after]
      else if before.getRoutable then [.removeEndpoint after]
      else []) ++
    if before.state = .running ∧ before.presence = .ordinary ∧ after.presence = .evacuating then
      [.removeEndpoint before]
    else []
  else if before.state = .running then [.removeEndpoint before]
  else []

/-- The operations of `HandleEvent` on the table. -/
def eventOperations : Event → List Operation
  | .desiredLRPCreated desiredLRP => [.setRoutes none desiredLRP]
  | .desiredLRPChanged before after => [.setRoutes before after]
  | .desiredLRPRemoved desiredLRP => [.removeRoutes desiredLRP]
  | .actualLRPInstanceCreated (some actualLRP) =>
    if actualLRP.state = .running then [.addEndpoint actualLRP] else []
  | .actualLRPInstanceCreated none => []
  | .actualLRPInstanceChanged key instanceKey (some before) (some after) =>
    updateOperations (before.toActualLRP key instanceKey) (after.toActualLRP key instanceKey)
  | .actualLRPInstanceChanged _ _ _ _ => []
  | .actualLRPInstanceRemoved (some actualLRP) =>
    if actualLRP.state = .running then [.removeEndpoint actualLRP] else []
  | .actualLRPInstanceRemoved none => []
  | .actualLRPCrashed _ _ => []

/-- A sequence of operations. -/
def RoutingTable.run (table : RoutingTable) (operations : List Operation) : RoutingTable :=
  operations.foldl (fun table operation => (table.operate operation).table) table

variable (table : RoutingTable) (handler : Handler) {operations : List Operation}
  {events : List Event} {desired : List DesiredLRP} {actuals : List ActualLRP}

theorem run_cons (operation : Operation) :
    table.run (operation :: operations) = (table.operate operation).table.run operations := rfl

theorem run_append (operations' : List Operation) :
    table.run (operations ++ operations') = (table.run operations).run operations' :=
  List.foldl_append

/-- A sequence of operations acts on each entry by the changes for its key. -/
theorem lookup_run (part : Part) (key : RoutingKey) :
    ((table.run operations).part part).entries.lookup key =
      updates Change.apply
        (changesAt key (operations.flatMap fun operation =>
          operation.changes (table.part part).kind))
        ((table.part part).entries.lookup key) := by
  induction operations generalizing table with
  | nil => rfl
  | cons operation operations ih =>
    rw [run_cons, ih, List.flatMap_cons, changesAt_append, updates_append, part_operate,
      operate_kind, lookup_operate]

theorem table_actualUpdate {before after : ActualLRP} :
    (Handler.actualUpdate table before after).table =
      table.run (updateOperations before after) := by
  unfold Handler.actualUpdate updateOperations
  by_cases hrunning : after.state = .running
  · rw [if_pos hrunning, if_pos hrunning, run_append]
    dsimp only
    -- the first operation, by readiness; then the removal of the ordinary endpoint
    have hfirst : (if !after.routableExists || after.getRoutable then table.addEndpoint after
          else if before.getRoutable then table.removeEndpoint after
          else ⟨table, {}, {}⟩ : Outcome).table =
        table.run (if !after.routableExists || after.getRoutable then [.addEndpoint after]
          else if before.getRoutable then [.removeEndpoint after]
          else []) := by
      split
      · rfl
      · split <;> rfl
    rw [← hfirst]
    split <;> rfl
  · rw [if_neg hrunning]
    split <;> rfl

/-- Whether the handler of the event keeps the cache in step with the table. -/
def caches : Event → Bool
  | .desiredLRPChanged _ _ => true
  | .actualLRPInstanceChanged _ _ (some _) (some _) => true
  | _ => false

/-- An event is dropped, or it is one operation that leaves the cache alone, or it is a change. -/
theorem handleEvent_cases (event : Event) :
    handler.handleEvent event = handler ∧ eventOperations event = [] ∨
      (caches event = false ∧ ∃ operation, eventOperations event = [operation] ∧
        handler.handleEvent event = handler.emit (handler.routingTable.operate operation)) ∨
      (∃ before after, event = .desiredLRPChanged before after) ∨
      ∃ key instanceKey before after,
        event = .actualLRPInstanceChanged key instanceKey (some before) (some after) := by
  cases event with
  | desiredLRPCreated desiredLRP | desiredLRPRemoved desiredLRP =>
    exact Or.inr (Or.inl ⟨rfl, _, rfl, rfl⟩)
  | desiredLRPChanged before after => exact Or.inr (Or.inr (Or.inl ⟨before, after, rfl⟩))
  | actualLRPInstanceCreated actualLRP | actualLRPInstanceRemoved actualLRP =>
    cases actualLRP with
    | none => exact Or.inl ⟨rfl, rfl⟩
    | some actualLRP =>
      by_cases hrunning : actualLRP.state = .running
      · exact Or.inr (Or.inl ⟨rfl, _, if_pos hrunning, if_neg (not_not.mpr hrunning)⟩)
      · exact Or.inl ⟨if_pos hrunning, if_neg hrunning⟩
  | actualLRPInstanceChanged key instanceKey before after =>
    cases before with
    | none => exact Or.inl ⟨rfl, rfl⟩
    | some before =>
      cases after with
      | none => exact Or.inl ⟨rfl, rfl⟩
      | some after => exact Or.inr (Or.inr (Or.inr ⟨key, instanceKey, before, after, rfl⟩))
  | actualLRPCrashed key instanceKey => exact Or.inl ⟨rfl, rfl⟩

theorem routingTable_handleEvent (event : Event) :
    (handler.handleEvent event).routingTable =
      handler.routingTable.run (eventOperations event) := by
  rcases handleEvent_cases handler event with ⟨hsame, hnone⟩ | ⟨-, operation, hone, hemit⟩ |
    ⟨before, after, rfl⟩ | ⟨key, instanceKey, before, after, rfl⟩
  · rw [hsame, hnone]
    rfl
  · rw [hemit, hone]
    rfl
  · rfl
  · exact table_actualUpdate _

theorem routingTable_foldl_handleEvent :
    (events.foldl Handler.handleEvent handler).routingTable =
      handler.routingTable.run (events.flatMap eventOperations) := by
  induction events generalizing handler with
  | nil => rfl
  | cons event events ih =>
    rw [List.foldl_cons, ih, routingTable_handleEvent, List.flatMap_cons, run_append]

/-- The operations that build the table of a snapshot. -/
def snapshotOperations (desired : List DesiredLRP) (actuals : List ActualLRP) : List Operation :=
  (desired.map fun lrp => .setRoutes none (some lrp)) ++ actuals.map .addEndpoint

theorem snapshotTable_eq_run :
    handler.snapshotTable desired actuals =
      (newRoutingTable handler.routingTable.httpRoutesRoutingTable.normalize false
        handler.tcpTLSEnabled).run (snapshotOperations desired actuals) := by
  rw [snapshotOperations, run_append, RoutingTable.run, RoutingTable.run, List.foldl_map,
    List.foldl_map]
  rfl

theorem routingTable_syncReplaying (domains : DomainSet) :
    (handler.syncReplaying desired actuals domains events).routingTable =
      (handler.routingTable.swap (events.foldl Handler.handleEvent
        (handler.forReplay desired actuals)).routingTable domains).table := rfl

/-- A handler with an empty table and no emitters. -/
def sampleHandler : Handler where
  routingTable := newRoutingTable id false false
  natsEmitter := none
  routingAPIEmitter := none
  tcpTLSEnabled := false
  unregistrationCache := ∅

end Diego.RouteEmitter
