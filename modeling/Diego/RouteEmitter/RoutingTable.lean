import Diego.RouteEmitter.Endpoint

/-!
# The routing table

`routingtable/routingtable.go`.  An `InternalRoutingTable` maps routing keys to
entries, an entry being the routes of the desired LRP and the endpoints of its
actual LRPs.  Every operation changes entries one at a time and, for each entry it
changes, emits the difference between the old and the new entry.

`messages` collects these differences in two maps keyed by route hash and
endpoint and only then turns them into NATS messages and TCP mappings.  The model
stops in between: an operation returns an `Emission`, the pairings it registers and
unregisters, and `Emission.messagesToEmit` and `Emission.tcpRouteMappings` are the
last loop of `messages`.  Merging emissions is appending, as `Merge` is on messages.

The mutex of a table is held by each operation from start to end, so operations are
functions.  Logging and metrics are left out.
-/

namespace Diego.RouteEmitter

open Diego.Models

/-! ## Entries and tables -/

structure RoutableEndpoints where
  domain : String := ""
  routes : List RouteMapping := []
  endpoints : GoMap EndpointKey Endpoint := ∅
  desiredInstances : Int := 0
  modificationTag : Option ModificationTag := none
  deriving DecidableEq

instance : Inhabited RoutableEndpoints := ⟨{}⟩

/-- The three tables of a `RoutingTable` differ in their generators. -/
inductive TableKind
  | http
  | tcp (tlsEnabled : Bool)
  | internal
  deriving DecidableEq, Inhabited

structure InternalRoutingTable where
  kind : TableKind
  directInstanceRoute : Bool
  /-- The round trip of an option text through `encoding/json`. -/
  normalize : String → String
  entries : GoMap RoutingKey RoutableEndpoints := ∅
  addressEntries : GoMap Address EndpointKey := ∅

/-- Add routes under a key, after those the key has already. -/
def appendRoutes (routeEntries : GoMap RoutingKey (List RouteMapping)) (key : RoutingKey)
    (routes : List RouteMapping) : GoMap RoutingKey (List RouteMapping) :=
  routeEntries.insert key (routeEntries.read key ++ routes)

def httpRoutesFrom (lrp : Option DesiredLRP) : GoMap RoutingKey (List RouteMapping) :=
  match lrp with
  | none => ∅
  | some lrp =>
    match lrp.routes with
    | none => ∅
    | some routes =>
      routes.cfRouter.foldl (fun routeEntries route =>
        appendRoutes routeEntries ⟨lrp.processGuid, route.port⟩
          (route.hostnames.map fun hostname => .http
            { hostname := hostname
              logGUID := lrp.logGuid
              routeServiceUrl := route.routeServiceUrl
              isolationSegment := route.isolationSegment
              metricTags := lrp.metricTags
              protocol := route.protocol
              options := route.options })) ∅

def tcpRoutesFrom (tlsEnabled : Bool) (lrp : Option DesiredLRP) :
    GoMap RoutingKey (List RouteMapping) :=
  match lrp with
  | none => ∅
  | some lrp =>
    match lrp.routes with
    | none => ∅
    | some routes =>
      routes.tcpRouter.foldl (fun routeEntries route =>
        appendRoutes routeEntries ⟨lrp.processGuid, route.containerPort⟩
          [.tcp
            { routerGroupGUID := route.routerGroupGuid
              port := route.externalPort
              tlsEnabled := tlsEnabled
              sniHostname := route.sniHostname.getD ""
              terminateFrontendTLS := route.terminateFrontendTLS
              enableBackendMTLS := route.enableBackendMTLS }]) ∅

def internalRoutesFrom (lrp : Option DesiredLRP) : GoMap RoutingKey (List RouteMapping) :=
  match lrp with
  | none => ∅
  | some lrp =>
    match lrp.routes with
    | none => ∅
    | some routes =>
      routes.internalRouter.foldl (fun routeEntries hostname =>
        appendRoutes routeEntries ⟨lrp.processGuid, 0⟩
          [.internal
            { hostname := hostname
              containerIP := ""
              logGUID := lrp.logGuid }]) ∅

def TableKind.endpointGenerator : TableKind → ActualLRP → List Endpoint
  | .http => newEndpointsFromActual
  | .tcp _ => newEndpointsFromActual
  | .internal => internalEndpointsFromActualLRP

def TableKind.routesGenerator :
    TableKind → Option DesiredLRP → GoMap RoutingKey (List RouteMapping)
  | .http => httpRoutesFrom
  | .tcp tlsEnabled => tcpRoutesFrom tlsEnabled
  | .internal => internalRoutesFrom

def TableKind.suppressAddressCollision : TableKind → Bool
  | .http => false
  | .tcp _ => true
  | .internal => true

/-! ## Differences -/

structure RoutesDiff where
  before : List RouteMapping
  after : List RouteMapping
  removed : List RouteMapping
  added : List RouteMapping

structure EndpointsDiff where
  before : GoMap EndpointKey Endpoint
  after : GoMap EndpointKey Endpoint
  removed : GoMap EndpointKey Endpoint
  added : GoMap EndpointKey Endpoint

/-- The routes by their hash; of several routes with one hash the last counts. -/
def routesByHash (routes : List RouteMapping) : GoMap RouteHash RouteMapping :=
  GoMap.ofPairs (routes.map fun route => (route.hash, route))

def diffRoutes (normalize : String → String) (before after : List RouteMapping) : RoutesDiff :=
  let existingRoutes := routesByHash before
  let newRoutes := routesByHash after
  { before := before
    after := after
    removed := (existingRoutes.restrict fun routeHash _ => routeHash ∉ newRoutes).values
    -- routes that are new, or whose options changed
    added := (newRoutes.restrict fun routeHash route =>
      match existingRoutes.lookup routeHash with
      | none => true
      | some existing =>
        existing.hashWithOptions normalize ≠ route.hashWithOptions normalize).values }

/-- Endpoints are different if any field differs other than the modification
tag, the presence and since. -/
def endpointDifferent (before after : Endpoint) : Bool :=
  { before with
    modificationTag := after.modificationTag
    presence := after.presence
    since := after.since } ≠ after

/-- Where `diffEndpoints` looks for the counterpart of an endpoint: under its own
key, or else under the flipped key, which it then keeps using. -/
def counterpart (endpoints : GoMap EndpointKey Endpoint) (key : EndpointKey) :
    EndpointKey × Option Endpoint :=
  match endpoints.lookup key with
  | some endpoint => (key, some endpoint)
  | none => (key.flip, endpoints.lookup key.flip)

/-- One of the two loops of `diffEndpoints`: the endpoints of `source` without an
equal counterpart in `target`. -/
def unmatchedEndpoints (source target : GoMap EndpointKey Endpoint) : GoMap EndpointKey Endpoint :=
  GoMap.ofPairs <| source.entries.filterMap fun entry =>
    match counterpart target entry.1 with
    | (key, none) => some (key, entry.2)
    | (key, some other) =>
      if endpointDifferent other entry.2 then some (key, entry.2) else none

def diffEndpoints (before after : GoMap EndpointKey Endpoint) : EndpointsDiff where
  before := before
  after := after
  removed := unmatchedEndpoints before after
  added := unmatchedEndpoints after before

/-! ## Emissions -/

structure RegistrationMetadata where
  emitEndpointUpdatedAt : Bool
  route : RouteMapping
  deriving DecidableEq

structure UnregistrationMetadata where
  route : RouteMapping
  deriving DecidableEq

/-- The two maps of `messages`, after their last duplicate is dropped, and
whether the difference they come from is one that `emitDiffMessages` reports. -/
structure Emission where
  registrations : List (Endpoint × RegistrationMetadata) := []
  unregistrations : List (Endpoint × UnregistrationMetadata) := []
  changed : Bool := false
  deriving DecidableEq, Inhabited

def Emission.merge (m o : Emission) : Emission where
  registrations := m.registrations ++ o.registrations
  unregistrations := m.unregistrations ++ o.unregistrations
  changed := m.changed || o.changed

/-- Nested loops over routes and endpoints: the first pairing with a given route
hash and endpoint is kept. -/
def collectPairings {α : Type} (metadata : RouteMapping → α)
    (pairings : GoMap (RouteHash × Endpoint) α) (routes : List RouteMapping)
    (containers : List Endpoint) : GoMap (RouteHash × Endpoint) α :=
  (routes.product containers).foldl
    (fun pairings pairing =>
      pairings.insertNew (pairing.1.hash, pairing.2) (metadata pairing.1)) pairings

def messages (routesDiff : RoutesDiff) (endpointDiff : EndpointsDiff) (changed : Bool) : Emission :=
  -- for removed routes remove endpoints previously registered
  let unregistrations := collectPairings UnregistrationMetadata.mk ∅
    routesDiff.removed endpointDiff.before.values
  -- for added routes add all currently known endpoints
  let registrations := collectPairings (RegistrationMetadata.mk false) ∅
    routesDiff.added endpointDiff.after.values
  -- for removed endpoints remove routes previously registered
  let unregistrations := collectPairings UnregistrationMetadata.mk unregistrations
    routesDiff.before endpointDiff.removed.values
  -- for added endpoints register all current routes
  let registrations := collectPairings (RegistrationMetadata.mk true) registrations
    routesDiff.after endpointDiff.added.values
  { registrations := registrations.entries.map fun entry => (entry.1.2, entry.2)
    unregistrations := unregistrations.entries.map fun entry => (entry.1.2, entry.2)
    changed := changed }

def emitDiffMessages (normalize : String → String) (oldEntry newEntry : RoutableEndpoints) :
    Emission :=
  let routesDiff := diffRoutes normalize oldEntry.routes newEntry.routes
  let endpointsDiff := diffEndpoints oldEntry.endpoints newEntry.endpoints
  messages routesDiff endpointsDiff
    (routesDiff.added ≠ [] ∨ routesDiff.removed ≠ [] ∨
      endpointsDiff.added.entries ≠ [] ∨ endpointsDiff.removed.entries ≠ [])

/-- The last loop of `messages`, on the messages for NATS. -/
def Emission.messagesToEmit (emission : Emission) (directInstanceRoute : Bool) :
    MessagesToEmit where
  registrationMessages := emission.registrations.filterMap fun registration =>
    (registration.2.route.messageFor registration.1 directInstanceRoute
      registration.2.emitEndpointUpdatedAt).1
  unregistrationMessages := emission.unregistrations.filterMap fun unregistration =>
    (unregistration.2.route.messageFor unregistration.1 directInstanceRoute false).1
  internalRegistrationMessages := emission.registrations.filterMap fun registration =>
    (registration.2.route.messageFor registration.1 directInstanceRoute
      registration.2.emitEndpointUpdatedAt).2.2
  internalUnregistrationMessages := emission.unregistrations.filterMap fun unregistration =>
    (unregistration.2.route.messageFor unregistration.1 directInstanceRoute false).2.2

/-- The last loop of `messages`, on the mappings for the routing API. -/
def Emission.tcpRouteMappings (emission : Emission) (directInstanceRoute : Bool) :
    TCPRouteMappings where
  registrations := emission.registrations.filterMap fun registration =>
    (registration.2.route.messageFor registration.1 directInstanceRoute
      registration.2.emitEndpointUpdatedAt).2.1
  unregistrations := emission.unregistrations.filterMap fun unregistration =>
    (unregistration.2.route.messageFor unregistration.1 directInstanceRoute false).2.1

/-! ## Operations on one table -/

namespace InternalRoutingTable

/-- `deleteEntryIfEmpty`, on the entries of a table. -/
def deleteEntryIfEmpty (entries : GoMap RoutingKey RoutableEndpoints) (key : RoutingKey) :
    GoMap RoutingKey RoutableEndpoints :=
  let entry := entries.read key
  if entry.endpoints.entries = [] ∧ entry.routes = [] then entries.erase key else entries

/-- The address a collision is detected by. -/
def addressGenerator (table : InternalRoutingTable) (endpoint : Endpoint) : Address :=
  if endpoint.isDirectInstanceRoute table.directInstanceRoute then
    ⟨endpoint.containerIP, endpoint.containerPort⟩
  else ⟨endpoint.host, endpoint.port⟩

/-- Whether the entry has the endpoint already, with a tag that the new endpoint's
does not succeed. -/
def staleEndpoint (currentEntry : RoutableEndpoints) (routingEndpoint : Endpoint) : Bool :=
  match currentEntry.endpoints.lookup routingEndpoint.key with
  | none => false
  | some currentEndpoint =>
    !succeededBy (some currentEndpoint.modificationTag) routingEndpoint.modificationTag

/-- Whether the endpoint belongs to an instance beyond the desired ones. -/
def undesiredInstance (currentEntry : RoutableEndpoints) (routingEndpoint : Endpoint) : Bool :=
  currentEntry.desiredInstances > 0 && routingEndpoint.index ≥ currentEntry.desiredInstances

def addRoutingEndpoint (actualLRP : ActualLRP) (state : InternalRoutingTable × Emission)
    (routingEndpoint : Endpoint) : InternalRoutingTable × Emission :=
  let table := state.1
  let key : RoutingKey := ⟨actualLRP.processGuid, routingEndpoint.containerPort⟩
  let currentEntry := table.entries.read key
  if undesiredInstance currentEntry routingEndpoint then state
  else if staleEndpoint currentEntry routingEndpoint then state
  else
    let newEntry := { currentEntry with
      endpoints := currentEntry.endpoints.insert routingEndpoint.key routingEndpoint }
    ({ table with entries := table.entries.insert key newEntry },
      state.2.merge (emitDiffMessages table.normalize currentEntry newEntry))

def addEndpoint (table : InternalRoutingTable) (actualLRP : ActualLRP) :
    InternalRoutingTable × Emission :=
  let endpoints := table.kind.endpointGenerator actualLRP
  let addressEntries :=
    if table.kind.suppressAddressCollision then table.addressEntries
    else endpoints.foldl (fun addressEntries endpoint =>
      addressEntries.insert (table.addressGenerator endpoint) endpoint.key) table.addressEntries
  endpoints.foldl (addRoutingEndpoint actualLRP)
    ({ table with addressEntries := addressEntries }, {})

def removeRoutingEndpoint (actualLRP : ActualLRP) (state : InternalRoutingTable × Emission)
    (routingEndpoint : Endpoint) : InternalRoutingTable × Emission :=
  let table := state.1
  let key : RoutingKey := ⟨actualLRP.processGuid, routingEndpoint.containerPort⟩
  let currentEntry := table.entries.read key
  match currentEntry.endpoints.lookup routingEndpoint.key with
  | none => state
  | some currentEndpoint =>
    if !tagEqual (some currentEndpoint.modificationTag) routingEndpoint.modificationTag &&
        !succeededBy (some currentEndpoint.modificationTag) routingEndpoint.modificationTag then
      state
    else
      let newEntry := { currentEntry with
        endpoints := currentEntry.endpoints.erase routingEndpoint.key }
      ({ table with
          entries := deleteEntryIfEmpty (table.entries.insert key newEntry) key },
        state.2.merge (emitDiffMessages table.normalize currentEntry newEntry))

/-- The address loop of `RemoveEndpoint`: an address another instance holds stays. -/
def removeAddress (table : InternalRoutingTable) (addressEntries : GoMap Address EndpointKey)
    (endpoint : Endpoint) : GoMap Address EndpointKey :=
  match addressEntries.lookup (table.addressGenerator endpoint) with
  | none => addressEntries.erase (table.addressGenerator endpoint)
  | some currentEntry =>
    if currentEntry.instanceGUID ≠ endpoint.instanceGUID then addressEntries
    else addressEntries.erase (table.addressGenerator endpoint)

def removeEndpoint (table : InternalRoutingTable) (actualLRP : ActualLRP) :
    InternalRoutingTable × Emission :=
  let endpoints := table.kind.endpointGenerator actualLRP
  let addressEntries :=
    if table.kind.suppressAddressCollision then table.addressEntries
    else endpoints.foldl (removeAddress table) table.addressEntries
  endpoints.foldl (removeRoutingEndpoint actualLRP)
    ({ table with addressEntries := addressEntries }, {})

/-- The endpoints of an entry after its routes are set: a smaller number of
instances prunes the endpoints beyond it. -/
def scaledEndpoints (before : Option DesiredLRP) (after : DesiredLRP)
    (endpoints : GoMap EndpointKey Endpoint) : GoMap EndpointKey Endpoint :=
  match before with
  | none => endpoints
  | some before =>
    if before.instances > after.instances then
      endpoints.restrict fun _ endpoint => endpoint.index < after.instances
    else endpoints

/-- The first loop of `SetRoutes`, on one key with routes in `after`. -/
def setRoutesOfKey (before : Option DesiredLRP) (after : DesiredLRP)
    (state : InternalRoutingTable × Emission) (key : RoutingKey) (routes : List RouteMapping) :
    InternalRoutingTable × Emission :=
  let table := state.1
  let currentEntry := table.entries.read key
  if !succeededBy currentEntry.modificationTag after.modificationTag then state
  else
    let newEntry : RoutableEndpoints :=
      { domain := after.domain
        routes := routes
        endpoints := scaledEndpoints before after currentEntry.endpoints
        desiredInstances := after.instances
        modificationTag := some after.modificationTag }
    ({ table with entries := table.entries.insert key newEntry },
      state.2.merge (emitDiffMessages table.normalize currentEntry newEntry))

/-- Whether the second loop of `SetRoutes` leaves an entry alone: on a delete the
tag of `before` must be equal or newer, on an update the tag of `after` newer. -/
def staleRemoval (before after : Option DesiredLRP) (currentEntry : RoutableEndpoints) : Bool :=
  match after with
  | some after => !succeededBy currentEntry.modificationTag after.modificationTag
  | none =>
    match before with
    | none => true
    | some before =>
      !tagEqual currentEntry.modificationTag before.modificationTag &&
        !succeededBy currentEntry.modificationTag before.modificationTag

/-- The entry without its routes.  An update hands its domain, tag and number of
instances on, a delete does not. -/
def withoutRoutes (after : Option DesiredLRP) (currentEntry : RoutableEndpoints) :
    RoutableEndpoints :=
  match after with
  | none => { currentEntry with routes := [] }
  | some after =>
    { currentEntry with
      routes := []
      domain := after.domain
      modificationTag := some after.modificationTag
      desiredInstances := after.instances }

/-- The second loop of `SetRoutes`, on one key with routes in `before`. -/
def removeRoutesOfKey (before after : Option DesiredLRP)
    (routeEntries : GoMap RoutingKey (List RouteMapping))
    (state : InternalRoutingTable × Emission) (key : RoutingKey) :
    InternalRoutingTable × Emission :=
  if key ∈ routeEntries then state
  else
    let table := state.1
    let currentEntry := table.entries.read key
    if staleRemoval before after currentEntry then state
    else
      let newEntry := withoutRoutes after currentEntry
      ({ table with entries := deleteEntryIfEmpty (table.entries.insert key newEntry) key },
        state.2.merge (emitDiffMessages table.normalize currentEntry newEntry))

def setRoutes (table : InternalRoutingTable) (before after : Option DesiredLRP) :
    InternalRoutingTable × Emission :=
  let removedRouteEntries := table.kind.routesGenerator before
  let routeEntries := table.kind.routesGenerator after
  let state :=
    match after with
    | none => (table, {})
    | some after =>
      routeEntries.entries.foldl (fun state entry =>
        setRoutesOfKey before after state entry.1 entry.2) (table, {})
  removedRouteEntries.keys.foldl (removeRoutesOfKey before after routeEntries) state

def removeRoutes (table : InternalRoutingTable) (desiredLRP : Option DesiredLRP) :
    InternalRoutingTable × Emission :=
  table.setRoutes desiredLRP none

/-- `mergeUnfreshRoutes`: the routes of a domain that is not fresh are kept. -/
def mergeUnfreshRoutes (before after : RoutableEndpoints) (domains : DomainSet) :
    RoutableEndpoints :=
  { after with
    domain := before.domain
    routes :=
      if DomainSet.contains domains before.domain then after.routes
      else after.routes ++ before.routes.filter fun oldRoute =>
        !after.routes.any fun newRoute => newRoute.hash = oldRoute.hash }

/-- The loop of `Swap`, on one key of either table. -/
def swapKey (table : InternalRoutingTable) (domains : DomainSet)
    (state : GoMap RoutingKey RoutableEndpoints × Emission) (key : RoutingKey) :
    GoMap RoutingKey RoutableEndpoints × Emission :=
  let newEntry := state.1.read key
  match table.entries.lookup key with
  | none => (state.1, state.2.merge (emitDiffMessages table.normalize default newEntry))
  | some existingEntry =>
    let merged := mergeUnfreshRoutes existingEntry newEntry domains
    (deleteEntryIfEmpty (state.1.insert key merged) key,
      state.2.merge (emitDiffMessages table.normalize existingEntry merged))

/-- The keys of both tables, each once. -/
def mergedRoutingKeys (table otherTable : InternalRoutingTable) : List RoutingKey :=
  otherTable.entries.keys ++ table.entries.keys.filter fun key => key ∉ otherTable.entries

def swap (table otherTable : InternalRoutingTable) (domains : DomainSet) :
    InternalRoutingTable × Emission :=
  let state := (mergedRoutingKeys table otherTable).foldl (swapKey table domains)
    (otherTable.entries, {})
  ({ table with entries := state.1, addressEntries := otherTable.addressEntries }, state.2)

def getRoutingEvents (table : InternalRoutingTable) : Emission :=
  table.entries.values.foldl (fun emission entry =>
    emission.merge (emitDiffMessages table.normalize default entry)) {}

def hasExternalRoutes (table : InternalRoutingTable) (actualLRP : ActualLRP) : Option Bool :=
  (newRoutingKeysFromActual actualLRP).map fun keys =>
    keys.any fun key => (table.entries.read key).routes ≠ []

end InternalRoutingTable

/-! ## The routing table -/

structure RoutingTable where
  tcpRoutesRoutingTable : InternalRoutingTable
  httpRoutesRoutingTable : InternalRoutingTable
  internalRoutesRoutingTable : InternalRoutingTable

def newRoutingTable (normalize : String → String) (directInstanceRoute tcpTLSEnabled : Bool) :
    RoutingTable where
  tcpRoutesRoutingTable := ⟨.tcp tcpTLSEnabled, directInstanceRoute, normalize, ∅, ∅⟩
  httpRoutesRoutingTable := ⟨.http, directInstanceRoute, normalize, ∅, ∅⟩
  internalRoutesRoutingTable := ⟨.internal, directInstanceRoute, normalize, ∅, ∅⟩

/-- What an operation on a `RoutingTable` returns. -/
structure Outcome where
  table : RoutingTable
  mappings : TCPRouteMappings
  messages : MessagesToEmit

namespace RoutingTable

/-- The results of the three tables, merged in the order of the source. -/
def outcome (http tcp internal : InternalRoutingTable × Emission) : Outcome where
  table := ⟨tcp.1, http.1, internal.1⟩
  mappings := ((http.2.tcpRouteMappings http.1.directInstanceRoute).merge
    (tcp.2.tcpRouteMappings tcp.1.directInstanceRoute)).merge
      (internal.2.tcpRouteMappings internal.1.directInstanceRoute)
  messages := ((http.2.messagesToEmit http.1.directInstanceRoute).merge
    (tcp.2.messagesToEmit tcp.1.directInstanceRoute)).merge
      (internal.2.messagesToEmit internal.1.directInstanceRoute)

def addEndpoint (table : RoutingTable) (actualLRP : ActualLRP) : Outcome :=
  outcome (table.httpRoutesRoutingTable.addEndpoint actualLRP)
    (table.tcpRoutesRoutingTable.addEndpoint actualLRP)
    (table.internalRoutesRoutingTable.addEndpoint actualLRP)

def removeEndpoint (table : RoutingTable) (actualLRP : ActualLRP) : Outcome :=
  outcome (table.httpRoutesRoutingTable.removeEndpoint actualLRP)
    (table.tcpRoutesRoutingTable.removeEndpoint actualLRP)
    (table.internalRoutesRoutingTable.removeEndpoint actualLRP)

def setRoutes (table : RoutingTable) (before after : Option DesiredLRP) : Outcome :=
  outcome (table.httpRoutesRoutingTable.setRoutes before after)
    (table.tcpRoutesRoutingTable.setRoutes before after)
    (table.internalRoutesRoutingTable.setRoutes before after)

def removeRoutes (table : RoutingTable) (desiredLRP : Option DesiredLRP) : Outcome :=
  outcome (table.httpRoutesRoutingTable.removeRoutes desiredLRP)
    (table.tcpRoutesRoutingTable.removeRoutes desiredLRP)
    (table.internalRoutesRoutingTable.removeRoutes desiredLRP)

def swap (table other : RoutingTable) (domains : DomainSet) : Outcome :=
  outcome (table.httpRoutesRoutingTable.swap other.httpRoutesRoutingTable domains)
    (table.tcpRoutesRoutingTable.swap other.tcpRoutesRoutingTable domains)
    (table.internalRoutesRoutingTable.swap other.internalRoutesRoutingTable domains)

def getExternalRoutingEvents (table : RoutingTable) : TCPRouteMappings × MessagesToEmit :=
  let http := table.httpRoutesRoutingTable
  let tcp := table.tcpRoutesRoutingTable
  ((http.getRoutingEvents.tcpRouteMappings http.directInstanceRoute).merge
      (tcp.getRoutingEvents.tcpRouteMappings tcp.directInstanceRoute),
    (http.getRoutingEvents.messagesToEmit http.directInstanceRoute).merge
      (tcp.getRoutingEvents.messagesToEmit tcp.directInstanceRoute))

def getInternalRoutingEvents (table : RoutingTable) : TCPRouteMappings × MessagesToEmit :=
  let internal := table.internalRoutesRoutingTable
  (internal.getRoutingEvents.tcpRouteMappings internal.directInstanceRoute,
    internal.getRoutingEvents.messagesToEmit internal.directInstanceRoute)

/-- `HasExternalRoutes`: whether the HTTP or the TCP table has routes for the LRP. -/
def hasExternalRoutes (table : RoutingTable) (actualLRP : ActualLRP) : Option Bool := do
  let http ← table.httpRoutesRoutingTable.hasExternalRoutes actualLRP
  if http then return true
  table.tcpRoutesRoutingTable.hasExternalRoutes actualLRP

end RoutingTable

end Diego.RouteEmitter
