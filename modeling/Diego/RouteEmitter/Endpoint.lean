import Diego.Models.LRP
import Mathlib.Algebra.GroupWithZero.Nat

/-!
# Endpoints, routes and the messages they make

`routingtable/endpoint.go` and `registry_message.go`.  An `Endpoint` is one
container port of one LRP instance; a route mapping is an HTTP route, a TCP
route or an internal route.  The Go interface `routeMapping` has exactly these
three implementations, so it is an inductive type here, and the `interface{}`
values its `Hash` methods return are the sum `RouteHash`.

Routes are compared by `hash`, which leaves out metric tags and options, and by
`hashWithOptions`, which adds the options after `normalize`, the round trip
through `json.Unmarshal` and `json.Marshal`.
-/

namespace Diego.RouteEmitter

open Diego.Models

/-! ## Endpoints -/

structure EndpointKey where
  instanceGUID : String
  evacuating : Bool
  deriving DecidableEq, Inhabited

/-- The key of the same instance with the other presence. -/
def EndpointKey.flip (key : EndpointKey) : EndpointKey :=
  { key with evacuating := !key.evacuating }

structure Address where
  host : String
  port : Nat
  deriving DecidableEq, Inhabited

structure Endpoint where
  instanceGUID : String
  index : Int
  host : String
  containerIP : String
  containerIPv6 : String
  port : Nat
  containerPort : Nat
  tlsProxyPort : Nat
  containerTlsProxyPort : Nat
  presence : Presence
  isolationSegment : String
  since : Int
  modificationTag : ModificationTag
  preferredAddress : PreferredAddress
  availabilityZone : String
  deriving DecidableEq, Inhabited

def Endpoint.key (e : Endpoint) : EndpointKey :=
  ⟨e.instanceGUID, e.presence = .evacuating⟩

def Endpoint.isDirectInstanceRoute (e : Endpoint) (defaultIsDirectInstanceRoute : Bool) : Bool :=
  match e.preferredAddress with
  | .instanceAddress => true
  | .hostAddress => false
  | .unknown => defaultIsDirectInstanceRoute

def newEndpointsFromActual (actualLRP : ActualLRP) : List Endpoint :=
  actualLRP.ports.filterMap fun portMapping =>
    portMapping.map fun portMapping =>
      { instanceGUID := actualLRP.instanceGuid
        index := actualLRP.index
        host := actualLRP.address
        containerIP := actualLRP.instanceAddress
        containerIPv6 := actualLRP.instanceIpv6Address
        port := portMapping.hostPort
        containerPort := portMapping.containerPort
        tlsProxyPort := portMapping.hostTlsProxyPort
        containerTlsProxyPort := portMapping.containerTlsProxyPort
        presence := actualLRP.presence
        isolationSegment := ""
        since := actualLRP.since
        modificationTag := actualLRP.modificationTag
        preferredAddress := actualLRP.preferredAddress
        availabilityZone := actualLRP.availabilityZone }

/-- Internal routes address the container itself, so there is one endpoint per
instance and no port. -/
def internalEndpointsFromActualLRP (actualLRP : ActualLRP) : List Endpoint :=
  [{ instanceGUID := actualLRP.instanceGuid
     index := actualLRP.index
     host := actualLRP.address
     containerIP := actualLRP.instanceAddress
     containerIPv6 := ""
     port := 0
     containerPort := 0
     tlsProxyPort := 0
     containerTlsProxyPort := 0
     presence := actualLRP.presence
     isolationSegment := ""
     since := actualLRP.since
     modificationTag := actualLRP.modificationTag
     preferredAddress := .unknown
     availabilityZone := "" }]

/-! ## Routing keys -/

structure RoutingKey where
  processGUID : String
  containerPort : Nat
  deriving DecidableEq, Inhabited

/-- The keys `HasExternalRoutes` asks for: every container port, and its TLS
proxy port where there is one.  Unlike `newEndpointsFromActual` this loop does not
check for a nil port mapping; `none` stands for the nil dereference. -/
def newRoutingKeysFromActual (actualLRP : ActualLRP) : Option (List RoutingKey) :=
  (actualLRP.ports.mapM id).map fun ports => ports.flatMap fun portMapping =>
    ⟨actualLRP.processGuid, portMapping.containerPort⟩ ::
      if portMapping.hostTlsProxyPort ≠ 0 ∧ portMapping.containerTlsProxyPort ≠ 0 then
        [⟨actualLRP.processGuid, portMapping.containerTlsProxyPort⟩]
      else []

/-! ## Routes -/

structure Route where
  hostname : String
  routeServiceUrl : String
  isolationSegment : String
  logGUID : String
  protocol : String
  metricTags : List (String × MetricTagValue)
  options : String
  deriving DecidableEq, Inhabited

/-- `routeHash`: everything of a `Route` but metric tags and options. -/
structure HTTPRouteHash where
  hostname : String
  routeServiceUrl : String
  isolationSegment : String
  logGUID : String
  protocol : String
  deriving DecidableEq, Inhabited

structure ExternalEndpointInfo where
  routerGroupGUID : String
  port : Nat
  tlsEnabled : Bool
  sniHostname : String
  terminateFrontendTLS : Bool
  enableBackendMTLS : Bool
  deriving DecidableEq, Inhabited

structure InternalRoute where
  hostname : String
  containerIP : String
  logGUID : String
  deriving DecidableEq, Inhabited

/-- The Go interface `routeMapping`. -/
inductive RouteMapping
  | http (route : Route)
  | tcp (info : ExternalEndpointInfo)
  | internal (route : InternalRoute)
  deriving DecidableEq

inductive RouteHash
  | http (hash : HTTPRouteHash)
  | tcp (info : ExternalEndpointInfo)
  | internal (route : InternalRoute)
  deriving DecidableEq

def Route.hash (r : Route) : HTTPRouteHash :=
  ⟨r.hostname, r.routeServiceUrl, r.isolationSegment, r.logGUID, r.protocol⟩

def RouteMapping.hash : RouteMapping → RouteHash
  | .http route => .http route.hash
  | .tcp info => .tcp info
  | .internal route => .internal route

/-- `HashWithOptions`.  An empty option text is not normalized. -/
def RouteMapping.hashWithOptions (normalize : String → String) :
    RouteMapping → RouteHash × String
  | .http route =>
    (.http route.hash, if route.options = "" then "" else normalize route.options)
  | .tcp info => (.tcp info, "")
  | .internal route => (.internal route, "")

/-! ## Messages -/

structure RegistryMessage where
  host : String
  port : Nat
  tlsPort : Nat
  uris : List String
  protocol : String
  app : String
  routeServiceUrl : String
  privateInstanceId : String
  privateInstanceIndex : String
  serverCertDomainSAN : String
  isolationSegment : String
  endpointUpdatedAtNs : Int
  tags : List (String × String)
  availabilityZone : String
  options : String
  deriving DecidableEq, Inhabited

/-- The fields of a `RegistryMessage` that are not tagged `hash:"ignore"`: what
the router and the unregistration cache know a registration by. -/
structure RouterIdentity where
  host : String
  port : Nat
  tlsPort : Nat
  uris : List String
  protocol : String
  deriving DecidableEq, Inhabited

def RegistryMessage.identity (m : RegistryMessage) : RouterIdentity :=
  ⟨m.host, m.port, m.tlsPort, m.uris, m.protocol⟩

def metricTagValue (endpoint : Endpoint) : MetricTagValue → String
  | .static value => value
  | .index => toString endpoint.index
  | .instanceGuid => endpoint.instanceGUID

/-- `populateMetricTags`.  The two fixed tags win over a metric tag of the same
name. -/
def populateMetricTags (input : List (String × MetricTagValue)) (endpoint : Endpoint) :
    List (String × String) :=
  let tags := input.map fun tag => (tag.1, metricTagValue endpoint tag.2)
  let tags := ("component", "route-emitter") :: tags.filter fun tag => tag.1 ≠ "component"
  if endpoint.containerIPv6 = "" then tags
  else
    ("cf_instance_ipv6", endpoint.containerIPv6) ::
      tags.filter fun tag => tag.1 ≠ "cf_instance_ipv6"

/-- The index a message carries: none without an instance guid. -/
def messageIndex (endpoint : Endpoint) : String :=
  if endpoint.instanceGUID = "" then "" else toString endpoint.index

def messageSince (endpoint : Endpoint) (emitEndpointUpdatedAt : Bool) : Int :=
  if emitEndpointUpdatedAt then endpoint.since else 0

def registryMessageFor (endpoint : Endpoint) (route : Route) (emitEndpointUpdatedAt : Bool) :
    RegistryMessage where
  uris := [route.hostname]
  host := endpoint.host
  port := endpoint.port
  tlsPort := endpoint.tlsProxyPort
  protocol := route.protocol
  app := route.logGUID
  isolationSegment := route.isolationSegment
  tags := populateMetricTags route.metricTags endpoint
  availabilityZone := endpoint.availabilityZone
  endpointUpdatedAtNs := messageSince endpoint emitEndpointUpdatedAt
  privateInstanceId := endpoint.instanceGUID
  privateInstanceIndex := messageIndex endpoint
  serverCertDomainSAN := endpoint.instanceGUID
  routeServiceUrl := route.routeServiceUrl
  options := route.options

/-- The message with the address of the container instead of its host.  It
does not carry the options of the route. -/
def internalAddressRegistryMessageFor (endpoint : Endpoint) (route : Route)
    (emitEndpointUpdatedAt : Bool) : RegistryMessage :=
  { registryMessageFor endpoint route emitEndpointUpdatedAt with
    host := endpoint.containerIP
    port := endpoint.containerPort
    tlsPort := endpoint.containerTlsProxyPort
    options := "" }

def internalEndpointRegistryMessageFor (endpoint : Endpoint) (route : InternalRoute)
    (emitEndpointUpdatedAt : Bool) : RegistryMessage where
  uris := [route.hostname, messageIndex endpoint ++ "." ++ route.hostname]
  host := endpoint.containerIP
  port := 0
  tlsPort := 0
  protocol := ""
  app := route.logGUID
  isolationSegment := ""
  tags := [("component", "route-emitter")]
  availabilityZone := endpoint.availabilityZone
  endpointUpdatedAtNs := messageSince endpoint emitEndpointUpdatedAt
  privateInstanceId := ""
  privateInstanceIndex := messageIndex endpoint
  serverCertDomainSAN := ""
  routeServiceUrl := ""
  options := ""

structure TCPRouteMapping where
  routerGroupGuid : String
  externalPort : Nat
  hostIP : String
  hostPort : Nat
  hostTLSPort : Int
  instanceId : String
  sniHostname : Option String
  terminateFrontendTLS : Bool
  enableBackendMTLS : Bool
  deriving DecidableEq, Inhabited

/-- `ExternalEndpointInfo.MessageFor`.  The ports of the mapping are `uint16`. -/
def ExternalEndpointInfo.mappingFor (info : ExternalEndpointInfo) (e : Endpoint)
    (directInstanceRoute : Bool) : TCPRouteMapping :=
  let direct := e.isDirectInstanceRoute directInstanceRoute
  { routerGroupGuid := info.routerGroupGUID
    externalPort := info.port % 2 ^ 16
    hostIP := if direct then e.containerIP else e.host
    hostPort := (if direct then e.containerPort else e.port) % 2 ^ 16
    hostTLSPort :=
      if info.tlsEnabled then if direct then e.containerTlsProxyPort else e.tlsProxyPort else -1
    instanceId := if info.tlsEnabled then e.instanceGUID else ""
    sniHostname := if info.sniHostname = "" then none else some info.sniHostname
    terminateFrontendTLS := info.terminateFrontendTLS
    enableBackendMTLS := info.enableBackendMTLS }

def Route.messageFor (r : Route) (endpoint : Endpoint)
    (directInstanceAddress emitEndpointUpdatedAt : Bool) : RegistryMessage :=
  if endpoint.isDirectInstanceRoute directInstanceAddress then
    internalAddressRegistryMessageFor endpoint r emitEndpointUpdatedAt
  else registryMessageFor endpoint r emitEndpointUpdatedAt

/-- `MessageFor`: an external message, a TCP mapping or an internal message. -/
def RouteMapping.messageFor (route : RouteMapping) (endpoint : Endpoint)
    (directInstanceAddress emitEndpointUpdatedAt : Bool) :
    Option RegistryMessage × Option TCPRouteMapping × Option RegistryMessage :=
  match route with
  | .http route =>
    (some (route.messageFor endpoint directInstanceAddress emitEndpointUpdatedAt), none, none)
  | .tcp info => (none, some (info.mappingFor endpoint directInstanceAddress), none)
  | .internal route =>
    (none, none, some (internalEndpointRegistryMessageFor endpoint route emitEndpointUpdatedAt))

structure MessagesToEmit where
  registrationMessages : List RegistryMessage := []
  unregistrationMessages : List RegistryMessage := []
  internalRegistrationMessages : List RegistryMessage := []
  internalUnregistrationMessages : List RegistryMessage := []
  deriving DecidableEq, Inhabited

structure TCPRouteMappings where
  registrations : List TCPRouteMapping := []
  unregistrations : List TCPRouteMapping := []
  deriving DecidableEq, Inhabited

def MessagesToEmit.merge (m o : MessagesToEmit) : MessagesToEmit where
  registrationMessages := m.registrationMessages ++ o.registrationMessages
  unregistrationMessages := m.unregistrationMessages ++ o.unregistrationMessages
  internalRegistrationMessages :=
    m.internalRegistrationMessages ++ o.internalRegistrationMessages
  internalUnregistrationMessages :=
    m.internalUnregistrationMessages ++ o.internalUnregistrationMessages

def TCPRouteMappings.merge (mappings other : TCPRouteMappings) : TCPRouteMappings where
  registrations := mappings.registrations ++ other.registrations
  unregistrations := mappings.unregistrations ++ other.unregistrations

end Diego.RouteEmitter
