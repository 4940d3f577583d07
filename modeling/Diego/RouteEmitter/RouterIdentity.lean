import Diego.RouteEmitter.Pairings

/-!
# What the router knows a registration by

The router, and the unregistration cache, know a message by host, port, TLS port,
URIs and protocol.  That identity is read off a pairing (`Pairing.identity`), so
what a table has registered with the router is the image of its pairings.

The identity has less in it than a pairing: two pairings that differ in the route
service URL, the isolation segment, the log guid or the container have one identity
as soon as they share hostname, protocol and address.  `unregistrations_spare_live`
says that this is the only way in which an unregistration can hit a live
registration.
-/

namespace Diego.RouteEmitter

open Diego.Models InternalRoutingTable

/-! ## Identities of pairings -/

/-- The identity of the message for a pairing, if it makes an external message. -/
def Pairing.identity (directInstanceRoute : Bool) : Pairing → Option RouterIdentity
  | (.http hash, endpoint) =>
    if endpoint.isDirectInstanceRoute directInstanceRoute then
      some ⟨endpoint.containerIP, endpoint.containerPort, endpoint.containerTlsProxyPort,
        [hash.hostname], hash.protocol⟩
    else some ⟨endpoint.host, endpoint.port, endpoint.tlsProxyPort, [hash.hostname], hash.protocol⟩
  | (.tcp _, _) => none
  | (.internal _, _) => none

/-- The message for a route and an endpoint has the identity of their pairing. -/
theorem identity_messageFor {route : RouteMapping} {endpoint : Endpoint} {direct : Bool}
    (emitEndpointUpdatedAt : Bool) :
    (route.messageFor endpoint direct emitEndpointUpdatedAt).1.map RegistryMessage.identity =
      Pairing.identity direct (route.hash, endpoint.erase) := by
  cases route with
  | http route =>
    simp only [RouteMapping.messageFor, RouteMapping.hash, Pairing.identity, Route.messageFor]
    by_cases hdirect : endpoint.isDirectInstanceRoute direct = true
    · rw [if_pos hdirect, if_pos (show endpoint.erase.isDirectInstanceRoute direct = true from
        hdirect)]
      rfl
    · rw [if_neg hdirect, if_neg (show ¬ endpoint.erase.isDirectInstanceRoute direct = true from
        hdirect)]
      rfl
  | tcp info | internal route => rfl

def Emission.registeredIdentities (emission : Emission) (direct : Bool) : Set RouterIdentity :=
  {i | ∃ m ∈ (emission.messagesToEmit direct).registrationMessages, m.identity = i}

def Emission.unregisteredIdentities (emission : Emission) (direct : Bool) : Set RouterIdentity :=
  {i | ∃ m ∈ (emission.messagesToEmit direct).unregistrationMessages, m.identity = i}

variable {route : RouteMapping} {endpoint : Endpoint} {direct : Bool} {emission : Emission}
  {i : RouterIdentity} {updated : Bool} {message : RegistryMessage}

/-- The identities of the messages for some endpoints and their routes. -/
theorem exists_message_iff {α : Type} {route : α → RouteMapping} (updated : α → Bool)
    {endpoints : List (Endpoint × α)} :
    (∃ m ∈ endpoints.filterMap fun entry =>
        ((route entry.2).messageFor entry.1 direct (updated entry.2)).1, m.identity = i) ↔
      ∃ p, (∃ entry ∈ endpoints, ((route entry.2).hash, entry.1.erase) = p) ∧
        Pairing.identity direct p = some i := by
  constructor
  · rintro ⟨m, hm, rfl⟩
    obtain ⟨entry, hmem, hmessage⟩ := List.mem_filterMap.mp hm
    refine ⟨_, ⟨entry, hmem, rfl⟩, ?_⟩
    rw [← identity_messageFor (updated entry.2), hmessage]
    rfl
  · rintro ⟨_, ⟨entry, hmem, rfl⟩, hidentity⟩
    rw [← identity_messageFor (updated entry.2), Option.map_eq_some_iff] at hidentity
    obtain ⟨m, hmessage, rfl⟩ := hidentity
    exact ⟨m, List.mem_filterMap.mpr ⟨entry, hmem, hmessage⟩, rfl⟩

theorem mem_registeredIdentities :
    i ∈ emission.registeredIdentities direct ↔
      ∃ p ∈ emission.registered, Pairing.identity direct p = some i :=
  exists_message_iff RegistrationMetadata.emitEndpointUpdatedAt

theorem mem_unregisteredIdentities :
    i ∈ emission.unregisteredIdentities direct ↔
      ∃ p ∈ emission.unregistered, Pairing.identity direct p = some i :=
  exists_message_iff fun _ => false

/-! ## Unregistrations spare live registrations -/

/-- The message an unregistration is published as, if any. -/
def unregistrationMessage (direct : Bool) (unregistration : Endpoint × UnregistrationMetadata) :
    Option RegistryMessage :=
  (unregistration.2.route.messageFor unregistration.1 direct false).1

/-- The message a registration is published as, if any. -/
def registrationMessage (direct : Bool) (registration : Endpoint × RegistrationMetadata) :
    Option RegistryMessage :=
  (registration.2.route.messageFor registration.1 direct registration.2.emitEndpointUpdatedAt).1

/-- After the call, an unregistration message with the router identity of a live
registration message is for another route (by route service URL, isolation segment or
log guid) or for another container (by instance or container port). -/
def SparesLive (result : InternalRoutingTable × Emission) : Prop :=
  ∀ unregistration ∈ result.2.unregistrations,
  ∀ registration ∈ result.1.getRoutingEvents.registrations, ∀ message live,
    unregistrationMessage result.1.directInstanceRoute unregistration = some message →
    registrationMessage result.1.directInstanceRoute registration = some live →
    message.identity = live.identity →
      message.routeServiceUrl ≠ live.routeServiceUrl ∨
      message.isolationSegment ≠ live.isolationSegment ∨ message.app ≠ live.app ∨
      message.privateInstanceId ≠ live.privateInstanceId ∨
      unregistration.1.containerPort ≠ registration.1.containerPort

/-- Two external messages of one router identity for one route attribute triple come from
one route hash. -/
theorem hash_eq_of_messages {route' : RouteMapping} {endpoint' : Endpoint} {updated' : Bool}
    {message' : RegistryMessage}
    (hmessage : (route.messageFor endpoint direct updated).1 = some message)
    (hmessage' : (route'.messageFor endpoint' direct updated').1 = some message')
    (hidentity : message.identity = message'.identity)
    (hservice : message.routeServiceUrl = message'.routeServiceUrl)
    (hsegment : message.isolationSegment = message'.isolationSegment)
    (happ : message.app = message'.app) : route.hash = route'.hash := by
  have hfields : ∀ (r : Route) (e : Endpoint) (u : Bool),
      (r.messageFor e direct u).uris = [r.hostname] ∧
      (r.messageFor e direct u).protocol = r.protocol ∧
      (r.messageFor e direct u).routeServiceUrl = r.routeServiceUrl ∧
      (r.messageFor e direct u).isolationSegment = r.isolationSegment ∧
      (r.messageFor e direct u).app = r.logGUID := by
    intro r e u
    unfold Route.messageFor
    split <;> exact ⟨rfl, rfl, rfl, rfl, rfl⟩
  cases route with
  | tcp info | internal route => simp [RouteMapping.messageFor] at hmessage
  | http route =>
    cases route' with
    | tcp info | internal route => simp [RouteMapping.messageFor] at hmessage'
    | http route' =>
      cases hmessage
      obtain rfl := Option.some.inj hmessage'
      have huris := congrArg RouterIdentity.uris hidentity
      have hprotocol := congrArg RouterIdentity.protocol hidentity
      simp only [RegistryMessage.identity] at huris hprotocol
      rw [(hfields _ _ _).1, (hfields _ _ _).1, List.cons.injEq] at huris
      rw [(hfields _ _ _).2.1, (hfields _ _ _).2.1] at hprotocol
      rw [(hfields _ _ _).2.2.1, (hfields _ _ _).2.2.1] at hservice
      rw [(hfields _ _ _).2.2.2.1, (hfields _ _ _).2.2.2.1] at hsegment
      rw [(hfields _ _ _).2.2.2.2, (hfields _ _ _).2.2.2.2] at happ
      simp only [RouteMapping.hash, Route.hash, huris.1, hprotocol, hservice, hsegment, happ]

theorem privateInstanceId_messageFor
    (hmessage : (route.messageFor endpoint direct updated).1 = some message) :
    message.privateInstanceId = endpoint.instanceGUID := by
  cases route with
  | tcp info | internal route => simp [RouteMapping.messageFor] at hmessage
  | http route =>
    cases hmessage
    unfold Route.messageFor
    split <;> rfl

/-- An exact announcement between supplied tables spares the live registrations. -/
theorem sparesLive_of_delta {supply : Supply} (hagree : supply.EndpointsAgree)
    {table : InternalRoutingTable} {result : InternalRoutingTable × Emission}
    (htable : table.Supplied supply) (hresult : result.1.Supplied supply)
    (hdelta : Delta table.pairings result.2.registered result.2.unregistered result.1.pairings) :
    SparesLive result := by
  intro unregistration hunregistration registration hregistration message live hmessage hlive
    hidentity
  by_contra hsame
  push Not at hsame
  obtain ⟨hservice, hsegment, happ, hinstance, hport⟩ := hsame
  have hhash := hash_eq_of_messages hmessage hlive hidentity hservice hsegment happ
  -- both endpoints are supplied, so they agree
  have hold : ((unregistration.2.route.hash, unregistration.1.erase) : Pairing) ∈
      result.2.unregistered := ⟨unregistration, hunregistration, rfl⟩
  have hnew : ((registration.2.route.hash, registration.1.erase) : Pairing) ∈
      result.1.pairings := by
    rw [← registered_getRoutingEvents]
    exact ⟨registration, hregistration, rfl⟩
  obtain ⟨key, -, endpointKey, endpoint, hlookup, herase⟩ :=
    Set.mem_iUnion.mp (hdelta.removed_subset hold)
  obtain ⟨key', -, endpointKey', endpoint', hlookup', herase'⟩ := Set.mem_iUnion.mp hnew
  obtain ⟨actualLRP, hactual, hmem, -⟩ := (htable key).provided _ _ hlookup
  obtain ⟨actualLRP', hactual', hmem', -⟩ := (hresult key').provided _ _ hlookup'
  rw [privateInstanceId_messageFor hmessage, privateInstanceId_messageFor hlive] at hinstance
  have hguid : endpoint.instanceGUID = endpoint'.instanceGUID := by
    rw [← Endpoint.erase_instanceGUID, herase, ← Endpoint.erase_instanceGUID endpoint', herase']
    exact hinstance
  have hcontainer : endpoint.containerPort = endpoint'.containerPort := by
    rw [← Endpoint.erase_containerPort, herase, ← Endpoint.erase_containerPort endpoint', herase']
    exact hport
  have hagrees := hagree _ hactual _ hactual' _ hmem _ hmem' hguid hcontainer
  refine Set.disjoint_left.mp hdelta.disjoint_removed hold ?_
  have hpair : ((unregistration.2.route.hash, unregistration.1.erase) : Pairing) =
      (registration.2.route.hash, registration.1.erase) :=
    Prod.ext hhash (herase.symm.trans (hagrees.trans herase'))
  rwa [hpair]

/-- **No call unregisters a pairing that is still live.**  The unregistration
messages of a call that share a router identity with a live registration message are
for another route or another container. -/
theorem unregistrations_spare_live {supply : Supply} (hagree : supply.EndpointsAgree)
    (hprocess : supply.OneProcess) {table : InternalRoutingTable} {S : Set Pairing}
    (h : Tracked supply table S) :
    (∀ operation : Operation, operation.Within supply → SparesLive (table.operate operation)) ∧
      ∀ other T domains, Tracked supply other T → SparesLive (table.swap other domains) := by
  refine ⟨fun operation hwithin => ?_, fun other T domains hother => ?_⟩
  · exact sparesLive_of_delta hagree h.supplied (h.operate operation hwithin).supplied
      (delta_operate hagree hprocess h.generator hwithin h.supplied)
  · exact sparesLive_of_delta hagree h.supplied (h.swap domains hother).supplied
      (delta_swap hagree hprocess h.supplied hother.supplied domains)

/-- The sample run meets the assumptions, and removing its instance unregisters. -/
theorem unregistrations_spare_live_sample : ∃ table S,
    Tracked (sampleSupply ["process-guid"]) table S ∧
      SparesLive (table.operate (.removeEndpoint (sampleActualLRP "process-guid"))) ∧
      (table.operate
        (.removeEndpoint (sampleActualLRP "process-guid"))).2.unregistrations ≠ [] := by
  obtain ⟨S, hS⟩ := tracked_sample
  exact ⟨_, S, hS, (unregistrations_spare_live sampleSupply_endpointsAgree
    sampleSupply_oneProcess hS).1 _ trivial, by decide⟩

/-- A route service URL that changes makes one call unregister and register one
router identity: the HTTP routes are compared by more than that. -/
theorem unregisters_live_identity :
    ∃ supply table S operation, supply.EndpointsAgree ∧ supply.OneProcess ∧
      Tracked supply table S ∧ table.kind = .http ∧ operation.Within supply ∧
      ∃ message ∈ ((table.operate operation).2.messagesToEmit
          table.directInstanceRoute).unregistrationMessages,
      ∃ live ∈ ((table.operate operation).1.getRoutingEvents.messagesToEmit
          table.directInstanceRoute).registrationMessages, message.identity = live.identity := by
  obtain ⟨S, hS⟩ := tracked_sample
  refine ⟨_, _, S, .setRoutes (sampleDesiredLRP "process-guid" "" 1)
    (sampleDesiredLRP "process-guid" "https://rs.example.com" 2), sampleSupply_endpointsAgree,
    sampleSupply_oneProcess, hS, by rfl, trivial, ?_⟩
  decide

end Diego.RouteEmitter
