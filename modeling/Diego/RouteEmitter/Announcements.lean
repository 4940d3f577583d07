import Diego.RouteEmitter.Handler
import Diego.RouteEmitter.RouterIdentity

/-!
# What the router is told

The router is told of changes in messages that are known to it by their identity.  Only
the HTTP table sends such messages (`NoHTTP`), so the messages of a call on the routing
table are, by identity, the pairings its HTTP table announces (`Announces`), also where
the handler merges the results of two calls.

`brought` is what an operation can add to a table, read off its argument and the entries
before.
-/

namespace Diego.RouteEmitter

open Diego.Models InternalRoutingTable List

/-! ## Only the HTTP table sends external messages -/

def NoHTTP (entry : RoutableEndpoints) : Prop :=
  ∀ route ∈ entry.routes, route.hash.isHTTP = false

theorem identity_eq_none {direct : Bool} {p : Pairing} (hp : p.1.isHTTP = false) :
    Pairing.identity direct p = none := by
  obtain ⟨hash, endpoint⟩ := p
  cases hash with
  | http hash => simp [RouteHash.isHTTP] at hp
  | tcp hash | internal hash => rfl

/-- The pairings of HTTP routes that an emission is about. -/
def Emission.httpPairings (emission : Emission) : Set Pairing :=
  {p | (p ∈ emission.registered ∨ p ∈ emission.unregistered) ∧ p.1.isHTTP = true}

theorem isLog_httpPairings : IsLog Emission.httpPairings where
  empty := by simp [Emission.httpPairings, isLog_registered.empty, isLog_unregistered.empty]
  merge m o := by
    ext p
    simp only [Emission.httpPairings, isLog_registered.merge, isLog_unregistered.merge,
      Set.mem_union, Set.mem_ofPred_eq]
    tauto

/-- An emission about no HTTP route tells the router nothing. -/
theorem identities_of_httpPairings {emission : Emission} (h : emission.httpPairings = ∅)
    (direct : Bool) : emission.registeredIdentities direct = ∅ ∧
      emission.unregisteredIdentities direct = ∅ := by
  have hnone : ∀ p, p ∈ emission.registered ∨ p ∈ emission.unregistered →
      Pairing.identity direct p = none := by
    intro p hp
    refine identity_eq_none (Bool.eq_false_iff.mpr fun hhttp => ?_)
    exact Set.eq_empty_iff_forall_notMem.mp h p ⟨hp, hhttp⟩
  refine ⟨Set.eq_empty_iff_forall_notMem.mpr fun i hi => ?_,
    Set.eq_empty_iff_forall_notMem.mpr fun i hi => ?_⟩
  · obtain ⟨p, hp, hidentity⟩ := mem_registeredIdentities.mp hi
    simp [hnone p (Or.inl hp)] at hidentity
  · obtain ⟨p, hp, hidentity⟩ := mem_unregisteredIdentities.mp hi
    simp [hnone p (Or.inr hp)] at hidentity

section Entry

variable {normalize : String → String} {oldEntry newEntry : RoutableEndpoints}

theorem httpPairings_emitDiffMessages (hold : NoHTTP oldEntry) (hnew : NoHTTP newEntry) :
    (emitDiffMessages normalize oldEntry newEntry).httpPairings = ∅ := by
  refine Set.eq_empty_iff_forall_notMem.mpr fun p hp => ?_
  obtain ⟨hp, hhttp⟩ := hp
  have hroute : ∃ route : RouteMapping, route.hash.isHTTP = false ∧ route.hash = p.1 := by
    rcases hp with hp | hp
    · obtain ⟨endpoint, -, ⟨⟨route, hroute, hhash⟩, -⟩ | ⟨⟨route, hroute, hhash⟩, -⟩⟩ :=
        mem_registered_emitDiffMessages.mp hp
      · exact ⟨route, hnew route (exists_after_of_added hroute), hhash⟩
      · exact ⟨route, hnew route hroute, hhash⟩
    · obtain ⟨endpoint, -, ⟨hremoved, -⟩ | ⟨⟨route, hroute, hhash⟩, -⟩⟩ :=
        mem_unregistered_emitDiffMessages.mp hp
      · obtain ⟨⟨route, hroute, hhash⟩, -⟩ := exists_removed_iff.mp hremoved
        exact ⟨route, hold route hroute, hhash⟩
      · exact ⟨route, hold route hroute, hhash⟩
  obtain ⟨route, hother, hhash⟩ := hroute
  rw [← hhash, hother] at hhttp
  exact absurd hhttp Bool.false_ne_true

theorem noHTTP_next {kind : TableKind} (hkind : kind ≠ .http) {operation : Operation}
    {key : RoutingKey} {change : Change} (hmem : (key, change) ∈ operation.changes kind)
    (hold : NoHTTP oldEntry) (hnext : change.next oldEntry = some newEntry) : NoHTTP newEntry := by
  rcases mem_changes hmem with ⟨-, endpoint, -, -, -, rfl⟩ | ⟨endpoint, rfl⟩ |
    ⟨before, lrp, routes, -, hlookup, rfl⟩ | ⟨before, after, rfl⟩
  · rw [endpointsOnly_addChange endpoint _ _ hnext]
    exact hold
  · rw [endpointsOnly_removeChange endpoint _ _ hnext]
    exact hold
  · obtain ⟨-, rfl⟩ := eq_of_setRoutesChange_next hnext
    exact isHTTP_of_routesGenerator hkind hlookup
  · obtain rfl := eq_of_removeRoutesChange_next hnext
    intro route hroute
    rw [routes_withoutRoutes] at hroute
    exact absurd hroute not_mem_nil

end Entry

def InternalRoutingTable.NoHTTP (table : InternalRoutingTable) : Prop :=
  ∀ key, RouteEmitter.NoHTTP ((table.entries.lookup key).getD default)

section Table

variable {table other : InternalRoutingTable}

theorem noHTTP_default : RouteEmitter.NoHTTP default :=
  fun _ hroute => absurd hroute not_mem_nil

theorem noHTTP_operate (hkind : table.kind ≠ .http) (operation : Operation) (h : table.NoHTTP) :
    (table.operate operation).1.NoHTTP ∧ (table.operate operation).2.httpPairings = ∅ := by
  refine ⟨fun key => operate_induction table operation noHTTP_default (h key)
    fun change hmem _ _ => noHTTP_next hkind hmem, ?_⟩
  refine (log_operate table operation isLog_httpPairings).trans ?_
  refine Set.iUnion_eq_empty.mpr fun key => Delta.outputs_eq_empty
    (p := fun current : Option RoutableEndpoints => RouteEmitter.NoHTTP (current.getD default))
    (h key) fun change hchange current hcurrent => ?_
  have hentry := fun entry => @noHTTP_next _ entry _ hkind _ _ _ (mem_changesAt.mp hchange) hcurrent
  refine ⟨change.apply_induction _ noHTTP_default hcurrent hentry, ?_⟩
  unfold Change.emission
  split
  · exact isLog_httpPairings.empty
  · rename_i entry hnext
    exact httpPairings_emitDiffMessages hcurrent (hentry entry hnext)

theorem noHTTP_swapEntry {existing new : Option RoutableEndpoints}
    (hold : RouteEmitter.NoHTTP (existing.getD default))
    (hnew : RouteEmitter.NoHTTP (new.getD default)) (normalize : String → String)
    (domains : DomainSet) :
    RouteEmitter.NoHTTP ((swapEntry domains existing new).getD default) ∧
      (swapEmission normalize domains existing new).httpPairings = ∅ := by
  cases existing with
  | none => exact ⟨hnew, httpPairings_emitDiffMessages noHTTP_default hnew⟩
  | some existing =>
    have hmerged : RouteEmitter.NoHTTP (mergeUnfreshRoutes existing (new.getD default)
        domains) := by
      intro route hroute
      unfold mergeUnfreshRoutes at hroute
      split at hroute
      · exact hnew route hroute
      · rcases mem_append.mp hroute with hroute | hroute
        · exact hnew route hroute
        · exact hold route (mem_of_mem_filter hroute)
    exact ⟨stored_induction _ noHTTP_default hmerged, httpPairings_emitDiffMessages hold hmerged⟩

theorem noHTTP_swap (h : table.NoHTTP) (hother : other.NoHTTP) (domains : DomainSet) :
    (table.swap other domains).1.NoHTTP ∧ (table.swap other domains).2.httpPairings = ∅ := by
  have hentry := fun key => noHTTP_swapEntry (h key) (hother key) table.normalize domains
  refine ⟨fun key => ?_, ?_⟩
  · rw [lookup_swap]
    exact (hentry key).1
  · refine (log_swap table other domains isLog_httpPairings).trans ?_
    refine Set.iUnion_eq_empty.mpr fun key => ?_
    split
    · exact (hentry key).2
    · rfl

end Table

/-! ## What a call announces to the router -/

def identities (direct : Bool) (S : Set Pairing) : Set RouterIdentity :=
  {i | ∃ p ∈ S, Pairing.identity direct p = some i}

def Outcome.registered (outcome : Outcome) : Set RouterIdentity :=
  {i | ∃ message ∈ outcome.messages.registrationMessages, message.identity = i}

def Outcome.unregistered (outcome : Outcome) : Set RouterIdentity :=
  {i | ∃ message ∈ outcome.messages.unregistrationMessages, message.identity = i}

namespace RoutingTable

def pairings (table : RoutingTable) : Set Pairing :=
  table.httpRoutesRoutingTable.pairings

def directInstanceRoute (table : RoutingTable) : Bool :=
  table.httpRoutesRoutingTable.directInstanceRoute

/-- The outcome tells the router, in pairings, of everything that is new in its table. -/
def Announces (table : RoutingTable) (outcome : Outcome) : Prop :=
  outcome.table.directInstanceRoute = table.directInstanceRoute ∧
    ∃ added removed, Covers table.pairings added removed outcome.table.pairings ∧
      outcome.registered = identities table.directInstanceRoute added ∧
      outcome.unregistered = identities table.directInstanceRoute removed

/-- The routing table that is kept for supplied actual LRPs: each of the three tables has
routes of its own kind, and the endpoints of the HTTP table are supplied. -/
structure Sound (actualLRPs : Set ActualLRP) (table : RoutingTable) : Prop where
  http : table.httpRoutesRoutingTable.kind = .http
  kinds : ∀ part ≠ .http, (table.part part).kind ≠ .http
  noHTTP : ∀ part ≠ .http, (table.part part).NoHTTP
  supplied : table.httpRoutesRoutingTable.Supplied ⟨.http, actualLRPs⟩

variable {actualLRPs : Set ActualLRP} {tcpTLSEnabled : Bool}

theorem sound_newRoutingTable {normalize : String → String} {direct : Bool} :
    (newRoutingTable normalize direct tcpTLSEnabled).Sound actualLRPs where
  http := rfl
  kinds part hpart := by
    cases part with
    | http => exact absurd rfl hpart
    | tcp | internal => exact fun hkind => by cases hkind
  noHTTP part _ key := by
    rw [entries_part_newRoutingTable]
    exact fun route hroute => absurd hroute not_mem_nil
  supplied key := RouteEmitter.Supplied.empty

/-- Where the other tables send nothing, the messages are those of the HTTP table. -/
theorem identities_outcome {http tcp internal : InternalRoutingTable × Emission}
    (htcp : tcp.2.httpPairings = ∅) (hinternal : internal.2.httpPairings = ∅) :
    (outcome http tcp internal).registered =
        identities http.1.directInstanceRoute http.2.registered ∧
      (outcome http tcp internal).unregistered =
        identities http.1.directInstanceRoute http.2.unregistered := by
  have htcp := identities_of_httpPairings htcp tcp.1.directInstanceRoute
  have hinternal := identities_of_httpPairings hinternal internal.1.directInstanceRoute
  have hregistered : (outcome http tcp internal).registered =
      http.2.registeredIdentities http.1.directInstanceRoute ∪
        tcp.2.registeredIdentities tcp.1.directInstanceRoute ∪
        internal.2.registeredIdentities internal.1.directInstanceRoute := by
    ext i
    simp only [Outcome.registered, outcome, MessagesToEmit.merge, mem_append,
      Set.mem_union, Emission.registeredIdentities, Set.mem_ofPred_eq, or_and_right, exists_or]
  have hunregistered : (outcome http tcp internal).unregistered =
      http.2.unregisteredIdentities http.1.directInstanceRoute ∪
        tcp.2.unregisteredIdentities tcp.1.directInstanceRoute ∪
        internal.2.unregisteredIdentities internal.1.directInstanceRoute := by
    ext i
    simp only [Outcome.unregistered, outcome, MessagesToEmit.merge, mem_append,
      Set.mem_union, Emission.unregisteredIdentities, Set.mem_ofPred_eq, or_and_right, exists_or]
  rw [hregistered, hunregistered, htcp.1, htcp.2, hinternal.1, hinternal.2]
  simp only [Set.union_empty]
  refine ⟨Set.ext fun i => mem_registeredIdentities, Set.ext fun i => mem_unregisteredIdentities⟩

section Calls

variable {actualLRPs : Set ActualLRP} {table other : RoutingTable}

theorem operate_eq_outcome (table : RoutingTable) (operation : Operation) :
    table.operate operation = outcome (table.httpRoutesRoutingTable.operate operation)
      (table.tcpRoutesRoutingTable.operate operation)
      (table.internalRoutesRoutingTable.operate operation) := by
  cases operation <;> rfl

theorem Sound.operate (h : table.Sound actualLRPs) {operation : Operation}
    (hwithin : operation.Within ⟨.http, actualLRPs⟩) :
    (table.operate operation).table.Sound actualLRPs where
  http := by
    rw [operate_eq_outcome]
    exact (operate_kind _ _).trans h.http
  kinds part hpart := by
    rw [part_operate, operate_kind]
    exact h.kinds part hpart
  noHTTP part hpart := by
    rw [part_operate]
    exact (noHTTP_operate (h.kinds part hpart) operation (h.noHTTP part hpart)).1
  supplied := by
    rw [operate_eq_outcome]
    exact supplied_operate (congrArg TableKind.endpointGenerator h.http) hwithin h.supplied

theorem Sound.swap (h : table.Sound actualLRPs) (hother : other.Sound actualLRPs)
    {domains : DomainSet} : (table.swap other domains).table.Sound actualLRPs where
  http := h.http
  kinds part hpart := by
    rw [part_swap]
    exact h.kinds part hpart
  noHTTP part hpart := by
    rw [part_swap]
    exact (noHTTP_swap (h.noHTTP part hpart) (hother.noHTTP part hpart) domains).1
  supplied := supplied_swap hother.supplied

theorem Sound.run (h : table.Sound actualLRPs) {operations : List Operation}
    (hwithin : ∀ operation ∈ operations, operation.Within ⟨.http, actualLRPs⟩) :
    (table.run operations).Sound actualLRPs := by
  induction operations generalizing table with
  | nil => exact h
  | cons operation operations ih =>
    rw [forall_mem_cons] at hwithin
    exact ih (h.operate hwithin.1) hwithin.2

theorem identities_union (direct : Bool) (S T : Set Pairing) :
    identities direct (S ∪ T) = identities direct S ∪ identities direct T := by
  ext i
  simp only [identities, Set.mem_union, Set.mem_ofPred_eq, or_and_right, exists_or]

theorem announces_self : table.Announces ⟨table, {}, {}⟩ := by
  refine ⟨rfl, ∅, ∅, Covers.of_delta Delta.refl, ?_, ?_⟩
  · simp [Outcome.registered, identities]
  · simp [Outcome.unregistered, identities]

theorem Announces.andThen {first : Outcome} {next : RoutingTable → Outcome}
    (hfirst : table.Announces first) (hnext : first.table.Announces (next first.table)) :
    table.Announces (Handler.andThen first next) := by
  obtain ⟨hdirect, added, removed, hcovers, hregistered, hunregistered⟩ := hfirst
  obtain ⟨hdirect', added', removed', hcovers', hregistered', hunregistered'⟩ := hnext
  rw [hdirect] at hdirect' hregistered' hunregistered'
  refine ⟨hdirect', _, _, hcovers.trans hcovers', ?_, ?_⟩
  · rw [identities_union, ← hregistered, ← hregistered']
    ext i
    simp only [Outcome.registered, Handler.andThen, MessagesToEmit.merge, mem_append,
      Set.mem_union, Set.mem_ofPred_eq, or_and_right, exists_or]
  · rw [identities_union, ← hunregistered, ← hunregistered']
    ext i
    simp only [Outcome.unregistered, Handler.andThen, MessagesToEmit.merge, mem_append,
      Set.mem_union, Set.mem_ofPred_eq, or_and_right, exists_or]

section Announce

variable (hagree : (Supply.mk .http actualLRPs).EndpointsAgree)
  (hprocess : (Supply.mk .http actualLRPs).OneProcess)
include hagree hprocess

theorem Sound.announces_operate (h : table.Sound actualLRPs) {operation : Operation}
    (hwithin : operation.Within ⟨.http, actualLRPs⟩) :
    table.Announces (table.operate operation) := by
  have hquiet := fun part hpart => (noHTTP_operate (h.kinds part hpart) operation
    (h.noHTTP part hpart)).2
  obtain ⟨hregistered, hunregistered⟩ := @identities_outcome
    (table.httpRoutesRoutingTable.operate operation)
    (table.tcpRoutesRoutingTable.operate operation)
    (table.internalRoutesRoutingTable.operate operation) (hquiet .tcp (by decide))
    (hquiet .internal (by decide))
  have hdelta := delta_operate hagree hprocess (congrArg TableKind.endpointGenerator h.http)
    hwithin h.supplied
  have hdirect := operate_directInstanceRoute table.httpRoutesRoutingTable operation
  rw [hdirect] at hregistered hunregistered
  rw [operate_eq_outcome]
  exact ⟨hdirect, _, _, Covers.of_delta hdelta, hregistered, hunregistered⟩

theorem Sound.announces_swap (h : table.Sound actualLRPs) (hother : other.Sound actualLRPs)
    {domains : DomainSet} : table.Announces (table.swap other domains) := by
  have hquiet := fun part hpart => (noHTTP_swap (h.noHTTP part hpart)
    (hother.noHTTP part hpart) domains).2
  obtain ⟨hregistered, hunregistered⟩ := @identities_outcome
    (table.httpRoutesRoutingTable.swap other.httpRoutesRoutingTable domains)
    (table.tcpRoutesRoutingTable.swap other.tcpRoutesRoutingTable domains)
    (table.internalRoutesRoutingTable.swap other.internalRoutesRoutingTable domains)
    (hquiet .tcp (by decide)) (hquiet .internal (by decide))
  have hdelta := delta_swap hagree hprocess h.supplied hother.supplied domains
  exact ⟨rfl, _, _, Covers.of_delta hdelta, hregistered, hunregistered⟩

/-- The outcome of an update: one or two calls, merged. -/
theorem Sound.announces_actualUpdate (h : table.Sound actualLRPs) {before after : ActualLRP}
    (hwithin : ∀ operation ∈ updateOperations before after, operation.Within ⟨.http, actualLRPs⟩) :
    table.Announces (Handler.actualUpdate table before after) := by
  unfold Handler.actualUpdate
  by_cases hrunning : after.state = .running
  · rw [if_pos hrunning]
    -- the call for the endpoint after, then the one for the endpoint before
    have hfirst : ∀ first : Outcome,
        (first = table.addEndpoint after ∧ .addEndpoint after ∈ updateOperations before after ∨
          first = table.removeEndpoint after ∨ first = ⟨table, {}, {}⟩) →
        table.Announces first ∧ first.table.Sound actualLRPs := by
      rintro first (⟨rfl, hmem⟩ | rfl | rfl)
      · exact ⟨h.announces_operate hagree hprocess (hwithin _ hmem), h.operate (hwithin _ hmem)⟩
      · exact ⟨@Sound.announces_operate _ _ hagree hprocess h (.removeEndpoint after) trivial,
          @Sound.operate _ _ h (.removeEndpoint after) trivial⟩
      · exact ⟨announces_self, h⟩
    have hchoice := hfirst (if !after.routableExists || after.getRoutable then
        table.addEndpoint after
      else if before.getRoutable then table.removeEndpoint after else ⟨table, {}, {}⟩) (by
        by_cases hroutable : (!after.routableExists || after.getRoutable) = true
        · rw [if_pos hroutable]
          refine Or.inl ⟨rfl, ?_⟩
          rw [updateOperations, if_pos hrunning, if_pos hroutable]
          exact mem_append_left _ mem_cons_self
        · rw [if_neg hroutable]
          split
          · exact Or.inr (Or.inl rfl)
          · exact Or.inr (Or.inr rfl))
    dsimp only
    split
    · exact hchoice.1.andThen (@Sound.announces_operate _ _ hagree hprocess hchoice.2
        (.removeEndpoint before) trivial)
    · exact hchoice.1
  · rw [if_neg hrunning]
    split
    · exact @Sound.announces_operate _ _ hagree hprocess h (.removeEndpoint before) trivial
    · exact announces_self

end Announce

end Calls

end RoutingTable

/-! ## What an operation can bring -/

/-- The pairings that an operation can add to a table: the endpoints of the actual LRP
with the routes of their entry, or the routes of the desired LRP with the endpoints that
are there. -/
def InternalRoutingTable.brought (table : InternalRoutingTable) : Operation → Set Pairing
  | .addEndpoint actualLRP =>
    {p | ∃ endpoint ∈ table.kind.endpointGenerator actualLRP, ∃ key : RoutingKey,
      key = ⟨actualLRP.processGuid, endpoint.containerPort⟩ ∧
      undesiredInstance (table.entries.read key) endpoint = false ∧
      (∃ route ∈ (table.entries.read key).routes, route.hash = p.1) ∧ endpoint.erase = p.2}
  | .removeEndpoint _ => ∅
  | .setRoutes _ after =>
    {p | ∃ lrp, after = some lrp ∧ ∃ key routes,
      (table.kind.routesGenerator (some lrp)).lookup key = some routes ∧
      succeededBy (table.entries.read key).modificationTag lrp.modificationTag = true ∧
      (∃ route ∈ routes, route.hash = p.1) ∧
      ∃ endpointKey endpoint, (table.entries.read key).endpoints.lookup endpointKey =
        some endpoint ∧ endpoint.erase = p.2}
  | .removeRoutes _ => ∅

section Brought

variable (table : InternalRoutingTable) (key : RoutingKey) {actualLRP : ActualLRP}
  {before : Option DesiredLRP}

theorem entryPairings_addEndpoint :
    entryPairings (updates Change.apply
        (changesAt key ((Operation.addEndpoint actualLRP).changes table.kind))
        (table.entries.lookup key)) ⊆
      entryPairings (table.entries.lookup key) ∪ table.brought (.addEndpoint actualLRP) := by
  -- the loop leaves the routes and the number of instances of the entry alone
  refine (updates_induction (fun (current : Option RoutableEndpoints) =>
    (current.getD default).routes = (table.entries.read key).routes ∧
      (current.getD default).desiredInstances = (table.entries.read key).desiredInstances ∧
      entryPairings current ⊆ entryPairings (table.entries.lookup key) ∪
        table.brought (.addEndpoint actualLRP)) ⟨rfl, rfl, Set.subset_union_left⟩
    fun change hchange current hcurrent => ?_).2.2
  obtain ⟨endpoint, hendpoint, hkey, rfl⟩ := mem_endpointChanges (mem_changesAt.mp hchange)
  obtain ⟨hroutes, hlimit, hpairings⟩ := hcurrent
  cases hnext : (addChange endpoint).next (current.getD default) with
  | none =>
    rw [Change.apply_of_none hnext]
    exact ⟨hroutes, hlimit, hpairings⟩
  | some entry =>
    have hdesired : undesiredInstance (current.getD default) endpoint = false := by
      by_contra hundesired
      simp [addChange, hundesired] at hnext
    rw [Change.apply_of_some hnext, eq_of_addChange_next hnext]
    refine ⟨hroutes, hlimit, ?_⟩
    rw [entryPairings_stored]
    rintro p ⟨hroute, endpointKey, found, hlookup, herase⟩
    rw [GoMap.lookup_insert_ite] at hlookup
    split at hlookup
    · cases hlookup
      refine Or.inr ⟨endpoint, hendpoint, key, hkey, ?_, hroutes ▸ hroute, herase⟩
      rw [undesiredInstance, ← hlimit]
      exact hdesired
    · exact hpairings ⟨hroute, endpointKey, found, hlookup, herase⟩

theorem entryPairings_removeEndpoint :
    entryPairings (updates Change.apply
        (changesAt key ((Operation.removeEndpoint actualLRP).changes table.kind))
        (table.entries.lookup key)) ⊆ entryPairings (table.entries.lookup key) := by
  refine updates_induction (fun (current : Option RoutableEndpoints) =>
    entryPairings current ⊆ entryPairings (table.entries.lookup key)) subset_rfl
    fun change hchange current hcurrent => ?_
  obtain ⟨endpoint, -, -, rfl⟩ := mem_endpointChanges (mem_changesAt.mp hchange)
  cases hnext : (removeChange endpoint).next (current.getD default) with
  | none => rwa [Change.apply_of_none hnext]
  | some entry =>
    rw [Change.apply_of_some hnext, entryPairings_stored]
    refine subset_trans ?_ hcurrent
    rintro p ⟨hroute, endpointKey, found, hlookup, herase⟩
    rw [endpointsOnly_removeChange endpoint _ _ hnext] at hroute
    exact ⟨hroute, endpointKey, found, shrinks_removeChange _ _ hnext _ _ hlookup, herase⟩

theorem entryPairings_setRoutes {after : Option DesiredLRP} :
    entryPairings (updates Change.apply (changesAt key (routesChanges table.kind before after))
        (table.entries.lookup key)) ⊆
      entryPairings (table.entries.lookup key) ∪ table.brought (.setRoutes before after) := by
  rw [changesAt_routesChanges]
  cases hchange : routesChangeAt table.kind before after key with
  | none => exact Set.subset_union_left
  | some change =>
    rw [Option.toList_some, updates_cons, updates_nil]
    cases hnext : change.next ((table.entries.lookup key).getD default) with
    | none =>
      rw [Change.apply_of_none hnext]
      exact Set.subset_union_left
    | some entry =>
      rw [Change.apply_of_some hnext, entryPairings_stored]
      rintro p ⟨hroute, endpointKey, found, hlookup, herase⟩
      rcases routesChangeAt_cases hchange with ⟨lrp, routes, rfl, hroutes, rfl⟩ | ⟨-, rfl⟩
      · have hfound := shrinks_setRoutesChange _ _ hnext _ _ hlookup
        obtain ⟨htag, rfl⟩ := eq_of_setRoutesChange_next hnext
        exact Or.inr ⟨lrp, rfl, key, routes, hroutes, htag, hroute, endpointKey, found,
          hfound, herase⟩
      · obtain rfl := eq_of_removeRoutesChange_next hnext
        obtain ⟨route, hroute, -⟩ := hroute
        rw [routes_withoutRoutes] at hroute
        exact absurd hroute not_mem_nil

/-- An operation adds nothing but what it can bring. -/
theorem pairings_operate_subset {operation : Operation} :
    (table.operate operation).1.pairings ⊆ table.pairings ∪ table.brought operation := by
  intro p hp
  obtain ⟨key, hp⟩ := Set.mem_iUnion.mp hp
  rw [lookup_operate] at hp
  have hlift : ∀ brought : Set Pairing,
      p ∈ entryPairings (table.entries.lookup key) ∪ brought → p ∈ table.pairings ∪ brought :=
    fun brought hp => hp.imp_left fun hp => Set.mem_iUnion.mpr ⟨key, hp⟩
  cases operation with
  | addEndpoint actualLRP => exact hlift _ (entryPairings_addEndpoint table key hp)
  | removeEndpoint actualLRP =>
    exact hlift _ (Or.inl (entryPairings_removeEndpoint table key hp))
  | setRoutes before after => exact hlift _ (entryPairings_setRoutes table key hp)
  | removeRoutes desiredLRP =>
    refine hlift _ ((entryPairings_setRoutes table key hp).imp_right ?_)
    rintro ⟨lrp, hnone, -⟩
    simp at hnone

end Brought

end Diego.RouteEmitter
