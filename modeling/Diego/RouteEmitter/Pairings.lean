import Diego.RouteEmitter.Entries

/-!
# Incremental emission agrees with full emission

A listener that starts with nothing and follows the emissions of a table, adding
the pairings that are registered and dropping those that are unregistered, ends
with exactly the pairings of the table, the ones `GetRoutingEvents` registers.

Two assumptions carry this.  Endpoints of one instance and container port agree up
to the erased fields, so that the difference of two entries is exact
(`emitDiffMessages_delta`).  And one instance guid belongs to one process guid, so
that a pairing is owned by one routing key: what one entry unregisters is then not
registered by another.
-/

namespace Diego.RouteEmitter

open Diego.Models InternalRoutingTable

/-! ## The pairings of a table -/

/-- The pairings of the entry of a key, if there is one. -/
def entryPairings (entry : Option RoutableEndpoints) : Set Pairing :=
  (entry.getD default).pairings

def InternalRoutingTable.pairings (table : InternalRoutingTable) : Set Pairing :=
  ⋃ key, entryPairings (table.entries.lookup key)

@[simp] theorem entryPairings_none : entryPairings none = ∅ := by
  simp [entryPairings, RoutableEndpoints.pairings, show (default : RoutableEndpoints).routes = []
    from rfl]

variable {entry : RoutableEndpoints} {endpoint : Endpoint} {before : Option DesiredLRP}
  {routes : List RouteMapping} {processGuids : List String} {processGuid : String}

/-- An empty entry has no pairings, so dropping it changes nothing. -/
theorem entryPairings_stored (prune : Bool) :
    entryPairings (entry.stored prune) = entry.pairings := by
  unfold RoutableEndpoints.stored
  split
  · rename_i hprune
    have hempty : entry.isEmpty = true := by
      rw [Bool.and_eq_true] at hprune
      exact hprune.2
    have hroutes : entry.routes = [] := (of_decide_eq_true hempty).2
    simp [RoutableEndpoints.pairings, hroutes]
  · rfl

/-- A full emission of one entry registers its pairings. -/
theorem registered_emitDiffMessages_default (normalize : String → String) :
    (emitDiffMessages normalize default entry).registered = entry.pairings := by
  ext p
  rw [mem_registered_emitDiffMessages]
  constructor
  · rintro ⟨endpoint, herase, ⟨⟨route, hroute, hhash⟩, hvalue⟩ | ⟨hroutes, hvalue⟩⟩
    · obtain ⟨key, hlookup⟩ := GoMap.mem_values.mp hvalue
      exact ⟨⟨route, exists_after_of_added hroute, hhash⟩, key, endpoint, hlookup, herase⟩
    · obtain ⟨key, hlookup⟩ := of_mem_unmatchedEndpoints hvalue
      exact ⟨hroutes, key, endpoint, hlookup, herase⟩
  · rintro ⟨hroutes, key, endpoint, hlookup, herase⟩
    refine ⟨endpoint, herase, Or.inl ⟨exists_added_of_new hroutes ?_,
      GoMap.mem_values.mpr ⟨key, hlookup⟩⟩⟩
    rintro ⟨route, hroute, -⟩
    simp [show (default : RoutableEndpoints).routes = [] from rfl] at hroute

theorem registered_getRoutingEvents {table : InternalRoutingTable} :
    table.getRoutingEvents.registered = table.pairings := by
  have hfold : ∀ (entries : List RoutableEndpoints) (emission : Emission),
      (entries.foldl (fun emission entry =>
          emission.merge (emitDiffMessages table.normalize default entry)) emission).registered =
        emission.registered ∪ {p | ∃ entry ∈ entries, p ∈ entry.pairings} := by
    intro entries
    induction entries with
    | nil => simp
    | cons entry entries ih =>
      intro emission
      rw [List.foldl_cons, ih, isLog_registered.merge, registered_emitDiffMessages_default,
        Set.union_assoc]
      ext p
      simp
  rw [getRoutingEvents, hfold, isLog_registered.empty, Set.empty_union]
  ext p
  simp only [InternalRoutingTable.pairings, Set.mem_iUnion, GoMap.mem_values]
  constructor
  · rintro ⟨entry, ⟨key, hlookup⟩, hp⟩
    exact ⟨key, by rw [hlookup]; exact hp⟩
  · rintro ⟨key, hp⟩
    cases hlookup : table.entries.lookup key with
    | none => rw [hlookup, entryPairings_none] at hp; exact absurd hp (Set.notMem_empty p)
    | some entry =>
      rw [hlookup] at hp
      exact ⟨entry, ⟨key, hlookup⟩, hp⟩

/-! ## Where endpoints come from -/

/-- The actual LRPs that are given to `AddEndpoint`, and what the tables make of them. -/
structure Supply where
  kind : TableKind
  actualLRPs : Set ActualLRP

namespace Supply

variable (supply : Supply)

/-- The endpoint is one that `AddEndpoint` files under the key. -/
def Provides (key : RoutingKey) (endpoint : Endpoint) : Prop :=
  ∃ actualLRP ∈ supply.actualLRPs, endpoint ∈ supply.kind.endpointGenerator actualLRP ∧
    key = ⟨actualLRP.processGuid, endpoint.containerPort⟩

/-- All endpoints supplied for one instance and container port agree on every field
but the modification tag, the presence and since. -/
def EndpointsAgree : Prop :=
  ∀ actualLRP ∈ supply.actualLRPs, ∀ actualLRP' ∈ supply.actualLRPs,
    ∀ endpoint ∈ supply.kind.endpointGenerator actualLRP,
    ∀ endpoint' ∈ supply.kind.endpointGenerator actualLRP',
      endpoint.instanceGUID = endpoint'.instanceGUID →
      endpoint.containerPort = endpoint'.containerPort → endpoint.erase = endpoint'.erase

/-- An instance guid belongs to one process guid. -/
def OneProcess : Prop :=
  ∀ actualLRP ∈ supply.actualLRPs, ∀ actualLRP' ∈ supply.actualLRPs,
    actualLRP.instanceGuid = actualLRP'.instanceGuid →
      actualLRP.processGuid = actualLRP'.processGuid

end Supply

/-- The endpoints of an entry: each is filed under its own key and was supplied for
the routing key of the entry. -/
structure Supplied (supply : Supply) (key : RoutingKey)
    (endpoints : GoMap EndpointKey Endpoint) : Prop where
  key_eq : ∀ endpointKey endpoint, endpoints.lookup endpointKey = some endpoint →
    endpoint.key = endpointKey
  provided : ∀ endpointKey endpoint, endpoints.lookup endpointKey = some endpoint →
    supply.Provides key endpoint

section Supplied

variable {supply : Supply} {key : RoutingKey} {endpoints : GoMap EndpointKey Endpoint}

theorem Supplied.empty : Supplied supply key ∅ where
  key_eq _ _ hlookup := by simp at hlookup
  provided _ _ hlookup := by simp at hlookup

theorem Supplied.mono {endpoints' : GoMap EndpointKey Endpoint} (h : Supplied supply key endpoints)
    (hsub : ∀ endpointKey endpoint, endpoints'.lookup endpointKey = some endpoint →
      endpoints.lookup endpointKey = some endpoint) : Supplied supply key endpoints' where
  key_eq _ _ hlookup := h.key_eq _ _ (hsub _ _ hlookup)
  provided _ _ hlookup := h.provided _ _ (hsub _ _ hlookup)

theorem Supplied.insert (h : Supplied supply key endpoints)
    (hendpoint : supply.Provides key endpoint) :
    Supplied supply key (endpoints.insert endpoint.key endpoint) where
  key_eq endpointKey found hlookup := by
    rw [GoMap.lookup_insert_ite] at hlookup
    split at hlookup
    · rename_i hkey
      rw [← Option.some.inj hlookup, hkey]
    · exact h.key_eq _ _ hlookup
  provided endpointKey found hlookup := by
    rw [GoMap.lookup_insert_ite] at hlookup
    split at hlookup
    · rwa [← Option.some.inj hlookup]
    · exact h.provided _ _ hlookup

/-- Supplied endpoints of one routing key agree, so their difference is exact. -/
theorem Supplied.endpointsAgree {first second : GoMap EndpointKey Endpoint}
    (hagree : supply.EndpointsAgree) (hfirst : Supplied supply key first)
    (hsecond : Supplied supply key second) : EndpointsAgree first second where
  key_first := hfirst.key_eq
  key_second := hsecond.key_eq
  erase_eq endpointKey endpointKey' endpoint endpoint' hlookup hlookup' hguid := by
    obtain ⟨actualLRP, hactual, hmem, hkey⟩ := hfirst.provided _ _ hlookup
    obtain ⟨actualLRP', hactual', hmem', hkey'⟩ := hsecond.provided _ _ hlookup'
    refine hagree _ hactual _ hactual' _ hmem _ hmem' hguid ?_
    rw [hkey, RoutingKey.mk.injEq] at hkey'
    exact hkey'.2

/-- A pairing is owned by one routing key. -/
theorem Supplied.key_unique {key' : RoutingKey} {entry' : RoutableEndpoints}
    (hprocess : supply.OneProcess) (h : Supplied supply key entry.endpoints)
    (h' : Supplied supply key' entry'.endpoints) {p : Pairing} (hp : p ∈ entry.pairings)
    (hp' : p ∈ entry'.pairings) : key = key' := by
  obtain ⟨-, endpointKey, endpoint, hlookup, herase⟩ := hp
  obtain ⟨-, endpointKey', endpoint', hlookup', herase'⟩ := hp'
  obtain ⟨actualLRP, hactual, hmem, rfl⟩ := h.provided _ _ hlookup
  obtain ⟨actualLRP', hactual', hmem', rfl⟩ := h'.provided _ _ hlookup'
  have hsame : endpoint.erase = endpoint'.erase := herase.trans herase'.symm
  have hport : endpoint.containerPort = endpoint'.containerPort := by
    rw [← Endpoint.erase_containerPort, hsame, Endpoint.erase_containerPort]
  have hguid : actualLRP.instanceGuid = actualLRP'.instanceGuid := by
    rw [← (generated_of_mem hmem).instanceGUID, ← (generated_of_mem hmem').instanceGUID,
      ← Endpoint.erase_instanceGUID, hsame, Endpoint.erase_instanceGUID]
  rw [hprocess _ hactual _ hactual' hguid, hport]

end Supplied

/-! ## Changes keep the endpoints supplied -/

def Operation.Within (supply : Supply) : Operation → Prop
  | .addEndpoint actualLRP => actualLRP ∈ supply.actualLRPs
  | .removeEndpoint _ => True
  | .setRoutes _ _ => True
  | .removeRoutes _ => True

theorem lookup_of_lookup_scaledEndpoints {after : DesiredLRP}
    {endpoints : GoMap EndpointKey Endpoint} {endpointKey : EndpointKey}
    (hlookup : (scaledEndpoints before after endpoints).lookup endpointKey = some endpoint) :
    endpoints.lookup endpointKey = some endpoint := by
  unfold scaledEndpoints at hlookup
  cases before with
  | none => exact hlookup
  | some before =>
    dsimp only at hlookup
    split at hlookup
    · rw [GoMap.lookup_restrict] at hlookup
      exact (Option.filter_eq_some_iff.mp hlookup).1
    · exact hlookup

/-- A change other than an addition leaves a part of the endpoints. -/
def Change.Shrinks (change : Change) : Prop :=
  ∀ current entry, change.next current = some entry → ∀ endpointKey endpoint,
    entry.endpoints.lookup endpointKey = some endpoint →
      current.endpoints.lookup endpointKey = some endpoint

theorem shrinks_removeChange : (removeChange endpoint).Shrinks := by
  intro current entry hnext endpointKey found hlookup
  obtain rfl := eq_of_removeChange_next hnext
  exact (GoMap.lookup_erase_eq_some.mp hlookup).2

theorem shrinks_setRoutesChange {after : DesiredLRP} :
    (setRoutesChange before after routes).Shrinks := by
  intro current entry hnext endpointKey found hlookup
  obtain ⟨-, rfl⟩ := eq_of_setRoutesChange_next hnext
  exact lookup_of_lookup_scaledEndpoints hlookup

theorem shrinks_removeRoutesChange {after : Option DesiredLRP} :
    (removeRoutesChange before after).Shrinks := by
  intro current entry hnext endpointKey found hlookup
  obtain rfl := eq_of_removeRoutesChange_next hnext
  rwa [endpoints_withoutRoutes] at hlookup

section Change

variable {supply : Supply} {kind : TableKind} {operation : Operation} {key : RoutingKey}
  {change : Change} {current : Option RoutableEndpoints}

/-- What a change puts into an entry was supplied for its key. -/
theorem Operation.supplied_next (hkind : kind.endpointGenerator = supply.kind.endpointGenerator)
    (hwithin : operation.Within supply) (hmem : (key, change) ∈ operation.changes kind)
    {entry' : RoutableEndpoints} (hentry : Supplied supply key entry.endpoints)
    (hnext : change.next entry = some entry') : Supplied supply key entry'.endpoints := by
  rcases mem_changes hmem with ⟨actualLRP, endpoint, rfl, hendpoint, rfl, rfl⟩ | ⟨endpoint, rfl⟩ |
    ⟨before, lrp, routes, -, -, rfl⟩ | ⟨before, after, rfl⟩
  · rw [hkind] at hendpoint
    obtain rfl := eq_of_addChange_next hnext
    exact hentry.insert ⟨actualLRP, hwithin, hendpoint, rfl⟩
  · exact hentry.mono (shrinks_removeChange _ _ hnext)
  · exact hentry.mono (shrinks_setRoutesChange _ _ hnext)
  · exact hentry.mono (shrinks_removeRoutesChange _ _ hnext)

theorem Operation.supplied_apply (hkind : kind.endpointGenerator = supply.kind.endpointGenerator)
    (hwithin : operation.Within supply) (hmem : (key, change) ∈ operation.changes kind)
    (hcurrent : Supplied supply key (current.getD default).endpoints) :
    Supplied supply key ((change.apply current).getD default).endpoints :=
  change.apply_induction (Supplied supply key ·.endpoints) .empty hcurrent fun _ =>
    operation.supplied_next hkind hwithin hmem hcurrent

variable (normalize : String → String)

/-- A change between supplied entries emits exactly its difference. -/
theorem Change.delta (hagree : supply.EndpointsAgree)
    (hcurrent : Supplied supply key (current.getD default).endpoints)
    (hnext : ∀ entry, change.next (current.getD default) = some entry →
      Supplied supply key entry.endpoints) :
    Delta (entryPairings current) (change.emission normalize current).registered
      (change.emission normalize current).unregistered (entryPairings (change.apply current)) := by
  unfold Change.emission Change.apply
  split
  · rw [isLog_registered.empty, isLog_unregistered.empty]
    exact Delta.refl
  · rename_i entry hentry
    rw [entryPairings_stored]
    exact emitDiffMessages_delta normalize
      (Supplied.endpointsAgree hagree hcurrent (hnext entry hentry))

theorem unregistered_addChange (hagree : supply.EndpointsAgree)
    (hendpoint : supply.Provides key endpoint)
    (hcurrent : Supplied supply key (current.getD default).endpoints) :
    ((addChange endpoint).emission normalize current).unregistered = ∅ := by
  unfold Change.emission
  split
  · exact isLog_unregistered.empty
  · rename_i entry hnext
    obtain rfl := eq_of_addChange_next hnext
    have hagrees := Supplied.endpointsAgree hagree hcurrent (hcurrent.insert hendpoint)
    have hdelta := @emitDiffMessages_delta (current.getD default)
      { current.getD default with
        endpoints := (current.getD default).endpoints.insert endpoint.key endpoint }
      normalize hagrees
    -- the old pairings are still there: the entry's routes are the same, and the
    -- endpoint that is replaced, if any, agrees with the new one
    rw [Set.eq_empty_iff_forall_notMem]
    intro p hp
    obtain ⟨hroutes, endpointKey, found, hlookup, herase⟩ := hdelta.removed_subset hp
    refine Set.disjoint_left.mp hdelta.disjoint_removed hp ⟨hroutes, endpointKey, ?_⟩
    rw [GoMap.lookup_insert_ite]
    split
    · rename_i hkey
      refine ⟨endpoint, rfl, ?_⟩
      rw [← herase]
      refine (hagrees.erase_eq _ _ _ _ hlookup (AList.lookup_insert _) ?_).symm
      rw [← Endpoint.key_instanceGUID, hcurrent.key_eq _ _ hlookup, hkey]
      rfl
    · exact ⟨found, hlookup, herase⟩

theorem added_diffRoutes_self : (diffRoutes normalize routes routes).added = [] := by
  rw [List.eq_nil_iff_forall_not_mem]
  intro route hroute
  simp only [diffRoutes, GoMap.mem_values, GoMap.lookup_restrict, Option.filter_eq_some_iff]
    at hroute
  obtain ⟨hash, hlookup, hdifferent⟩ := hroute
  simp [hlookup] at hdifferent

theorem registered_removeChange (hagree : supply.EndpointsAgree)
    (hcurrent : Supplied supply key (current.getD default).endpoints) :
    ((removeChange endpoint).emission normalize current).registered = ∅ := by
  unfold Change.emission
  split
  · exact isLog_registered.empty
  · rename_i entry hnext
    have hshrinks := shrinks_removeChange _ _ hnext
    have hroutes : entry.routes = (current.getD default).routes := by
      rw [eq_of_removeChange_next hnext]
    have hagrees := Supplied.endpointsAgree hagree hcurrent (hcurrent.mono hshrinks)
    rw [Set.eq_empty_iff_forall_notMem]
    intro p hp
    obtain ⟨found, herase, hcase⟩ := mem_registered_emitDiffMessages.mp hp
    rcases hcase with ⟨⟨route, hroute, -⟩, -⟩ | ⟨-, hvalue⟩
    · rw [hroutes, added_diffRoutes_self] at hroute
      simp at hroute
    · obtain ⟨hmem, hnone⟩ := hagrees.symm.mem_unmatched_iff.mp hvalue
      obtain ⟨endpointKey, hlookup⟩ := GoMap.mem_values.mp hmem
      exact hnone _ _ (hshrinks _ _ hlookup) rfl

end Change

/-! ## Operations announce exactly what they change -/

/-- Every endpoint of the table is supplied for the routing key of its entry. -/
def InternalRoutingTable.Supplied (supply : Supply) (table : InternalRoutingTable) : Prop :=
  ∀ key, RouteEmitter.Supplied supply key ((table.entries.lookup key).getD default).endpoints

section Table

variable {supply : Supply} {table : InternalRoutingTable}

variable {operation : Operation} {domains : DomainSet} {other : InternalRoutingTable}

theorem supplied_operate (hkind : table.kind.endpointGenerator = supply.kind.endpointGenerator)
    (hwithin : operation.Within supply) (h : table.Supplied supply) :
    (table.operate operation).1.Supplied supply :=
  fun key => operate_induction table operation .empty
    (h key) fun _ hmem _ _ => operation.supplied_next hkind hwithin hmem

theorem supplied_swap (h : other.Supplied supply) :
    (table.swap other domains).1.Supplied supply := by
  intro key
  rw [lookup_swap]
  unfold swapEntry
  split
  · exact h key
  · refine stored_induction (RouteEmitter.Supplied supply key ·.endpoints) .empty ?_
    exact h key

/-- What one entry unregisters is not a pairing of another entry. -/
theorem disjoint_of_supplied (hprocess : supply.OneProcess)
    {entry entry' : Option RoutableEndpoints} {key key' : RoutingKey} (hne : key ≠ key')
    (h : RouteEmitter.Supplied supply key (entry.getD default).endpoints)
    (h' : RouteEmitter.Supplied supply key' (entry'.getD default).endpoints)
    {removed : Set Pairing} (hremoved : removed ⊆ entryPairings entry) :
    Disjoint removed (entryPairings entry') := by
  rw [Set.disjoint_left]
  intro p hp hp'
  exact hne (h.key_unique hprocess h' (hremoved hp) hp')

/-- The changes of an operation for one key announce exactly what they change. -/
theorem delta_changesAt (hagree : supply.EndpointsAgree)
    (hkind : table.kind.endpointGenerator = supply.kind.endpointGenerator)
    (hwithin : operation.Within supply) (h : table.Supplied supply) (key : RoutingKey) :
    Delta (entryPairings (table.entries.lookup key))
      (outputs Change.apply
        (fun change current => (change.emission table.normalize current).registered)
        (changesAt key (operation.changes table.kind)) (table.entries.lookup key))
      (outputs Change.apply
        (fun change current => (change.emission table.normalize current).unregistered)
        (changesAt key (operation.changes table.kind)) (table.entries.lookup key))
      (entryPairings (updates Change.apply (changesAt key (operation.changes table.kind))
        (table.entries.lookup key))) := by
  have hstep : ∀ change ∈ changesAt key (operation.changes table.kind),
      ∀ current : Option RoutableEndpoints,
        RouteEmitter.Supplied supply key (current.getD default).endpoints →
        RouteEmitter.Supplied supply key ((change.apply current).getD default).endpoints ∧
        Delta (entryPairings current) (change.emission table.normalize current).registered
          (change.emission table.normalize current).unregistered
          (entryPairings (change.apply current)) := by
    intro change hchange current hcurrent
    have hmem := mem_changesAt.mp hchange
    exact ⟨operation.supplied_apply hkind hwithin hmem hcurrent,
      Change.delta table.normalize hagree hcurrent fun entry hnext =>
        operation.supplied_next hkind hwithin hmem hcurrent hnext⟩
  -- `SetRoutes` changes a key at most once
  have hroutes : ∀ before after, operation.changes table.kind =
      routesChanges table.kind before after →
        (changesAt key (operation.changes table.kind)).length ≤ 1 := by
    intro before after heq
    rw [heq, changesAt_routesChanges]
    exact Option.length_toList_le
  cases operation with
  | addEndpoint actualLRP =>
    refine Delta.outputs_of_one_sided (h key) hstep (Or.inl ?_)
    intro change hchange current hcurrent
    obtain ⟨endpoint, hendpoint, rfl, rfl⟩ := mem_endpointChanges (mem_changesAt.mp hchange)
    rw [hkind] at hendpoint
    exact unregistered_addChange table.normalize hagree ⟨actualLRP, hwithin, hendpoint, rfl⟩
      hcurrent
  | removeEndpoint actualLRP =>
    refine Delta.outputs_of_one_sided (h key) hstep (Or.inr ?_)
    intro change hchange current hcurrent
    obtain ⟨endpoint, -, rfl, rfl⟩ := mem_endpointChanges (mem_changesAt.mp hchange)
    exact registered_removeChange table.normalize hagree hcurrent
  | setRoutes before after =>
    exact Delta.outputs_of_length_le_one (hroutes before after rfl) (h key) hstep
  | removeRoutes desiredLRP =>
    exact Delta.outputs_of_length_le_one (hroutes desiredLRP none rfl) (h key) hstep

/-- **An operation announces exactly what it changes.** -/
theorem delta_operate (hagree : supply.EndpointsAgree) (hprocess : supply.OneProcess)
    (hkind : table.kind.endpointGenerator = supply.kind.endpointGenerator)
    (hwithin : operation.Within supply) (h : table.Supplied supply) :
    Delta table.pairings (table.operate operation).2.registered
      (table.operate operation).2.unregistered (table.operate operation).1.pairings := by
  have hentry := delta_changesAt hagree hkind hwithin h
  unfold InternalRoutingTable.pairings
  rw [log_operate table operation isLog_registered, log_operate table operation isLog_unregistered]
  simp only [lookup_operate]
  refine Delta.iUnion hentry ?_
  intro key key' hne
  refine disjoint_of_supplied hprocess hne (h key) ?_ (hentry key).removed_subset
  rw [← lookup_operate]
  exact supplied_operate hkind hwithin h key'

/-- **`Swap` announces exactly what it changes.** -/
theorem delta_swap (hagree : supply.EndpointsAgree) (hprocess : supply.OneProcess)
    (h : table.Supplied supply) (hother : other.Supplied supply) (domains : DomainSet) :
    Delta table.pairings (table.swap other domains).2.registered
      (table.swap other domains).2.unregistered (table.swap other domains).1.pairings := by
  have hentry : ∀ key, Delta (entryPairings (table.entries.lookup key))
      (if key ∈ mergedRoutingKeys table other then
        (swapEmission table.normalize domains (table.entries.lookup key)
          (other.entries.lookup key)).registered else ∅)
      (if key ∈ mergedRoutingKeys table other then
        (swapEmission table.normalize domains (table.entries.lookup key)
          (other.entries.lookup key)).unregistered else ∅)
      (entryPairings (swapEntry domains (table.entries.lookup key)
        (other.entries.lookup key))) := by
    intro key
    by_cases hkey : key ∈ mergedRoutingKeys table other
    · rw [if_pos hkey, if_pos hkey]
      have hold := h key
      unfold swapEmission swapEntry
      cases hexisting : table.entries.lookup key with
      | none =>
        exact emitDiffMessages_delta table.normalize
          (RouteEmitter.Supplied.endpointsAgree hagree .empty (hother key))
      | some existing =>
        rw [hexisting] at hold
        rw [entryPairings_stored]
        exact emitDiffMessages_delta table.normalize
          (RouteEmitter.Supplied.endpointsAgree hagree hold (hother key))
    · rw [if_neg hkey, if_neg hkey]
      rw [mem_mergedRoutingKeys, not_or] at hkey
      rw [AList.lookup_eq_none.mpr hkey.1, AList.lookup_eq_none.mpr hkey.2]
      exact Delta.refl
  unfold InternalRoutingTable.pairings
  rw [log_swap table other domains isLog_registered, log_swap table other domains
    isLog_unregistered]
  simp only [lookup_swap]
  refine Delta.iUnion hentry ?_
  intro key key' hne
  refine disjoint_of_supplied hprocess hne (h key) ?_ (hentry key).removed_subset
  rw [← lookup_swap]
  exact supplied_swap hother key'

end Table

/-! ## Following a table -/

/-- The set of a listener after one more emission. -/
def Emission.follow (emission : Emission) (S : Set Pairing) : Set Pairing :=
  (S ∪ emission.registered) \ emission.unregistered

/-- Some run of calls from an empty table, which adds endpoints of supplied actual
LRPs only, ends in `table`, and a listener that follows it ends with the set `S`.
The table handed to `Swap` is any table that is reached in the same way. -/
inductive Tracked (supply : Supply) : InternalRoutingTable → Set Pairing → Prop
  | empty (kind : TableKind) (directInstanceRoute : Bool) (normalize : String → String)
      (hkind : kind.endpointGenerator = supply.kind.endpointGenerator) :
      Tracked supply ⟨kind, directInstanceRoute, normalize, ∅, ∅⟩ ∅
  | operate {table : InternalRoutingTable} {S : Set Pairing} (operation : Operation)
      (htable : Tracked supply table S) (hwithin : operation.Within supply) :
      Tracked supply (table.operate operation).1 ((table.operate operation).2.follow S)
  | swap {table other : InternalRoutingTable} {S T : Set Pairing} (domains : DomainSet)
      (htable : Tracked supply table S) (hother : Tracked supply other T) :
      Tracked supply (table.swap other domains).1 ((table.swap other domains).2.follow S)

section Tracked

variable {supply : Supply} {table : InternalRoutingTable} {S : Set Pairing}

theorem Tracked.generator (h : Tracked supply table S) :
    table.kind.endpointGenerator = supply.kind.endpointGenerator := by
  induction h with
  | empty kind directInstanceRoute normalize hkind => exact hkind
  | operate operation htable hwithin ih => rwa [operate_kind]
  | swap domains htable hother ih ihother => rwa [swap_kind]

theorem Tracked.supplied (h : Tracked supply table S) : table.Supplied supply := by
  induction h with
  | empty kind directInstanceRoute normalize hkind => exact fun key => RouteEmitter.Supplied.empty
  | operate operation htable hwithin ih => exact supplied_operate htable.generator hwithin ih
  | swap domains htable hother ih ihother => exact supplied_swap ihother

/-- **Incremental emission agrees with full emission**: after every run the set of the
listener is what `GetRoutingEvents` registers, the pairings of the entries. -/
theorem tracked_eq_registered (hagree : supply.EndpointsAgree) (hprocess : supply.OneProcess)
    (h : Tracked supply table S) :
    S = table.getRoutingEvents.registered ∧
      ∀ p, p ∈ S ↔ ∃ key entry, table.entries.lookup key = some entry ∧ p ∈ entry.pairings := by
  have hpairings : S = table.pairings := by
    induction h with
    | empty kind directInstanceRoute normalize hkind =>
      simp [InternalRoutingTable.pairings]
    | operate operation htable hwithin ih =>
      rw [ih]
      exact (delta_operate hagree hprocess htable.generator hwithin htable.supplied).eq.symm
    | swap domains htable hother ih ihother =>
      rw [ih]
      exact (delta_swap hagree hprocess htable.supplied hother.supplied domains).eq.symm
  refine ⟨hpairings.trans registered_getRoutingEvents.symm, ?_⟩
  intro p
  rw [hpairings, InternalRoutingTable.pairings, Set.mem_iUnion]
  refine exists_congr ?_
  intro key
  cases table.entries.lookup key with
  | none => simp
  | some entry => simp [entryPairings]

end Tracked

/-- An actual LRP of a process, running on one port. -/
def sampleActualLRP (processGuid : String) : ActualLRP where
  processGuid := processGuid
  index := 0
  domain := "domain"
  instanceGuid := "instance-guid"
  cellId := "cell-id"
  address := "1.1.1.1"
  ports := [some { containerPort := 8080, hostPort := 61000 }]
  instanceAddress := "2.2.2.2"
  preferredAddress := .unknown
  instanceIpv6Address := ""
  state := .running
  since := 1
  modificationTag := ⟨"epoch", 1⟩
  presence := .ordinary
  optionalRoutable := none
  availabilityZone := "zone"

def sampleDesiredLRP (processGuid routeServiceUrl : String) (index : Nat) : DesiredLRP where
  processGuid := processGuid
  domain := "domain"
  instances := 1
  routes := some
    { cfRouter :=
        [{ hostnames := ["foo.example.com"], port := 8080, routeServiceUrl := routeServiceUrl }] }
  logGuid := "log-guid"
  modificationTag := ⟨"epoch", index⟩

/-- The pairing of the two. -/
def samplePairing : Pairing :=
  (.http ⟨"foo.example.com", "", "", "log-guid", ""⟩,
    ((newEndpointsFromActual (sampleActualLRP "")).headD default).erase)

/-- The HTTP table before its first operation. -/
def emptyHTTPTable : InternalRoutingTable :=
  ⟨.http, false, id, ∅, ∅⟩

/-- The supply that consists of `sampleActualLRP`, under the given process guids. -/
def sampleSupply (processGuids : List String) : Supply :=
  ⟨.http, {actualLRP | ∃ guid ∈ processGuids, actualLRP = sampleActualLRP guid}⟩

theorem sampleSupply_endpointsAgree : (sampleSupply processGuids).EndpointsAgree := by
  rintro _ ⟨guid, -, rfl⟩ _ ⟨guid', -, rfl⟩ endpoint hmem endpoint' hmem' - -
  rw [List.mem_singleton.mp hmem, List.mem_singleton.mp hmem']
  rfl

theorem sampleSupply_oneProcess : (sampleSupply [processGuid]).OneProcess := by
  rintro _ ⟨guid, hguid, rfl⟩ _ ⟨guid', hguid', rfl⟩ -
  rw [List.mem_singleton.mp hguid, List.mem_singleton.mp hguid']

/-- The run that sets the route of one process and adds its instance. -/
theorem tracked_sample : ∃ S, Tracked (sampleSupply ["process-guid"])
    ((emptyHTTPTable.operate (.setRoutes none (sampleDesiredLRP "process-guid" "" 1))).1.operate
      (.addEndpoint (sampleActualLRP "process-guid"))).1 S :=
  ⟨_, .operate _ (.operate _ (.empty .http false id rfl) trivial) ⟨_, List.mem_cons_self, rfl⟩⟩

/-- The assumptions can be met: the listener of that run knows the one pairing. -/
theorem tracked_eq_registered_sample : ∃ table S, Tracked (sampleSupply ["process-guid"]) table S ∧
    S = table.getRoutingEvents.registered ∧ S ≠ ∅ := by
  obtain ⟨S, hS⟩ := tracked_sample
  have heq := (tracked_eq_registered sampleSupply_endpointsAgree
    sampleSupply_oneProcess hS).1
  refine ⟨_, S, hS, heq, ?_⟩
  rw [heq]
  refine Set.Nonempty.ne_empty ⟨samplePairing, ?_⟩
  change ∃ registration ∈ _, _
  decide

/-- One instance guid under two process guids breaks the agreement: the routes of
both processes are the same, so removing one instance makes the listener forget a
pairing that the other process still has. -/
theorem tracked_ne_registered_of_shared_instance :
    ∃ supply table S, supply.EndpointsAgree ∧ Tracked supply table S ∧
      S ≠ table.getRoutingEvents.registered := by
  refine ⟨sampleSupply ["process-1", "process-2"], _, _, sampleSupply_endpointsAgree,
    .operate (.removeEndpoint (sampleActualLRP "process-1"))
      (.operate (.addEndpoint (sampleActualLRP "process-2"))
        (.operate (.addEndpoint (sampleActualLRP "process-1"))
          (.operate (.setRoutes none (sampleDesiredLRP "process-2" "" 1))
            (.operate (.setRoutes none (sampleDesiredLRP "process-1" "" 1))
              (.empty .http false id rfl) trivial) trivial)
          ⟨_, List.mem_cons_self, rfl⟩)
        ⟨_, List.mem_cons_of_mem _ List.mem_cons_self, rfl⟩) trivial, ?_⟩
  intro heq
  have hlive := (Set.ext_iff.mp heq samplePairing).mpr
    (by change ∃ registration ∈ _, _; decide)
  exact hlive.2 (by change ∃ unregistration ∈ _, _; decide)

end Diego.RouteEmitter
