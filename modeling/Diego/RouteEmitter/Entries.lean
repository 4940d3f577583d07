import Diego.KeyedFold
import Diego.RouteEmitter.Diff

/-!
# A table is the product of its entries

Every operation of an `InternalRoutingTable` is a loop whose turns read and write
the entry of one routing key.  A `Change` is such a turn, seen from the entry: the
entry it replaces the current one by, if it does not `continue`, and whether
`deleteEntryIfEmpty` follows.  An operation is then a list of keyed changes
(`Operation.changes`), and the table after it is, key by key, the entry after the
changes for that key (`lookup_operate`); what the operation emits is what these
changes emit (`log_operate`).

`Swap` is the same on pairs of entries (`lookup_swap`, `log_swap`).

Everything the development proves about tables is proved about one entry and lifted
by these theorems.
-/

namespace Diego.RouteEmitter

open Diego.Models InternalRoutingTable List

/-! ## Changes of one entry -/

/-- One turn of a loop, seen from the entry of its key. -/
structure Change where
  /-- The new entry, or `none` where the loop continues with the next key. -/
  next : RoutableEndpoints → Option RoutableEndpoints
  /-- Whether `deleteEntryIfEmpty` follows. -/
  prune : Bool

/-- The test of `deleteEntryIfEmpty`. -/
def RoutableEndpoints.isEmpty (entry : RoutableEndpoints) : Bool :=
  entry.endpoints.entries = [] ∧ entry.routes = []

/-- The entry a table keeps: an empty one may be dropped. -/
def RoutableEndpoints.stored (entry : RoutableEndpoints) (prune : Bool) :
    Option RoutableEndpoints :=
  if prune && entry.isEmpty then none else some entry

def Change.apply (change : Change) (current : Option RoutableEndpoints) :
    Option RoutableEndpoints :=
  match change.next (current.getD default) with
  | none => current
  | some entry => entry.stored change.prune

def Change.emission (normalize : String → String) (change : Change)
    (current : Option RoutableEndpoints) : Emission :=
  match change.next (current.getD default) with
  | none => {}
  | some entry => emitDiffMessages normalize (current.getD default) entry

variable (entry : RoutableEndpoints) (prune : Bool) {current : Option RoutableEndpoints}
  (endpoint : Endpoint) {X : Type*} (p : RoutingKey → List RouteMapping → Prop) {xs : List X}
  {actualLRP : ActualLRP} (table : InternalRoutingTable) {domains : DomainSet}

theorem endpoints_stored : ((entry.stored prune).getD default).endpoints = entry.endpoints := by
  unfold RoutableEndpoints.stored
  split
  · rename_i hprune
    rw [Bool.and_eq_true] at hprune
    exact (AList.ext (of_decide_eq_true hprune.2).1).symm
  · rfl

theorem routes_stored : ((entry.stored prune).getD default).routes = entry.routes := by
  unfold RoutableEndpoints.stored
  split
  · rename_i hprune
    rw [Bool.and_eq_true] at hprune
    exact (of_decide_eq_true hprune.2).2.symm
  · rfl

variable {change : Change} {key : RoutingKey} {routes : List RouteMapping} {kind : TableKind}
  {lrp : DesiredLRP} (before : Option DesiredLRP) {normalize : String → String}
  {state : GoMap RoutingKey RoutableEndpoints × Emission}

theorem Change.apply_of_none (hnext : change.next (current.getD default) = none) :
    change.apply current = current := by
  simp [Change.apply, hnext]

theorem Change.apply_of_some {entry : RoutableEndpoints}
    (hnext : change.next (current.getD default) = some entry) :
    change.apply current = entry.stored change.prune := by
  simp [Change.apply, hnext]

/-- What an entry has and the missing entry has too, a table keeps of it. -/
theorem stored_induction (p : RoutableEndpoints → Prop) {entry : RoutableEndpoints}
    (hdefault : p default) (hentry : p entry) {prune : Bool} :
    p ((entry.stored prune).getD default) := by
  unfold RoutableEndpoints.stored
  split
  · exact hdefault
  · exact hentry

theorem Change.apply_induction (p : RoutableEndpoints → Prop) (hdefault : p default)
    (hcurrent : p (current.getD default))
    (hnext : ∀ entry, change.next (current.getD default) = some entry → p entry) :
    p ((change.apply current).getD default) := by
  cases hentry : change.next (current.getD default) with
  | none => rwa [Change.apply_of_none hentry]
  | some entry =>
    rw [Change.apply_of_some hentry]
    exact stored_induction p hdefault (hnext entry hentry)

def addChange (routingEndpoint : Endpoint) : Change where
  next current :=
    if undesiredInstance current routingEndpoint || staleEndpoint current routingEndpoint then none
    else some { current with
      endpoints := current.endpoints.insert routingEndpoint.key routingEndpoint }
  prune := false

def removeChange (routingEndpoint : Endpoint) : Change where
  next current :=
    match current.endpoints.lookup routingEndpoint.key with
    | none => none
    | some currentEndpoint =>
      if !tagEqual (some currentEndpoint.modificationTag) routingEndpoint.modificationTag &&
          !succeededBy (some currentEndpoint.modificationTag)
            routingEndpoint.modificationTag then none
      else some { current with endpoints := current.endpoints.erase routingEndpoint.key }
  prune := true

/-- The turn of `SetRoutes` for a key with new routes. -/
def setRoutesChange (before : Option DesiredLRP) (after : DesiredLRP)
    (routes : List RouteMapping) : Change where
  next current :=
    if !succeededBy current.modificationTag after.modificationTag then none
    else some
      { domain := after.domain
        routes := routes
        endpoints := scaledEndpoints before after current.endpoints
        desiredInstances := after.instances
        modificationTag := some after.modificationTag }
  prune := false

/-- The turn of `SetRoutes` for a key that has lost its routes. -/
def removeRoutesChange (before after : Option DesiredLRP) : Change where
  next current :=
    if staleRemoval before after current then none else some (withoutRoutes after current)
  prune := true

section Next

variable {current entry : RoutableEndpoints} {endpoint : Endpoint}

theorem eq_of_addChange_next (hnext : (addChange endpoint).next current = some entry) :
    entry = { current with endpoints := current.endpoints.insert endpoint.key endpoint } := by
  simp only [addChange] at hnext
  split at hnext
  · simp at hnext
  · exact (Option.some.inj hnext).symm

theorem eq_of_removeChange_next (hnext : (removeChange endpoint).next current = some entry) :
    entry = { current with endpoints := current.endpoints.erase endpoint.key } := by
  simp only [removeChange] at hnext
  split at hnext
  · simp at hnext
  · split at hnext
    · simp at hnext
    · exact (Option.some.inj hnext).symm

theorem eq_of_setRoutesChange_next {before : Option DesiredLRP} {after : DesiredLRP}
    (hnext : (setRoutesChange before after routes).next current = some entry) :
    succeededBy current.modificationTag after.modificationTag = true ∧
      entry =
        { domain := after.domain
          routes := routes
          endpoints := scaledEndpoints before after current.endpoints
          desiredInstances := after.instances
          modificationTag := some after.modificationTag } := by
  simp only [setRoutesChange] at hnext
  split at hnext
  · simp at hnext
  · rename_i htag
    exact ⟨by simpa using htag, (Option.some.inj hnext).symm⟩

theorem eq_of_removeRoutesChange_next {before after : Option DesiredLRP}
    (hnext : (removeRoutesChange before after).next current = some entry) :
    entry = withoutRoutes after current := by
  simp only [removeRoutesChange] at hnext
  split at hnext
  · simp at hnext
  · exact (Option.some.inj hnext).symm

end Next

/-- A change of the endpoints leaves the rest of the entry alone. -/
def Change.EndpointsOnly (change : Change) : Prop :=
  ∀ current entry, change.next current = some entry →
    entry = { current with endpoints := entry.endpoints }

theorem endpointsOnly_addChange : (addChange endpoint).EndpointsOnly := by
  intro current entry hnext
  obtain rfl := eq_of_addChange_next hnext
  rfl

theorem endpointsOnly_removeChange : (removeChange endpoint).EndpointsOnly := by
  intro current entry hnext
  obtain rfl := eq_of_removeChange_next hnext
  rfl

variable (after : Option DesiredLRP) (routeEntries : GoMap RoutingKey (List RouteMapping))
  {key' : RoutingKey}

theorem routes_withoutRoutes {current : RoutableEndpoints} :
    (withoutRoutes after current).routes = [] := by
  cases after <;> rfl

theorem endpoints_withoutRoutes (current : RoutableEndpoints) :
    (withoutRoutes after current).endpoints = current.endpoints := by
  cases after <;> rfl

/-! ## The routes of a desired LRP -/

theorem lookup_appendRoutes :
    (appendRoutes routeEntries key routes).lookup key' =
      if key' = key then some (routeEntries.read key ++ routes) else routeEntries.lookup key' :=
  GoMap.lookup_insert_ite _ _ _ _

/-- The loop of the three generators: what every list of routes has that it appends to,
the routes have in the end. -/
theorem foldl_appendRoutes_induction {keyOf : X → RoutingKey} {routesOf : X → List RouteMapping}
    (happend : ∀ x ∈ xs, ∀ old, old = [] ∨ p (keyOf x) old → p (keyOf x) (old ++ routesOf x))
    (hlookup : (xs.foldl (fun routeEntries x =>
      appendRoutes routeEntries (keyOf x) (routesOf x)) ∅).lookup key = some routes) :
    p key routes := by
  have hall : ∀ (ys : List X) (m : GoMap RoutingKey (List RouteMapping)),
      (∀ y ∈ ys, y ∈ xs) → (∀ k rs, m.lookup k = some rs → p k rs) →
      ∀ k rs, (ys.foldl (fun routeEntries x =>
        appendRoutes routeEntries (keyOf x) (routesOf x)) m).lookup k = some rs → p k rs := by
    intro ys
    induction ys with
    | nil => exact fun m _ hm => hm
    | cons y ys ih =>
      intro m hys hm
      refine ih _ (fun y' hy' => hys y' (mem_cons_of_mem _ hy')) fun k rs hk => ?_
      rw [lookup_appendRoutes] at hk
      split at hk
      · rename_i hkey
        rw [← Option.some.inj hk, hkey]
        refine happend y (hys y mem_cons_self) _ ?_
        cases hold : m.lookup (keyOf y) with
        | none => exact Or.inl (by rw [GoMap.read, hold]; rfl)
        | some old =>
          rw [GoMap.read, hold]
          exact Or.inr (hm _ _ hold)
      · exact hm k rs hk
  exact hall xs ∅ (fun _ hx => hx) (fun k rs hk => by simp at hk) key routes hlookup

/-- Whether the route is one that the HTTP router knows. -/
def RouteHash.isHTTP : RouteHash → Bool
  | .http _ => true
  | .tcp _ => false
  | .internal _ => false

/-- Only the HTTP table has routes of the HTTP router. -/
theorem isHTTP_of_routesGenerator (hkind : kind ≠ .http)
    (hlookup : (kind.routesGenerator (some lrp)).lookup key = some routes) :
    ∀ route ∈ routes, route.hash.isHTTP = false := by
  have happend : ∀ (old : List RouteMapping) (new : RouteMapping), new.hash.isHTTP = false →
      (old = [] ∨ ∀ route ∈ old, route.hash.isHTTP = false) →
      ∀ route ∈ old ++ [new], route.hash.isHTTP = false := by
    intro old new hnew hold route hroute
    rcases mem_append.mp hroute with hroute | hroute
    · rcases hold with rfl | hold
      · exact absurd hroute not_mem_nil
      · exact hold route hroute
    · rw [mem_singleton.mp hroute]
      exact hnew
  cases hroutes : lrp.routes with
  | none =>
    cases kind <;> simp [TableKind.routesGenerator, httpRoutesFrom, tcpRoutesFrom,
      internalRoutesFrom, hroutes] at hlookup
  | some info =>
    cases kind with
    | http => exact absurd rfl hkind
    | tcp tlsEnabled =>
      simp only [TableKind.routesGenerator, tcpRoutesFrom, hroutes] at hlookup
      exact foldl_appendRoutes_induction
        (fun _ routes => ∀ route ∈ routes, route.hash.isHTTP = false)
        (fun _ _ old hold => happend old _ rfl hold) hlookup
    | internal =>
      simp only [TableKind.routesGenerator, internalRoutesFrom, hroutes] at hlookup
      exact foldl_appendRoutes_induction
        (fun _ routes => ∀ route ∈ routes, route.hash.isHTTP = false)
        (fun _ _ old hold => happend old _ rfl hold) hlookup

/-! ## Operations as lists of changes -/

/-- The operations that change a table in place. -/
inductive Operation
  | addEndpoint (actualLRP : ActualLRP)
  | removeEndpoint (actualLRP : ActualLRP)
  | setRoutes (before after : Option DesiredLRP)
  | removeRoutes (desiredLRP : Option DesiredLRP)

def InternalRoutingTable.operate (table : InternalRoutingTable) :
    Operation → InternalRoutingTable × Emission
  | .addEndpoint actualLRP => table.addEndpoint actualLRP
  | .removeEndpoint actualLRP => table.removeEndpoint actualLRP
  | .setRoutes before after => table.setRoutes before after
  | .removeRoutes desiredLRP => table.removeRoutes desiredLRP

/-- What an endpoint has in common with the actual LRP it is made from. -/
structure Generated (actualLRP : ActualLRP) (endpoint : Endpoint) : Prop where
  instanceGUID : endpoint.instanceGUID = actualLRP.instanceGuid
  index : endpoint.index = actualLRP.index
  presence : endpoint.presence = actualLRP.presence
  modificationTag : endpoint.modificationTag = actualLRP.modificationTag

theorem generated_of_mem {endpoint : Endpoint} (hmem : endpoint ∈ kind.endpointGenerator actualLRP)
    : Generated actualLRP endpoint := by
  have hports : endpoint ∈ newEndpointsFromActual actualLRP → Generated actualLRP endpoint := by
    intro hmem
    simp only [newEndpointsFromActual, mem_filterMap, Option.map_eq_some_iff] at hmem
    obtain ⟨-, -, portMapping, -, rfl⟩ := hmem
    exact ⟨rfl, rfl, rfl, rfl⟩
  cases kind with
  | http | tcp => exact hports hmem
  | internal =>
    rw [mem_singleton.mp hmem]
    exact ⟨rfl, rfl, rfl, rfl⟩

/-- The changes of an operation on the endpoints of an actual LRP. -/
def endpointChanges (kind : TableKind) (change : Endpoint → Change) (actualLRP : ActualLRP) :
    List (RoutingKey × Change) :=
  (kind.endpointGenerator actualLRP).map fun endpoint =>
    (⟨actualLRP.processGuid, endpoint.containerPort⟩, change endpoint)

/-- The first loop of `SetRoutes`. -/
def newRoutesChanges (kind : TableKind) (before : Option DesiredLRP) :
    Option DesiredLRP → List (RoutingKey × Change)
  | none => []
  | some after =>
    (kind.routesGenerator (some after)).entries.map fun entry =>
      (entry.1, setRoutesChange before after entry.2)

/-- The second loop of `SetRoutes`. -/
def lostRoutesChanges (kind : TableKind) (before after : Option DesiredLRP) :
    List (RoutingKey × Change) :=
  ((kind.routesGenerator before).keys.filter fun key => key ∉ kind.routesGenerator after).map
    fun key => (key, removeRoutesChange before after)

def routesChanges (kind : TableKind) (before after : Option DesiredLRP) :
    List (RoutingKey × Change) :=
  newRoutesChanges kind before after ++ lostRoutesChanges kind before after

def Operation.changes (kind : TableKind) : Operation → List (RoutingKey × Change)
  | .addEndpoint actualLRP => endpointChanges kind addChange actualLRP
  | .removeEndpoint actualLRP => endpointChanges kind removeChange actualLRP
  | .setRoutes before after => routesChanges kind before after
  | .removeRoutes desiredLRP => routesChanges kind desiredLRP none

theorem mem_endpointChanges {changeFor : Endpoint → Change}
    (hmem : (key, change) ∈ endpointChanges kind changeFor actualLRP) :
    ∃ endpoint ∈ kind.endpointGenerator actualLRP,
      key = ⟨actualLRP.processGuid, endpoint.containerPort⟩ ∧ change = changeFor endpoint := by
  obtain ⟨endpoint, hendpoint, heq⟩ := mem_map.mp hmem
  obtain ⟨rfl, rfl⟩ := Prod.mk.injEq .. ▸ heq
  exact ⟨endpoint, hendpoint, rfl, rfl⟩

theorem mem_routesChanges {before after : Option DesiredLRP}
    (hmem : (key, change) ∈ routesChanges kind before after) :
    (∃ lrp routes, after = some lrp ∧
        (kind.routesGenerator (some lrp)).lookup key = some routes ∧
        change = setRoutesChange before lrp routes) ∨
      (key ∈ kind.routesGenerator before ∧ key ∉ kind.routesGenerator after ∧
        change = removeRoutesChange before after) := by
  rcases mem_append.mp hmem with hmem | hmem
  · cases after with
    | none => simp [newRoutesChanges] at hmem
    | some lrp =>
      obtain ⟨⟨key', routes⟩, hentry, heq⟩ := mem_map.mp hmem
      obtain ⟨rfl, rfl⟩ := Prod.mk.injEq .. ▸ heq
      exact Or.inl ⟨lrp, routes, rfl, GoMap.mem_entries_iff.mp hentry, rfl⟩
  · obtain ⟨key', hkey, heq⟩ := mem_map.mp hmem
    obtain ⟨rfl, rfl⟩ := Prod.mk.injEq .. ▸ heq
    rw [mem_filter] at hkey
    exact Or.inr ⟨AList.mem_keys.mp hkey.1, of_decide_eq_true hkey.2, rfl⟩

variable {operation : Operation}

/-- The four kinds of changes that an operation can make. -/
theorem mem_changes (hmem : (key, change) ∈ operation.changes kind) :
    (∃ actualLRP endpoint, operation = .addEndpoint actualLRP ∧
        endpoint ∈ kind.endpointGenerator actualLRP ∧
        key = ⟨actualLRP.processGuid, endpoint.containerPort⟩ ∧ change = addChange endpoint) ∨
      (∃ endpoint, change = removeChange endpoint) ∨
      (∃ before lrp routes, operation = .setRoutes before (some lrp) ∧
        (kind.routesGenerator (some lrp)).lookup key = some routes ∧
        change = setRoutesChange before lrp routes) ∨
      ∃ before after, change = removeRoutesChange before after := by
  cases operation with
  | addEndpoint actualLRP =>
    obtain ⟨endpoint, hendpoint, hkey, rfl⟩ := mem_endpointChanges hmem
    exact Or.inl ⟨actualLRP, endpoint, rfl, hendpoint, hkey, rfl⟩
  | removeEndpoint actualLRP =>
    obtain ⟨endpoint, -, -, rfl⟩ := mem_endpointChanges hmem
    exact Or.inr (Or.inl ⟨endpoint, rfl⟩)
  | setRoutes before after =>
    rcases mem_routesChanges hmem with ⟨lrp, routes, rfl, hlookup, rfl⟩ | ⟨-, -, rfl⟩
    · exact Or.inr (Or.inr (Or.inl ⟨before, lrp, routes, rfl, hlookup, rfl⟩))
    · exact Or.inr (Or.inr (Or.inr ⟨before, after, rfl⟩))
  | removeRoutes desiredLRP =>
    rcases mem_routesChanges hmem with ⟨lrp, routes, hnone, -⟩ | ⟨-, -, rfl⟩
    · simp at hnone
    · exact Or.inr (Or.inr (Or.inr ⟨desiredLRP, none, rfl⟩))

theorem nodup_routesChanges (kind : TableKind) (before after : Option DesiredLRP) :
    ((routesChanges kind before after).map Prod.fst).Nodup := by
  have hlost : (lostRoutesChanges kind before after).map Prod.fst =
      (kind.routesGenerator before).keys.filter fun key => key ∉ kind.routesGenerator after := by
    rw [lostRoutesChanges, map_map]
    exact map_id _
  rw [routesChanges, map_append, hlost]
  cases after with
  | none => exact (AList.keys_nodup _).filter _
  | some after =>
    have hnew : (newRoutesChanges kind before (some after)).map Prod.fst =
        (kind.routesGenerator (some after)).keys := by
      rw [newRoutesChanges, map_map]
      rfl
    rw [hnew]
    refine List.Nodup.append (AList.keys_nodup _) ((AList.keys_nodup _).filter _) ?_
    intro key hafter hbefore
    exact (of_decide_eq_true (mem_filter.mp hbefore).2) (AList.mem_keys.mp hafter)

@[simp] theorem TableKind.routesGenerator_none : kind.routesGenerator none = ∅ := by
  cases kind <;> rfl

def routesChangeAt (kind : TableKind) (before after : Option DesiredLRP) (key : RoutingKey) :
    Option Change :=
  match after, (kind.routesGenerator after).lookup key with
  | some lrp, some routes => some (setRoutesChange before lrp routes)
  | _, _ =>
    if key ∈ kind.routesGenerator before then some (removeRoutesChange before after) else none

theorem routesChangeAt_of_some (hnew : (kind.routesGenerator (some lrp)).lookup key = some routes) :
    routesChangeAt kind before (some lrp) key = some (setRoutesChange before lrp routes) := by
  simp [routesChangeAt, hnew]

theorem routesChangeAt_of_none {after : Option DesiredLRP}
    (hnew : (kind.routesGenerator after).lookup key = none) :
    routesChangeAt kind before after key =
      if key ∈ kind.routesGenerator before then some (removeRoutesChange before after)
      else none := by
  cases after with
  | none => rfl
  | some lrp => simp [routesChangeAt, hnew]

/-- `SetRoutes` changes a key at most once. -/
theorem changesAt_routesChanges (before after : Option DesiredLRP) :
    changesAt key (routesChanges kind before after) =
      (routesChangeAt kind before after key).toList := by
  have hnodup := nodup_routesChanges kind before after
  -- a key with new routes, a key that lost its routes, or neither
  cases hnew : (kind.routesGenerator after).lookup key with
  | some routes =>
    cases after with
    | none => simp at hnew
    | some lrp =>
      rw [routesChangeAt_of_some before hnew]
      refine changesAt_of_nodup hnodup (mem_append_left _ (mem_map.mpr ?_))
      exact ⟨⟨key, routes⟩, GoMap.mem_entries_iff.mpr hnew, rfl⟩
  | none =>
    have hgone : key ∉ kind.routesGenerator after := AList.lookup_eq_none.mp hnew
    rw [routesChangeAt_of_none before hnew]
    split
    · rename_i hbefore
      refine changesAt_of_nodup hnodup (mem_append_right _ (mem_map.mpr ?_))
      exact ⟨key, mem_filter.mpr ⟨AList.mem_keys.mpr hbefore, decide_eq_true hgone⟩, rfl⟩
    · rename_i hbefore
      rw [Option.toList_none, eq_nil_iff_forall_not_mem]
      intro change hchange
      rcases mem_routesChanges (mem_changesAt.mp hchange) with
        ⟨lrp, routes, rfl, hlookup, -⟩ | ⟨hkey, -, -⟩
      · rw [hnew] at hlookup
        simp at hlookup
      · exact hbefore hkey

/-- The change of `SetRoutes` for a key sets new routes, or removes the old ones. -/
theorem routesChangeAt_cases {before after : Option DesiredLRP}
    (hchange : routesChangeAt kind before after key = some change) :
    (∃ lrp routes, after = some lrp ∧
        (kind.routesGenerator (some lrp)).lookup key = some routes ∧
        change = setRoutesChange before lrp routes) ∨
      key ∈ kind.routesGenerator before ∧ change = removeRoutesChange before after := by
  have hmem : change ∈ changesAt key (routesChanges kind before after) := by
    rw [changesAt_routesChanges, hchange]
    exact mem_singleton_self change
  exact (mem_routesChanges (mem_changesAt.mp hmem)).imp_right fun h => ⟨h.1, h.2.2⟩

/-! ## The loops -/

/-- A keyed change, on the entries of a table. -/
def applyChange (normalize : String → String)
    (state : GoMap RoutingKey RoutableEndpoints × Emission) (change : RoutingKey × Change) :
    GoMap RoutingKey RoutableEndpoints × Emission :=
  let current := state.1.read change.1
  match change.2.next current with
  | none => state
  | some entry =>
    (if change.2.prune then deleteEntryIfEmpty (state.1.insert change.1 entry) change.1
      else state.1.insert change.1 entry, state.2.merge (emitDiffMessages normalize current entry))

theorem lookup_deleteEntryIfEmpty (entries : GoMap RoutingKey RoutableEndpoints)
    (entry : RoutableEndpoints) :
    (deleteEntryIfEmpty (entries.insert key entry) key).lookup key' =
      if key' = key then entry.stored true else entries.lookup key' := by
  have hread : GoMap.read (entries.insert key entry) key = entry := by
    simp [GoMap.read]
  unfold deleteEntryIfEmpty RoutableEndpoints.stored RoutableEndpoints.isEmpty
  rw [hread]
  by_cases hempty : entry.endpoints.entries = [] ∧ entry.routes = []
  · rw [if_pos hempty, GoMap.lookup_erase_ite]
    simp only [hempty, GoMap.lookup_insert_ite]
    split <;> simp
  · rw [if_neg hempty, GoMap.lookup_insert_ite]
    simp [hempty]

theorem applyChange_none (hnext : change.next (state.1.read key) = none) :
    applyChange normalize state (key, change) = state := by
  simp [applyChange, hnext]

theorem applyChange_some {entry : RoutableEndpoints}
    (hnext : change.next (state.1.read key) = some entry) :
    applyChange normalize state (key, change) =
      (if change.prune then deleteEntryIfEmpty (state.1.insert key entry) key
        else state.1.insert key entry,
        state.2.merge (emitDiffMessages normalize (state.1.read key) entry)) := by
  simp [applyChange, hnext]

theorem lookup_applyChange {entry : RoutableEndpoints}
    (hnext : change.next (state.1.read key) = some entry) :
    (applyChange normalize state (key, change)).1.lookup key' =
      if key' = key then entry.stored change.prune else state.1.lookup key' := by
  rw [applyChange_some hnext]
  cases hprune : change.prune
  · simp [GoMap.lookup_insert_ite, RoutableEndpoints.stored]
  · simp [lookup_deleteEntryIfEmpty]

theorem keyed_applyChange :
    Keyed (fun (state : GoMap RoutingKey RoutableEndpoints × Emission) key => state.1.lookup key)
      (applyChange normalize) Change.apply where
  at_key state key change := by
    change _ = match change.next (state.1.read key) with
      | none => _
      | some entry => _
    cases hnext : change.next (state.1.read key) with
    | none => rw [applyChange_none hnext]
    | some entry => rw [lookup_applyChange hnext, if_pos rfl]
  elsewhere state key change key' hne := by
    cases hnext : change.next (state.1.read key) with
    | none => rw [applyChange_none hnext]
    | some entry => rw [lookup_applyChange hnext, if_neg hne]

@[simp] theorem Emission.merge_empty (emission : Emission) : emission.merge {} = emission := by
  simp [Emission.merge]

/-- What a change emits is merged into the emission of the loop. -/
theorem emission_applyChange :
    (applyChange normalize state (key, change)).2 =
      state.2.merge (change.emission normalize (state.1.lookup key)) := by
  change _ = state.2.merge (match change.next (state.1.read key) with
    | none => _
    | some entry => _)
  cases hnext : change.next (state.1.read key) with
  | none => rw [applyChange_none hnext, Emission.merge_empty]
  | some entry =>
    rw [applyChange_some hnext]
    rfl

/-! ## The operations are loops over changes -/

/-- The changes of an operation, run on the entries of a table. -/
def runChanges (table : InternalRoutingTable) (changes : List (RoutingKey × Change)) :
    GoMap RoutingKey RoutableEndpoints × Emission :=
  changes.foldl (applyChange table.normalize) (table.entries, {})

/-- A turn of a loop on tables is a keyed change of the entries. -/
structure IsTurn (turn : InternalRoutingTable × Emission → InternalRoutingTable × Emission)
    (change : RoutingKey × Change) : Prop where
  eq : ∀ table emission, turn (table, emission) =
    ({ table with
        entries := (applyChange table.normalize (table.entries, emission) change).1 },
      (applyChange table.normalize (table.entries, emission) change).2)

/-- A loop of turns is the loop of their changes. -/
theorem foldl_turns {turn : InternalRoutingTable × Emission → X → InternalRoutingTable × Emission}
    (change : X → RoutingKey × Change)
    (hturn : ∀ x ∈ xs, IsTurn (fun state => turn state x) (change x)) (table : InternalRoutingTable)
    (emission : Emission) :
    xs.foldl turn (table, emission) =
      ({ table with
          entries := ((xs.map change).foldl (applyChange table.normalize)
            (table.entries, emission)).1 },
        ((xs.map change).foldl (applyChange table.normalize) (table.entries, emission)).2) := by
  induction xs generalizing table emission with
  | nil => rfl
  | cons x xs ih =>
    rw [foldl_cons, (hturn x mem_cons_self).eq, ih fun x' hx' => hturn x' (mem_cons_of_mem _ hx')]
    rfl

theorem isTurn_addRoutingEndpoint {endpoint : Endpoint} :
    IsTurn (fun state => addRoutingEndpoint actualLRP state endpoint)
      (⟨actualLRP.processGuid, endpoint.containerPort⟩, addChange endpoint) where
  eq table emission := by
    unfold addRoutingEndpoint applyChange addChange
    by_cases hundesired : undesiredInstance (table.entries.read
        ⟨actualLRP.processGuid, endpoint.containerPort⟩) endpoint = true
    · simp [hundesired]
    · by_cases hstale : staleEndpoint (table.entries.read
          ⟨actualLRP.processGuid, endpoint.containerPort⟩) endpoint = true
      · simp [hstale]
      · simp [hundesired, hstale]

theorem isTurn_removeRoutingEndpoint {endpoint : Endpoint} :
    IsTurn (fun state => removeRoutingEndpoint actualLRP state endpoint)
      (⟨actualLRP.processGuid, endpoint.containerPort⟩, removeChange endpoint) where
  eq table emission := by
    unfold removeRoutingEndpoint applyChange removeChange
    dsimp only
    cases (table.entries.read ⟨actualLRP.processGuid, endpoint.containerPort⟩).endpoints.lookup
        endpoint.key with
    | none => rfl
    | some currentEndpoint =>
      dsimp only
      split <;> rfl

theorem isTurn_setRoutesOfKey {after : DesiredLRP} :
    IsTurn (fun state => setRoutesOfKey before after state key routes)
      (key, setRoutesChange before after routes) where
  eq table emission := by
    unfold setRoutesOfKey applyChange setRoutesChange
    dsimp only
    split <;> rfl

theorem isTurn_removeRoutesOfKey (hkey : key ∉ routeEntries) :
    IsTurn (fun state => removeRoutesOfKey before after routeEntries state key)
      (key, removeRoutesChange before after) where
  eq table emission := by
    unfold removeRoutesOfKey applyChange removeRoutesChange
    dsimp only
    rw [if_neg hkey]
    split <;> rfl

/-- The second loop of `SetRoutes` passes over the keys that have routes. -/
theorem foldl_removeRoutesOfKey (keys : List RoutingKey) (state : InternalRoutingTable × Emission) :
    keys.foldl (removeRoutesOfKey before after routeEntries) state =
      (keys.filter fun key => key ∉ routeEntries).foldl
        (removeRoutesOfKey before after routeEntries) state := by
  induction keys generalizing state with
  | nil => rfl
  | cons key keys ih =>
    rw [foldl_cons, ih]
    by_cases hkey : key ∈ routeEntries
    · simp [hkey, removeRoutesOfKey]
    · simp [hkey]

theorem setRoutes_eq (before after : Option DesiredLRP) :
    table.setRoutes before after =
      ({ table with entries := (runChanges table (routesChanges table.kind before after)).1 },
        (runChanges table (routesChanges table.kind before after)).2) := by
  have hlost : ∀ table' emission,
      ((table.kind.routesGenerator before).keys.filter
          fun key => key ∉ table.kind.routesGenerator after).foldl
        (removeRoutesOfKey before after (table.kind.routesGenerator after)) (table', emission) =
      _ := foldl_turns (fun key => (key, removeRoutesChange before after)) fun key hkey =>
    isTurn_removeRoutesOfKey before after _ (by simpa using (mem_filter.mp hkey).2)
  cases after with
  | none =>
    simp only [setRoutes]
    rw [foldl_removeRoutesOfKey, hlost]
    rfl
  | some after =>
    have hnew : ∀ table' emission, (table.kind.routesGenerator (some after)).entries.foldl
        (fun state entry => setRoutesOfKey before after state entry.1 entry.2)
          (table', emission) = _ :=
      foldl_turns (fun entry => (entry.1, setRoutesChange before after entry.2)) fun entry _ =>
        isTurn_setRoutesOfKey before
    simp only [setRoutes]
    rw [foldl_removeRoutesOfKey, hnew, hlost]
    simp only [runChanges, routesChanges, newRoutesChanges, lostRoutesChanges, foldl_append]

/-- **Every operation is the loop over its changes**, on the entries. -/
theorem operate_eq :
    ∃ addressEntries, table.operate operation =
      ({ table with
          entries := (runChanges table (operation.changes table.kind)).1
          addressEntries := addressEntries },
        (runChanges table (operation.changes table.kind)).2) := by
  cases operation with
  | addEndpoint actualLRP =>
    exact ⟨_, foldl_turns _ (fun endpoint _ => isTurn_addRoutingEndpoint) _ _⟩
  | removeEndpoint actualLRP =>
    exact ⟨_, foldl_turns _
      (fun endpoint _ => isTurn_removeRoutingEndpoint) _ _⟩
  | setRoutes before after => exact ⟨_, setRoutes_eq table before after⟩
  | removeRoutes desiredLRP => exact ⟨_, setRoutes_eq table desiredLRP none⟩

section Operate

variable (table : InternalRoutingTable) (operation : Operation)

@[simp] theorem operate_kind : (table.operate operation).1.kind = table.kind := by
  obtain ⟨addressEntries, heq⟩ := operate_eq table
  rw [heq]

@[simp] theorem operate_directInstanceRoute :
    (table.operate operation).1.directInstanceRoute = table.directInstanceRoute := by
  obtain ⟨addressEntries, heq⟩ := operate_eq table
  rw [heq]

/-- The table after an operation is, key by key, the entry after its changes. -/
theorem lookup_operate :
    (table.operate operation).1.entries.lookup key =
      updates Change.apply (changesAt key (operation.changes table.kind))
        (table.entries.lookup key) := by
  obtain ⟨addressEntries, heq⟩ := operate_eq table
  rw [heq]
  exact keyed_applyChange.view_foldl _ _ key

/-- What the missing entry has and every change of an operation keeps, it keeps. -/
theorem operate_induction {p : RoutableEndpoints → Prop} (hdefault : p default)
    (h : p ((table.entries.lookup key).getD default))
    (hstep : ∀ change, (key, change) ∈ operation.changes table.kind → ∀ current entry,
      p current → change.next current = some entry → p entry) :
    p (((table.operate operation).1.entries.lookup key).getD default) := by
  rw [lookup_operate]
  refine updates_induction (fun current : Option RoutableEndpoints => p (current.getD default)) h
    fun change hchange current hcurrent => ?_
  exact change.apply_induction p hdefault hcurrent fun entry =>
    hstep change (mem_changesAt.mp hchange) _ entry hcurrent

/-- What an operation emits is what its changes emit, key by key. -/
theorem log_operate {α : Type*} {log : Emission → Set α} (hlog : IsLog log) :
    log (table.operate operation).2 =
      ⋃ key, outputs Change.apply
        (fun change current => log (change.emission table.normalize current))
        (changesAt key (operation.changes table.kind)) (table.entries.lookup key) := by
  obtain ⟨addressEntries, heq⟩ := operate_eq table
  have hfold := keyed_applyChange.log_foldl (fun state => log state.2)
    (fun change current => log (change.emission table.normalize current))
    (fun state key change => by rw [emission_applyChange, hlog.merge])
    (operation.changes table.kind) (table.entries, {})
  rw [hlog.empty, Set.empty_union] at hfold
  rw [heq]
  exact hfold

end Operate

/-! ## Swap -/

/-- The entry of a key after `Swap`, from the entries of both tables. -/
def swapEntry (domains : DomainSet) (existing new : Option RoutableEndpoints) :
    Option RoutableEndpoints :=
  match existing with
  | none => new
  | some existing => (mergeUnfreshRoutes existing (new.getD default) domains).stored true

/-- What `Swap` emits for a key. -/
def swapEmission (normalize : String → String) (domains : DomainSet)
    (existing new : Option RoutableEndpoints) : Emission :=
  match existing with
  | none => emitDiffMessages normalize default (new.getD default)
  | some existing =>
    emitDiffMessages normalize existing (mergeUnfreshRoutes existing (new.getD default) domains)

/-- The endpoints after a `Swap` are those of the other table. -/
theorem endpoints_swapEntry {fresh : DomainSet} {existing new : Option RoutableEndpoints} :
    ((swapEntry fresh existing new).getD default).endpoints = (new.getD default).endpoints := by
  cases existing with
  | none => rfl
  | some existing => exact endpoints_stored _ true

theorem swapKey_none {table : InternalRoutingTable} (hexisting : table.entries.lookup key = none) :
    swapKey table domains state key =
      (state.1, state.2.merge (emitDiffMessages table.normalize default (state.1.read key))) := by
  simp [swapKey, hexisting]

theorem swapKey_some {table : InternalRoutingTable} {existing : RoutableEndpoints}
    (hexisting : table.entries.lookup key = some existing) :
    swapKey table domains state key =
      (deleteEntryIfEmpty
        (state.1.insert key (mergeUnfreshRoutes existing (state.1.read key) domains)) key,
        state.2.merge (emitDiffMessages table.normalize existing
          (mergeUnfreshRoutes existing (state.1.read key) domains))) := by
  simp [swapKey, hexisting]

section Swap

variable (table other : InternalRoutingTable) (domains : DomainSet)

/-- A turn of `Swap`; the change for a key is the entry the old table has there. -/
theorem keyed_swapKey :
    Keyed (fun (state : GoMap RoutingKey RoutableEndpoints × Emission) key =>
        (table.entries.lookup key, state.1.lookup key))
      (fun state (change : RoutingKey × Unit) => swapKey table domains state change.1)
      (fun _ entries => (entries.1, swapEntry domains entries.1 entries.2)) where
  at_key state key _ := by
    cases hexisting : table.entries.lookup key with
    | none => rw [swapKey_none hexisting]; rfl
    | some existing =>
      rw [swapKey_some hexisting, lookup_deleteEntryIfEmpty, if_pos rfl]
      rfl
  elsewhere state key _ key' hne := by
    cases hexisting : table.entries.lookup key with
    | none => rw [swapKey_none hexisting]
    | some existing => rw [swapKey_some hexisting, lookup_deleteEntryIfEmpty, if_neg hne]

theorem emission_swapKey :
    (swapKey table domains state key).2 =
      state.2.merge (swapEmission table.normalize domains (table.entries.lookup key)
        (state.1.lookup key)) := by
  cases hexisting : table.entries.lookup key with
  | none => rw [swapKey_none hexisting]; rfl
  | some existing => rw [swapKey_some hexisting]; rfl

theorem mem_mergedRoutingKeys :
    key ∈ mergedRoutingKeys table other ↔ key ∈ table.entries ∨ key ∈ other.entries := by
  simp only [mergedRoutingKeys, mem_append, mem_filter, decide_eq_true_eq]
  tauto

theorem nodup_mergedRoutingKeys : (mergedRoutingKeys table other).Nodup := by
  refine List.Nodup.append (AList.keys_nodup _) ((AList.keys_nodup _).filter _) ?_
  intro key hother htable
  exact (of_decide_eq_true (mem_filter.mp htable).2) (AList.mem_keys.mp hother)

theorem changesAt_mergedRoutingKeys :
    changesAt key ((mergedRoutingKeys table other).map fun key => (key, ())) =
      if key ∈ mergedRoutingKeys table other then [()] else [] := by
  have hkeys : ((mergedRoutingKeys table other).map fun key => (key, ())).map Prod.fst =
      mergedRoutingKeys table other := by
    rw [map_map]
    exact map_id _
  split
  · rename_i hmem
    refine changesAt_of_nodup ?_ (mem_map.mpr ⟨key, hmem, rfl⟩)
    rw [hkeys]
    exact nodup_mergedRoutingKeys table other
  · refine changesAt_eq_nil ?_
    rwa [hkeys]

theorem swap_eq :
    table.swap other domains =
      ({ table with
          entries := (((mergedRoutingKeys table other).map fun key => (key, ())).foldl
            (fun state (change : RoutingKey × Unit) => swapKey table domains state change.1)
            (other.entries, {})).1
          addressEntries := other.addressEntries },
        (((mergedRoutingKeys table other).map fun key => (key, ())).foldl
          (fun state (change : RoutingKey × Unit) => swapKey table domains state change.1)
          (other.entries, {})).2) := by
  rw [foldl_map]
  rfl

@[simp] theorem swap_kind : (table.swap other domains).1.kind = table.kind := rfl

/-- The table after `Swap` is, key by key, the swap of the two entries. -/
theorem lookup_swap :
    (table.swap other domains).1.entries.lookup key =
      swapEntry domains (table.entries.lookup key) (other.entries.lookup key) := by
  have hview := (keyed_swapKey table domains).view_foldl
    ((mergedRoutingKeys table other).map fun key => (key, ())) (other.entries, {}) key
  rw [changesAt_mergedRoutingKeys] at hview
  rw [swap_eq]
  refine (congrArg Prod.snd hview).trans ?_
  split
  · rfl
  · rename_i hmem
    rw [mem_mergedRoutingKeys, not_or] at hmem
    rw [AList.lookup_eq_none.mpr hmem.1]
    rfl

/-- What `Swap` emits, key by key. -/
theorem log_swap {α : Type*} {log : Emission → Set α} (hlog : IsLog log) :
    log (table.swap other domains).2 =
      ⋃ key, if key ∈ mergedRoutingKeys table other then
        log (swapEmission table.normalize domains (table.entries.lookup key)
          (other.entries.lookup key)) else ∅ := by
  have hfold := (keyed_swapKey table domains).log_foldl (fun state => log state.2)
    (fun _ entries => log (swapEmission table.normalize domains entries.1 entries.2))
    (fun state key _ => by rw [emission_swapKey, hlog.merge])
    ((mergedRoutingKeys table other).map fun key => (key, ())) (other.entries, {})
  rw [hlog.empty, Set.empty_union] at hfold
  rw [swap_eq]
  refine hfold.trans (Set.iUnion_congr fun key => ?_)
  rw [changesAt_mergedRoutingKeys]
  split
  · exact Set.union_empty _
  · rfl

end Swap

/-! ## The three tables of a routing table -/

inductive Part
  | http
  | tcp
  | internal
  deriving DecidableEq

def RoutingTable.part (table : RoutingTable) : Part → InternalRoutingTable
  | .http => table.httpRoutesRoutingTable
  | .tcp => table.tcpRoutesRoutingTable
  | .internal => table.internalRoutesRoutingTable

def RoutingTable.operate (table : RoutingTable) : Operation → Outcome
  | .addEndpoint actualLRP => table.addEndpoint actualLRP
  | .removeEndpoint actualLRP => table.removeEndpoint actualLRP
  | .setRoutes before after => table.setRoutes before after
  | .removeRoutes desiredLRP => table.removeRoutes desiredLRP

@[simp] theorem part_operate (table : RoutingTable) (part : Part) :
    (table.operate operation).table.part part = ((table.part part).operate operation).1 := by
  cases operation <;> cases part <;> rfl

@[simp] theorem part_swap (table other : RoutingTable) (part : Part) :
    (table.swap other domains).table.part part =
      ((table.part part).swap (other.part part) domains).1 := by
  cases part <;> rfl

@[simp] theorem entries_part_newRoutingTable (directInstanceRoute tcpTLSEnabled : Bool)
    (part : Part) :
    ((newRoutingTable normalize directInstanceRoute tcpTLSEnabled).part part).entries = ∅ := by
  cases part <;> rfl

end Diego.RouteEmitter
