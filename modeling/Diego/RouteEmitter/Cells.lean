import Diego.RouteEmitter.Entries

/-!
# One endpoint of an entry

`AddEndpoint` and `RemoveEndpoint` reach the endpoints of an entry one at a time.  An
`EndpointAction` is an addition or a removal of one endpoint, and `cell` is what it
does to the endpoint under a given key when the desired instances set no limit: additions
must bring a newer tag, removals must bring an equal or newer one.

An entry that was never given routes has no limit, and keeps none as long as only endpoints
are added and removed (`updates_actions_of_unlimited`).
-/

namespace Diego.RouteEmitter

open Diego.Models InternalRoutingTable

/-! ## Actions on endpoints -/

inductive EndpointAction
  | add (endpoint : Endpoint)
  | remove (endpoint : Endpoint)

namespace EndpointAction

def endpoint : EndpointAction → Endpoint
  | add endpoint => endpoint
  | remove endpoint => endpoint

def change : EndpointAction → Change
  | add endpoint => addChange endpoint
  | remove endpoint => removeChange endpoint

/-- What an addition leaves under the key of its endpoint. -/
def addCell (endpoint : Endpoint) : Option Endpoint → Option Endpoint
  | none => some endpoint
  | some current =>
    if succeededBy (some current.modificationTag) endpoint.modificationTag then some endpoint
    else some current

/-- What a removal leaves under the key of its endpoint. -/
def removeCell (endpoint : Endpoint) : Option Endpoint → Option Endpoint
  | none => none
  | some current =>
    if tagEqual (some current.modificationTag) endpoint.modificationTag ||
        succeededBy (some current.modificationTag) endpoint.modificationTag then none
    else some current

/-- What an action leaves under a key. -/
def cell (key : EndpointKey) (action : EndpointAction) (current : Option Endpoint) :
    Option Endpoint :=
  if action.endpoint.key = key then
    match action with
    | add endpoint => addCell endpoint current
    | remove endpoint => removeCell endpoint current
  else current

variable {key : EndpointKey} (action : EndpointAction) (endpoint : Endpoint)
  (current : Option Endpoint)

theorem cell_of_ne (hne : action.endpoint.key ≠ key) : action.cell key current = current :=
  if_neg hne

theorem cell_add_self : (add endpoint).cell endpoint.key current = addCell endpoint current :=
  if_pos rfl

theorem cell_remove_self :
    (remove endpoint).cell endpoint.key current = removeCell endpoint current :=
  if_pos rfl

/-- A sequence of actions, under one key. -/
def cells (key : EndpointKey) (actions : List EndpointAction) (current : Option Endpoint) :
    Option Endpoint :=
  actions.foldl (fun current action => action.cell key current) current

@[simp] theorem cells_cons (actions : List EndpointAction) :
    cells key (action :: actions) current = cells key actions (action.cell key current) := rfl

theorem cells_of_ne {actions : List EndpointAction}
    (hne : ∀ action ∈ actions, action.endpoint.key ≠ key) (current : Option Endpoint) :
    cells key actions current = current := by
  induction actions with
  | nil => rfl
  | cons action actions ih =>
    rw [cells_cons, cell_of_ne _ _ (hne action List.mem_cons_self)]
    exact ih fun action' haction' => hne action' (List.mem_cons_of_mem _ haction')

end EndpointAction

/-! ## Actions on an entry -/

section Apply

variable (action : EndpointAction) (current : Option RoutableEndpoints) {key : EndpointKey}
  {entry : RoutableEndpoints}

/-- Without a limit only a stale endpoint is passed over. -/
theorem addCell_eq (hlimit : entry.desiredInstances = 0) (endpoint : Endpoint) :
    EndpointAction.addCell endpoint (entry.endpoints.lookup endpoint.key) =
      if undesiredInstance entry endpoint || staleEndpoint entry endpoint then
        entry.endpoints.lookup endpoint.key
      else some endpoint := by
  have hdesired : undesiredInstance entry endpoint = false := by simp [undesiredInstance, hlimit]
  rw [hdesired, Bool.false_or, staleEndpoint]
  cases entry.endpoints.lookup endpoint.key with
  | none => rfl
  | some found =>
    cases hnewer : succeededBy (some found.modificationTag) endpoint.modificationTag <;>
      simp [EndpointAction.addCell, hnewer]

/-- A change that passes over an entry, where the cell of the action stays as it is. -/
theorem endpoints_apply_of_none (hnext : action.change.next (current.getD default) = none)
    (hself : action.cell action.endpoint.key
        ((current.getD default).endpoints.lookup action.endpoint.key) =
      (current.getD default).endpoints.lookup action.endpoint.key) :
    ((action.change.apply current).getD default).endpoints.lookup key =
      action.cell key ((current.getD default).endpoints.lookup key) := by
  rw [Change.apply_of_none hnext]
  by_cases hkey : action.endpoint.key = key
  · rw [← hkey, hself]
  · rw [EndpointAction.cell_of_ne action _ hkey]

/-- A change that goes through, where it sets the cell of the action and no other. -/
theorem endpoints_apply_of_some {next : RoutableEndpoints}
    (hnext : action.change.next (current.getD default) = some next)
    (hself : next.endpoints.lookup action.endpoint.key =
      action.cell action.endpoint.key
        ((current.getD default).endpoints.lookup action.endpoint.key))
    (hother : ∀ key, key ≠ action.endpoint.key →
      next.endpoints.lookup key = (current.getD default).endpoints.lookup key) :
    ((action.change.apply current).getD default).endpoints.lookup key =
      action.cell key ((current.getD default).endpoints.lookup key) := by
  rw [Change.apply_of_some hnext, endpoints_stored]
  by_cases hkey : action.endpoint.key = key
  · rw [← hkey, hself]
  · rw [EndpointAction.cell_of_ne action _ hkey]
    exact hother key (Ne.symm hkey)

theorem endpoints_apply_add (hlimit : (current.getD default).desiredInstances = 0)
    (endpoint : Endpoint) :
    (((addChange endpoint).apply current).getD default).endpoints.lookup key =
      (EndpointAction.add endpoint).cell key ((current.getD default).endpoints.lookup key) := by
  have hcell := (EndpointAction.cell_add_self endpoint _).trans (addCell_eq hlimit endpoint)
  by_cases hskip : (undesiredInstance (current.getD default) endpoint ||
      staleEndpoint (current.getD default) endpoint) = true
  · exact endpoints_apply_of_none (.add endpoint) current (if_pos hskip)
      (hcell.trans (if_pos hskip))
  · refine endpoints_apply_of_some (.add endpoint) current (if_neg hskip) ?_ ?_
    · exact (AList.lookup_insert _).trans (hcell.trans (if_neg hskip)).symm
    · intro other hother
      exact AList.lookup_insert_ne hother

theorem endpoints_apply_remove {endpoint : Endpoint} :
    (((removeChange endpoint).apply current).getD default).endpoints.lookup key =
      (EndpointAction.remove endpoint).cell key ((current.getD default).endpoints.lookup key) := by
  cases hfound : (current.getD default).endpoints.lookup endpoint.key with
  | none =>
    refine endpoints_apply_of_none (.remove endpoint) current ?_ ?_
    · simp [EndpointAction.change, removeChange, hfound]
    · rw [EndpointAction.endpoint, EndpointAction.cell_remove_self, hfound]
      rfl
  | some found =>
    by_cases hstale : (tagEqual (some found.modificationTag) endpoint.modificationTag ||
        succeededBy (some found.modificationTag) endpoint.modificationTag) = true
    · have hnext : (removeChange endpoint).next (current.getD default) =
          some { current.getD default with
            endpoints := (current.getD default).endpoints.erase endpoint.key } := by
        rw [Bool.or_eq_true] at hstale
        rcases hstale with hstale | hstale <;> simp [removeChange, hfound, hstale]
      refine endpoints_apply_of_some (.remove endpoint) current hnext ?_ ?_
      · rw [EndpointAction.endpoint, EndpointAction.cell_remove_self, hfound]
        exact (AList.lookup_erase _ _).trans (if_pos hstale).symm
      · intro other hother
        exact AList.lookup_erase_ne hother
    · refine endpoints_apply_of_none (.remove endpoint) current ?_ ?_
      · rw [Bool.or_eq_true, not_or] at hstale
        simp [EndpointAction.change, removeChange, hfound, hstale]
      · rw [EndpointAction.endpoint, EndpointAction.cell_remove_self, hfound]
        exact if_neg hstale

/-- **An action on an entry without a limit is its cell under every key.** -/
theorem endpoints_apply_action (hlimit : (current.getD default).desiredInstances = 0) :
    ((action.change.apply current).getD default).endpoints.lookup key =
      action.cell key ((current.getD default).endpoints.lookup key) := by
  cases action with
  | add endpoint => exact endpoints_apply_add current hlimit endpoint
  | remove endpoint => exact endpoints_apply_remove current

theorem endpointsOnly_change : action.change.EndpointsOnly := by
  cases action with
  | add endpoint => exact endpointsOnly_addChange endpoint
  | remove endpoint => exact endpointsOnly_removeChange endpoint

/-- Actions leave the limit alone, unless they empty the entry and it is dropped. -/
theorem limit_apply_action :
    ((action.change.apply current).getD default).desiredInstances =
        (current.getD default).desiredInstances ∨
      action.change.apply current = none := by
  cases hnext : action.change.next (current.getD default) with
  | none =>
    rw [Change.apply_of_none hnext]
    exact Or.inl rfl
  | some entry =>
    rw [Change.apply_of_some hnext]
    unfold RoutableEndpoints.stored
    split
    · exact Or.inr rfl
    · rw [Option.getD_some, endpointsOnly_change action _ _ hnext]
      exact Or.inl rfl

end Apply

/-! ## Operations as actions -/

/-- The endpoints of an actual LRP that are filed under a routing key. -/
def endpointsAt (kind : TableKind) (key : RoutingKey) (actualLRP : ActualLRP) : List Endpoint :=
  (kind.endpointGenerator actualLRP).filter fun endpoint =>
    (⟨actualLRP.processGuid, endpoint.containerPort⟩ : RoutingKey) = key

/-- The actions of an operation on the endpoints under a routing key. -/
def Operation.actions (kind : TableKind) (key : RoutingKey) : Operation → List EndpointAction
  | .addEndpoint actualLRP => (endpointsAt kind key actualLRP).map .add
  | .removeEndpoint actualLRP => (endpointsAt kind key actualLRP).map .remove
  | .setRoutes _ _ => []
  | .removeRoutes _ => []

def Operation.routesChange (kind : TableKind) (key : RoutingKey) : Operation → Option Change
  | .addEndpoint _ => none
  | .removeEndpoint _ => none
  | .setRoutes before after => routesChangeAt kind before after key
  | .removeRoutes desiredLRP => routesChangeAt kind desiredLRP none key

variable {kind : TableKind} {key : RoutingKey}

theorem changesAt_endpointChanges (changeFor : Endpoint → Change) (actualLRP : ActualLRP) :
    changesAt key (endpointChanges kind changeFor actualLRP) =
      (endpointsAt kind key actualLRP).map changeFor := by
  simp [changesAt, endpointChanges, endpointsAt, List.filter_map, Function.comp_def]

/-- The changes of an operation for one key: a routing change or actions on endpoints. -/
theorem changesAt_changes (operation : Operation) :
    changesAt key (operation.changes kind) =
      (operation.routesChange kind key).toList ++
        (operation.actions kind key).map EndpointAction.change := by
  cases operation with
  | addEndpoint actualLRP | removeEndpoint actualLRP =>
    rw [Operation.changes, changesAt_endpointChanges, Operation.actions, List.map_map]
    rfl
  | setRoutes before after | removeRoutes desiredLRP =>
    rw [Operation.changes, changesAt_routesChanges]
    exact (List.append_nil _).symm

/-- An action of an operation is on an endpoint made from its actual LRP. -/
theorem generated_of_mem_endpointsAt {actualLRP : ActualLRP} {endpoint : Endpoint}
    (hmem : endpoint ∈ endpointsAt kind key actualLRP) :
    Generated actualLRP endpoint ∧ key.processGUID = actualLRP.processGuid := by
  obtain ⟨hgenerated, hkey⟩ := List.mem_filter.mp hmem
  refine ⟨generated_of_mem hgenerated, ?_⟩
  rw [← of_decide_eq_true hkey]

/-! ## Sequences of actions -/

/-- Actions on an entry without a limit: each endpoint changes by its own actions. -/
theorem updates_actions_of_unlimited {current : Option RoutableEndpoints}
    (hlimit : (current.getD default).desiredInstances = 0) {actions : List EndpointAction}
    (key : EndpointKey) :
    ((updates Change.apply (actions.map EndpointAction.change) current).getD
        default).endpoints.lookup key =
      EndpointAction.cells key actions ((current.getD default).endpoints.lookup key) := by
  induction actions generalizing current with
  | nil => rfl
  | cons action actions ih =>
    have hnext : ((action.change.apply current).getD default).desiredInstances = 0 := by
      rcases limit_apply_action action current with hsame | hgone
      · rw [hsame, hlimit]
      · rw [hgone]
        rfl
    refine (ih hnext).trans ?_
    rw [endpoints_apply_action action current hlimit]
    rfl

end Diego.RouteEmitter
