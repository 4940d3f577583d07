import Diego.RouteEmitter.Cells
import Diego.RouteEmitter.Watcher

/-!
# Which endpoints are in the table

A sync puts the endpoints of those actual LRPs into the table that `isRoutable` selects.
Between syncs the handlers of actual LRP events are to keep the same selection, each
looking at one event: creation, change of state, presence or readiness, removal.

`Latest` is the last state delivered for each instance and presence.  Under one routing
key and one endpoint key the handlers act by cells, so `Selects` says what the cell has to
do with the last state, and `Selects.step` is the case analysis over the handlers.  The
branches that miss a case are left out by `Careful`.
-/

namespace Diego.RouteEmitter

open Diego.Models EndpointAction Function List Option

/-! ## Delivered states -/

/-- The key under which the endpoints of an actual LRP are filed. -/
def endpointKey (actualLRP : ActualLRP) : EndpointKey :=
  ⟨actualLRP.instanceGuid, actualLRP.presence = .evacuating⟩

/-- The keys of the HTTP table under which the actual LRP has endpoints. -/
def routingKeys (actualLRP : ActualLRP) : List RoutingKey :=
  (newEndpointsFromActual actualLRP).map fun endpoint =>
    ⟨actualLRP.processGuid, endpoint.containerPort⟩

/-- The last state delivered for each instance and presence. -/
abbrev Latest := EndpointKey → Option ActualLRP

/-- An event delivers a state, moves an instance to another presence, or removes it. -/
def deliver (latest : Latest) : Event → Latest
  | .actualLRPInstanceCreated (some actualLRP) =>
    Function.update latest (endpointKey actualLRP) (some actualLRP)
  | .actualLRPInstanceChanged key instanceKey (some before) (some after) =>
    Function.update
      (Function.update latest (endpointKey (before.toActualLRP key instanceKey)) none)
      (endpointKey (after.toActualLRP key instanceKey)) (some (after.toActualLRP key instanceKey))
  | .actualLRPInstanceRemoved (some actualLRP) =>
    Function.update latest (endpointKey actualLRP) none
  | _ => latest

/-- The first tag is of the same epoch and not newer. -/
def NotNewer (tag other : ModificationTag) : Prop :=
  tag.epoch = other.epoch ∧ tag.index ≤ other.index

/-- The first tag is of the same epoch and older. -/
def Older (tag other : ModificationTag) : Prop :=
  tag.epoch = other.epoch ∧ tag.index < other.index

/-- The order in which events are delivered: tags grow, and a change starts from the last
state. -/
def Delivered (latest : Latest) : Event → Prop
  | .actualLRPInstanceCreated (some actualLRP) =>
    ∀ old, latest (endpointKey actualLRP) = some old →
      Older old.modificationTag actualLRP.modificationTag
  | .actualLRPInstanceChanged key instanceKey (some before) (some after) =>
    latest (endpointKey (before.toActualLRP key instanceKey)) =
        some (before.toActualLRP key instanceKey) ∧
      ∀ old, latest (endpointKey (after.toActualLRP key instanceKey)) = some old →
        Older old.modificationTag after.modificationTag
  | .actualLRPInstanceRemoved (some actualLRP) =>
    ∀ old, latest (endpointKey actualLRP) = some old →
      NotNewer old.modificationTag actualLRP.modificationTag
  | .actualLRPInstanceCreated none => True
  | .actualLRPInstanceChanged _ _ _ _ => True
  | .actualLRPInstanceRemoved none => True
  | .actualLRPCrashed _ _ => True
  | _ => False

/-- What is known of the instance, if it is routable, has no other ports than the state
that takes its place. -/
def Replaces (latest : Latest) (actualLRP : ActualLRP) : Prop :=
  ∀ old, latest (endpointKey actualLRP) = some old → isRoutable old = true →
    actualLRP.state = .running ∧ routingKeys old ⊆ routingKeys actualLRP

/-- The condition on a change.  A running instance that stays under its key and stops
being routable was marked as routable before; one that leaves its key goes from ordinary
to evacuating. -/
structure CarefulChange (latest : Latest) (before after : ActualLRP) : Prop where
  ports : isRoutable after = true → routingKeys after ≠ []
  stays : endpointKey after = endpointKey before → isRoutable before = true →
    after.state = .running → (isRoutable after = true ∨ before.getRoutable = true) ∧
      routingKeys before ⊆ routingKeys after
  leaves : endpointKey after ≠ endpointKey before → isRoutable before = true →
    after.state = .running → before.presence = .ordinary ∧ after.presence = .evacuating
  free : endpointKey after ≠ endpointKey before → ∀ old, latest (endpointKey after) = some old →
    isRoutable old = true → isRoutable after = true ∧ routingKeys old ⊆ routingKeys after

/-- The condition on an event: where the handlers see all they need. -/
def Careful (latest : Latest) : Event → Prop
  | .actualLRPInstanceCreated (some actualLRP) =>
    (actualLRP.state = .running → isRoutable actualLRP = true ∧ routingKeys actualLRP ≠ []) ∧
      Replaces latest actualLRP
  | .actualLRPInstanceChanged key instanceKey (some before) (some after) =>
    CarefulChange latest (before.toActualLRP key instanceKey)
      (after.toActualLRP key instanceKey)
  | .actualLRPInstanceRemoved (some actualLRP) => Replaces latest actualLRP
  | _ => True

def Throughout (condition : Latest → Event → Prop) : Latest → List Event → Prop
  | _, [] => True
  | latest, event :: events =>
    condition latest event ∧ Throughout condition (deliver latest event) events

/-! ## Additions and removals under one key -/

section Cells

variable {key : EndpointKey} {tag : ModificationTag} {endpoints : List Endpoint}
  {current : Option Endpoint}

theorem cells_add (hkey : ∀ endpoint ∈ endpoints, endpoint.key = key)
    (htag : ∀ endpoint ∈ endpoints, endpoint.modificationTag = tag) (hne : endpoints ≠ []) :
    ∃ endpoint, cells key (endpoints.map .add) current = some endpoint ∧
      (endpoint.modificationTag = tag ∨ current = some endpoint) := by
  induction endpoints generalizing current with
  | nil => exact absurd rfl hne
  | cons first rest ih =>
    rw [forall_mem_cons] at hkey htag
    -- the first addition leaves its endpoint, or one that was there
    have hfirst : ∃ endpoint, (add first).cell key current = some endpoint ∧
        (endpoint.modificationTag = tag ∨ current = some endpoint) := by
      have hcell := cell_add_self first current
      rw [hkey.1] at hcell
      rw [hcell]
      cases current with
      | none => exact ⟨first, rfl, Or.inl htag.1⟩
      | some found =>
        by_cases hnewer : succeededBy (some found.modificationTag) first.modificationTag = true
        · exact ⟨first, if_pos hnewer, Or.inl htag.1⟩
        · exact ⟨found, if_neg hnewer, Or.inr rfl⟩
    obtain ⟨endpoint, hcell, hendpoint⟩ := hfirst
    rw [map_cons, cells_cons, hcell]
    cases rest with
    | nil => exact ⟨endpoint, rfl, hendpoint⟩
    | cons second rest =>
      obtain ⟨last, hcells, hlast⟩ := @ih (some endpoint) hkey.2 htag.2 (cons_ne_nil _ _)
      refine ⟨last, hcells, hlast.elim Or.inl ?_⟩
      intro hsame
      cases hsame
      exact hendpoint

theorem cells_remove_none : cells key (endpoints.map .remove) none = none := by
  induction endpoints with
  | nil => rfl
  | cons first rest ih =>
    rw [map_cons, cells_cons]
    have hnone : (remove first).cell key none = none := by
      unfold cell
      split <;> rfl
    rw [hnone]
    exact ih

theorem cells_remove (hkey : ∀ endpoint ∈ endpoints, endpoint.key = key)
    (htag : ∀ endpoint ∈ endpoints, endpoint.modificationTag = tag) (hne : endpoints ≠ [])
    (hcurrent : ∀ found, current = some found → NotNewer found.modificationTag tag) :
    cells key (endpoints.map .remove) current = none := by
  cases endpoints with
  | nil => exact absurd rfl hne
  | cons first rest =>
    rw [forall_mem_cons] at hkey htag
    rw [map_cons, cells_cons]
    have hfirst : (remove first).cell key current = none := by
      have hcell := cell_remove_self first current
      rw [hkey.1] at hcell
      rw [hcell]
      cases current with
      | none => rfl
      | some found =>
        obtain ⟨hepoch, hindex⟩ := hcurrent found rfl
        unfold removeCell
        rw [htag.1]
        exact if_pos (tagEqual_or_succeededBy hepoch hindex)
    rw [hfirst]
    exact cells_remove_none

end Cells

/-! ## The cell of an instance -/

section ActualLRP

variable {key : RoutingKey} {endpointKey' : EndpointKey} {actualLRP : ActualLRP}

theorem endpointsAt_ne_nil :
    endpointsAt .http key actualLRP ≠ [] ↔ key ∈ routingKeys actualLRP := by
  simp [endpointsAt, routingKeys, TableKind.endpointGenerator]

theorem key_of_mem_endpointsAt {endpoint : Endpoint}
    (hmem : endpoint ∈ endpointsAt .http key actualLRP) : endpoint.key = endpointKey actualLRP := by
  obtain ⟨hgenerated, -⟩ := generated_of_mem_endpointsAt hmem
  rw [Endpoint.key, endpointKey, hgenerated.instanceGUID, hgenerated.presence]

/-- What an operation leaves under a routing key and an endpoint key, in an entry without
a limit of instances. -/
def cellAfter (key : RoutingKey) (endpointKey : EndpointKey) (current : Option Endpoint)
    (operation : Operation) : Option Endpoint :=
  EndpointAction.cells endpointKey (operation.actions .http key) current

variable {current : Option Endpoint}

/-- The operation is not about the endpoints under the key. -/
def Operation.Spares (endpointKey' : EndpointKey) : Operation → Prop
  | .addEndpoint actualLRP | .removeEndpoint actualLRP => endpointKey actualLRP ≠ endpointKey'
  | .setRoutes _ _ | .removeRoutes _ => True

theorem cellAfter_of_spares {operation : Operation} (h : operation.Spares endpointKey') :
    cellAfter key endpointKey' current operation = current := by
  cases operation with
  | addEndpoint actualLRP | removeEndpoint actualLRP =>
    refine cells_of_ne (fun action haction => ?_) current
    obtain ⟨endpoint, hendpoint, rfl⟩ := mem_map.mp haction
    exact (key_of_mem_endpointsAt hendpoint).symm ▸ h
  | setRoutes _ _ | removeRoutes _ => rfl

theorem foldl_of_spares {operations : List Operation}
    (h : ∀ operation ∈ operations, operation.Spares endpointKey') :
    operations.foldl (cellAfter key endpointKey') current = current := by
  induction operations with
  | nil => rfl
  | cons operation operations ih =>
    rw [forall_mem_cons] at h
    rw [foldl_cons, cellAfter_of_spares h.1]
    exact ih h.2

theorem spares_ite {condition : Prop} [Decidable condition] {operation other : Operation}
    (h : condition → operation.Spares endpointKey')
    (hmem : other ∈ if condition then [operation] else []) : other.Spares endpointKey' := by
  split at hmem
  · rename_i hcondition
    rw [mem_singleton.mp hmem]
    exact h hcondition
  · exact absurd hmem not_mem_nil

theorem cellAfter_of_notMem (hnot : key ∉ routingKeys actualLRP) :
    cellAfter key endpointKey' current (.addEndpoint actualLRP) = current ∧
      cellAfter key endpointKey' current (.removeEndpoint actualLRP) = current := by
  have hnil : endpointsAt .http key actualLRP = [] := by
    by_contra hne
    exact hnot (endpointsAt_ne_nil.mp hne)
  constructor <;> rw [cellAfter, Operation.actions, hnil] <;> rfl

theorem cellAfter_addEndpoint (hmem : key ∈ routingKeys actualLRP) :
    ∃ endpoint, cellAfter key (endpointKey actualLRP) current (.addEndpoint actualLRP) =
        some endpoint ∧
      (endpoint.modificationTag = actualLRP.modificationTag ∨ current = some endpoint) :=
  cells_add (fun _ hendpoint => key_of_mem_endpointsAt hendpoint)
    (fun _ hendpoint => (generated_of_mem_endpointsAt hendpoint).1.modificationTag)
    (endpointsAt_ne_nil.mpr hmem)

theorem cellAfter_removeEndpoint (hcurrent : ∀ found, current = some found →
      key ∈ routingKeys actualLRP ∧ NotNewer found.modificationTag actualLRP.modificationTag) :
    cellAfter key (endpointKey actualLRP) current (.removeEndpoint actualLRP) = none := by
  cases current with
  | none => exact cells_remove_none
  | some found =>
    exact cells_remove (fun _ hendpoint => key_of_mem_endpointsAt hendpoint)
      (fun _ hendpoint => (generated_of_mem_endpointsAt hendpoint).1.modificationTag)
      (endpointsAt_ne_nil.mpr (hcurrent found rfl).1) fun _ hfound => (hcurrent _ hfound).2

end ActualLRP

/-- The cell of an endpoint key is filled exactly when the last state of the instance is
routable and has the routing key. -/
structure Selects (latest : Latest) (key : RoutingKey) (endpointKey : EndpointKey)
    (current : Option Endpoint) : Prop where
  of_none : current = none → ∀ actualLRP, latest endpointKey = some actualLRP →
    isRoutable actualLRP = true → key ∉ routingKeys actualLRP
  of_some : ∀ endpoint, current = some endpoint → ∃ actualLRP,
    latest endpointKey = some actualLRP ∧ isRoutable actualLRP = true ∧
      key ∈ routingKeys actualLRP ∧
      NotNewer endpoint.modificationTag actualLRP.modificationTag

namespace Selects

variable {latest latest' : Latest} {key : RoutingKey} {endpointKey' : EndpointKey}
  {current : Option Endpoint} {actualLRP : ActualLRP}

/-- An empty cell, where nothing routable is known. -/
theorem empty (hlatest : ∀ actualLRP, latest endpointKey' = some actualLRP →
    isRoutable actualLRP = false) : Selects latest key endpointKey' none where
  of_none _ actualLRP hactual hroutable := by
    rw [hlatest actualLRP hactual] at hroutable
    simp at hroutable
  of_some _ hnone := by simp at hnone

theorem unknown (hlatest : latest endpointKey' = none) : Selects latest key endpointKey' none :=
  .empty fun _ hactual => by simp [hlatest] at hactual

/-- An empty cell, where the known state is not routable. -/
theorem unroutable (hlatest : latest endpointKey' = some actualLRP)
    (hroutable : isRoutable actualLRP = false) : Selects latest key endpointKey' none := by
  refine Selects.empty ?_
  intro found hfound
  rw [hlatest] at hfound
  cases hfound
  exact hroutable

theorem congr (h : Selects latest key endpointKey' current)
    (hlatest : latest' endpointKey' = latest endpointKey') :
    Selects latest' key endpointKey' current where
  of_none hnone := by
    rw [hlatest]
    exact h.of_none hnone
  of_some endpoint hsome := by
    rw [hlatest]
    exact h.of_some endpoint hsome

theorem addEndpoint (h : Selects latest key (endpointKey actualLRP) current)
    (hroutable : isRoutable actualLRP = true)
    (hports : ∀ old, latest (endpointKey actualLRP) = some old → isRoutable old = true →
      routingKeys old ⊆ routingKeys actualLRP)
    (holder : ∀ old, latest (endpointKey actualLRP) = some old →
      Older old.modificationTag actualLRP.modificationTag)
    (hlatest : latest' (endpointKey actualLRP) = some actualLRP) :
    Selects latest' key (endpointKey actualLRP)
      (cellAfter key (endpointKey actualLRP) current (.addEndpoint actualLRP)) := by
  by_cases hmem : key ∈ routingKeys actualLRP
  · obtain ⟨endpoint, hcell, htag⟩ := @cellAfter_addEndpoint key actualLRP current hmem
    rw [hcell]
    refine ⟨fun hnone => absurd hnone (some_ne_none _), ?_⟩
    intro found hfound
    cases hfound
    refine ⟨actualLRP, hlatest, hroutable, hmem, ?_⟩
    rcases htag with htag | hold
    · rw [htag]
      exact ⟨rfl, le_rfl⟩
    · obtain ⟨old, hold', -, -, hepoch, hindex⟩ := h.of_some _ hold
      obtain ⟨hepoch', hindex'⟩ := holder old hold'
      exact ⟨hepoch.trans hepoch', hindex.trans hindex'.le⟩
  · rw [(cellAfter_of_notMem hmem).1]
    have hnone : current = none := by
      rw [eq_none_iff_forall_ne_some]
      intro endpoint hsome
      obtain ⟨old, hold, hold', hkey, -⟩ := h.of_some endpoint hsome
      exact hmem (hports old hold hold' hkey)
    rw [hnone]
    refine ⟨fun _ found hfound _ => ?_, fun _ hsome => by simp at hsome⟩
    rw [hlatest] at hfound
    cases hfound
    exact hmem

theorem removeEndpoint (h : Selects latest key (endpointKey actualLRP) current)
    (hports : ∀ old, latest (endpointKey actualLRP) = some old → isRoutable old = true →
      routingKeys old ⊆ routingKeys actualLRP)
    (hnotNewer : ∀ old, latest (endpointKey actualLRP) = some old →
      NotNewer old.modificationTag actualLRP.modificationTag) :
    cellAfter key (endpointKey actualLRP) current (.removeEndpoint actualLRP) = none := by
  refine cellAfter_removeEndpoint ?_
  intro found hfound
  obtain ⟨old, hold, hroutable, hkey, hepoch, hindex⟩ := h.of_some found hfound
  obtain ⟨hepoch', hindex'⟩ := hnotNewer old hold
  exact ⟨hports old hold hroutable hkey, hepoch.trans hepoch', hindex.trans hindex'⟩

/-- An instance of which nothing routable is known has an empty cell. -/
theorem eq_none (h : Selects latest key endpointKey' current)
    (hlatest : ∀ old, latest endpointKey' = some old → isRoutable old = false) :
    current = none := by
  rw [eq_none_iff_forall_ne_some]
  intro endpoint hsome
  obtain ⟨old, hold, hroutable, -⟩ := h.of_some endpoint hsome
  rw [hlatest old hold] at hroutable
  simp at hroutable

theorem eq_none_of_known (h : Selects latest key endpointKey' current)
    (hknown : latest endpointKey' = some actualLRP) (hroutable : isRoutable actualLRP = false) :
    current = none := by
  refine h.eq_none ?_
  intro old hold
  rw [hknown] at hold
  cases hold
  exact hroutable

theorem removeEndpoint_known (h : Selects latest key (endpointKey actualLRP) current)
    (hknown : latest (endpointKey actualLRP) = some actualLRP) :
    cellAfter key (endpointKey actualLRP) current (.removeEndpoint actualLRP) = none := by
  have heq : ∀ old, latest (endpointKey actualLRP) = some old → old = actualLRP := by
    intro old hold
    rw [hknown] at hold
    exact (some.inj hold).symm
  refine h.removeEndpoint ?_ ?_
  · intro old hold _
    rw [heq old hold]
    exact List.Subset.refl _
  · intro old hold
    rw [heq old hold]
    exact ⟨rfl, le_rfl⟩

end Selects

/-! ## One event -/

/-- The operations of a change are on the LRP it is about. -/
theorem mem_updateOperations {before after : ActualLRP} {operation : Operation}
    (hmem : operation ∈ updateOperations before after) :
    operation = .addEndpoint after ∨ operation = .removeEndpoint after ∨
      operation = .removeEndpoint before := by
  unfold updateOperations at hmem
  split at hmem
  · rcases mem_append.mp hmem with hmem | hmem
    · split at hmem
      · exact Or.inl (mem_singleton.mp hmem)
      · split at hmem
        · exact Or.inr (Or.inl (mem_singleton.mp hmem))
        · exact absurd hmem not_mem_nil
    · split at hmem
      · exact Or.inr (Or.inr (mem_singleton.mp hmem))
      · exact absurd hmem not_mem_nil
  · split at hmem
    · exact Or.inr (Or.inr (mem_singleton.mp hmem))
    · exact absurd hmem not_mem_nil

section Step

variable {latest : Latest} {key : RoutingKey} {endpointKey' : EndpointKey}
  {current : Option Endpoint}

variable {actualLRP : ActualLRP}

theorem isRoutable_of_not_running (hstate : actualLRP.state ≠ .running) :
    isRoutable actualLRP = false := by
  simp [isRoutable, hstate]

theorem running_of_isRoutable (hroutable : isRoutable actualLRP = true) :
    actualLRP.state = .running := by
  by_contra hstate
  rw [isRoutable_of_not_running hstate] at hroutable
  simp at hroutable

theorem Selects.created (h : Selects latest key endpointKey' current)
    (hdelivered : Delivered latest (.actualLRPInstanceCreated (some actualLRP)))
    (hcareful : Careful latest (.actualLRPInstanceCreated (some actualLRP))) :
    Selects (deliver latest (.actualLRPInstanceCreated (some actualLRP))) key endpointKey'
      ((eventOperations (.actualLRPInstanceCreated (some actualLRP))).foldl
        (cellAfter key endpointKey') current) := by
  obtain ⟨hrunning, hreplaces⟩ := hcareful
  by_cases hkey : endpointKey actualLRP = endpointKey'
  · subst hkey
    have hlatest : deliver latest (.actualLRPInstanceCreated (some actualLRP))
        (endpointKey actualLRP) = some actualLRP := update_self ..
    by_cases hstate : actualLRP.state = .running
    · rw [eventOperations, if_pos hstate]
      exact h.addEndpoint (hrunning hstate).1 (fun old hold hroutable =>
        (hreplaces old hold hroutable).2) hdelivered hlatest
    · rw [eventOperations, if_neg hstate, h.eq_none fun old hold => ?_]
      · exact Selects.unroutable hlatest (isRoutable_of_not_running hstate)
      · by_contra hroutable
        exact hstate (hreplaces old hold (Bool.not_eq_false _ ▸ hroutable)).1
  · rw [foldl_of_spares]
    · exact h.congr (update_of_ne (Ne.symm hkey) ..)
    · exact fun _ => spares_ite fun _ => hkey

theorem Selects.removed (h : Selects latest key endpointKey' current)
    (hdelivered : Delivered latest (.actualLRPInstanceRemoved (some actualLRP)))
    (hcareful : Careful latest (.actualLRPInstanceRemoved (some actualLRP))) :
    Selects (deliver latest (.actualLRPInstanceRemoved (some actualLRP))) key endpointKey'
      ((eventOperations (.actualLRPInstanceRemoved (some actualLRP))).foldl
        (cellAfter key endpointKey') current) := by
  by_cases hkey : endpointKey actualLRP = endpointKey'
  · subst hkey
    have hcell : (eventOperations (.actualLRPInstanceRemoved (some actualLRP))).foldl
        (cellAfter key (endpointKey actualLRP)) current = none := by
      rw [eventOperations]
      by_cases hstate : actualLRP.state = .running
      · rw [if_pos hstate]
        exact h.removeEndpoint (fun old hold hroutable => (hcareful old hold hroutable).2)
          hdelivered
      · rw [if_neg hstate]
        refine h.eq_none ?_
        intro old hold
        by_contra hroutable
        exact hstate (hcareful old hold (Bool.not_eq_false _ ▸ hroutable)).1
    rw [hcell]
    exact Selects.unknown (update_self ..)
  · rw [foldl_of_spares]
    · exact h.congr (update_of_ne (Ne.symm hkey) ..)
    · exact fun _ => spares_ite fun _ => hkey

section Change

variable {before after : ActualLRP}

/-- The removal that follows a change from ordinary to evacuating is under another key. -/
theorem foldl_evacuation :
    (if before.state = .running ∧ before.presence = .ordinary ∧ after.presence = .evacuating then
      [Operation.removeEndpoint before] else []).foldl (cellAfter key (endpointKey after)) current =
      current := by
  refine foldl_of_spares fun _ => spares_ite fun hflip hkey => ?_
  have hevacuating := congrArg EndpointKey.evacuating hkey
  simp [endpointKey, hflip.2.1, hflip.2.2] at hevacuating

/-- The known state goes, whether or not it was running. -/
theorem Selects.foldl_removal (h : Selects latest key (endpointKey before) current)
    (hbefore : latest (endpointKey before) = some before) :
    (if before.state = .running then [Operation.removeEndpoint before] else []).foldl
      (cellAfter key (endpointKey before)) current = none := by
  split
  · exact h.removeEndpoint_known hbefore
  · rename_i hstate
    exact h.eq_none_of_known hbefore (isRoutable_of_not_running hstate)

/-- What is known under the key of the state after a change is the state before, or is out
of the way. -/
theorem CarefulChange.known (hcareful : CarefulChange latest before after)
    (hbefore : latest (endpointKey before) = some before) (hstate : after.state = .running)
    {old : ActualLRP} (hold : latest (endpointKey after) = some old)
    (hroutable : isRoutable old = true) :
    (isRoutable after = true ∨ before.getRoutable = true) ∧
      routingKeys old ⊆ routingKeys after := by
  by_cases hkey : endpointKey after = endpointKey before
  · rw [hkey, hbefore] at hold
    cases hold
    exact hcareful.stays hkey hroutable hstate
  · obtain ⟨hafter, hports⟩ := hcareful.free hkey old hold hroutable
    exact ⟨Or.inl hafter, hports⟩

section

variable (h : Selects latest key (endpointKey after) current)
  (hbefore : latest (endpointKey before) = some before) {latest' : Latest}
include h hbefore

/-- A change to a running state, under the key of that state. -/
theorem Selects.changed_to_running (holder : ∀ old, latest (endpointKey after) = some old →
      Older old.modificationTag after.modificationTag)
    (hcareful : CarefulChange latest before after)
    (hlatest : latest' (endpointKey after) = some after) (hstate : after.state = .running) :
    Selects latest' key (endpointKey after)
      ((updateOperations before after).foldl (cellAfter key (endpointKey after)) current) := by
  have hports : ∀ old, latest (endpointKey after) = some old → isRoutable old = true →
      routingKeys old ⊆ routingKeys after := by
    intro old hold hroutable
    exact (hcareful.known hbefore hstate hold hroutable).2
  have hready : isRoutable after = (!after.routableExists || after.getRoutable) := by
    simp only [isRoutable, hstate, decide_true, Bool.true_and]
  rw [updateOperations, if_pos hstate, foldl_append, foldl_evacuation, ← hready]
  by_cases hroutable : isRoutable after = true
  · rw [if_pos hroutable]
    exact h.addEndpoint hroutable hports holder hlatest
  · have hunroutable : isRoutable after = false := Bool.not_eq_true _ ▸ hroutable
    rw [if_neg hroutable]
    by_cases hmarked : before.getRoutable = true
    · have hcell : cellAfter key (endpointKey after) current (.removeEndpoint after) = none := by
        refine h.removeEndpoint hports ?_
        intro old hold
        obtain ⟨hepoch, hindex⟩ := holder old hold
        exact ⟨hepoch, hindex.le⟩
      rw [if_pos hmarked, foldl_cons, hcell]
      exact Selects.unroutable hlatest hunroutable
    · have hnone : current = none := by
        refine h.eq_none ?_
        intro old hold
        by_contra hold'
        rcases (hcareful.known hbefore hstate hold (Bool.not_eq_false _ ▸ hold')).1 with
          hcontra | hcontra
        · exact hroutable hcontra
        · exact hmarked hcontra
      rw [if_neg hmarked, hnone]
      exact Selects.unroutable hlatest hunroutable

/-- A change to a state that is not running, under the key of that state. -/
theorem Selects.changed_to_stopped (hcareful : CarefulChange latest before after)
    (hstate : after.state ≠ .running) :
    (updateOperations before after).foldl (cellAfter key (endpointKey after)) current = none := by
  rw [updateOperations, if_neg hstate]
  by_cases hkey : endpointKey after = endpointKey before
  · rw [hkey] at h ⊢
    exact h.foldl_removal hbefore
  · rw [foldl_of_spares]
    · refine h.eq_none ?_
      intro old hold
      by_contra hold'
      have hroutable := (hcareful.free hkey old hold (Bool.not_eq_false _ ▸ hold')).1
      exact hstate (running_of_isRoutable hroutable)
    · exact fun _ => spares_ite fun _ => Ne.symm hkey

/-- A change, under the key of the state after it. -/
theorem Selects.changed_after (holder : ∀ old, latest (endpointKey after) = some old →
      Older old.modificationTag after.modificationTag)
    (hcareful : CarefulChange latest before after)
    (hlatest : latest' (endpointKey after) = some after) :
    Selects latest' key (endpointKey after)
      ((updateOperations before after).foldl (cellAfter key (endpointKey after)) current) := by
  by_cases hstate : after.state = .running
  · exact h.changed_to_running hbefore holder hcareful hlatest hstate
  · rw [h.changed_to_stopped hbefore hcareful hstate]
    exact Selects.unroutable hlatest (isRoutable_of_not_running hstate)

end

/-- A change, under the key that the instance leaves. -/
theorem Selects.changed_before (h : Selects latest key (endpointKey before) current)
    (hbefore : latest (endpointKey before) = some before)
    (hcareful : CarefulChange latest before after) (hkey : endpointKey after ≠ endpointKey before) :
    (updateOperations before after).foldl (cellAfter key (endpointKey before)) current = none := by
  by_cases hstate : after.state = .running
  · have hfirst : (if (!after.routableExists || after.getRoutable) = true then
          [Operation.addEndpoint after]
        else if before.getRoutable = true then [.removeEndpoint after] else []).foldl
          (cellAfter key (endpointKey before)) current = current := by
      split
      · exact cellAfter_of_spares hkey
      · exact foldl_of_spares fun _ => spares_ite fun _ => hkey
    rw [updateOperations, if_pos hstate, foldl_append, hfirst]
    by_cases hroutable : isRoutable before = true
    · rw [if_pos ⟨running_of_isRoutable hroutable, hcareful.leaves hkey hroutable hstate⟩]
      exact h.removeEndpoint_known hbefore
    · rw [h.eq_none_of_known hbefore (Bool.not_eq_true _ ▸ hroutable)]
      split
      · exact cells_remove_none
      · rfl
  · rw [updateOperations, if_neg hstate]
    exact h.foldl_removal hbefore

/-- A change, under a key it is not about. -/
theorem foldl_update_of_ne (hafter : endpointKey after ≠ endpointKey')
    (hbefore : endpointKey before ≠ endpointKey') :
    (updateOperations before after).foldl (cellAfter key endpointKey') current = current := by
  refine foldl_of_spares fun operation hoperation => ?_
  rcases mem_updateOperations hoperation with rfl | rfl | rfl
  · exact hafter
  · exact hafter
  · exact hbefore

theorem Selects.changed (h : Selects latest key endpointKey' current)
    (hbefore : latest (endpointKey before) = some before)
    (holder : ∀ old, latest (endpointKey after) = some old →
      Older old.modificationTag after.modificationTag)
    (hcareful : CarefulChange latest before after) :
    Selects (update (update latest (endpointKey before) none)
        (endpointKey after) (some after)) key endpointKey'
      ((updateOperations before after).foldl (cellAfter key endpointKey') current) := by
  by_cases hafterKey : endpointKey after = endpointKey'
  · subst hafterKey
    exact h.changed_after hbefore holder hcareful (update_self ..)
  · have hother : update (update latest (endpointKey before) none)
        (endpointKey after) (some after) endpointKey' =
        update latest (endpointKey before) none endpointKey' :=
      update_of_ne (Ne.symm hafterKey) ..
    by_cases hbeforeKey : endpointKey before = endpointKey'
    · subst hbeforeKey
      rw [h.changed_before hbefore hcareful hafterKey]
      exact Selects.unknown (hother.trans (update_self ..))
    · rw [foldl_update_of_ne hafterKey hbeforeKey]
      exact h.congr (hother.trans (update_of_ne (Ne.symm hbeforeKey) ..))

end Change

end Step

/-! ## Histories -/

section History

variable {latest : Latest} {key : RoutingKey} {endpointKey' : EndpointKey}
  {current : Option Endpoint} {events : List Event} {event : Event}

theorem Selects.step (h : Selects latest key endpointKey' current)
    (hdelivered : Delivered latest event) (hcareful : Careful latest event) :
    Selects (deliver latest event) key endpointKey'
      ((eventOperations event).foldl (cellAfter key endpointKey') current) := by
  cases event with
  | desiredLRPCreated desiredLRP | desiredLRPChanged before after | desiredLRPRemoved desiredLRP =>
    exact hdelivered.elim
  | actualLRPInstanceCreated actualLRP =>
    cases actualLRP with
    | none => exact h
    | some actualLRP => exact h.created hdelivered hcareful
  | actualLRPInstanceChanged key instanceKey before after =>
    cases before with
    | none => exact h
    | some before =>
      cases after with
      | none => exact h
      | some after => exact h.changed hdelivered.1 hdelivered.2 hcareful
  | actualLRPInstanceRemoved actualLRP =>
    cases actualLRP with
    | none => exact h
    | some actualLRP => exact h.removed hdelivered hcareful
  | actualLRPCrashed key instanceKey => exact h

theorem Selects.run (h : Selects latest key endpointKey' current)
    (hdelivered : Throughout Delivered latest events)
    (hcareful : Throughout Careful latest events) :
    Selects (events.foldl deliver latest) key endpointKey'
      ((events.flatMap eventOperations).foldl (cellAfter key endpointKey') current) := by
  induction events generalizing latest current with
  | nil => exact h
  | cons event events ih =>
    rw [foldl_cons, flatMap_cons, foldl_append]
    exact ih (h.step hdelivered.1 hcareful.1) hdelivered.2 hcareful.2

/-- A history changes no routes. -/
theorem routesChange_of_delivered (hdelivered : Throughout Delivered latest events)
    {operation : Operation} (hoperation : operation ∈ events.flatMap eventOperations) :
    operation.routesChange .http key = none := by
  induction events generalizing latest with
  | nil => exact absurd hoperation not_mem_nil
  | cons event events ih =>
    rw [flatMap_cons, mem_append] at hoperation
    rcases hoperation with hoperation | hoperation
    · cases event with
      | desiredLRPCreated desiredLRP | desiredLRPChanged before after
      | desiredLRPRemoved desiredLRP => exact hdelivered.1.elim
      | actualLRPInstanceCreated actualLRP | actualLRPInstanceRemoved actualLRP =>
        cases actualLRP with
        | none => exact absurd hoperation not_mem_nil
        | some actualLRP =>
          simp only [eventOperations] at hoperation
          split at hoperation
          · rw [mem_singleton.mp hoperation]
            rfl
          · exact absurd hoperation not_mem_nil
      | actualLRPInstanceChanged changed instanceKey before after =>
        cases before with
        | none => exact absurd hoperation not_mem_nil
        | some before =>
          cases after with
          | none => exact absurd hoperation not_mem_nil
          | some after => rcases mem_updateOperations hoperation with rfl | rfl | rfl <;> rfl
      | actualLRPCrashed crashed instanceKey => exact absurd hoperation not_mem_nil
    · exact ih hdelivered.2 hoperation

/-- Operations that change no routes act on an entry without a limit by cells. -/
theorem lookup_operations {operations : List Operation}
    (hroutes : ∀ operation ∈ operations, operation.routesChange .http key = none) :
    ((updates Change.apply (changesAt key (operations.flatMap fun operation =>
        operation.changes .http)) none).getD default).endpoints.lookup endpointKey' =
      operations.foldl (cellAfter key endpointKey') none := by
  have hchanges : changesAt key (operations.flatMap fun operation => operation.changes .http) =
      (operations.flatMap fun operation => operation.actions .http key).map change := by
    rw [changesAt_flatMap, map_flatMap]
    refine flatMap_congr fun operation hoperation => ?_
    rw [changesAt_changes, hroutes operation hoperation]
    rfl
  rw [hchanges, updates_actions_of_unlimited rfl, cells, foldl_flatMap]
  rfl

/-- Routable instances have ports. -/
def Exposed (latest : Latest) : Prop :=
  ∀ endpointKey actualLRP, latest endpointKey = some actualLRP → isRoutable actualLRP = true →
    routingKeys actualLRP ≠ []

theorem Exposed.update (h : Exposed latest) {state : Option ActualLRP}
    (hstate : ∀ actualLRP, state = some actualLRP →
      isRoutable actualLRP = true → routingKeys actualLRP ≠ []) :
    Exposed (update latest endpointKey' state) := by
  intro found actualLRP hlatest hroutable
  rw [update_apply] at hlatest
  split at hlatest
  · exact hstate actualLRP hlatest hroutable
  · exact h found actualLRP hlatest hroutable

theorem Exposed.step (h : Exposed latest) (hcareful : Careful latest event) :
    Exposed (deliver latest event) := by
  cases event with
  | desiredLRPCreated desiredLRP | desiredLRPChanged before after | desiredLRPRemoved desiredLRP =>
    exact h
  | actualLRPInstanceCreated actualLRP =>
    cases actualLRP with
    | none => exact h
    | some actualLRP =>
      refine h.update ?_
      intro found hfound hroutable
      cases hfound
      exact (hcareful.1 (running_of_isRoutable hroutable)).2
  | actualLRPInstanceChanged key instanceKey before after =>
    cases before with
    | none => exact h
    | some before =>
      cases after with
      | none => exact h
      | some after =>
        refine (h.update fun _ hnone => by simp at hnone).update
          fun found hfound hroutable => ?_
        cases hfound
        exact hcareful.ports hroutable
  | actualLRPInstanceRemoved actualLRP =>
    cases actualLRP with
    | none => exact h
    | some actualLRP => exact h.update fun _ hnone => by simp at hnone
  | actualLRPCrashed key instanceKey => exact h

theorem Exposed.run (h : Exposed latest) (hcareful : Throughout Careful latest events) :
    Exposed (events.foldl deliver latest) := by
  induction events generalizing latest with
  | nil => exact h
  | cons event events ih => exact ih (h.step hcareful.1) hcareful.2

end History

def storedKeys (table : InternalRoutingTable) : Set EndpointKey :=
  {endpointKey | ∃ key endpoint, (table.entries.read key).endpoints.lookup endpointKey =
    some endpoint}

/-- The instances whose last state passes the filter of a sync. -/
def selectedKeys (latest : Latest) : Set EndpointKey :=
  {endpointKey | ∃ actualLRP, latest endpointKey = some actualLRP ∧ isRoutable actualLRP = true}

/-- **The event path selects what a sync selects**: after a history of events on actual
LRPs the HTTP table has endpoints of exactly the instances whose last state passes the
filter of `Watcher.sync`. -/
theorem storedKeys_eq_selectedKeys {handler : Handler} {normalize : String → String}
    {direct tcpTLSEnabled : Bool}
    (htable : handler.routingTable = newRoutingTable normalize direct tcpTLSEnabled)
    {events : List Event} (hdelivered : Throughout Delivered (fun _ => none) events)
    (hcareful : Throughout Careful (fun _ => none) events) :
    storedKeys (events.foldl Handler.handleEvent handler).routingTable.httpRoutesRoutingTable =
      selectedKeys (events.foldl deliver fun _ => none) := by
  have hselects : ∀ key endpointKey, Selects (events.foldl deliver fun _ => none) key endpointKey
      (((events.foldl Handler.handleEvent
        handler).routingTable.httpRoutesRoutingTable.entries.read key).endpoints.lookup
          endpointKey) := by
    intro key endpointKey
    have hlookup : (((newRoutingTable normalize direct tcpTLSEnabled).run
        (events.flatMap eventOperations)).part .http).entries.lookup key =
        updates Change.apply (changesAt key ((events.flatMap eventOperations).flatMap
          fun operation => operation.changes .http)) none :=
      lookup_run _ .http key
    have hcell : (((newRoutingTable normalize direct tcpTLSEnabled).run
        (events.flatMap eventOperations)).httpRoutesRoutingTable.entries.read
          key).endpoints.lookup endpointKey =
        (events.flatMap eventOperations).foldl (cellAfter key endpointKey) none := by
      refine Eq.trans ?_ (lookup_operations fun _ => routesChange_of_delivered hdelivered)
      rw [← hlookup]
      rfl
    rw [routingTable_foldl_handleEvent, htable, hcell]
    exact (Selects.unknown rfl).run hdelivered hcareful
  have hexposed : Exposed (events.foldl deliver fun _ => none) :=
    Exposed.run (fun _ _ hnone => by simp at hnone) hcareful
  ext endpointKey
  constructor
  · rintro ⟨key, endpoint, hlookup⟩
    obtain ⟨actualLRP, hlatest, hroutable, -⟩ := (hselects key endpointKey).of_some _ hlookup
    exact ⟨actualLRP, hlatest, hroutable⟩
  · rintro ⟨actualLRP, hlatest, hroutable⟩
    obtain ⟨key, hkey⟩ := List.exists_mem_of_ne_nil _ (hexposed _ _ hlatest hroutable)
    refine ⟨key, ?_⟩
    by_contra hnone
    push Not at hnone
    exact (hselects key endpointKey).of_none (Option.eq_none_iff_forall_ne_some.mpr hnone)
      actualLRP hlatest hroutable hkey

/-- An instance is created and then evacuated. -/
def sampleEvacuation : List Event :=
  [.actualLRPInstanceCreated (some (sampleActualLRP "process-guid")),
    .actualLRPInstanceChanged (sampleActualLRP "process-guid").toActualLRPKey
      (sampleActualLRP "process-guid").toActualLRPInstanceKey
      (some (sampleActualLRP "process-guid").toActualLRPInfo)
      (some { (sampleActualLRP "process-guid").toActualLRPInfo with
        modificationTag := ⟨"epoch", 2⟩
        presence := .evacuating })]

theorem storedKeys_eq_selectedKeys_sample :
    storedKeys (sampleEvacuation.foldl Handler.handleEvent
        sampleHandler).routingTable.httpRoutesRoutingTable =
      selectedKeys (sampleEvacuation.foldl deliver fun _ => none) := by
  -- nothing is known under the evacuating key
  have hfree : ∀ old : ActualLRP, deliver (fun _ => none)
      (.actualLRPInstanceCreated (some (sampleActualLRP "process-guid")))
      ⟨"instance-guid", true⟩ ≠ some old := by
    intro old hold
    exact Option.some_ne_none old hold.symm
  exact storedKeys_eq_selectedKeys rfl
    ⟨fun old hold => by simp at hold, ⟨rfl, fun old hold => absurd hold (hfree old)⟩, trivial⟩
    ⟨⟨fun _ => ⟨by decide, by decide⟩, fun old hold => by simp at hold⟩,
      { ports := fun _ => by decide
        stays := fun hkey => absurd hkey (by decide)
        leaves := fun _ _ _ => ⟨rfl, rfl⟩
        free := fun _ old hold => absurd hold (hfree old) }, trivial⟩

/-- A running instance that is not ready yet. -/
def sampleUnready : ActualLRP :=
  { sampleActualLRP "process-guid" with optionalRoutable := some false }

/-- The handler of creations does not look at the readiness: the endpoint of an instance
that a sync would leave out is in the table. -/
theorem unready_instance_is_stored :
    Throughout Delivered (fun _ => none) [.actualLRPInstanceCreated (some sampleUnready)] ∧
      storedKeys ([.actualLRPInstanceCreated (some sampleUnready)].foldl Handler.handleEvent
          sampleHandler).routingTable.httpRoutesRoutingTable ≠
        selectedKeys ([.actualLRPInstanceCreated (some sampleUnready)].foldl deliver
          fun _ => none) := by
  refine ⟨⟨fun old hold => by simp at hold, trivial⟩, ?_⟩
  intro heq
  have hstored : endpointKey sampleUnready ∈ storedKeys
      ([.actualLRPInstanceCreated (some sampleUnready)].foldl Handler.handleEvent
        sampleHandler).routingTable.httpRoutesRoutingTable :=
    ⟨⟨"process-guid", 8080⟩, _, rfl⟩
  rw [heq] at hstored
  obtain ⟨actualLRP, hlatest, hroutable⟩ := hstored
  have hlast : some sampleUnready = some actualLRP := hlatest
  cases hlast
  exact absurd hroutable (by decide)

end Diego.RouteEmitter
