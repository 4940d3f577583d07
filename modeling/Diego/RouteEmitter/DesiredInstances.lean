import Diego.RouteEmitter.Pairings

/-!
# Instances beyond the desired count

`AddEndpoint` skips an endpoint whose index is not below the desired count of its
entry, and `SetRoutes` drops such endpoints when it sees the desired LRP scaled down.
Neither covers an endpoint that is in the table before the desired LRP is: `SetRoutes`
then takes over the count and keeps the endpoint.

A table is `Within` its counts when no entry with a positive count has an endpoint
beyond it.  `AddEndpoint`, `RemoveEndpoint`, `RemoveRoutes` and `Swap` always keep a
table within, `SetRoutes` exactly when it `Trims` every entry it updates
(`within_setRoutes_iff`).  In the runs whose updates all do (`Scaled`) the registrations
are within the counts as well.  A count of zero limits nothing: `AddEndpoint` reads it as
a count that is not known yet.
-/

namespace Diego.RouteEmitter

open Diego.Models InternalRoutingTable

/-! ## Entries within their count -/

/-- Every endpoint of the entry is below its desired count, if that is positive. -/
def RoutableEndpoints.Within (entry : RoutableEndpoints) : Prop :=
  0 < entry.desiredInstances →
    ∀ endpoint ∈ entry.endpoints.values, endpoint.index < entry.desiredInstances

def InternalRoutingTable.Within (table : InternalRoutingTable) : Prop :=
  ∀ key entry, table.entries.lookup key = some entry → entry.Within

section Entry

variable {entry current : RoutableEndpoints}

theorem within_default : (default : RoutableEndpoints).Within := by
  intro hpositive
  exact absurd hpositive (by decide)

/-- Where an entry is dropped, nothing was beyond its count. -/
theorem within_stored_iff {prune : Bool} :
    ((entry.stored prune).getD default).Within ↔ entry.Within := by
  refine ⟨fun h => ?_, fun h => stored_induction _ within_default h⟩
  have hendpoints := endpoints_stored entry prune
  unfold RoutableEndpoints.stored at h hendpoints
  split at h
  · rename_i hdropped
    rw [if_pos hdropped] at hendpoints
    intro _ endpoint hmem
    rw [← hendpoints] at hmem
    exact absurd hmem (by simp [GoMap.mem_values, default])
  · exact h

variable {endpoint : Endpoint}

/-- `AddEndpoint` skips the instances beyond the count. -/
theorem RoutableEndpoints.Within.addChange (h : current.Within)
    (hnext : (addChange endpoint).next current = some entry) : entry.Within := by
  have hdesired : undesiredInstance current endpoint = false := by
    cases hundesired : undesiredInstance current endpoint with
    | false => rfl
    | true => simp [RouteEmitter.addChange, hundesired] at hnext
  obtain rfl := eq_of_addChange_next hnext
  intro hpositive found hfound
  obtain ⟨key, hlookup⟩ := GoMap.mem_values.mp hfound
  rw [GoMap.lookup_insert_ite] at hlookup
  split at hlookup
  · cases hlookup
    simp only [undesiredInstance, Bool.and_eq_false_iff, decide_eq_false_iff_not, not_lt,
      not_le] at hdesired
    rcases hdesired with hzero | hbelow
    · exact absurd hpositive (not_lt.mpr hzero)
    · exact hbelow
  · exact h hpositive found (GoMap.mem_values.mpr ⟨key, hlookup⟩)

/-- What keeps the count and only loses endpoints stays within. -/
theorem RoutableEndpoints.Within.shrink (h : current.Within)
    (hcount : entry.desiredInstances = current.desiredInstances)
    (hshrink : ∀ key endpoint, entry.endpoints.lookup key = some endpoint →
      current.endpoints.lookup key = some endpoint) : entry.Within := by
  intro hpositive endpoint hmem
  rw [hcount] at hpositive ⊢
  obtain ⟨key, hlookup⟩ := GoMap.mem_values.mp hmem
  exact h hpositive endpoint (GoMap.mem_values.mpr ⟨key, hshrink key endpoint hlookup⟩)

theorem RoutableEndpoints.Within.removeChange (h : current.Within)
    (hnext : (removeChange endpoint).next current = some entry) : entry.Within := by
  refine h.shrink ?_ (shrinks_removeChange current entry hnext)
  rw [eq_of_removeChange_next hnext]

theorem RoutableEndpoints.Within.removeRoutesChange (h : current.Within)
    {before : Option DesiredLRP}
    (hnext : (removeRoutesChange before none).next current = some entry) : entry.Within := by
  refine h.shrink ?_ (shrinks_removeRoutesChange current entry hnext)
  rw [eq_of_removeRoutesChange_next hnext]
  rfl

/-- The entry after a `Swap` has the endpoints and the count of the new table. -/
theorem RoutableEndpoints.Within.swapEntry {existing new : Option RoutableEndpoints}
    (h : (new.getD default).Within) {domains : DomainSet} :
    ((swapEntry domains existing new).getD default).Within := by
  cases existing with
  | none => exact h
  | some existing =>
    have hmerged : (mergeUnfreshRoutes existing (new.getD default) domains).Within := h
    exact stored_induction _ within_default hmerged

end Entry

variable {table : InternalRoutingTable} {oldEntry newEntry : RoutableEndpoints}

theorem within_iff : table.Within ↔ ∀ key, ((table.entries.lookup key).getD default).Within := by
  constructor
  · intro h key
    cases hlookup : table.entries.lookup key with
    | none => exact within_default
    | some entry => exact h key entry hlookup
  · intro h key entry hlookup
    have hentry := h key
    rwa [hlookup] at hentry

/-! ## Updates that trim -/

def ScaledDown (before : Option DesiredLRP) (after : DesiredLRP) : Prop :=
  ∃ old, before = some old ∧ after.instances < old.instances

/-- The update to `after` leaves no endpoint beyond its count in an entry that it gives
the count to. -/
structure Trims (table : InternalRoutingTable) (before : Option DesiredLRP)
    (after : DesiredLRP) : Prop where
  /-- Where there are routes, an endpoint beyond the count is dropped if the update
  scales down. -/
  routed : ∀ key ∈ table.kind.routesGenerator (some after),
    succeededBy (table.entries.read key).modificationTag after.modificationTag = true →
    ∀ endpoint ∈ (table.entries.read key).endpoints.values,
      endpoint.index < after.instances ∨ ScaledDown before after
  /-- Where the routes are removed, no endpoint is dropped. -/
  unrouted : ∀ key ∈ table.kind.routesGenerator before,
    key ∉ table.kind.routesGenerator (some after) →
    succeededBy (table.entries.read key).modificationTag after.modificationTag = true →
    ∀ endpoint ∈ (table.entries.read key).endpoints.values, endpoint.index < after.instances

/-- An operation that gives no entry a positive count which its endpoints exceed. -/
def Operation.Trims (table : InternalRoutingTable) : Operation → Prop
  | .setRoutes before (some after) => 0 < after.instances → RouteEmitter.Trims table before after
  | _ => True

section SetRoutes

variable {before : Option DesiredLRP} {after : DesiredLRP} {current : RoutableEndpoints}

theorem mem_scaledEndpoints {endpoints : GoMap EndpointKey Endpoint} {endpoint : Endpoint} :
    endpoint ∈ (scaledEndpoints before after endpoints).values ↔
      endpoint ∈ endpoints.values ∧
        (ScaledDown before after → endpoint.index < after.instances) := by
  unfold scaledEndpoints
  cases before with
  | none =>
    have hdown : ¬ ScaledDown none after := by
      rintro ⟨old, heq, -⟩
      exact absurd heq (by simp)
    simp only [hdown, false_imp_iff, and_true]
  | some old =>
    dsimp only
    split
    · rename_i hscaled
      have hdown : ScaledDown (some old) after := ⟨old, rfl, hscaled⟩
      simp only [GoMap.mem_values, GoMap.lookup_restrict, Option.filter_eq_some_iff,
        decide_eq_true_eq, exists_and_right, hdown, true_imp_iff]
    · rename_i hscaled
      have hdown : ¬ ScaledDown (some old) after := by
        rintro ⟨old', heq, hlt⟩
        cases heq
        exact hscaled hlt
      simp only [hdown, false_imp_iff, and_true]

/-- A key with routes: what is beyond the count has to be dropped. -/
theorem within_setRoutesChange_iff {routes : List RouteMapping}
    {current : Option RoutableEndpoints} (hcurrent : (current.getD default).Within) :
    (((setRoutesChange before after routes).apply current).getD default).Within ↔
      (0 < after.instances →
        succeededBy (current.getD default).modificationTag after.modificationTag = true →
        ∀ endpoint ∈ (current.getD default).endpoints.values, endpoint.index < after.instances ∨
          ScaledDown before after) := by
  cases htag : succeededBy (current.getD default).modificationTag after.modificationTag with
  | false =>
    rw [Change.apply_of_none (by simp [setRoutesChange, htag])]
    simp [hcurrent]
  | true =>
    rw [Change.apply_of_some (by simp [setRoutesChange, htag]; rfl), within_stored_iff]
    simp only [RoutableEndpoints.Within, mem_scaledEndpoints, forall_const]
    by_cases hdown : ScaledDown before after <;> simp [hdown]

/-- A key that lost its routes: nothing is dropped. -/
theorem within_removeRoutesChange_iff {current : Option RoutableEndpoints}
    (hcurrent : (current.getD default).Within) :
    (((removeRoutesChange before (some after)).apply current).getD default).Within ↔
      (0 < after.instances →
        succeededBy (current.getD default).modificationTag after.modificationTag = true →
        ∀ endpoint ∈ (current.getD default).endpoints.values,
          endpoint.index < after.instances) := by
  cases htag : succeededBy (current.getD default).modificationTag after.modificationTag with
  | false =>
    rw [Change.apply_of_none (by simp [removeRoutesChange, staleRemoval, htag])]
    simp [hcurrent]
  | true =>
    rw [Change.apply_of_some (by simp [removeRoutesChange, staleRemoval, htag]; rfl),
      within_stored_iff]
    simp [RoutableEndpoints.Within, withoutRoutes]

end SetRoutes

section Table

variable {table : InternalRoutingTable}

/-- **An update keeps a table within its counts exactly when it trims.** -/
theorem within_setRoutes_iff (h : table.Within) {before : Option DesiredLRP} {after : DesiredLRP} :
    (table.operate (.setRoutes before (some after))).1.Within ↔
      (0 < after.instances → Trims table before after) := by
  have hkey : ∀ key, ((updates Change.apply
      (changesAt key (routesChanges table.kind before (some after)))
        (table.entries.lookup key)).getD default).Within ↔
      (0 < after.instances →
        succeededBy (table.entries.read key).modificationTag after.modificationTag = true →
        (key ∈ table.kind.routesGenerator (some after) →
          ∀ endpoint ∈ (table.entries.read key).endpoints.values,
            endpoint.index < after.instances ∨ ScaledDown before after) ∧
        (key ∈ table.kind.routesGenerator before →
          key ∉ table.kind.routesGenerator (some after) →
          ∀ endpoint ∈ (table.entries.read key).endpoints.values,
            endpoint.index < after.instances)) := by
    intro key
    have hcurrent := within_iff.mp h key
    rw [changesAt_routesChanges]
    cases hnew : (table.kind.routesGenerator (some after)).lookup key with
    | some routes =>
      have hmem : key ∈ table.kind.routesGenerator (some after) :=
        AList.lookup_isSome.mp (by rw [hnew]; rfl)
      rw [routesChangeAt_of_some before hnew]
      refine (within_setRoutesChange_iff hcurrent).trans ?_
      simp [hmem, GoMap.read]
    | none =>
      have hmem : key ∉ table.kind.routesGenerator (some after) := AList.lookup_eq_none.mp hnew
      rw [routesChangeAt_of_none before hnew]
      split
      · rename_i hold
        refine (within_removeRoutesChange_iff hcurrent).trans ?_
        simp [hmem, hold, GoMap.read]
      · rename_i hold
        simp [hmem, hold, hcurrent]
  rw [within_iff]
  simp only [lookup_operate, Operation.changes, hkey]
  constructor
  · intro hall hpositive
    exact ⟨fun key hmem htag => (hall key hpositive htag).1 hmem,
      fun key hmem hnot htag => (hall key hpositive htag).2 hmem hnot⟩
  · intro htrims key hpositive htag
    exact ⟨fun hmem => (htrims hpositive).routed key hmem htag,
      fun hmem hnot => (htrims hpositive).unrouted key hmem hnot htag⟩

/-- The changes of an operation that trims keep every entry within its count. -/
theorem within_operate (h : table.Within) {operation : Operation}
    (htrims : operation.Trims table) : (table.operate operation).1.Within := by
  have hrun : (∀ key change, (key, change) ∈ operation.changes table.kind →
      ∀ current entry, current.Within → change.next current = some entry → entry.Within) →
        (table.operate operation).1.Within :=
    fun hstep => within_iff.mpr fun key => operate_induction table operation within_default
      (within_iff.mp h key) (hstep key)
  have hremove : ∀ desiredLRP key change,
      (key, change) ∈ routesChanges table.kind desiredLRP none →
        ∀ current entry, current.Within → change.next current = some entry → entry.Within := by
    intro desiredLRP key change hmem current entry hcurrent hnext
    rcases mem_routesChanges hmem with ⟨lrp, routes, hnone, -, -⟩ | ⟨-, -, rfl⟩
    · exact absurd hnone (by simp)
    · exact hcurrent.removeRoutesChange hnext
  cases operation with
  | addEndpoint actualLRP =>
    refine hrun fun key change hmem current entry hcurrent hnext => ?_
    obtain ⟨endpoint, -, -, rfl⟩ := mem_endpointChanges hmem
    exact hcurrent.addChange hnext
  | removeEndpoint actualLRP =>
    refine hrun fun key change hmem current entry hcurrent hnext => ?_
    obtain ⟨endpoint, -, -, rfl⟩ := mem_endpointChanges hmem
    exact hcurrent.removeChange hnext
  | setRoutes before after =>
    cases after with
    | none => exact hrun (hremove before)
    | some after => exact (within_setRoutes_iff h).mpr htrims
  | removeRoutes desiredLRP => exact hrun (hremove desiredLRP)

theorem within_swap {other : InternalRoutingTable} (h : other.Within) {domains : DomainSet} :
    (table.swap other domains).1.Within := by
  refine within_iff.mpr fun key => ?_
  rw [lookup_swap]
  exact (within_iff.mp h key).swapEntry

end Table

/-! ## Registrations -/

def Emission.registrationSet (emission : Emission) : Set (Endpoint × RegistrationMetadata) :=
  {registration | registration ∈ emission.registrations}

theorem isLog_registrationSet : IsLog Emission.registrationSet where
  empty := by simp [Emission.registrationSet]
  merge m o := by
    ext registration
    simp [Emission.registrationSet, Emission.merge]

/-- What an operation registers in its turns for one key. -/
def registrationsAt (table : InternalRoutingTable) (operation : Operation) (key : RoutingKey) :
    Set (Endpoint × RegistrationMetadata) :=
  outputs Change.apply
    (fun change current => (change.emission table.normalize current).registrationSet)
    (changesAt key (operation.changes table.kind)) (table.entries.lookup key)

/-- What a `Swap` registers in its turn for one key. -/
def swapRegistrationsAt (table other : InternalRoutingTable) (domains : DomainSet)
    (key : RoutingKey) : Set (Endpoint × RegistrationMetadata) :=
  if key ∈ mergedRoutingKeys table other then
    (swapEmission table.normalize domains (table.entries.lookup key)
      (other.entries.lookup key)).registrationSet
  else ∅

/-- The registrations `at` the keys are all that a call returns, and where the entry of
the key has a positive count after the call, they are below it. -/
structure RegistersWithin (result : InternalRoutingTable × Emission)
    (registrations : RoutingKey → Set (Endpoint × RegistrationMetadata)) : Prop where
  mem_iff : ∀ registration, registration ∈ result.2.registrations ↔
    ∃ key, registration ∈ registrations key
  index_lt : ∀ key, ∀ registration ∈ registrations key,
    0 < (result.1.entries.read key).desiredInstances →
      registration.1.index < (result.1.entries.read key).desiredInstances

variable {normalize : String → String} {registration : Endpoint × RegistrationMetadata}

/-- The count of the entry, if positive, is above the index. -/
def RoutableEndpoints.Allows (entry : RoutableEndpoints) (index : Int) : Prop :=
  0 < entry.desiredInstances → index < entry.desiredInstances

theorem allows_default {index : Int} : (default : RoutableEndpoints).Allows index := by
  intro hpositive
  exact absurd hpositive (by decide)

/-- Only endpoints of the new entry are registered, so the entry allows them. -/
theorem allows_of_mem_registrations (h : newEntry.Within)
    (hmem : registration ∈ (emitDiffMessages normalize oldEntry newEntry).registrations) :
    newEntry.Allows registration.1.index := by
  intro hpositive
  have hpairing : (registration.2.route.hash, registration.1.erase) ∈
      (emitDiffMessages normalize oldEntry newEntry).registered := ⟨registration, hmem, rfl⟩
  obtain ⟨endpoint, herase, hcase⟩ := mem_registered_emitDiffMessages.mp hpairing
  have hindex : endpoint.erase.index = registration.1.erase.index :=
    congrArg Endpoint.index herase
  refine hindex ▸ h hpositive endpoint ?_
  rcases hcase with ⟨-, hvalue⟩ | ⟨-, hunmatched⟩
  · exact hvalue
  · obtain ⟨key, hlookup⟩ := of_mem_unmatchedEndpoints hunmatched
    exact GoMap.mem_values.mpr ⟨key, hlookup⟩

section Registers

variable {change : Change} {current : Option RoutableEndpoints} {index : Int}

/-- One turn registers what the entry after it allows. -/
theorem allows_of_mem_emission (hwithin : ((change.apply current).getD default).Within)
    (hmem : registration ∈ (change.emission normalize current).registrationSet) :
    ((change.apply current).getD default).Allows registration.1.index := by
  cases hnext : change.next (current.getD default) with
  | none => simp [Change.emission, hnext, Emission.registrationSet] at hmem
  | some entry =>
    rw [Change.apply_of_some hnext] at hwithin ⊢
    have hemitted : registration ∈
        (emitDiffMessages normalize (current.getD default) entry).registrations := by
      simpa [Change.emission, hnext, Emission.registrationSet] using hmem
    exact stored_induction (·.Allows registration.1.index) allows_default
      (allows_of_mem_registrations (within_stored_iff.mp hwithin) hemitted)

/-- A change of the endpoints leaves the count alone, or drops the entry. -/
theorem Change.EndpointsOnly.allows (hchange : change.EndpointsOnly)
    (h : (current.getD default).Allows index) :
    ((change.apply current).getD default).Allows index := by
  refine change.apply_induction (·.Allows index) allows_default h fun entry hnext => ?_
  rw [hchange _ _ hnext]
  exact h

end Registers

/-- A loop over endpoints registers what the entry after it allows. -/
theorem allows_of_mem_outputs {changes : List Change} {current : Option RoutableEndpoints}
    (honly : ∀ change ∈ changes, change.EndpointsOnly)
    (hstep : ∀ change ∈ changes, ∀ current : Option RoutableEndpoints,
      (current.getD default).Within → ((change.apply current).getD default).Within)
    (hcurrent : (current.getD default).Within) (hmem : registration ∈ outputs Change.apply
      (fun change current => (change.emission normalize current).registrationSet) changes current) :
    ((updates Change.apply changes current).getD default).Allows registration.1.index := by
  induction changes generalizing current with
  | nil => exact absurd hmem (Set.notMem_empty _)
  | cons change changes ih =>
    have hhead := hstep change List.mem_cons_self current hcurrent
    have hrest := fun c hc => honly c (List.mem_cons_of_mem change hc)
    rw [updates_cons]
    rcases hmem with hnow | hlater
    · exact updates_induction (fun v : Option RoutableEndpoints =>
        (v.getD default).Allows registration.1.index) (allows_of_mem_emission hhead hnow)
        fun c hc _ => (hrest c hc).allows
    · exact ih hrest (fun c hc => hstep c (List.mem_cons_of_mem _ hc)) hhead hlater

section Table

variable {table : InternalRoutingTable}

theorem read_operate (operation : Operation) (key : RoutingKey) :
    (table.operate operation).1.entries.read key =
      (updates Change.apply (changesAt key (operation.changes table.kind))
        (table.entries.lookup key)).getD default := by
  rw [GoMap.read, lookup_operate]

variable {operation : Operation} {key : RoutingKey}

/-- An operation on the endpoints of an actual LRP registers within the counts. -/
theorem registrationsAt_endpointChanges (h : table.Within) {changeFor : Endpoint → Change}
    {actualLRP : ActualLRP}
    (hchanges : operation.changes table.kind = endpointChanges table.kind changeFor actualLRP)
    (honly : ∀ endpoint, (changeFor endpoint).EndpointsOnly)
    (hnext : ∀ endpoint current entry, current.Within →
      (changeFor endpoint).next current = some entry → entry.Within)
    (hmem : registration ∈ registrationsAt table operation key) :
    ((table.operate operation).1.entries.read key).Allows registration.1.index := by
  rw [read_operate]
  have hform : ∀ change ∈ changesAt key (operation.changes table.kind),
      ∃ endpoint, change = changeFor endpoint := by
    intro change hchange
    rw [hchanges] at hchange
    obtain ⟨endpoint, -, -, rfl⟩ := mem_endpointChanges (mem_changesAt.mp hchange)
    exact ⟨endpoint, rfl⟩
  refine allows_of_mem_outputs ?_ ?_ (within_iff.mp h key) hmem
  · intro change hchange
    obtain ⟨endpoint, rfl⟩ := hform change hchange
    exact honly endpoint
  · intro change hchange current hcurrent
    obtain ⟨endpoint, rfl⟩ := hform change hchange
    exact Change.apply_induction _ within_default hcurrent fun entry =>
      hnext endpoint _ entry hcurrent

/-- `SetRoutes` and `RemoveRoutes` change a key at most once, so their registrations are
those of that one turn. -/
theorem registrationsAt_routesChanges {before after : Option DesiredLRP}
    (hchanges : operation.changes table.kind = routesChanges table.kind before after)
    (hwithin : (table.operate operation).1.Within)
    (hmem : registration ∈ registrationsAt table operation key) :
    ((table.operate operation).1.entries.read key).Allows registration.1.index := by
  have hafter := within_iff.mp hwithin key
  rw [lookup_operate] at hafter
  rw [read_operate]
  unfold registrationsAt at hmem
  rw [hchanges, changesAt_routesChanges] at hafter hmem ⊢
  cases hchange : routesChangeAt table.kind before after key with
  | none =>
    rw [hchange] at hmem
    exact absurd hmem (Set.notMem_empty _)
  | some change =>
    rw [hchange] at hafter hmem
    rcases hmem with hnow | hlater
    · exact allows_of_mem_emission hafter hnow
    · exact absurd hlater (Set.notMem_empty _)

/-- **An operation that trims registers within the counts.** -/
theorem registersWithin_operate (h : table.Within) (htrims : operation.Trims table) :
    RegistersWithin (table.operate operation) (registrationsAt table operation) where
  mem_iff registration := by
    have hlog := Set.ext_iff.mp (log_operate table operation isLog_registrationSet) registration
    rw [Set.mem_iUnion] at hlog
    exact hlog
  index_lt key registration hmem := by
    have hafter := within_operate h htrims
    cases operation with
    | addEndpoint actualLRP =>
      exact registrationsAt_endpointChanges h rfl endpointsOnly_addChange
        (fun endpoint current entry hcurrent => hcurrent.addChange) hmem
    | removeEndpoint actualLRP =>
      exact registrationsAt_endpointChanges h rfl endpointsOnly_removeChange
        (fun endpoint current entry hcurrent => hcurrent.removeChange) hmem
    | setRoutes before after | removeRoutes desiredLRP =>
      exact registrationsAt_routesChanges rfl hafter hmem

/-- **A `Swap` registers within the counts.** -/
theorem registersWithin_swap {other : InternalRoutingTable} (h : other.Within)
    {domains : DomainSet} :
    RegistersWithin (table.swap other domains) (swapRegistrationsAt table other domains) where
  mem_iff registration := by
    have hlog := Set.ext_iff.mp (log_swap table other domains isLog_registrationSet) registration
    rw [Set.mem_iUnion] at hlog
    exact hlog
  index_lt key registration hmem := by
    have hnew := within_iff.mp h key
    rw [GoMap.read, lookup_swap]
    unfold swapRegistrationsAt at hmem
    split at hmem
    · cases hexisting : table.entries.lookup key with
      | none =>
        rw [hexisting] at hmem
        exact allows_of_mem_registrations hnew hmem
      | some existing =>
        rw [hexisting] at hmem
        have hmerged : (mergeUnfreshRoutes existing
            ((other.entries.lookup key).getD default) domains).Within := hnew
        exact stored_induction (·.Allows registration.1.index) allows_default
          (allows_of_mem_registrations hmerged hmem)
    · exact absurd hmem (Set.notMem_empty _)

end Table

/-! ## Runs -/

/-- `Scaled table`: a run of calls on an empty table ends in `table`, every update of the
run trims, and the tables swapped in come from such runs. -/
inductive Scaled : InternalRoutingTable → Prop
  | empty (kind : TableKind) (directInstanceRoute : Bool) (normalize : String → String) :
      Scaled ⟨kind, directInstanceRoute, normalize, ∅, ∅⟩
  | operate {table : InternalRoutingTable} (operation : Operation) (htable : Scaled table)
      (htrims : operation.Trims table) : Scaled (table.operate operation).1
  | swap {table other : InternalRoutingTable} (domains : DomainSet) (htable : Scaled table)
      (hother : Scaled other) : Scaled (table.swap other domains).1

theorem Scaled.within (h : Scaled table) : table.Within := by
  induction h with
  | empty kind directInstanceRoute normalize =>
    intro key entry hlookup
    simp at hlookup
  | operate operation htable htrims ih => exact within_operate ih htrims
  | swap domains htable hother ih ihother => exact within_swap ihother

/-- **Instances beyond a positive desired count are neither stored nor registered**, along
every run whose updates trim. -/
theorem scaled_routes_desired_instances {table : InternalRoutingTable} (h : Scaled table) :
    (∀ key entry, table.entries.lookup key = some entry → 0 < entry.desiredInstances →
      ∀ endpoint ∈ entry.endpoints.values, endpoint.index < entry.desiredInstances) ∧
    (∀ operation, operation.Trims table →
      RegistersWithin (table.operate operation) (registrationsAt table operation)) ∧
    (∀ other domains, Scaled other →
      RegistersWithin (table.swap other domains) (swapRegistrationsAt table other domains)) :=
  ⟨h.within, fun _ htrims => registersWithin_operate h.within htrims,
    fun _ _ hother => registersWithin_swap hother.within⟩

/-- The run that sets the route of a process with one instance and adds the instance. -/
theorem scaled_sample : Scaled
    ((emptyHTTPTable.operate (.setRoutes none (sampleDesiredLRP "process-guid" "" 1))).1.operate
      (.addEndpoint (sampleActualLRP "process-guid"))).1 := by
  refine .operate _ (.operate _ (.empty .http false id) fun _ => ⟨?_, ?_⟩) trivial
  · intro key _ _ endpoint hmem
    exact absurd hmem List.not_mem_nil
  · intro key _ _ _ endpoint hmem
    exact absurd hmem List.not_mem_nil

theorem scaled_routes_desired_instances_sample : ∃ table, Scaled table ∧
    (∃ key entry endpoint, table.entries.lookup key = some entry ∧ entry.desiredInstances = 1 ∧
      endpoint ∈ entry.endpoints.values ∧ endpoint.index = 0) ∧
    ∀ key entry, table.entries.lookup key = some entry → 0 < entry.desiredInstances →
      ∀ endpoint ∈ entry.endpoints.values, endpoint.index < entry.desiredInstances := by
  refine ⟨_, scaled_sample, ?_, (scaled_routes_desired_instances scaled_sample).1⟩
  refine ⟨⟨"process-guid", 8080⟩, _, ((newEndpointsFromActual
    (sampleActualLRP "process-guid")).headD default), rfl, ?_, ?_, ?_⟩ <;> decide

/-- Instance 5 is added, then a desired LRP with one instance gives the entry its route. -/
def sampleLateDesired : InternalRoutingTable × Emission :=
  (emptyHTTPTable.operate
    (.addEndpoint { sampleActualLRP "process-guid" with index := 5 })).1.operate
      (.setRoutes none (sampleDesiredLRP "process-guid" "" 1))

/-- A desired LRP without instances gives the entry its route, then instance 0 is added. -/
def sampleNoInstances : InternalRoutingTable × Emission :=
  (emptyHTTPTable.operate (.setRoutes none
    (some { sampleDesiredLRP "process-guid" "" 1 with instances := 0 }))).1.operate
      (.addEndpoint (sampleActualLRP "process-guid"))

/-- An endpoint that is in the table before the desired LRP is kept and registered beyond
the count; and with a count of zero `AddEndpoint` registers any instance. -/
theorem undesired_instance_is_registered :
    (∃ key entry, sampleLateDesired.1.entries.lookup key = some entry ∧
      entry.desiredInstances = 1 ∧
      (∃ endpoint ∈ entry.endpoints.values, endpoint.index = 5) ∧
      ∃ registration ∈ sampleLateDesired.2.registrations, registration.1.index = 5) ∧
    ∃ key entry, sampleNoInstances.1.entries.lookup key = some entry ∧
      entry.desiredInstances = 0 ∧
      ∃ registration ∈ sampleNoInstances.2.registrations, registration.1.index = 0 := by
  refine ⟨⟨⟨"process-guid", 8080⟩, _, rfl, ?_, ?_, ?_⟩, ⟨"process-guid", 8080⟩, _, rfl, ?_, ?_⟩ <;>
    decide

end Diego.RouteEmitter
