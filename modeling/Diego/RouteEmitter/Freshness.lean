import Diego.RouteEmitter.Pairings

/-!
# Fresh domains

`Swap` replaces the entries of a table by those of a freshly built one, but keeps
the old routes of a domain that is not fresh.  Freshness is decided by the domain the
old entry remembers, and an entry does not always remember the domain of the desired
LRP that set its routes: `AddEndpoint` creates entries without a domain, and
`mergeUnfreshRoutes` hands the old domain on to the new routes.

`Sourced` follows a routing table together with the domain each entry's routes really
come from.  As long as no `Swap` puts routes of one domain under an entry of another
(`KeepsDomains`), entries with routes remember their domain, and `Swap` converges.
-/

namespace Diego.RouteEmitter

open Diego.Models InternalRoutingTable

/-! ## The domain routes come from -/

/-- The domain of the desired LRP that set the routes of each key, after an operation. -/
def originAfter (table : InternalRoutingTable) (operation : Operation)
    (origin : RoutingKey → String) (key : RoutingKey) : String :=
  match operation with
  | .setRoutes _ (some after) =>
    if key ∈ table.kind.routesGenerator (some after) ∧
        succeededBy (table.entries.read key).modificationTag after.modificationTag then
      after.domain
    else origin key
  | _ => origin key

/-- The same after a `Swap`: the routes of the other table, if it has any, are newer. -/
def originAfterSwap (other : InternalRoutingTable) (origin otherOrigin : RoutingKey → String)
    (key : RoutingKey) : String :=
  if (other.entries.read key).routes = [] then origin key else otherOrigin key

/-- The domains of the desired LRPs an operation sets the routes of. -/
def Operation.DomainsIn (domains : Set String) : Operation → Prop
  | .setRoutes _ (some after) => after.domain ∈ domains
  | _ => True

/-- `Sourced domains allowed table origin`: a run of calls on a new routing table, whose
desired LRPs have their domains in `domains` and whose swaps all satisfy `allowed`, ends
in `table`, and `origin` is the domain the routes of every entry come from. -/
inductive Sourced (domains : Set String)
    (allowed : InternalRoutingTable → InternalRoutingTable → Prop) :
    RoutingTable → (Part → RoutingKey → String) → Prop
  | new (normalize : String → String) (directInstanceRoute tcpTLSEnabled : Bool) :
      Sourced domains allowed (newRoutingTable normalize directInstanceRoute tcpTLSEnabled)
        fun _ _ => ""
  | operate {table : RoutingTable} {origin : Part → RoutingKey → String} (operation : Operation)
      (htable : Sourced domains allowed table origin) (hdomains : operation.DomainsIn domains) :
      Sourced domains allowed (table.operate operation).table
        fun part => originAfter (table.part part) operation (origin part)
  | swap {table other : RoutingTable} {origin otherOrigin : Part → RoutingKey → String}
      (fresh : DomainSet) (htable : Sourced domains allowed table origin)
      (hother : Sourced domains allowed other otherOrigin)
      (hallowed : ∀ part, allowed (table.part part) (other.part part)) :
      Sourced domains allowed (table.swap other fresh).table
        fun part => originAfterSwap (other.part part) (origin part) (otherOrigin part)

/-- A `Swap` that brings routes for an entry of the old table brings them under the
domain that entry has. -/
def KeepsDomains (table other : InternalRoutingTable) : Prop :=
  ∀ key existing, table.entries.lookup key = some existing →
    (other.entries.read key).routes ≠ [] → existing.domain = (other.entries.read key).domain

/-! ## Entries with routes remember their domain -/

/-- If the entry has routes, its domain is where they come from, and is a known one. -/
def Remembers (domains : Set String) (origin : String) (entry : RoutableEndpoints) : Prop :=
  entry.routes ≠ [] → entry.domain = origin ∧ origin ∈ domains

section Remembers

variable {domains : Set String} {origin : String}

theorem remembers_default : Remembers domains origin default := by
  intro hroutes
  exact absurd rfl hroutes

variable {entry : RoutableEndpoints} {change : Change} {current : RoutableEndpoints}

theorem Remembers.endpointsOnly (hchange : change.EndpointsOnly)
    (hcurrent : Remembers domains origin current) (hnext : change.next current = some entry) :
    Remembers domains origin entry := by
  rw [hchange _ _ hnext]
  exact hcurrent

/-- A key that loses its routes has nothing to remember. -/
theorem remembers_removeRoutesChange {before after : Option DesiredLRP}
    (hnext : (removeRoutesChange before after).next current = some entry) :
    Remembers domains origin entry := by
  obtain rfl := eq_of_removeRoutesChange_next hnext
  intro hroutes
  exact absurd (routes_withoutRoutes after) hroutes

end Remembers

section Step

variable {domains : Set String} {table other : InternalRoutingTable}
  {origin otherOrigin : RoutingKey → String} {key : RoutingKey}

theorem remembers_setRoutes {before after : Option DesiredLRP}
    (hdomains : (Operation.setRoutes before after).DomainsIn domains)
    (h : ∀ key, Remembers domains (origin key) ((table.entries.lookup key).getD default)) :
    Remembers domains (originAfter table (.setRoutes before after) origin key)
      ((updates Change.apply (changesAt key (routesChanges table.kind before after))
        (table.entries.lookup key)).getD default) := by
  rw [changesAt_routesChanges]
  cases after with
  | none =>
    rw [routesChangeAt_of_none before (by simp)]
    split
    · exact Change.apply_induction _ remembers_default (h key) fun _ =>
        remembers_removeRoutesChange
    · exact h key
  | some after =>
    cases hnew : (table.kind.routesGenerator (some after)).lookup key with
    | none =>
      -- `SetRoutes` sets no routes here, so the origin stays
      have horigin : originAfter table (.setRoutes before (some after)) origin key =
          origin key := if_neg fun hset => AList.lookup_eq_none.mp hnew hset.1
      rw [routesChangeAt_of_none before hnew, horigin]
      split
      · exact Change.apply_induction _ remembers_default (h key) fun _ =>
          remembers_removeRoutesChange
      · exact h key
    | some routes =>
      have hkey : key ∈ table.kind.routesGenerator (some after) :=
        AList.lookup_isSome.mp (by rw [hnew]; rfl)
      rw [routesChangeAt_of_some before hnew]
      simp only [Option.toList_some, updates_cons, Change.apply, setRoutesChange, originAfter]
      by_cases htag : succeededBy (table.entries.read key).modificationTag
          after.modificationTag = true
      · have htag' : succeededBy ((table.entries.lookup key).getD default).modificationTag
            after.modificationTag = true := htag
        rw [if_pos ⟨hkey, htag⟩]
        simp only [htag']
        exact fun _ => ⟨rfl, hdomains⟩
      · have htag' : succeededBy ((table.entries.lookup key).getD default).modificationTag
            after.modificationTag = false := by
          simpa [GoMap.read] using htag
        rw [if_neg fun hset => htag hset.2]
        simp only [htag']
        exact h key

theorem remembers_operate {operation : Operation} (hdomains : operation.DomainsIn domains)
    (h : ∀ key, Remembers domains (origin key) ((table.entries.lookup key).getD default)) :
    Remembers domains (originAfter table operation origin key)
      (((table.operate operation).1.entries.lookup key).getD default) := by
  cases operation with
  | addEndpoint actualLRP =>
    refine operate_induction table _ remembers_default (h key) fun change hmem _ _ => ?_
    obtain ⟨endpoint, -, -, rfl⟩ := mem_endpointChanges hmem
    exact Remembers.endpointsOnly (endpointsOnly_addChange endpoint)
  | removeEndpoint actualLRP =>
    refine operate_induction table _ remembers_default (h key) fun change hmem _ _ => ?_
    obtain ⟨endpoint, -, -, rfl⟩ := mem_endpointChanges hmem
    exact Remembers.endpointsOnly (endpointsOnly_removeChange endpoint)
  | setRoutes before after =>
    rw [lookup_operate]
    exact remembers_setRoutes hdomains h
  | removeRoutes desiredLRP =>
    have hnone : (Operation.setRoutes desiredLRP none).DomainsIn domains := trivial
    rw [lookup_operate]
    exact remembers_setRoutes hnone h

theorem remembers_swap (hkeeps : KeepsDomains table other)
    (h : ∀ key, Remembers domains (origin key) ((table.entries.lookup key).getD default))
    (hother : ∀ key, Remembers domains (otherOrigin key)
      ((other.entries.lookup key).getD default)) {fresh : DomainSet} :
    Remembers domains (originAfterSwap other origin otherOrigin key)
      (((table.swap other fresh).1.entries.lookup key).getD default) := by
  have hnew := hother key
  rw [lookup_swap]
  unfold swapEntry originAfterSwap
  by_cases hroutes : (other.entries.read key).routes = []
  · -- only old routes can be left, under the old domain
    rw [if_pos hroutes]
    cases hexisting : table.entries.lookup key with
    | none => exact fun hne => absurd hroutes hne
    | some existing =>
      have hold := h key
      rw [hexisting] at hold
      refine stored_induction _ remembers_default (fun hmerged => ?_)
      refine hold fun hnil => hmerged ?_
      have hnil' : existing.routes = [] := hnil
      have hroutes' : ((other.entries.lookup key).getD default).routes = [] := hroutes
      simp [mergeUnfreshRoutes, hnil', hroutes']
  · rw [if_neg hroutes]
    cases hexisting : table.entries.lookup key with
    | none => exact hnew
    | some existing =>
      refine stored_induction _ remembers_default (fun _ => ?_)
      obtain ⟨hdomain, hmem⟩ := hnew hroutes
      exact ⟨(hkeeps key existing hexisting hroutes).trans hdomain, hmem⟩

end Step

theorem Sourced.remembers {domains : Set String} {table : RoutingTable}
    {origin : Part → RoutingKey → String} (h : Sourced domains KeepsDomains table origin)
    (part : Part) (key : RoutingKey) :
    Remembers domains (origin part key) (((table.part part).entries.lookup key).getD default) := by
  induction h generalizing key with
  | new normalize directInstanceRoute tcpTLSEnabled =>
    rw [entries_part_newRoutingTable]
    exact remembers_default
  | operate operation htable hdomains ih =>
    rw [part_operate]
    exact remembers_operate hdomains ih
  | swap fresh htable hother hallowed ih ihother =>
    rw [part_swap]
    exact remembers_swap (hallowed part) ih ihother

/-! ## Swap converges -/

variable {fresh : DomainSet} {existing new : Option RoutableEndpoints}

/-- Where the old entry is fresh, or has no routes, so are the routes. -/
theorem routes_swapEntry_of_fresh
    (hfresh : (existing.getD default).routes ≠ [] → (existing.getD default).domain ∈ fresh) :
    ((swapEntry fresh existing new).getD default).routes = (new.getD default).routes := by
  cases existing with
  | none => rfl
  | some existing =>
    refine (routes_stored _ true).trans ?_
    simp only [mergeUnfreshRoutes]
    split
    · rfl
    · rename_i hunfresh
      have hnil : existing.routes = [] := by
        by_contra hroutes
        exact hunfresh (DomainSet.contains_iff.mpr (hfresh hroutes))
      rw [hnil]
      exact List.append_nil _

/-- Where the old entry is not fresh its routes stay, in their newer version if the
other table has one. -/
theorem mem_routes_swapEntry_of_unfresh (hunfresh : (existing.getD default).domain ∉ fresh)
    {route : RouteMapping} (hroute : route ∈ (existing.getD default).routes) :
    route ∈ ((swapEntry fresh existing new).getD default).routes ∨
      ∃ newer ∈ (new.getD default).routes, newer.hash = route.hash ∧
        newer ∈ ((swapEntry fresh existing new).getD default).routes := by
  cases existing with
  | none => exact absurd hroute List.not_mem_nil
  | some existing =>
    have hroutes : ((swapEntry fresh (some existing) new).getD default).routes =
        (new.getD default).routes ++ existing.routes.filter fun oldRoute =>
          !(new.getD default).routes.any fun newRoute => newRoute.hash = oldRoute.hash := by
      refine (routes_stored _ true).trans ?_
      exact if_neg fun hfresh => hunfresh (DomainSet.contains_iff.mp hfresh)
    rw [hroutes]
    by_cases hnewer : ∃ newer ∈ (new.getD default).routes, newer.hash = route.hash
    · obtain ⟨newer, hmem, hhash⟩ := hnewer
      exact Or.inr ⟨newer, hmem, hhash, List.mem_append_left _ hmem⟩
    · refine Or.inl (List.mem_append_right _ (List.mem_filter.mpr ⟨hroute, ?_⟩))
      simpa using hnewer

/-- **`Swap` converges.**  After a run whose swaps all kept the domains of entries, a
`Swap` with every supplied domain fresh leaves exactly the routes and endpoints of the
other table; and the routes of an entry whose domain is not fresh survive. -/
theorem swap_converges {domains : Set String} {table : RoutingTable}
    {origin : Part → RoutingKey → String} (h : Sourced domains KeepsDomains table origin)
    (other : RoutingTable) (fresh : DomainSet) (part : Part) (key : RoutingKey) :
    ((∀ domain ∈ domains, domain ∈ fresh) →
      (((table.swap other fresh).table.part part).entries.read key).routes =
          ((other.part part).entries.read key).routes ∧
        (((table.swap other fresh).table.part part).entries.read key).endpoints =
          ((other.part part).entries.read key).endpoints) ∧
    (origin part key ∉ fresh → ∀ route ∈ ((table.part part).entries.read key).routes,
      route ∈ (((table.swap other fresh).table.part part).entries.read key).routes ∨
        ∃ newer ∈ ((other.part part).entries.read key).routes, newer.hash = route.hash ∧
          newer ∈ (((table.swap other fresh).table.part part).entries.read key).routes) := by
  have hremembers := h.remembers part key
  simp only [GoMap.read, part_swap, lookup_swap]
  refine ⟨fun hfresh => ⟨?_, endpoints_swapEntry⟩, fun hunfresh route hroute => ?_⟩
  · refine routes_swapEntry_of_fresh ?_
    intro hroutes
    obtain ⟨hdomain, hmem⟩ := hremembers hroutes
    rw [hdomain]
    exact hfresh _ hmem
  · refine mem_routes_swapEntry_of_unfresh ?_ hroute
    rwa [(hremembers (List.ne_nil_of_mem hroute)).1]

/-- The run that sets the route of a process, and then swaps in the same again. -/
theorem sourced_sample : ∃ table origin,
    Sourced {"domain"} KeepsDomains table origin ∧
      ((table.part .http).entries.read ⟨"process-guid", 8080⟩).routes ≠ [] := by
  have hset : Sourced {"domain"} KeepsDomains _ _ :=
    .operate (.setRoutes none (sampleDesiredLRP "process-guid" "" 1)) (.new id false false) rfl
  refine ⟨_, _, .swap ["domain"] hset hset ?_, by decide⟩
  intro part key existing hlookup _
  rw [GoMap.read, hlookup]
  rfl

/-- The assumptions can be met: an empty table then takes over. -/
theorem swap_converges_sample : ∃ table,
    ((table.part .http).entries.read ⟨"process-guid", 8080⟩).routes ≠ [] ∧
      (((RoutingTable.swap table (newRoutingTable id false false) ["domain"]).table.part
        .http).entries.read ⟨"process-guid", 8080⟩).routes = [] := by
  obtain ⟨table, origin, hsourced, hroutes⟩ := sourced_sample
  exact ⟨table, hroutes, ((swap_converges hsourced (newRoutingTable id false false) ["domain"]
    .http ⟨"process-guid", 8080⟩).1 (by simp)).1⟩

/-- An endpoint that arrives before its routes makes an entry without a domain.  The
routes that a `Swap` then brings stay under it, and although their domain is fresh the
next `Swap`, with an empty table, does not remove them. -/
theorem swap_keeps_stale_routes : ∃ table origin,
    Sourced {"domain"} (fun _ _ => True) table origin ∧
      (((RoutingTable.swap table (newRoutingTable id false false) ["domain"]).table.part
        .http).entries.read ⟨"process-guid", 8080⟩).routes ≠
        (((newRoutingTable id false false).part .http).entries.read
          ⟨"process-guid", 8080⟩).routes := by
  refine ⟨_, _, .swap ["domain"]
    (.operate (.addEndpoint (sampleActualLRP "process-guid")) (.new id false false) trivial)
    (.operate (.setRoutes none (sampleDesiredLRP "process-guid" "" 1)) (.new id false false) rfl)
    fun _ => trivial, ?_⟩
  decide

end Diego.RouteEmitter
