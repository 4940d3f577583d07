import Diego.Executor.ContainerStore

/-!
# Allocating containers

`AllocateContainers` of `executor/depot/depot.go`: the requests are reserved one after the
other, and those that cannot be are returned.  Every request ends in one of two places: there
is a new container in the store that was made from it, or there is a failure for it.
-/

namespace Diego.Executor

namespace ContainerStore

variable {s : ContainerStore}

/-- `AllocateContainers`; `now` is the time of the reservations. -/
def allocateContainers (now : Nat → Int) :
    Nat → ContainerStore → List AllocationRequest → ContainerStore × List AllocationFailure
  | _, s, [] => (s, [])
  | i, s, req :: requests =>
    match req.validate with
    | some err =>
      let rest := allocateContainers now (i + 1) s requests
      (rest.1, ⟨req, err.message⟩ :: rest.2)
    | none =>
      match s.reserve req (now i) with
      | (s, .error err) =>
        let rest := allocateContainers now (i + 1) s requests
        (rest.1, ⟨req, err.message⟩ :: rest.2)
      | (s, .ok _) => allocateContainers now (i + 1) s requests

section Allocation

variable {Item : Type*} (request : Item → AllocationRequest)

/-- What becomes of items that are turned into requests: some are reserved, at some time, and
the others fail. -/
structure Allocates (items : List Item) (s : ContainerStore)
    (result : ContainerStore × List AllocationFailure) (reserved : List (Item × Int))
    (failed : List Item) : Prop where
  named : result.1.Named
  items : items.Perm (reserved.map Prod.fst ++ failed)
  containers : result.1.list.Perm (s.list ++ reserved.map fun (item, now) =>
    newReservedContainerFromAllocationRequest (request item) now)
  failures : result.2.map (fun failure => failure.request) = failed.map request

variable {request} {items : List Item} {item : Item}
  {result : ContainerStore × List AllocationFailure} {reserved : List (Item × Int)}
  {failed : List Item}

theorem Allocates.fail (h : Allocates request items s result reserved failed) (err : Error) :
    Allocates request (item :: items) s
      (result.1, ⟨request item, err.message⟩ :: result.2) reserved (item :: failed) where
  named := h.named
  items := (h.items.cons item).trans List.perm_middle.symm
  containers := h.containers
  failures := by
    rw [List.map_cons, List.map_cons, h.failures]

theorem Allocates.reserve {now : Int} (hnamed : s.Named)
    (hnew : s.nodes.lookup (request item).guid = none)
    (h : Allocates request items (s.reserved (request item) now) result reserved failed) :
    Allocates request (item :: items) s result ((item, now) :: reserved) failed where
  named := h.named
  items := h.items.cons item
  containers := by
    refine h.containers.trans (((hnamed.list_reserved hnew).append_right _).trans ?_)
    exact List.perm_middle.symm
  failures := h.failures

/-- Every item is reserved once or fails once, and the store gets the containers of those that
are reserved. -/
theorem allocateContainers_spec (now : Nat → Int) (i : Nat) (hnamed : s.Named) :
    ∃ reserved failed, Allocates request items s
      (allocateContainers now i s (items.map request)) reserved failed := by
  induction items generalizing i s with
  | nil => exact ⟨[], [], hnamed, List.Perm.refl _, by simp [allocateContainers], rfl⟩
  | cons item items ih =>
    rw [List.map_cons, allocateContainers]
    cases (request item).validate with
    | some err =>
      obtain ⟨reserved, failed, h⟩ := ih (i + 1) hnamed
      exact ⟨reserved, item :: failed, h.fail err⟩
    | none =>
      rcases s.reserve_spec with ⟨err, heq⟩ | ⟨hnew, -, heq⟩
      · rw [heq]
        obtain ⟨reserved, failed, h⟩ := ih (i + 1) hnamed
        exact ⟨reserved, item :: failed, h.fail err⟩
      · rw [heq]
        obtain ⟨reserved, failed, h⟩ := ih (i + 1) hnamed.reserved
        exact ⟨(item, now i) :: reserved, failed, h.reserve hnamed hnew⟩

/-- When the items can be found by the guids of their requests, the failures lead back to the
items that failed. -/
theorem Allocates.found (h : Allocates request items s result reserved failed) {V : Type*}
    (value : Item → V) {found : GoMap String V}
    (hfound : ∀ item ∈ items, found.lookup (request item).guid = some (value item)) :
    (result.2.filterMap fun failure => found.lookup failure.request.guid) = failed.map value := by
  calc (result.2.filterMap fun failure => found.lookup failure.request.guid)
      = (result.2.map fun failure => failure.request).filterMap
          fun request => found.lookup request.guid := by rw [List.filterMap_map]; rfl
    _ = failed.filterMap fun item => found.lookup (request item).guid := by
        rw [h.failures, List.filterMap_map]
        rfl
    _ = failed.filterMap fun item => some (value item) := by
        refine List.filterMap_congr ?_
        intro item hmem
        exact hfound item (h.items.mem_iff.mpr (List.mem_append_right _ hmem))
    _ = failed.map value := by rw [List.filterMap_eq_map']

end Allocation

end ContainerStore

end Diego.Executor
