import Diego.Auction.Balance

/-!
# Why an auction fails

An auction that finds no cell that suits says which part of the placement constraint no cell meets.

`filterZones` and `scheduleTaskAuction` keep one error of all zones, and are meant to keep the most
specific one.  A tag mismatch gives way to whatever comes next, though, so the error depends on the
order of the zones if and only if some zone, but not every one, fails with a tag mismatch.
-/

namespace Diego.Auction

open Models Fallible List

/-! ## Zones without a cell that suits -/

/-- The error of a zone in which no cell suits. -/
def PlacementError.IsMismatch (tags : List String) (err : PlacementError) : Prop :=
  err = .cellMismatch ∨ err = .volumeDriverMismatch ∨ err = .placementTagMismatch tags

/-- What the error of several zones should be. -/
def mostSpecific (tags : List String) (errors : List PlacementError) : PlacementError :=
  if .placementTagMismatch tags ∈ errors then .placementTagMismatch tags
  else if .volumeDriverMismatch ∈ errors then .volumeDriverMismatch
  else .cellMismatch

section Zones

variable (parse : String → Option RootFSURL) (cells : Heap) (pc : PlacementConstraint) {zone : Zone}

def Unsuited (zone : Zone) : Prop :=
  ∀ ref ∈ zone, ¬ (cells ref).suits parse pc = true

instance (zone : Zone) : Decidable (Unsuited parse cells pc zone) :=
  inferInstanceAs (Decidable (∀ ref ∈ zone, ¬ _ = true))

/-- The errors of those zones that fail. -/
def zoneErrors (zones : List Zone) : List PlacementError :=
  zones.filterMap fun zone => error? (filterCells parse cells zone pc)

theorem foldl_filterCell_isMismatch (zone : Zone) (found : List CellRef × Option PlacementError)
    (hfound : ∀ err ∈ found.2, err.IsMismatch pc.placementTags) :
    ∀ err ∈ (zone.foldl (filterCell parse cells pc) found).2, err.IsMismatch pc.placementTags := by
  induction zone generalizing found with
  | nil => exact hfound
  | cons ref zone ih =>
    unfold filterCell PlacementError.IsMismatch at *
    grind

theorem filterCells_isMismatch {err : PlacementError}
    (h : filterCells parse cells zone pc = .error err) : err.IsMismatch pc.placementTags := by
  have hfold := foldl_filterCell_isMismatch parse cells pc zone ([], some .cellMismatch)
    (by simp [PlacementError.IsMismatch])
  unfold filterCells at h
  split at h
  · cases h
  · rename_i heq
    cases h
    exact hfold err (by rw [heq]; rfl)

theorem Unsuited.filterCells (h : Unsuited parse cells pc zone) :
    ∃ err, filterCells parse cells zone pc = .error err ∧ err.IsMismatch pc.placementTags := by
  have hnone := filterCells_toOption parse cells pc zone
  rw [if_neg (by rintro ⟨ref, href, hsuits⟩; exact h ref href hsuits)] at hnone
  cases hfilter : Auction.filterCells parse cells zone pc with
  | error err => exact ⟨err, rfl, filterCells_isMismatch parse cells pc hfilter⟩
  | ok matching =>
    rw [hfilter] at hnone
    cases hnone

end Zones

/-! ## Combining the errors -/

section Combine

variable {tags : List String} {errors : List PlacementError}

/-- There is an error, and none of the errors is a tag mismatch or all of them are. -/
def Unambiguous (tags : List String) (errors : List PlacementError) : Prop :=
  errors ≠ [] ∧ (.placementTagMismatch tags ∉ errors ∨
    ∀ err ∈ errors, err = .placementTagMismatch tags)

instance : Decidable (Unambiguous tags errors) :=
  inferInstanceAs (Decidable (_ ∧ (_ ∨ ∀ err ∈ errors, _)))

/-- The errors of one zone after the other. -/
def combineZoneErrors : Option PlacementError → List PlacementError → Option PlacementError :=
  foldl fun zoneError err => some (combineZoneError zoneError err)

/-- Unambiguous errors are combined to the most specific one. -/
theorem combineZoneErrors_some {zoneError : PlacementError}
    (hmismatch : ∀ err ∈ zoneError :: errors, err.IsMismatch tags)
    (hcase : .placementTagMismatch tags ∉ zoneError :: errors ∨
      ∀ err ∈ zoneError :: errors, err = .placementTagMismatch tags) :
    combineZoneErrors (some zoneError) errors = some (mostSpecific tags (zoneError :: errors)) := by
  induction errors generalizing zoneError with
  | nil =>
    rcases hmismatch zoneError mem_cons_self with rfl | rfl | rfl <;>
      simp [combineZoneErrors, mostSpecific]
  | cons err errors ih =>
    have hnext : combineZoneErrors (some zoneError) (err :: errors) =
      combineZoneErrors (some (combineZoneError (some zoneError) err)) errors := rfl
    simp only [forall_mem_cons] at hmismatch hcase ih
    obtain ⟨hzone, herr, hrest⟩ := hmismatch
    -- a tag mismatch is combined with tag mismatches only
    rcases hzone with rfl | rfl | rfl <;> rcases herr with rfl | rfl | rfl <;>
      simp_all [combineZoneError, mostSpecific, PlacementError.IsMismatch]

/-- Every zone fails, with a mismatch. -/
def AllFail {Z : Type} (filter : Z → Except PlacementError Z) (errorOf : Z → Option PlacementError)
    (tags : List String) (zones : List Z) : Prop :=
  ∀ zone ∈ zones, ∃ err, filter zone = .error err ∧ errorOf zone = some err ∧ err.IsMismatch tags

section Loop

variable {Z : Type} {filter : Z → Except PlacementError Z} {errorOf : Z → Option PlacementError}
  {zones order : List Z}

theorem filterZonesBy_of_errors (hfail : AllFail filter errorOf tags zones)
    (zoneError : Option PlacementError) :
    error? (filterZonesBy filter zones [] zoneError) =
      combineZoneErrors zoneError (zones.filterMap errorOf) := by
  induction zones generalizing zoneError with
  | nil => cases zoneError <;> rfl
  | cons zone zones ih =>
    obtain ⟨⟨err, herr, herror, -⟩, hfail⟩ := forall_mem_cons.mp hfail
    rw [filterZonesBy, filterMap_cons, herr, herror]
    exact ih hfail _

/-- The loop keeps the most specific error in every order of the zones, if the errors are
unambiguous. -/
theorem filterZonesBy_mostSpecific (hperm : order.Perm zones)
    (hfail : AllFail filter errorOf tags zones)
    (hone : Unambiguous tags (zones.filterMap errorOf)) :
    filterZonesBy filter order [] none = .error (mostSpecific tags (zones.filterMap errorOf)) := by
  have hfail : AllFail filter errorOf tags order :=
    fun zone hzone => hfail zone (hperm.mem_iff.mp hzone)
  have hperm := hperm.filterMap errorOf
  have hmismatch : ∀ err ∈ order.filterMap errorOf, err.IsMismatch tags := by
    intro err herr
    obtain ⟨zone, hzone, herror⟩ := mem_filterMap.mp herr
    obtain ⟨err', -, herror', hmismatch⟩ := hfail zone hzone
    rw [herror'] at herror
    cases herror
    exact hmismatch
  have hspecific : mostSpecific tags (order.filterMap errorOf) =
      mostSpecific tags (zones.filterMap errorOf) := by
    simp only [mostSpecific, hperm.mem_iff]
  obtain ⟨hne, hcase⟩ := hone
  simp only [← hperm.mem_iff] at hcase
  rw [← error?_eq_some_iff, filterZonesBy_of_errors hfail none, ← hspecific]
  generalize order.filterMap errorOf = errors at *
  cases errors with
  | nil => exact absurd hperm.symm.eq_nil hne
  | cons err errors => exact combineZoneErrors_some hmismatch hcase

/-- The error of the zone that comes last is not turned into a tag mismatch. -/
theorem combineZoneError_ne {zoneError : Option PlacementError} {err : PlacementError}
    (hmismatch : err.IsMismatch tags) (hne : err ≠ .placementTagMismatch tags) :
    combineZoneError zoneError err ≠ .placementTagMismatch tags := by
  rcases hmismatch with rfl | rfl | rfl
  · unfold combineZoneError
    grind
  · unfold combineZoneError
    grind
  · exact absurd rfl hne

/-- The loop keeps the most specific error in every order of the zones if and only if the errors
are unambiguous. -/
theorem filterZonesBy_mostSpecific_iff (hfail : AllFail filter errorOf tags zones) :
    (∀ order : List Z, order.Perm zones → filterZonesBy filter order [] none =
        .error (mostSpecific tags (zones.filterMap errorOf))) ↔
      Unambiguous tags (zones.filterMap errorOf) := by
  refine ⟨fun hevery => ⟨?_, ?_⟩,
    fun hone order hperm => filterZonesBy_mostSpecific hperm hfail hone⟩
  · intro hnone
    have herror := filterZonesBy_of_errors hfail none
    rw [hnone, hevery zones (Perm.refl _)] at herror
    cases herror
  · refine or_iff_not_imp_left.mpr fun htag err herr => ?_
    rw [not_not] at htag
    by_contra hne
    -- the zone with the other error comes last
    obtain ⟨zone, hzone, herror⟩ := mem_filterMap.mp herr
    obtain ⟨before, after, rfl⟩ := append_of_mem hzone
    have hperm : (before ++ after ++ [zone]).Perm (before ++ zone :: after) :=
      (perm_append_singleton zone _).trans perm_middle.symm
    have hlast := filterZonesBy_of_errors
      (fun zone hzone => hfail zone (hperm.mem_iff.mp hzone)) none
    obtain ⟨err', -, herror', hmismatch⟩ := hfail zone hzone
    obtain rfl : err' = err := Option.some.inj (herror'.symm.trans herror)
    rw [hevery _ hperm, mostSpecific, if_pos htag, filterMap_append, filterMap_cons, herror,
      filterMap_nil, combineZoneErrors, foldl_append] at hlast
    exact combineZoneError_ne hmismatch hne (Option.some.inj hlast).symm

end Loop

end Combine

/-! ## The error that is reported -/

section Specific

variable {F : Type} [Float64 F]

/-- The runtime that visits these zones in the given order, for a task. -/
def Runtime.ranging (runtime : Runtime) (zones order : List Zone) (hperm : order.Perm zones) :
    Runtime :=
  { runtime with
    rangeForTask := fun _ found => if found = zones then order else found
    rangeForTask_perm := by
      intro _ found
      split
      · rename_i heq
        rw [heq]
        exact hperm
      · exact Perm.refl found }

/-- **The reported error is the most specific one in every order of the zones if and only if some
zone fails and none of them fails with a tag mismatch or all of them do.**  The zones of an LRP are
any list, those of a task the scheduler's. -/
theorem placement_error_mostSpecific_iff (s : Scheduler F) (runtime : Runtime) (cells : Heap)
    (zones : List LRPByZone) (lrpAuction : LRPAuction) (taskAuction : TaskAuction)
    (hlrp : ∀ lrpByZone ∈ zones,
      Unsuited runtime.parse cells lrpAuction.toPlacementConstraint lrpByZone.zone)
    (htask : ∀ zone ∈ s.zones.values,
      Unsuited runtime.parse cells taskAuction.toPlacementConstraint zone) :
    ((∀ order : List LRPByZone, order.Perm zones →
        filterZones runtime.parse cells order lrpAuction =
          .error (mostSpecific lrpAuction.placementTags
            (zoneErrors runtime.parse cells lrpAuction.toPlacementConstraint
              (zones.map LRPByZone.zone)))) ↔
      Unambiguous lrpAuction.placementTags
        (zoneErrors runtime.parse cells lrpAuction.toPlacementConstraint
          (zones.map LRPByZone.zone))) ∧
    ((∀ runtime' : Runtime, runtime'.parse = runtime.parse →
        s.scheduleTaskAuction runtime' cells taskAuction =
          .error (mostSpecific taskAuction.placementTags
            (zoneErrors runtime.parse cells taskAuction.toPlacementConstraint s.zones.values))) ↔
      Unambiguous taskAuction.placementTags
        (zoneErrors runtime.parse cells taskAuction.toPlacementConstraint s.zones.values)) := by
  constructor
  · unfold zoneErrors
    rw [filterMap_map]
    refine filterZonesBy_mostSpecific_iff fun lrpByZone hzone => ?_
    obtain ⟨err, herr, hmismatch⟩ := (hlrp lrpByZone hzone).filterCells
    exact ⟨err, by rw [herr]; rfl, error?_eq_some_iff.mpr herr, hmismatch⟩
  · have hfail : AllFail (fun zone => filterCells runtime.parse cells zone
        taskAuction.toPlacementConstraint) (fun zone => error? (filterCells runtime.parse cells zone
          taskAuction.toPlacementConstraint)) taskAuction.placementTags s.zones.values := by
      intro zone hzone
      obtain ⟨err, herr, hmismatch⟩ := (htask zone hzone).filterCells
      exact ⟨err, herr, error?_eq_some_iff.mpr herr, hmismatch⟩
    refine Iff.trans ⟨fun hevery order hperm => ?_, fun hevery runtime' hparse => ?_⟩
      (filterZonesBy_mostSpecific_iff hfail)
    · have hschedule := hevery (runtime.ranging s.zones.values order hperm) rfl
      have hrange : (runtime.ranging s.zones.values order hperm).rangeForTask
          taskAuction.identifier s.zones.values = order := if_pos rfl
      have hparse : (runtime.ranging s.zones.values order hperm).parse = runtime.parse := rfl
      rw [Scheduler.scheduleTaskAuction, hrange, hparse] at hschedule
      cases hfilter : filterZonesBy (fun zone => filterCells runtime.parse cells zone
          taskAuction.toPlacementConstraint) order [] none with
      | error err =>
        rw [hfilter] at hschedule
        exact congrArg Except.error (Except.error.inj hschedule)
      | ok filteredZones =>
        -- no zone is left, and without a cell the error is another one
        have hnone : filteredZones = [] := by
          refine ((congrArg (·.toOption.getD []) hfilter).symm.trans
            (filterZonesBy_eq order [] none)).trans (filterMap_eq_nil_iff.mpr fun zone hzone => ?_)
          obtain ⟨err, herr, -⟩ := hfail zone (hperm.mem_iff.mp hzone)
          exact congrArg Except.toOption herr
        rw [hfilter, hnone] at hschedule
        have hother := Except.error.inj hschedule
        unfold mostSpecific at hother
        split_ifs at hother
    · rw [Scheduler.scheduleTaskAuction, hparse,
        hevery _ (runtime'.rangeForTask_perm taskAuction.identifier s.zones.values)]
      rfl

def taggedLRP : LRPAuction :=
  { sampleLRP 0 with placementTags := ["tag"] }

def taggedTask : TaskAuction :=
  { sampleTask with placementTags := ["tag"] }

def sampleZones : List LRPByZone :=
  [{ zone := [0], instances := 0 }, { zone := [1], instances := 0 }]

theorem placement_error_mostSpecific_sample :
    (∀ order : List LRPByZone, order.Perm sampleZones →
      filterZones sampleRuntime.parse (sampleCells 100) order taggedLRP =
        .error (.placementTagMismatch ["tag"])) ∧
    ∀ runtime' : Runtime, runtime'.parse = sampleRuntime.parse →
      sampleScheduler.scheduleTaskAuction runtime' (sampleCells 100) taggedTask =
        .error (.placementTagMismatch ["tag"]) := by
  have hiff := placement_error_mostSpecific_iff sampleScheduler sampleRuntime (sampleCells 100)
    sampleZones taggedLRP taggedTask (by decide) (by decide)
  exact ⟨hiff.1.mpr (by decide), hiff.2.mpr (by decide)⟩

/-- The cells of the second zone provide no root file system. -/
def mixedCells (ref : CellRef) : Cell :=
  if ref = 0 then sampleCells 100 0
  else Cell.new "cell-1" { sampleState 100 with rootFSProviders := ∅ }

/-- The runtime that visits the zones of a task in the reverse order. -/
def Runtime.reversed (runtime : Runtime) : Runtime :=
  { runtime with
    rangeForTask := fun _ zones => zones.reverse
    rangeForTask_perm := fun _ zones => reverse_perm zones }

/-- The tag mismatch of the first zone is lost, unless the first zone comes last. -/
theorem placement_error_depends_on_order :
    zoneErrors sampleRuntime.parse mixedCells taggedLRP.toPlacementConstraint [[0], [1]] =
      [.placementTagMismatch ["tag"], .cellMismatch] ∧
    filterZones sampleRuntime.parse mixedCells sampleZones taggedLRP = .error .cellMismatch ∧
    filterZones sampleRuntime.parse mixedCells sampleZones.reverse taggedLRP =
      .error (.placementTagMismatch ["tag"]) ∧
    sampleScheduler.scheduleTaskAuction sampleRuntime mixedCells taggedTask =
      .error (.placementTagMismatch ["tag"]) ∧
    sampleScheduler.scheduleTaskAuction sampleRuntime.reversed mixedCells taggedTask =
      .error .cellMismatch :=
  ⟨rfl, rfl, rfl, rfl, rfl⟩

end Specific

end Diego.Auction
