import Diego.Delta
import Diego.RouteEmitter.RoutingTable

/-!
# What a difference of two entries emits

A pairing is a route hash together with an endpoint whose modification tag,
presence and since are erased: `endpointDifferent` compares endpoints, and
`diffRoutes` compares routes, up to exactly that.  `emitDiffMessages_delta` is the
spec of `emitDiffMessages`: when the endpoints of one instance agree up to the three
erased fields, the pairings it registers and unregisters lead exactly from the
pairings of the old entry to those of the new one.

Without agreement this fails: `diffEndpoints` looks for the counterpart of an
endpoint under its own key first and under the flipped key only if there is none.
-/

namespace Diego.RouteEmitter

open Diego.Models Option

/-! ## Pairings -/

/-- An endpoint without its modification tag, presence and since. -/
def Endpoint.erase (e : Endpoint) : Endpoint :=
  { e with modificationTag := default, presence := .ordinary, since := 0 }

variable (e : Endpoint) {hash : RouteHash} {key : EndpointKey} {endpoint : Endpoint}

@[simp] theorem Endpoint.erase_instanceGUID : e.erase.instanceGUID = e.instanceGUID := rfl

@[simp] theorem Endpoint.erase_containerPort : e.erase.containerPort = e.containerPort := rfl

theorem endpointDifferent_iff {before after : Endpoint} :
    endpointDifferent before after = true ↔ before.erase ≠ after.erase := by
  rw [endpointDifferent, decide_eq_true_eq]
  cases after
  simp [Endpoint.erase]

abbrev Pairing := RouteHash × Endpoint

/-- The pairings of an entry: every hash of its routes with every endpoint. -/
def RoutableEndpoints.pairings (entry : RoutableEndpoints) : Set Pairing :=
  {p | (∃ route ∈ entry.routes, route.hash = p.1) ∧
    ∃ key endpoint, entry.endpoints.lookup key = some endpoint ∧ endpoint.erase = p.2}

def Emission.registered (emission : Emission) : Set Pairing :=
  {p | ∃ registration ∈ emission.registrations,
    (registration.2.route.hash, registration.1.erase) = p}

def Emission.unregistered (emission : Emission) : Set Pairing :=
  {p | ∃ unregistration ∈ emission.unregistrations,
    (unregistration.2.route.hash, unregistration.1.erase) = p}

/-- A set read off an emission piece by piece. -/
structure IsLog {α : Type*} (log : Emission → Set α) : Prop where
  empty : log {} = ∅
  merge : ∀ m o : Emission, log (m.merge o) = log m ∪ log o

theorem isLog_registered : IsLog Emission.registered where
  empty := by simp [Emission.registered]
  merge m o := by
    ext p
    simp [Emission.registered, Emission.merge, or_and_right, exists_or]

theorem isLog_unregistered : IsLog Emission.unregistered where
  empty := by simp [Emission.unregistered]
  merge m o := by
    ext p
    simp [Emission.unregistered, Emission.merge, or_and_right, exists_or]

/-! ## Routes -/

variable {routes : List RouteMapping} {route : RouteMapping} {p : Pairing}
  {first second : GoMap EndpointKey Endpoint}

theorem mem_routesByHash : hash ∈ routesByHash routes ↔ ∃ route ∈ routes, route.hash = hash := by
  simp [routesByHash, GoMap.mem_ofPairs]

theorem of_lookup_routesByHash (hlookup : (routesByHash routes).lookup hash = some route) :
    route ∈ routes ∧ route.hash = hash := by
  have hmem := GoMap.mem_of_lookup_ofPairs hlookup
  rw [List.mem_map] at hmem
  obtain ⟨found, hfound, heq⟩ := hmem
  obtain ⟨rfl, rfl⟩ := Prod.mk.injEq .. ▸ heq
  exact ⟨hfound, rfl⟩

variable {normalize : String → String} {before after : List RouteMapping} {key' : EndpointKey}

/-- A route is removed when its hash is gone. -/
theorem exists_removed_iff :
    (∃ route ∈ (diffRoutes normalize before after).removed, route.hash = hash) ↔
      (∃ route ∈ before, route.hash = hash) ∧ ¬ ∃ route ∈ after, route.hash = hash := by
  simp only [diffRoutes, GoMap.mem_values, GoMap.lookup_restrict, filter_eq_some_iff,
    decide_eq_true_eq, mem_routesByHash]
  constructor
  · rintro ⟨route, ⟨found, hlookup, hgone⟩, rfl⟩
    obtain ⟨hmem, rfl⟩ := of_lookup_routesByHash hlookup
    exact ⟨⟨route, hmem, rfl⟩, hgone⟩
  · rintro ⟨hbefore, hgone⟩
    obtain ⟨route, hlookup⟩ := isSome_iff_exists.mp
      (AList.lookup_isSome.mpr (mem_routesByHash.mpr hbefore))
    exact ⟨route, ⟨hash, hlookup, hgone⟩, (of_lookup_routesByHash hlookup).2⟩

theorem exists_after_of_added (hroute : route ∈ (diffRoutes normalize before after).added) :
    route ∈ after := by
  simp only [diffRoutes, GoMap.mem_values, GoMap.lookup_restrict, filter_eq_some_iff]
    at hroute
  obtain ⟨hash, hlookup, _⟩ := hroute
  exact (of_lookup_routesByHash hlookup).1

theorem exists_added_of_new (hafter : ∃ route ∈ after, route.hash = hash)
    (hnew : ¬ ∃ route ∈ before, route.hash = hash) :
    ∃ route ∈ (diffRoutes normalize before after).added, route.hash = hash := by
  obtain ⟨route, hlookup⟩ := isSome_iff_exists.mp
    (AList.lookup_isSome.mpr (mem_routesByHash.mpr hafter))
  refine ⟨route, ?_, (of_lookup_routesByHash hlookup).2⟩
  simp only [diffRoutes, GoMap.mem_values, GoMap.lookup_restrict, filter_eq_some_iff]
  refine ⟨hash, hlookup, ?_⟩
  rw [AList.lookup_eq_none.mpr (mt mem_routesByHash.mp hnew)]

/-! ## Endpoints -/

@[simp] theorem EndpointKey.flip_flip (key : EndpointKey) : key.flip.flip = key := by
  simp [EndpointKey.flip]

theorem EndpointKey.eq_or_flip (hguid : key.instanceGUID = key'.instanceGUID) :
    key' = key ∨ key' = key.flip := by
  obtain ⟨guid, evacuating⟩ := key
  obtain ⟨guid', evacuating'⟩ := key'
  subst hguid
  cases evacuating <;> cases evacuating' <;> simp [EndpointKey.flip]

theorem Endpoint.key_instanceGUID : e.key.instanceGUID = e.instanceGUID := rfl

variable {source target : GoMap EndpointKey Endpoint}

theorem counterpart_instanceGUID : (counterpart target key).1.instanceGUID = key.instanceGUID := by
  unfold counterpart
  split <;> rfl

/-- The counterpart of a key is found under the key or under the flipped key. -/
theorem counterpart_some {other : Endpoint} (hother : (counterpart target key).2 = some other) :
    target.lookup key = some other ∨ target.lookup key.flip = some other := by
  unfold counterpart at hother
  grind

/-- A loop of `diffEndpoints` records an endpoint of the source that differs from its counterpart,
under the key at which it has looked last. -/
def Recorded (source target : GoMap EndpointKey Endpoint) (position : EndpointKey)
    (endpoint : Endpoint) : Prop :=
  ∃ key, source.lookup key = some endpoint ∧ (counterpart target key).1 = position ∧
    ∀ other, (counterpart target key).2 = some other → endpointDifferent other endpoint = true

section Recorded

variable {position : EndpointKey}

theorem mem_pairs_iff :
    (position, endpoint) ∈ (source.entries.filterMap fun entry =>
      match counterpart target entry.1 with
      | (key, none) => some (key, entry.2)
      | (key, some other) =>
        if endpointDifferent other entry.2 then some (key, entry.2) else none) ↔
    Recorded source target position endpoint := by
  simp only [List.mem_filterMap, Recorded]
  constructor
  · rintro ⟨⟨key, found⟩, hentry, hsome⟩
    refine ⟨key, ?_⟩
    rw [GoMap.mem_entries_iff] at hentry
    grind
  · rintro ⟨key, hsource, hposition, hdifferent⟩
    refine ⟨⟨key, endpoint⟩, GoMap.mem_entries_iff.mpr hsource, ?_⟩
    grind

theorem recorded_of_lookup
    (h : (unmatchedEndpoints source target).lookup position = some endpoint) :
    Recorded source target position endpoint :=
  mem_pairs_iff.mp (GoMap.mem_of_lookup_ofPairs h)

/-- An endpoint stays if nothing else is recorded under its position. -/
theorem Recorded.lookup_eq (h : Recorded source target position endpoint)
    (hunique : ∀ other, Recorded source target position other → other = endpoint) :
    (unmatchedEndpoints source target).lookup position = some endpoint :=
  GoMap.lookup_ofPairs_of_unique (mem_pairs_iff.mpr h) fun other hother =>
    hunique other (mem_pairs_iff.mp hother)

end Recorded

/-- An unmatched endpoint comes from the source. -/
theorem of_mem_unmatchedEndpoints (hmem : endpoint ∈ (unmatchedEndpoints source target).values) :
    ∃ key, source.lookup key = some endpoint := by
  obtain ⟨position, hlookup⟩ := GoMap.mem_values.mp hmem
  obtain ⟨key, hsource, -⟩ := recorded_of_lookup hlookup
  exact ⟨key, hsource⟩

/-! ## Unmatched endpoints -/

/-- Every endpoint is filed under its own key. -/
def Filed (endpoints : GoMap EndpointKey Endpoint) : Prop :=
  ∀ entry ∈ endpoints.entries, entry.2.key = entry.1

/-- No endpoint of the list belongs to the same instance and is equal up to
modification tag, presence and since. -/
def Unmatched (endpoints : List Endpoint) (endpoint : Endpoint) : Bool :=
  endpoints.all fun other =>
    other.instanceGUID ≠ endpoint.instanceGUID ∨ endpointDifferent other endpoint

/-- An endpoint that differs from the one of the target under its own key differs from the one under
the flipped key as well.  If there is none, the endpoint of the source under the flipped key, which
is then compared with the same one, does not differ from it. -/
def Separate (source target : GoMap EndpointKey Endpoint) : Prop :=
  ∀ entry ∈ source.entries, ∀ other ∈ target.lookup entry.1,
    endpointDifferent other entry.2 = true →
      (∀ flipped ∈ target.lookup entry.1.flip, endpointDifferent flipped entry.2 = true) ∧
      (target.lookup entry.1.flip = none →
        ∀ twin ∈ source.lookup entry.1.flip, endpointDifferent other twin = false)

instance : Decidable (Separate source target) :=
  inferInstanceAs (Decidable (∀ entry ∈ source.entries, ∀ other ∈ target.lookup entry.1, _))

theorem EndpointKey.flip_ne (key : EndpointKey) : key.flip ≠ key := by
  intro heq
  have hflag := congrArg EndpointKey.evacuating heq
  simp [EndpointKey.flip] at hflag

section Filed

variable {position : EndpointKey}

theorem Filed.key_eq (h : Filed source) (hlookup : source.lookup key = some endpoint) :
    endpoint.key = key :=
  h ⟨key, endpoint⟩ (GoMap.mem_entries_iff.mpr hlookup)

theorem Filed.values_nodup (h : Filed source) : source.values.Nodup := by
  refine source.nodupKeys.nodup.map_on ?_
  intro entry hentry entry' hentry' heq
  refine source.nodupKeys.eq_of_fst_eq hentry hentry' ?_
  rw [← h entry hentry, ← h entry' hentry', heq]

/-- The position of a recorded endpoint is that of its key. -/
theorem Recorded.of_filed (h : Recorded source target position endpoint) (hfiled : Filed source) :
    source.lookup endpoint.key = some endpoint ∧ (counterpart target endpoint.key).1 = position ∧
      ∀ other, (counterpart target endpoint.key).2 = some other →
        endpointDifferent other endpoint = true := by
  obtain ⟨key, hsource, hposition, hdifferent⟩ := h
  obtain rfl := hfiled.key_eq hsource
  exact ⟨hsource, hposition, hdifferent⟩

theorem values_nodup_unmatchedEndpoints (hfiled : Filed source) :
    (unmatchedEndpoints source target).values.Nodup := by
  refine (unmatchedEndpoints source target).nodupKeys.nodup.map_on ?_
  intro entry hentry entry' hentry' heq
  have hposition := (recorded_of_lookup (GoMap.mem_entries_iff.mp hentry)).of_filed hfiled
  have hposition' := (recorded_of_lookup (GoMap.mem_entries_iff.mp hentry')).of_filed hfiled
  refine (unmatchedEndpoints source target).nodupKeys.eq_of_fst_eq hentry hentry' ?_
  rw [← hposition.2.1, ← hposition'.2.1, heq]

theorem unmatched_iff (hfiled : Filed target) (hkey : endpoint.key = key) :
    Unmatched target.values endpoint = true ↔
      (∀ other, target.lookup key = some other → endpointDifferent other endpoint = true) ∧
        ∀ other, target.lookup key.flip = some other → endpointDifferent other endpoint = true := by
  simp only [Unmatched, List.all_eq_true, GoMap.mem_values, decide_eq_true_eq]
  constructor
  · intro hall
    have hsame : ∀ key', key'.instanceGUID = key.instanceGUID →
        ∀ other, target.lookup key' = some other → endpointDifferent other endpoint = true := by
      intro key' hguid other hlookup
      refine (hall other ⟨key', hlookup⟩).resolve_left (not_not.mpr ?_)
      rw [← Endpoint.key_instanceGUID, hfiled.key_eq hlookup, hguid, ← hkey,
        Endpoint.key_instanceGUID]
    exact ⟨hsame key rfl, hsame key.flip rfl⟩
  · rintro ⟨hown, hflip⟩ other ⟨key', hlookup⟩
    refine or_iff_not_imp_left.mpr fun hguid => ?_
    have hkeys : key.instanceGUID = key'.instanceGUID := by
      rw [← hkey, ← hfiled.key_eq hlookup]
      exact (not_not.mp hguid).symm
    rcases EndpointKey.eq_or_flip hkeys with rfl | rfl
    · exact hown other hlookup
    · exact hflip other hlookup

/-- An unmatched endpoint of the source is recorded. -/
theorem recorded_of_unmatched (hfiled : Filed target) (hsource : source.lookup key = some endpoint)
    (hkey : endpoint.key = key) (hunmatched : Unmatched target.values endpoint = true) :
    Recorded source target (counterpart target key).1 endpoint := by
  obtain ⟨hown, hflip⟩ := (unmatched_iff hfiled hkey).mp hunmatched
  refine ⟨key, hsource, rfl, fun other hother => ?_⟩
  rcases counterpart_some hother with hlookup | hlookup
  · exact hown other hlookup
  · exact hflip other hlookup

/-- Two endpoints are recorded under one position only if they are those of one instance, and only
the position is a key of the target. -/
theorem Recorded.collide (h : Recorded source target position endpoint) {other : Endpoint}
    (h' : Recorded source target position other) (hfiled : Filed source) (hne : other ≠ endpoint) :
    ∃ key compared, source.lookup key = some endpoint ∧ source.lookup key.flip = some other ∧
      endpointDifferent compared endpoint = true ∧ endpointDifferent compared other = true ∧
      (target.lookup key = some compared ∧ target.lookup key.flip = none ∨
        target.lookup key = none ∧ target.lookup key.flip = some compared) := by
  obtain ⟨hsource, hposition, hdifferent⟩ := h.of_filed hfiled
  obtain ⟨hsource', hposition', hdifferent'⟩ := h'.of_filed hfiled
  have hguid : endpoint.key.instanceGUID = other.key.instanceGUID := by
    rw [← counterpart_instanceGUID, hposition, ← hposition', counterpart_instanceGUID]
  have hflip : other.key = endpoint.key.flip := by
    refine (EndpointKey.eq_or_flip hguid).resolve_left fun hsame => hne ?_
    rw [hsame, hsource] at hsource'
    exact (some.inj hsource').symm
  rw [hflip] at hsource' hposition' hdifferent'
  refine ⟨endpoint.key, ?_⟩
  have hflip_ne := EndpointKey.flip_ne endpoint.key
  have hback := congrArg target.lookup (EndpointKey.flip_flip endpoint.key)
  unfold counterpart at hposition hposition' hdifferent hdifferent'
  cases hown : target.lookup endpoint.key with
  | some compared =>
    cases hother : target.lookup endpoint.key.flip with
    | some found =>
      simp only [hown, hother] at hposition hposition'
      exact absurd (hposition'.trans hposition.symm) hflip_ne
    | none =>
      simp only [hown, hother, hback] at hdifferent hdifferent'
      exact ⟨compared, hsource, hsource', hdifferent _ rfl, hdifferent' _ rfl, .inl ⟨rfl, rfl⟩⟩
  | none =>
    cases hother : target.lookup endpoint.key.flip with
    | some compared =>
      simp only [hown, hother] at hdifferent hdifferent'
      exact ⟨compared, hsource, hsource', hdifferent _ rfl, hdifferent' _ rfl, .inr ⟨rfl, rfl⟩⟩
    | none =>
      simp only [hown, hother, EndpointKey.flip_flip] at hposition hposition'
      exact absurd (hposition.trans hposition'.symm) hflip_ne

variable (hsource : Filed source) (htarget : Filed target)

include hsource htarget

theorem Separate.mem_iff (h : Separate source target) :
    endpoint ∈ (unmatchedEndpoints source target).values ↔
      endpoint ∈ source.values ∧ Unmatched target.values endpoint = true := by
  have hseparate : ∀ key endpoint other, source.lookup key = some endpoint →
      target.lookup key = some other → endpointDifferent other endpoint = true → _ :=
    fun key endpoint other hlookup hother =>
      h ⟨key, endpoint⟩ (GoMap.mem_entries_iff.mpr hlookup) other hother
  rw [GoMap.mem_values, GoMap.mem_values]
  constructor
  · rintro ⟨position, hlookup⟩
    obtain ⟨hfound, -, hdifferent⟩ := (recorded_of_lookup hlookup).of_filed hsource
    refine ⟨⟨endpoint.key, hfound⟩, (unmatched_iff htarget rfl).mpr ?_⟩
    unfold counterpart at hdifferent
    cases hown : target.lookup endpoint.key with
    | some other =>
      simp only [hown] at hdifferent
      have hdifferent := hdifferent other rfl
      exact ⟨fun _ heq => by rwa [← some.inj heq], (hseparate _ _ other hfound hown hdifferent).1⟩
    | none =>
      simp only [hown] at hdifferent
      exact ⟨fun _ heq => (by cases heq), hdifferent⟩
  · rintro ⟨⟨key, hfound⟩, hunmatched⟩
    have hrecorded := recorded_of_unmatched htarget hfound (hsource.key_eq hfound) hunmatched
    refine ⟨_, hrecorded.lookup_eq fun other hother => ?_⟩
    by_contra hne
    -- the other endpoint is compared with the same one, and differs from it
    obtain ⟨key', compared, hfound', htwin, hdifferent, hdifferent', hlookup | hlookup⟩ :=
      hrecorded.collide hother hsource hne
    · have hequal := (hseparate _ _ _ hfound' hlookup.1 hdifferent).2 hlookup.2 _ htwin
      rw [hdifferent'] at hequal
      cases hequal
    · have hequal := (hseparate _ _ _ htwin hlookup.2 hdifferent').2
        ((EndpointKey.flip_flip key').symm ▸ hlookup.1) _
        ((EndpointKey.flip_flip key').symm ▸ hfound')
      rw [hdifferent] at hequal
      cases hequal

theorem separate_of_mem_iff (hmem : ∀ endpoint,
      endpoint ∈ (unmatchedEndpoints source target).values ↔
        endpoint ∈ source.values ∧ Unmatched target.values endpoint = true) :
    Separate source target := by
  rintro ⟨key, endpoint⟩ hentry other hother hdifferent
  have hfound := GoMap.mem_entries_iff.mp hentry
  have hkey := hsource.key_eq hfound
  have hother : target.lookup key = some other := hother
  have hcounter : counterpart target key = (key, some other) := by simp [counterpart, hother]
  have hrecorded : Recorded source target key endpoint :=
    ⟨key, hfound, by rw [hcounter], by simpa [hcounter] using hdifferent⟩
  constructor
  · intro flipped hflipped
    have hflipped : target.lookup key.flip = some flipped := hflipped
    -- nothing else is recorded under the key, so the endpoint is in the result
    have hlookup := hrecorded.lookup_eq fun found hfound => by
      by_contra hne
      obtain ⟨key', compared, hsource', -, -, -, hlookup | hlookup⟩ :=
        hrecorded.collide hfound hsource hne
      · obtain rfl := hkey.symm.trans (hsource.key_eq hsource')
        rw [hflipped] at hlookup
        cases hlookup.2
      · obtain rfl := hkey.symm.trans (hsource.key_eq hsource')
        rw [hother] at hlookup
        cases hlookup.1
    have hunmatched := ((hmem endpoint).mp (GoMap.mem_values.mpr ⟨key, hlookup⟩)).2
    exact ((unmatched_iff htarget hkey).mp hunmatched).2 flipped hflipped
  · intro hnone twin htwin
    have htwin : source.lookup key.flip = some twin := htwin
    have hkey' := hsource.key_eq htwin
    have hback := congrArg target.lookup (EndpointKey.flip_flip key)
    by_contra hdifferent'
    rw [Bool.not_eq_false] at hdifferent'
    -- both are unmatched, and both are recorded under the key
    have hposition : ∀ found, found ∈ (unmatchedEndpoints source target).values →
        (counterpart target found.key).1 = key →
        (unmatchedEndpoints source target).lookup key = some found := by
      intro found hmem hcounter
      obtain ⟨position, hlookup⟩ := GoMap.mem_values.mp hmem
      rwa [← hcounter, ((recorded_of_lookup hlookup).of_filed hsource).2.1]
    have hlookup := hposition endpoint ((hmem endpoint).mpr ⟨GoMap.mem_values.mpr ⟨key, hfound⟩,
      (unmatched_iff htarget hkey).mpr (by simp [hother, hnone, hdifferent])⟩)
      (by rw [hkey, hcounter])
    have hlookup' := hposition twin ((hmem twin).mpr ⟨GoMap.mem_values.mpr ⟨key.flip, htwin⟩,
      (unmatched_iff htarget hkey').mpr (by simp [hback, hother, hnone, hdifferent'])⟩)
      (by rw [hkey', counterpart, hnone, EndpointKey.flip_flip])
    rw [hlookup] at hlookup'
    rw [← some.inj hlookup', hkey] at hkey'
    exact EndpointKey.flip_ne key hkey'.symm

/-- A loop of `diffEndpoints` returns every unmatched endpoint once if and only if the endpoints are
separate. -/
theorem unmatchedEndpoints_perm_iff :
    (unmatchedEndpoints source target).values.Perm
        (source.values.filter (Unmatched target.values)) ↔
      Separate source target := by
  rw [List.perm_ext_iff_of_nodup (values_nodup_unmatchedEndpoints hsource)
    (hsource.values_nodup.filter _)]
  simp only [List.mem_filter]
  exact ⟨separate_of_mem_iff hsource htarget, fun h endpoint => h.mem_iff hsource htarget⟩

end Filed

/-! ## The collected pairings -/

section Collect

variable {α : Type} {metadata : RouteMapping → α}

variable {pairings : GoMap (RouteHash × Endpoint) α} {containers : List Endpoint}

theorem mem_collectPairings :
    (hash, endpoint) ∈ collectPairings metadata pairings routes containers ↔
      (hash, endpoint) ∈ pairings ∨
        (∃ route ∈ routes, route.hash = hash) ∧ endpoint ∈ containers := by
  have hfold : ∀ (list : List (RouteMapping × Endpoint)) (m : GoMap (RouteHash × Endpoint) α),
      (hash, endpoint) ∈ list.foldl (fun pairings pairing =>
          pairings.insertNew (pairing.1.hash, pairing.2) (metadata pairing.1)) m ↔
        (hash, endpoint) ∈ m ∨ ∃ route, (route, endpoint) ∈ list ∧ route.hash = hash := by
    intro list
    induction list with
    | nil => simp
    | cons pairing list ih =>
      intro m
      rw [List.foldl_cons, ih, GoMap.mem_insertNew]
      constructor
      · rintro ((heq | hm) | ⟨route, hmem, hhash⟩)
        · obtain ⟨rfl, rfl⟩ := Prod.mk.injEq .. ▸ heq
          exact Or.inr ⟨pairing.1, by simp, rfl⟩
        · exact Or.inl hm
        · exact Or.inr ⟨route, List.mem_cons_of_mem _ hmem, hhash⟩
      · rintro (hm | ⟨route, hmem, rfl⟩)
        · exact Or.inl (Or.inr hm)
        · rcases List.mem_cons.mp hmem with rfl | hmem
          · exact Or.inl (Or.inl rfl)
          · exact Or.inr ⟨route, hmem, rfl⟩
  rw [collectPairings, hfold]
  simp only [List.product, List.mem_flatMap, List.mem_map, Prod.mk.injEq]
  refine or_congr_right ⟨?_, ?_⟩
  · rintro ⟨route, ⟨found, hfound, container, hcontainer, rfl, rfl⟩, hhash⟩
    exact ⟨⟨found, hfound, hhash⟩, hcontainer⟩
  · rintro ⟨⟨route, hroute, hhash⟩, hcontainer⟩
    exact ⟨route, ⟨route, hroute, endpoint, hcontainer, rfl, rfl⟩, hhash⟩

def FiledByHash (route : α → RouteMapping) (pairings : GoMap (RouteHash × Endpoint) α) : Prop :=
  ∀ key value, pairings.lookup key = some value → (route value).hash = key.1

variable {route : α → RouteMapping}

theorem filedByHash_collectPairings (hroute : ∀ mapping, route (metadata mapping) = mapping)
    (hfiled : FiledByHash route pairings) (routes : List RouteMapping) (containers : List Endpoint)
    : FiledByHash route (collectPairings metadata pairings routes containers) := by
  unfold collectPairings
  induction routes.product containers generalizing pairings with
  | nil => exact hfiled
  | cons pairing list ih =>
    refine ih ?_
    intro key value hlookup
    rw [GoMap.lookup_insertNew] at hlookup
    split at hlookup
    · rename_i hkey
      cases hlookup
      cases hold : pairings.lookup (pairing.1.hash, pairing.2) with
      | none => rw [getD_none, hroute, hkey]
      | some old => rw [hkey]; exact hfiled _ _ hold
    · exact hfiled _ _ hlookup

theorem filedByHash_empty : FiledByHash route (∅ : GoMap (RouteHash × Endpoint) α) := by
  intro key value hlookup
  simp at hlookup

theorem exists_entry_iff (hfiled : FiledByHash route pairings) :
    (∃ entry ∈ pairings.entries.map fun entry => (entry.1.2, entry.2),
        ((route entry.2).hash, entry.1.erase) = p) ↔
      ∃ endpoint, (p.1, endpoint) ∈ pairings ∧ endpoint.erase = p.2 := by
  constructor
  · rintro ⟨pair, hpair, rfl⟩
    obtain ⟨⟨key, value⟩, hmem, rfl⟩ := List.mem_map.mp hpair
    rw [GoMap.mem_entries_iff] at hmem
    refine ⟨key.2, ?_, rfl⟩
    simp only [hfiled _ _ hmem]
    exact AList.lookup_isSome.mp (by rw [hmem]; rfl)
  · rintro ⟨endpoint, hmem, herase⟩
    obtain ⟨value, hlookup⟩ := isSome_iff_exists.mp (AList.lookup_isSome.mpr hmem)
    exact ⟨(endpoint, value),
      List.mem_map.mpr ⟨⟨_, value⟩, GoMap.mem_entries_iff.mpr hlookup, rfl⟩,
      Prod.ext (hfiled (p.1, endpoint) value hlookup) herase⟩

theorem exists_collected_iff {metadata' : RouteMapping → α}
    (hroute : ∀ mapping, route (metadata mapping) = mapping)
    (hroute' : ∀ mapping, route (metadata' mapping) = mapping) {routes' : List RouteMapping}
    {containers' : List Endpoint} :
    (∃ entry ∈ (collectPairings metadata' (collectPairings metadata ∅ routes containers) routes'
          containers').entries.map fun entry => (entry.1.2, entry.2),
        ((route entry.2).hash, entry.1.erase) = p) ↔
      ∃ endpoint, endpoint.erase = p.2 ∧
        ((∃ route ∈ routes, route.hash = p.1) ∧ endpoint ∈ containers ∨
          (∃ route ∈ routes', route.hash = p.1) ∧ endpoint ∈ containers') := by
  have hfiled := filedByHash_collectPairings hroute' (filedByHash_collectPairings hroute
    filedByHash_empty routes containers) routes' containers'
  refine (exists_entry_iff hfiled).trans (exists_congr fun endpoint => ?_)
  rw [mem_collectPairings, mem_collectPairings, and_comm]
  simp only [AList.notMem_empty, false_or]

end Collect

/-! ## The difference of two entries -/

variable {oldEntry newEntry : RoutableEndpoints}

theorem mem_registered_emitDiffMessages :
    p ∈ (emitDiffMessages normalize oldEntry newEntry).registered ↔
      ∃ endpoint, endpoint.erase = p.2 ∧
        ((∃ route ∈ (diffRoutes normalize oldEntry.routes newEntry.routes).added,
            route.hash = p.1) ∧ endpoint ∈ newEntry.endpoints.values ∨
          (∃ route ∈ newEntry.routes, route.hash = p.1) ∧
            endpoint ∈ (unmatchedEndpoints newEntry.endpoints oldEntry.endpoints).values) :=
  exists_collected_iff (fun _ => rfl) fun _ => rfl

theorem mem_unregistered_emitDiffMessages :
    p ∈ (emitDiffMessages normalize oldEntry newEntry).unregistered ↔
      ∃ endpoint, endpoint.erase = p.2 ∧
        ((∃ route ∈ (diffRoutes normalize oldEntry.routes newEntry.routes).removed,
            route.hash = p.1) ∧ endpoint ∈ oldEntry.endpoints.values ∨
          (∃ route ∈ oldEntry.routes, route.hash = p.1) ∧
            endpoint ∈ (unmatchedEndpoints oldEntry.endpoints newEntry.endpoints).values) :=
  exists_collected_iff (fun _ => rfl) fun _ => rfl

/-- Endpoints of one instance in two maps agree up to the erased fields, and every
endpoint is filed under its own key. -/
structure EndpointsAgree (first second : GoMap EndpointKey Endpoint) : Prop where
  key_first : ∀ key endpoint, first.lookup key = some endpoint → endpoint.key = key
  key_second : ∀ key endpoint, second.lookup key = some endpoint → endpoint.key = key
  erase_eq : ∀ key key' endpoint endpoint', first.lookup key = some endpoint →
    second.lookup key' = some endpoint' → endpoint.instanceGUID = endpoint'.instanceGUID →
      endpoint.erase = endpoint'.erase

theorem EndpointsAgree.symm (h : EndpointsAgree first second) : EndpointsAgree second first where
  key_first := h.key_second
  key_second := h.key_first
  erase_eq key key' endpoint endpoint' hfirst hsecond hguid :=
    (h.erase_eq key' key endpoint' endpoint hsecond hfirst hguid.symm).symm

theorem EndpointsAgree.filed (h : EndpointsAgree first second) : Filed first := fun entry hentry =>
  h.key_first entry.1 entry.2 (GoMap.mem_entries_iff.mp hentry)

/-- Where endpoints agree, those under one key do not differ. -/
theorem EndpointsAgree.separate (h : EndpointsAgree first second) : Separate first second := by
  rintro ⟨key, endpoint⟩ hentry other hother hdifferent
  have hfirst := GoMap.mem_entries_iff.mp hentry
  refine absurd (h.erase_eq _ _ _ _ hfirst hother ?_).symm (endpointDifferent_iff.mp hdifferent)
  rw [← Endpoint.key_instanceGUID, ← Endpoint.key_instanceGUID, h.key_first _ _ hfirst,
    h.key_second _ _ hother]

/-- Where endpoints agree, an endpoint is unmatched exactly when its instance has
no endpoint on the other side. -/
theorem EndpointsAgree.mem_unmatched_iff (h : EndpointsAgree first second) :
    endpoint ∈ (unmatchedEndpoints first second).values ↔
      endpoint ∈ first.values ∧
        ∀ key endpoint', second.lookup key = some endpoint' → endpoint'.erase ≠ endpoint.erase := by
  rw [h.separate.mem_iff h.filed h.symm.filed]
  refine and_congr_right fun _ => ?_
  simp only [Unmatched, List.all_eq_true, GoMap.mem_values, decide_eq_true_eq,
    endpointDifferent_iff]
  constructor
  · intro hall key' endpoint' hsecond herase
    rcases hall endpoint' ⟨key', hsecond⟩ with hguid | hdifferent
    · exact hguid (congrArg Endpoint.instanceGUID herase :)
    · exact hdifferent herase
  · rintro hnone endpoint' ⟨key', hsecond⟩
    exact Or.inr (hnone key' endpoint' hsecond)

/-- Where endpoints agree, an endpoint is unmatched or has a counterpart on the other side. -/
theorem EndpointsAgree.exists_or_unmatched (h : EndpointsAgree first second)
    (hlookup : first.lookup key = some endpoint) :
    (∃ key' endpoint', second.lookup key' = some endpoint' ∧ endpoint'.erase = endpoint.erase) ∨
      endpoint ∈ (unmatchedEndpoints first second).values := by
  refine or_iff_not_imp_left.mpr fun hnone => ?_
  push Not at hnone
  exact h.mem_unmatched_iff.mpr ⟨GoMap.mem_values.mpr ⟨key, hlookup⟩, hnone⟩

/-- **The spec of `emitDiffMessages`.**  Where the endpoints of one instance agree,
it leads exactly from the pairings of the old entry to those of the new one. -/
theorem emitDiffMessages_delta (normalize : String → String)
    (h : EndpointsAgree oldEntry.endpoints newEntry.endpoints) :
    Delta oldEntry.pairings (emitDiffMessages normalize oldEntry newEntry).registered
      (emitDiffMessages normalize oldEntry newEntry).unregistered newEntry.pairings := by
  refine Delta.of_subset ?_ ?_ ?_ ?_ ?_
  · intro p hp
    obtain ⟨endpoint, herase, hcase⟩ := mem_registered_emitDiffMessages.mp hp
    rcases hcase with ⟨⟨route, hroute, hhash⟩, hvalue⟩ | ⟨hroutes, hvalue⟩
    · obtain ⟨key, hlookup⟩ := GoMap.mem_values.mp hvalue
      exact ⟨⟨route, exists_after_of_added hroute, hhash⟩, key, endpoint, hlookup, herase⟩
    · obtain ⟨key, hlookup⟩ := GoMap.mem_values.mp (h.symm.mem_unmatched_iff.mp hvalue).1
      exact ⟨hroutes, key, endpoint, hlookup, herase⟩
  · intro p hp
    obtain ⟨endpoint, herase, hcase⟩ := mem_unregistered_emitDiffMessages.mp hp
    rcases hcase with ⟨hroutes, hvalue⟩ | ⟨hroutes, hvalue⟩
    · obtain ⟨key, hlookup⟩ := GoMap.mem_values.mp hvalue
      exact ⟨(exists_removed_iff.mp hroutes).1, key, endpoint, hlookup, herase⟩
    · obtain ⟨key, hlookup⟩ := GoMap.mem_values.mp (h.mem_unmatched_iff.mp hvalue).1
      exact ⟨hroutes, key, endpoint, hlookup, herase⟩
  · rintro p ⟨hroutes, key, endpoint, hlookup, herase⟩
    by_cases hold : ∃ route ∈ oldEntry.routes, route.hash = p.1
    · rcases h.symm.exists_or_unmatched hlookup with ⟨key', endpoint', hlookup', herase'⟩ | hnew
      · exact Or.inl ⟨hold, key', endpoint', hlookup', herase'.trans herase⟩
      · exact Or.inr (mem_registered_emitDiffMessages.mpr
          ⟨endpoint, herase, Or.inr ⟨hroutes, hnew⟩⟩)
    · exact Or.inr (mem_registered_emitDiffMessages.mpr ⟨endpoint, herase,
        Or.inl ⟨exists_added_of_new hroutes hold, GoMap.mem_values.mpr ⟨key, hlookup⟩⟩⟩)
  · rintro p ⟨hroutes, key, endpoint, hlookup, herase⟩
    by_cases hnew : ∃ route ∈ newEntry.routes, route.hash = p.1
    · rcases h.exists_or_unmatched hlookup with ⟨key', endpoint', hlookup', herase'⟩ | hold
      · exact Or.inl ⟨hnew, key', endpoint', hlookup', herase'.trans herase⟩
      · exact Or.inr (mem_unregistered_emitDiffMessages.mpr
          ⟨endpoint, herase, Or.inr ⟨hroutes, hold⟩⟩)
    · exact Or.inr (mem_unregistered_emitDiffMessages.mpr ⟨endpoint, herase,
        Or.inl ⟨exists_removed_iff.mpr ⟨hroutes, hnew⟩, GoMap.mem_values.mpr ⟨key, hlookup⟩⟩⟩)
  · rw [Set.disjoint_left]
    rintro p hp ⟨hroutes, key, endpoint', hlookup, herase'⟩
    obtain ⟨endpoint, herase, hcase⟩ := mem_unregistered_emitDiffMessages.mp hp
    rcases hcase with ⟨hremoved, _⟩ | ⟨_, hvalue⟩
    · exact (exists_removed_iff.mp hremoved).2 hroutes
    · exact (h.mem_unmatched_iff.mp hvalue).2 _ _ hlookup (herase'.trans herase.symm)

/-! ## Exactness -/

/-- **When `diffEndpoints` is an exact difference.**  It removes exactly the unmatched endpoints of
the first map and adds exactly those of the second if and only if the endpoints are separate in
both directions. -/
theorem diffEndpoints_exact_iff {before after : GoMap EndpointKey Endpoint} (hbefore : Filed before)
    (hafter : Filed after) :
    ((diffEndpoints before after).removed.values.Perm
        (before.values.filter (Unmatched after.values)) ∧
      (diffEndpoints before after).added.values.Perm
        (after.values.filter (Unmatched before.values))) ↔
    Separate before after ∧ Separate after before :=
  and_congr (unmatchedEndpoints_perm_iff hbefore hafter)
    (unmatchedEndpoints_perm_iff hafter hbefore)

/-- The endpoints of one instance on the hosts given, by presence. -/
def sampleInstance (hosts : List (Presence × String)) : GoMap EndpointKey Endpoint :=
  GoMap.ofPairs <| hosts.map fun host =>
    let endpoint : Endpoint := { (default : Endpoint) with presence := host.1, host := host.2 }
    (endpoint.key, endpoint)

def evacuatedInstance : GoMap EndpointKey Endpoint :=
  sampleInstance [(.ordinary, "a"), (.evacuating, "b")]

/-- An instance with both endpoints whose ordinary one ends. -/
theorem diffEndpoints_exact_evacuation :
    (diffEndpoints evacuatedInstance
        (sampleInstance [(.evacuating, "b")])).removed.values.Perm
      (evacuatedInstance.values.filter
        (Unmatched (sampleInstance [(.evacuating, "b")]).values)) :=
  ((diffEndpoints_exact_iff (by unfold Filed; decide) (by unfold Filed; decide)).mpr
    (by decide)).1

/-- The evacuating endpoint has no counterpart of its own and is stored under the key of
the ordinary one, so one of the two removed endpoints is lost. -/
theorem diffEndpoints_loses_endpoint :
    Filed evacuatedInstance ∧
      Filed (sampleInstance [(.ordinary, "c")]) ∧
      ¬ (diffEndpoints evacuatedInstance
          (sampleInstance [(.ordinary, "c")])).removed.values.Perm
        (evacuatedInstance.values.filter
          (Unmatched (sampleInstance [(.ordinary, "c")]).values)) := by
  unfold Filed
  decide

end Diego.RouteEmitter
