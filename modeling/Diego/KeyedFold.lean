import Mathlib.Data.Set.Lattice

/-!
# Loops over keyed changes

A state that consists of independent parts, one per key, is changed by a loop whose
turns concern one key each.  `Keyed view step update` says that a turn for a key
acts on the part at that key and leaves the other parts alone.  Then the loop acts
on each part by the turns for its key, in order (`Keyed.view_foldl`), and whatever
the turns announce is the union of what they announce part by part
(`Keyed.log_foldl`): a statement about the loop follows from statements about one
part.
-/

namespace Diego

open List

variable {σ K C V α : Type*}

/-! ## The changes for one key -/

section ChangesAt

variable [DecidableEq K]

/-- The changes of a list that concern one key, in order. -/
def changesAt (key : K) (changes : List (K × C)) : List C :=
  (changes.filter fun change => change.1 = key).map Prod.snd

variable (key : K) {changes : List (K × C)}

theorem changesAt_cons_self (c : C) :
    changesAt key ((key, c) :: changes) = c :: changesAt key changes := by
  simp [changesAt]

theorem changesAt_cons_ne {key key' : K} (hne : key' ≠ key) (c : C) :
    changesAt key ((key', c) :: changes) = changesAt key changes := by
  simp [changesAt, hne]

theorem changesAt_append (changes' : List (K × C)) :
    changesAt key (changes ++ changes') = changesAt key changes ++ changesAt key changes' := by
  simp [changesAt]

theorem changesAt_flatMap {X : Type*} (xs : List X) (f : X → List (K × C)) :
    changesAt key (xs.flatMap f) = xs.flatMap fun x => changesAt key (f x) := by
  induction xs with
  | nil => rfl
  | cons x xs ih => rw [flatMap_cons, flatMap_cons, changesAt_append, ih]

theorem mem_changesAt {key : K} {c : C} : c ∈ changesAt key changes ↔ (key, c) ∈ changes := by
  simp [changesAt]

/-- Where every key is changed at most once, so is each single one. -/
theorem changesAt_of_nodup {key : K} {c : C} (hnodup : (changes.map Prod.fst).Nodup)
    (hmem : (key, c) ∈ changes) : changesAt key changes = [c] := by
  induction changes with
  | nil => simp at hmem
  | cons change changes ih =>
    obtain ⟨key', c'⟩ := change
    rw [map_cons, nodup_cons] at hnodup
    rcases mem_cons.mp hmem with heq | htail
    · obtain ⟨rfl, rfl⟩ := Prod.mk.injEq .. ▸ heq
      have hnil : changesAt key changes = [] := by
        rw [eq_nil_iff_forall_not_mem]
        intro c' hc'
        exact hnodup.1 (mem_map.mpr ⟨(key, c'), mem_changesAt.mp hc', rfl⟩)
      rw [changesAt_cons_self, hnil]
    · have hne : key' ≠ key := by
        rintro rfl
        exact hnodup.1 (mem_map.mpr ⟨(key', c), htail, rfl⟩)
      rw [changesAt_cons_ne hne, ih hnodup.2 htail]

theorem changesAt_eq_nil {key : K} (hkey : key ∉ changes.map Prod.fst) :
    changesAt key changes = [] := by
  rw [eq_nil_iff_forall_not_mem]
  intro c hc
  exact hkey (mem_map.mpr ⟨(key, c), mem_changesAt.mp hc, rfl⟩)

end ChangesAt

/-! ## Keyed steps -/

/-- A step for a key acts on the part of the state at that key and on no other. -/
structure Keyed (view : σ → K → V) (step : σ → K × C → σ) (update : C → V → V) : Prop where
  at_key : ∀ s key c, view (step s (key, c)) key = update c (view s key)
  elsewhere : ∀ s key c key', key' ≠ key → view (step s (key, c)) key' = view s key'

/-- A sequence of changes, on one part. -/
def updates (update : C → V → V) (changes : List C) (value : V) : V :=
  changes.foldl (fun value c => update c value) value

/-- What a sequence of changes of one part announces, change by change. -/
def outputs (update : C → V → V) (out : C → V → Set α) : List C → V → Set α
  | [], _ => ∅
  | c :: changes, value => out c value ∪ outputs update out changes (update c value)

variable (update : C → V → V) {value : V} {changes : List C}

@[simp] theorem updates_nil : updates update [] value = value :=
  rfl

@[simp] theorem updates_cons (c : C) :
    updates update (c :: changes) value = updates update changes (update c value) := rfl

theorem updates_append (changes' : List C) :
    updates update (changes ++ changes') value =
      updates update changes' (updates update changes value) :=
  foldl_append

/-- An invariant of one part that every change keeps holds after the sequence. -/
theorem updates_induction {update : C → V → V} (p : V → Prop) (hvalue : p value)
    (hstep : ∀ c ∈ changes, ∀ v, p v → p (update c v)) : p (updates update changes value) := by
  induction changes generalizing value with
  | nil => exact hvalue
  | cons c changes ih =>
    exact ih (hstep c mem_cons_self _ hvalue)
      fun c' hc' => hstep c' (mem_cons_of_mem _ hc')

namespace Keyed

variable [DecidableEq K] {view : σ → K → V} {step : σ → K × C → σ} {update : C → V → V}

/-- A loop over keyed changes acts on each part by the changes for its key. -/
theorem view_foldl (h : Keyed view step update) (changes : List (K × C)) (s : σ) (key : K) :
    view (changes.foldl step s) key = updates update (changesAt key changes) (view s key) := by
  induction changes generalizing s with
  | nil => rfl
  | cons change changes ih =>
    obtain ⟨key', c⟩ := change
    rw [foldl_cons, ih]
    by_cases hkey : key' = key
    · subst hkey
      rw [changesAt_cons_self, updates_cons, h.at_key]
    · rw [changesAt_cons_ne hkey, h.elsewhere _ _ _ _ (Ne.symm hkey)]

/-- What a loop over keyed changes announces is announced part by part. -/
theorem log_foldl (h : Keyed view step update) (log : σ → Set α) (out : C → V → Set α)
    (hlog : ∀ s key c, log (step s (key, c)) = log s ∪ out c (view s key))
    (changes : List (K × C)) (s : σ) :
    log (changes.foldl step s) =
      log s ∪ ⋃ key, outputs update out (changesAt key changes) (view s key) := by
  induction changes generalizing s with
  | nil => simp [outputs, changesAt]
  | cons change changes ih =>
    obtain ⟨key, c⟩ := change
    rw [foldl_cons, ih, hlog, Set.union_assoc]
    congr 1
    ext x
    simp only [Set.mem_union, Set.mem_iUnion]
    -- only the part at `key` announces something at the first turn
    constructor
    · rintro (hx | ⟨key', hx⟩)
      · exact ⟨key, by rw [changesAt_cons_self]; exact Or.inl hx⟩
      · refine ⟨key', ?_⟩
        by_cases hkey : key' = key
        · subst hkey
          rw [h.at_key] at hx
          rw [changesAt_cons_self]
          exact Or.inr hx
        · rw [h.elsewhere _ _ _ _ hkey] at hx
          rwa [changesAt_cons_ne (Ne.symm hkey)]
    · rintro ⟨key', hx⟩
      by_cases hkey : key' = key
      · subst hkey
        rw [changesAt_cons_self] at hx
        rcases hx with hx | hx
        · exact Or.inl hx
        · exact Or.inr ⟨key', by rwa [h.at_key]⟩
      · rw [changesAt_cons_ne (Ne.symm hkey)] at hx
        exact Or.inr ⟨key', by rwa [h.elsewhere _ _ _ _ hkey]⟩

end Keyed

end Diego
