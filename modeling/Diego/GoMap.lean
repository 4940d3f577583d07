import Mathlib.Data.List.AList
import Mathlib.Data.List.Induction

/-!
# Go maps

A Go `map[K]V` is modelled by Mathlib's association lists with distinct keys.
Reading a missing key gives the zero value of `V`, a `range` loop is a fold over
the entries, and the order of the entries stands for the order in which the
runtime happens to visit them: two maps with the same `lookup` are the same Go map.

This file adds to `AList` what the loops of the development need: values, the
restriction of a map to the entries that pass a test, insertion of a key that is
not there yet, and the effect of such a loop on membership.
-/

namespace Diego

open List

universe u v

/-- A Go map from `K` to `V`. -/
abbrev GoMap (K : Type u) (V : Type v) := AList fun _ : K => V

namespace GoMap

variable {K : Type u} {V : Type v}

def values (m : GoMap K V) : List V :=
  m.entries.map Sigma.snd

/-- The restriction of a map to the entries that pass a test. -/
def restrict (m : GoMap K V) (p : K → V → Bool) : GoMap K V where
  entries := m.entries.filter fun entry => p entry.1 entry.2
  nodupKeys := m.nodupKeys.sublist List.filter_sublist

/-- The same keys with other values. -/
def mapValues {W : Type*} (f : V → W) (m : GoMap K V) : GoMap K W where
  entries := m.entries.map fun entry => ⟨entry.1, f entry.2⟩
  nodupKeys := by
    have hkeys : (m.entries.map fun entry => (⟨entry.1, f entry.2⟩ : Sigma fun _ : K => W)).keys =
        m.entries.keys := by
      simp [List.keys, Function.comp_def]
    rw [List.NodupKeys, hkeys]
    exact m.nodupKeys

variable {W : Type*} (f : V → W) (m : GoMap K V) {key : K} {value : V} {pairs : List (K × V)}

theorem values_mapValues : (m.mapValues f).values = m.values.map f := by
  simp [values, mapValues]

theorem mapValues_congr {f g : V → W} {m : GoMap K V} (h : ∀ value ∈ m.values, f value = g value) :
    m.mapValues f = m.mapValues g := by
  refine AList.ext (map_congr_left ?_)
  intro entry hentry
  rw [h entry.2 (mem_map_of_mem hentry)]

theorem mapValues_id : m.mapValues id = m :=
  AList.ext (map_id' m.entries)

theorem mapValues_mapValues {X : Type*} (g : W → X) (m : GoMap K V) :
    (m.mapValues f).mapValues g = m.mapValues (g ∘ f) :=
  AList.ext (by simp [mapValues])

variable [DecidableEq K] {key' : K}

theorem lookup_mapValues : (m.mapValues f).lookup key = (m.lookup key).map f :=
  @List.dlookup_map₂ K _ (fun _ => V) (fun _ => W) m.entries (fun _ => f) key

theorem erase_mapValues : (m.mapValues f).erase key = GoMap.mapValues f (m.erase key) := by
  refine AList.ext ?_
  change kerase key (m.entries.map _) = (kerase key m.entries).map _
  rw [kerase, eraseP_map]
  rfl

/-- Reading `m[key]`: the zero value when the key is missing. -/
def read [Inhabited V] (m : GoMap K V) (key : K) : V :=
  (m.lookup key).getD default

/-- Add a key unless the map has it already. -/
def insertNew (m : GoMap K V) (key : K) (value : V) : GoMap K V :=
  if key ∈ m then m else m.insert key value

/-- A loop `m[key] = value` into an empty map: of several values for one key the
last stays. -/
def ofPairs (pairs : List (K × V)) : GoMap K V :=
  pairs.foldl (fun m pair => m.insert pair.1 pair.2) ∅

/-- Two Go maps are the same when they agree on every key. -/
def Same (m₁ m₂ : GoMap K V) : Prop :=
  ∀ key, m₁.lookup key = m₂.lookup key

/-! ## Lookups -/

theorem lookup_insert_ite (key key' : K) (value : V) :
    (m.insert key value).lookup key' = if key' = key then some value else m.lookup key' := by
  split
  · rename_i heq
    subst heq
    exact AList.lookup_insert m
  · rename_i hne
    exact AList.lookup_insert_ne hne

theorem lookup_erase_ite :
    (m.erase key).lookup key' = if key' = key then none else m.lookup key' := by
  split
  · rename_i heq
    subst heq
    exact AList.lookup_erase key' m
  · rename_i hne
    exact AList.lookup_erase_ne hne

theorem lookup_erase_eq_some {m : GoMap K V} :
    (m.erase key).lookup key' = some value ↔ key' ≠ key ∧ m.lookup key' = some value := by
  rw [lookup_erase_ite]
  split
  · rename_i heq
    exact iff_of_false nofun fun h => h.1 heq
  · rename_i hne
    exact (and_iff_right hne).symm

theorem insert_erase : (m.erase key).insert key value = m.insert key value := by
  refine AList.ext ?_
  rw [AList.entries_insert]
  congr 1
  exact kerase_of_notMem_keys (notMem_keys_kerase key m.nodupKeys)

theorem mem_entries_iff {m : GoMap K V} :
    (⟨key, value⟩ : Sigma fun _ : K => V) ∈ m.entries ↔ m.lookup key = some value := by
  rw [← Option.mem_def, AList.mem_lookup_iff]

theorem mem_values {m : GoMap K V} : value ∈ m.values ↔ ∃ key, m.lookup key = some value := by
  simp only [values, mem_map, Sigma.exists, exists_eq_right]
  exact exists_congr fun key => mem_entries_iff

theorem lookup_restrict (p : K → V → Bool) :
    (m.restrict p).lookup key = (m.lookup key).filter (p key) := by
  refine Option.ext ?_
  intro value
  have hmem : (⟨key, value⟩ : Sigma fun _ : K => V) ∈ (m.restrict p).entries ↔
      (⟨key, value⟩ : Sigma fun _ : K => V) ∈ m.entries ∧ p key value = true := by
    simp [restrict]
  rw [mem_entries_iff, mem_entries_iff] at hmem
  rw [hmem, Option.filter_eq_some_iff]

theorem lookup_insertNew :
    (m.insertNew key value).lookup key' =
      if key' = key then some ((m.lookup key).getD value) else m.lookup key' := by
  unfold insertNew
  by_cases hkey : key ∈ m
  · rw [if_pos hkey]
    obtain ⟨old, hold⟩ := Option.isSome_iff_exists.mp (AList.lookup_isSome.mpr hkey)
    split
    · rename_i heq
      subst heq
      rw [hold, Option.getD_some]
    · rfl
  · rw [if_neg hkey, lookup_insert_ite, AList.lookup_eq_none.mpr hkey, Option.getD_none]

theorem mem_insertNew {m : GoMap K V} : key' ∈ m.insertNew key value ↔ key' = key ∨ key' ∈ m := by
  unfold insertNew
  split
  · rename_i hkey
    constructor
    · exact Or.inr
    · rintro (rfl | hmem)
      · exact hkey
      · exact hmem
  · exact AList.mem_insert m

/-! ## Maps built by a loop -/

theorem lookup_ofPairs_concat (pair : K × V) :
    (ofPairs (pairs ++ [pair])).lookup key =
      if key = pair.1 then some pair.2 else (ofPairs pairs).lookup key := by
  rw [ofPairs, foldl_append]
  exact lookup_insert_ite _ _ _ _

theorem mem_of_lookup_ofPairs (hlookup : (ofPairs pairs).lookup key = some value) :
    (key, value) ∈ pairs := by
  induction pairs using reverseRecOn with
  | nil => simp [ofPairs] at hlookup
  | append_singleton pairs pair ih =>
    rw [lookup_ofPairs_concat] at hlookup
    rw [mem_append, mem_singleton]
    split at hlookup
    · rename_i heq
      exact Or.inr (Prod.ext heq (Option.some.inj hlookup).symm)
    · exact Or.inl (ih hlookup)

theorem mem_ofPairs : key ∈ ofPairs pairs ↔ ∃ value, (key, value) ∈ pairs := by
  rw [← AList.lookup_isSome, Option.isSome_iff_exists]
  constructor
  · rintro ⟨value, hlookup⟩
    exact ⟨value, mem_of_lookup_ofPairs hlookup⟩
  · rintro ⟨value, hmem⟩
    induction pairs using reverseRecOn with
    | nil => simp at hmem
    | append_singleton pairs pair ih =>
      rw [lookup_ofPairs_concat]
      split
      · exact ⟨pair.2, rfl⟩
      · rename_i hne
        rw [mem_append, mem_singleton] at hmem
        exact ih (hmem.resolve_right fun heq => hne (congrArg Prod.fst heq))

/-- A value that no later value of the loop overwrites stays. -/
theorem lookup_ofPairs_of_last {later : List (K × V)} (hlater : ∀ pair ∈ later, pair.1 ≠ key) :
    (ofPairs (pairs ++ (key, value) :: later)).lookup key = some value := by
  induction later using reverseRecOn with
  | nil => rw [lookup_ofPairs_concat, if_pos rfl]
  | append_singleton later pair ih =>
    rw [forall_mem_append, forall_mem_singleton] at hlater
    rw [← cons_append, ← append_assoc, lookup_ofPairs_concat, if_neg (Ne.symm hlater.2)]
    exact ih hlater.1

/-- A value that no other value of the loop overwrites is the one the map ends up
with. -/
theorem lookup_ofPairs_of_unique (hmem : (key, value) ∈ pairs)
    (hunique : ∀ other, (key, other) ∈ pairs → other = value) :
    (ofPairs pairs).lookup key = some value := by
  obtain ⟨found, hfound⟩ :=
    Option.isSome_iff_exists.mp (AList.lookup_isSome.mpr (mem_ofPairs.mpr ⟨value, hmem⟩))
  rw [hfound, hunique found (mem_of_lookup_ofPairs hfound)]

theorem entries_perm_cons {m m' : GoMap K V}
    (hlookup : ∀ key', m'.lookup key' = if key' = key then some value else m.lookup key')
    (hnew : m.lookup key = none) : m'.entries.Perm (⟨key, value⟩ :: m.entries) := by
  have hnodup : ((⟨key, value⟩ : Sigma fun _ : K => V) :: m.entries).Nodup := by
    refine nodup_cons.mpr ⟨fun hmem => ?_, m.nodupKeys.nodup⟩
    rw [mem_entries_iff, hnew] at hmem
    simp at hmem
  refine (perm_ext_iff_of_nodup m'.nodupKeys.nodup hnodup).mpr ?_
  intro entry
  obtain ⟨key', value'⟩ := entry
  rw [mem_cons, mem_entries_iff, mem_entries_iff, hlookup]
  by_cases hkey : key' = key
  · subst hkey
    simp [hnew, eq_comm]
  · simp [hkey]

/-- A new key adds its value. -/
theorem values_insert_perm {m : GoMap K V} (hnew : key ∉ m) (value : V) :
    (GoMap.values (m.insert key value)).Perm (value :: m.values) :=
  (entries_perm_cons (fun key' => lookup_insert_ite m key key' value)
    (AList.lookup_eq_none.mpr hnew)).map _

/-- A key that goes takes its value with it. -/
theorem values_erase_perm {m : GoMap K V} (hlookup : m.lookup key = some value) :
    m.values.Perm (value :: GoMap.values (m.erase key)) := by
  refine (entries_perm_cons (fun key' => ?_) (AList.lookup_erase key m)).map _
  rw [lookup_erase_ite]
  split
  · rename_i hkey
    rw [hkey, hlookup]
  · rfl

/-- A loop over pairs with distinct keys loses nothing: in whatever order the runtime
yields the map, its values are those of the pairs. -/
theorem values_perm_of_same_ofPairs {m : GoMap K V} (hnodup : (pairs.map Prod.fst).Nodup)
    (hsame : m.Same (ofPairs pairs)) : m.values.Perm (pairs.map Prod.snd) := by
  have hentries : m.entries.Perm
      (pairs.map fun pair => (⟨pair.1, pair.2⟩ : Sigma fun _ : K => V)) := by
    refine (perm_ext_iff_of_nodup m.nodupKeys.nodup ?_).mpr ?_
    · refine (List.Nodup.of_map Prod.fst hnodup).map ?_
      intro pair pair' heq
      obtain ⟨hkey, hvalue⟩ := Sigma.mk.injEq .. ▸ heq
      exact Prod.ext hkey (eq_of_heq hvalue)
    · rintro ⟨key, value⟩
      rw [mem_entries_iff, hsame]
      constructor
      · intro hlookup
        exact mem_map.mpr ⟨_, mem_of_lookup_ofPairs hlookup, rfl⟩
      · intro hmem
        obtain ⟨pair, hpair, heq⟩ := mem_map.mp hmem
        obtain ⟨rfl, hvalue⟩ := Sigma.mk.injEq .. ▸ heq
        obtain rfl := eq_of_heq hvalue
        refine lookup_ofPairs_of_unique hpair ?_
        intro other hother
        exact congrArg Prod.snd (inj_on_of_nodup_map hnodup hother hpair rfl)
  have hvalues := hentries.map Sigma.snd
  rw [map_map] at hvalues
  exact hvalues

end GoMap

end Diego
