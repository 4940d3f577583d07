import Diego.GoMap
import Mathlib.Data.List.Perm.Subperm

/-!
# Ledgers

A component takes items one after the other and places each or fails it; in the end some
of the placed items are taken back.  It keeps three things: the items it has seen, by
their identifier, the placed items, by their identifier and possibly changed, and the
list of the failed items.

`Accounts` says that every item is in exactly one of the last two, as far as a function
`base` can tell, which forgets what placing or failing writes into an item.  It is kept
when an item with a new identifier is placed or failed, and when placed items are revoked.

The placed items are spread over places, each of which has a list of work.  `Spread` adds
to `Accounts` that this work is the work of the placed items, and that a placed item holds
some work at some place.
-/

namespace Diego

open List

/-! ## One more item at one place -/

section Places

variable {P X : Type*} {places : List P} {place : P} {work work' : P → List X}

/-- Places that get nothing. -/
theorem flatMap_congr_of_ne (hplace : place ∉ places)
    (hother : ∀ other, other ≠ place → work' other = work other) :
    places.flatMap work' = places.flatMap work := by
  refine flatMap_congr fun other hmem => hother other ?_
  rintro rfl
  exact hplace hmem

theorem flatMap_perm_cons (hnodup : places.Nodup) (hplace : place ∈ places) {x : X}
    (hself : work' place = work place ++ [x])
    (hother : ∀ other, other ≠ place → work' other = work other) :
    (places.flatMap work').Perm (x :: places.flatMap work) := by
  induction places with
  | nil => exact absurd hplace not_mem_nil
  | cons first places ih =>
    rw [nodup_cons] at hnodup
    rw [flatMap_cons]
    by_cases hfirst : first = place
    · subst hfirst
      rw [flatMap_congr_of_ne hnodup.1 hother, hself, append_assoc]
      exact perm_middle
    · rw [hother first hfirst]
      have hrest := ih hnodup.2 ((mem_cons.mp hplace).resolve_left (Ne.symm hfirst))
      exact (hrest.append_left _).trans perm_middle

/-- Every place gives back some of its items, in any order of the places. -/
theorem flatMap_subperm {places' : List P} (hplaces : places'.Perm places)
    (hwork : ∀ place, (work' place).Subperm (work place)) :
    (places'.flatMap work').Subperm (places.flatMap work) := by
  refine List.Subperm.trans ?_ (hplaces.flatMap_right work).subperm
  clear hplaces
  induction places' with
  | nil => exact nil_subperm
  | cons place places' ih => exact (hwork place).append ih

end Places

/-! ## Placing, failing, revoking -/

structure Ledger (I A : Type*) where
  known : GoMap I A := ∅
  placed : GoMap I A := ∅
  failed : List A := []

namespace Ledger

variable {I A B : Type*} [DecidableEq I]

/-- The item cannot be placed. -/
def fail (ledger : Ledger I A) (i : I) (item : A) : Ledger I A :=
  { ledger with
    known := ledger.known.insert i item
    failed := ledger.failed ++ [item] }

def place (ledger : Ledger I A) (i : I) (item result : A) : Ledger I A :=
  { ledger with
    known := ledger.known.insert i item
    placed := ledger.placed.insert i result }

/-- A placed item is taken back and fails, in the form in which it was seen. -/
def revoke (ledger : Ledger I A) (i : I) : Ledger I A :=
  { ledger with
    placed := ledger.placed.erase i
    failed := ledger.failed ++ (ledger.known.lookup i).toList }

/-- Every one of the items is placed or has failed, and none is both. -/
structure Accounts (idOf : A → I) (base : A → B) (items : List A) (ledger : Ledger I A) : Prop where
  perm : ((ledger.placed.values ++ ledger.failed).map base).Perm (items.map base)
  filed : ∀ i result, ledger.placed.lookup i = some result →
    idOf result = i ∧ ∃ item, ledger.known.lookup i = some item ∧ base item = base result
  seen : ∀ i ∈ ledger.placed, i ∈ items.map idOf

section Accounts

variable {idOf : A → I} {base : A → B} {items : List A} {ledger : Ledger I A}

theorem accounts_empty : Accounts idOf base [] ({} : Ledger I A) where
  perm := List.Perm.refl _
  filed i result hlookup := by simp at hlookup
  seen i hi := absurd hi (AList.notMem_empty i)

section

variable (h : Accounts idOf base items ledger) {item : A}
include h

theorem Accounts.fail {failed : A} (hnew : idOf item ∉ items.map idOf)
    (hbase : base failed = base item) :
    Accounts idOf base (items ++ [item]) (ledger.fail (idOf item) failed) where
  perm := by
    have hperm := h.perm.append_right [base item]
    simpa [Ledger.fail, hbase] using hperm
  filed i result hlookup := by
    obtain ⟨hid, known, hknown, hsame⟩ := h.filed i result hlookup
    refine ⟨hid, known, ?_, hsame⟩
    have hne : i ≠ idOf item := by
      rintro rfl
      exact hnew (h.seen _ (AList.lookup_isSome.mp (Option.isSome_of_eq_some hlookup)))
    rw [Ledger.fail, GoMap.lookup_insert_ite, if_neg hne]
    exact hknown
  seen i hi := by
    rw [map_append]
    exact mem_append_left _ (h.seen i hi)

theorem Accounts.place {result : A} (hnew : idOf item ∉ items.map idOf)
    (hid : idOf result = idOf item) (hbase : base result = base item) :
    Accounts idOf base (items ++ [item]) (ledger.place (idOf item) item result) where
  perm := by
    have hnot : idOf item ∉ ledger.placed := fun hmem => hnew (h.seen _ hmem)
    have hvalues := GoMap.values_insert_perm hnot result
    calc List.Perm (((ledger.place (idOf item) item result).placed.values ++
            ledger.failed).map base)
          (base result :: (ledger.placed.values ++ ledger.failed).map base) :=
        (hvalues.append_right ledger.failed).map base
      List.Perm _ (base item :: items.map base) := by
        rw [hbase]
        exact h.perm.cons (base item)
      List.Perm _ ((items ++ [item]).map base) := by
        rw [map_append]
        exact (perm_append_singleton _ _).symm
  filed i found hlookup := by
    rw [Ledger.place] at hlookup ⊢
    rw [GoMap.lookup_insert_ite] at hlookup ⊢
    split at hlookup
    · rename_i hi
      cases hlookup
      rw [if_pos hi]
      exact ⟨hid.trans hi.symm, item, rfl, hbase.symm⟩
    · rename_i hi
      rw [if_neg hi]
      exact h.filed i found hlookup
  seen i hi := by
    rw [map_append]
    rcases (AList.mem_insert _).mp hi with rfl | hi
    · exact mem_append_right _ (mem_singleton_self _)
    · exact mem_append_left _ (h.seen i hi)

theorem Accounts.revoke {i : I} (hi : i ∈ ledger.placed) :
    Accounts idOf base items (ledger.revoke i) where
  perm := by
    obtain ⟨result, hresult⟩ := Option.isSome_iff_exists.mp (AList.lookup_isSome.mpr hi)
    obtain ⟨-, item, hitem, hbase⟩ := h.filed i result hresult
    have hvalues := (GoMap.values_erase_perm hresult).append_right ledger.failed
    have hrevoked : (ledger.revoke i).placed.values ++ (ledger.revoke i).failed =
        (ledger.revoke i).placed.values ++ ledger.failed ++ [item] := by
      rw [append_assoc, Ledger.revoke, hitem]
      rfl
    rw [hrevoked, map_append, map_singleton, hbase]
    calc List.Perm (((ledger.revoke i).placed.values ++ ledger.failed).map base ++ [base result])
          (base result :: ((ledger.revoke i).placed.values ++ ledger.failed).map base) :=
        perm_append_singleton _ _
      List.Perm _ ((ledger.placed.values ++ ledger.failed).map base) := (hvalues.map base).symm
      List.Perm _ (items.map base) := h.perm
  filed j result hlookup := h.filed j result (GoMap.lookup_erase_eq_some.mp hlookup).2
  seen j hj := h.seen j (AList.mem_erase.mp hj).2

/-- Placed items are taken back, each once. -/
theorem Accounts.revokes {ids : List I} (hnodup : ids.Nodup)
    (hplaced : ∀ i ∈ ids, i ∈ ledger.placed) :
    Accounts idOf base items (ids.foldl Ledger.revoke ledger) := by
  induction ids generalizing ledger with
  | nil => exact h
  | cons i ids ih =>
    rw [nodup_cons] at hnodup
    rw [forall_mem_cons] at hplaced
    refine ih (h.revoke hplaced.1) hnodup.2 ?_
    intro j hj
    refine AList.mem_erase.mpr ⟨?_, hplaced.2 j hj⟩
    rintro rfl
    exact hnodup.1 hj

end

/-- What is still placed after revocations was placed before. -/
theorem lookup_placed_revokes {ids : List I} {i : I} {result : A}
    (hlookup : (ids.foldl Ledger.revoke ledger).placed.lookup i = some result) :
    ledger.placed.lookup i = some result := by
  induction ids generalizing ledger with
  | nil => exact hlookup
  | cons j ids ih => exact (GoMap.lookup_erase_eq_some.mp (ih hlookup)).2

end Accounts

/-! ## The work of the placed items -/

/-- The items are accounted for, and the work of the placed ones is spread over places.
`holds result place w` says that `w` is the work of `result` at `place`. -/
structure Spread {P W : Type*} (idOf : A → I) (base : A → B) (workId : W → I)
    (holds : A → P → W → Prop) (places : List P) (work : P → List W) (items : List A)
    (ledger : Ledger I A) : Prop where
  accounts : Accounts idOf base items ledger
  work_perm : ((places.flatMap work).map workId).Perm ledger.placed.keys
  held : ∀ i result, ledger.placed.lookup i = some result →
    ∃ place ∈ places, ∃ w ∈ work place, holds result place w

section Spread

variable {P W : Type*} {idOf : A → I} {base : A → B} {workId : W → I}
  {holds : A → P → W → Prop} {places : List P} {work work' : P → List W} {items : List A}
  {ledger : Ledger I A}

theorem spread_empty (hwork : ∀ place ∈ places, work place = []) :
    Spread idOf base workId holds places work [] ({} : Ledger I A) where
  accounts := accounts_empty
  work_perm := by
    rw [flatMap_eq_nil_iff.mpr hwork]
    exact List.Perm.refl _
  held i result hlookup := by simp at hlookup

section

variable (h : Spread idOf base workId holds places work items ledger) {item result : A}
  {ids : List I}
include h

/-- Nothing happens to the work. -/
theorem Spread.congr (hwork : ∀ place, work' place = work place) :
    Spread idOf base workId holds places work' items ledger := by
  rw [funext hwork]
  exact h

theorem Spread.fail {failed : A} (hnew : idOf item ∉ items.map idOf)
    (hbase : base failed = base item) :
    Spread idOf base workId holds places work (items ++ [item])
      (ledger.fail (idOf item) failed) where
  accounts := h.accounts.fail hnew hbase
  work_perm := h.work_perm
  held := h.held

theorem Spread.place (hnew : idOf item ∉ items.map idOf) (hid : idOf result = idOf item)
    (hbase : base result = base item) (hnodup : places.Nodup) {place : P}
    (hplace : place ∈ places) {w : W} (hself : work' place = work place ++ [w])
    (hother : ∀ other, other ≠ place → work' other = work other) (hw : workId w = idOf item)
    (hholds : holds result place w) :
    Spread idOf base workId holds places work' (items ++ [item])
      (ledger.place (idOf item) item result) where
  accounts := h.accounts.place hnew hid hbase
  work_perm := by
    have hnot : idOf item ∉ ledger.placed := fun hmem => hnew (h.accounts.seen _ hmem)
    have hwork := (flatMap_perm_cons hnodup hplace hself hother).map workId
    rw [map_cons, hw] at hwork
    have hkeys : (ledger.place (idOf item) item result).placed.keys =
        idOf item :: ledger.placed.keys := by
      rw [Ledger.place, AList.keys_insert, erase_of_not_mem hnot]
    rw [hkeys]
    exact hwork.trans (h.work_perm.cons (idOf item))
  held i found hlookup := by
    rw [Ledger.place] at hlookup
    rw [GoMap.lookup_insert_ite] at hlookup
    split at hlookup
    · cases hlookup
      refine ⟨place, hplace, w, ?_, hholds⟩
      rw [hself]
      exact mem_append_right _ (mem_singleton_self w)
    · obtain ⟨other, hmem, w', hw', hheld⟩ := h.held i found hlookup
      refine ⟨other, hmem, w', ?_, hheld⟩
      by_cases heq : other = place
      · rw [heq] at hw' ⊢
        rw [hself]
        exact mem_append_left _ hw'
      · rwa [hother other heq]

/-- Taking back work that was spread accounts for every item still. -/
theorem Spread.revokes (hids : ids.Subperm ((places.flatMap work).map workId)) :
    Accounts idOf base items (ids.foldl Ledger.revoke ledger) := by
  have hplaced : ids.Subperm ledger.placed.keys := hids.trans h.work_perm.subperm
  refine h.accounts.revokes ?_ fun i hi => hplaced.subset hi
  obtain ⟨ids', hperm, hsub⟩ := hplaced
  exact hperm.nodup_iff.mp (ledger.placed.keys_nodup.sublist hsub)

/-- What is still placed after revocations holds its work. -/
theorem Spread.held_of_mem_revokes
    (hmem : result ∈ (ids.foldl Ledger.revoke ledger).placed.values) :
    ∃ place ∈ places, ∃ w ∈ work place, holds result place w := by
  obtain ⟨i, hlookup⟩ := GoMap.mem_values.mp hmem
  exact h.held i result (lookup_placed_revokes hlookup)

end

end Spread

end Ledger

end Diego
