import Diego.KeyedFold
import Mathlib.Order.CompletePartialOrder

/-!
# Incremental updates of a set

A component that keeps a set `S` in step with its own state announces each change
by two sets, what is to be added and what is to be removed; whoever follows it
replaces `S` by `(S ∪ added) \ removed`.  `Delta S added removed S'` says that the
announcement is exact: it leads from `S` to `S'`, removes only what was there and
does not remove what it adds.

The rules are the ones a proof about a loop needs: the empty announcement, two
announcements one after the other, and an announcement about a part of the set.
-/

namespace Diego

variable {α : Type*} {S S₁ S₂ T added added₁ added₂ removed removed₁ removed₂ : Set α}

/-- `added` and `removed` lead exactly from `S` to `S'`. -/
structure Delta (S added removed S' : Set α) : Prop where
  eq : S' = (S ∪ added) \ removed
  removed_subset : removed ⊆ S
  disjoint : Disjoint added removed

namespace Delta

theorem refl : Delta S ∅ ∅ S where
  eq := by simp
  removed_subset := Set.empty_subset S
  disjoint := Set.disjoint_empty _

/-- An announcement is exact if it covers the difference and stays inside it. -/
theorem of_subset (hadded : added ⊆ S₁) (hremoved : removed ⊆ S) (hnew : S₁ ⊆ S ∪ added)
    (hold : S ⊆ S₁ ∪ removed) (hdisjoint : Disjoint removed S₁) : Delta S added removed S₁ where
  eq := by
    ext x
    constructor
    · intro hx
      exact ⟨hnew hx, fun hr => Set.disjoint_left.mp hdisjoint hr hx⟩
    · rintro ⟨hx | hx, hnot⟩
      · exact (hold hx).resolve_right hnot
      · exact hadded hx
  removed_subset := hremoved
  disjoint := (hdisjoint.mono_right hadded).symm

section

variable (h : Delta S added removed S₁)
include h

theorem added_subset : added ⊆ S₁ := by
  intro x hx
  rw [h.eq]
  exact ⟨Or.inr hx, Set.disjoint_left.mp h.disjoint hx⟩

/-- What is removed is gone. -/
theorem disjoint_removed : Disjoint removed S₁ := by
  rw [h.eq]
  exact Set.disjoint_sdiff_right

/-- What is there afterwards was there before or is announced. -/
theorem subset_union : S₁ ⊆ S ∪ added := by
  rw [h.eq]
  exact Set.sdiff_subset

/-- What was there before is there afterwards or is announced as removed. -/
theorem subset_removed : S ⊆ S₁ ∪ removed := by
  intro x hx
  by_cases hremoved : x ∈ removed
  · exact Or.inr hremoved
  · exact Or.inl (h.eq ▸ ⟨Or.inl hx, hremoved⟩)

end

/-- Two announcements, merged: the first must not remove what the second adds, nor
the second what the first added. -/
theorem trans (h₁ : Delta S added₁ removed₁ S₁) (h₂ : Delta S₁ added₂ removed₂ S₂)
    (hback : Disjoint removed₁ added₂) (hundo : Disjoint added₁ removed₂) :
    Delta S (added₁ ∪ added₂) (removed₁ ∪ removed₂) S₂ where
  eq := by
    rw [h₂.eq, h₁.eq]
    ext x
    have hx : x ∈ removed₁ → x ∉ added₂ := fun hr => Set.disjoint_left.mp hback hr
    simp only [Set.mem_sdiff, Set.mem_union]
    tauto
  removed_subset := by
    rintro x (hx | hx)
    · exact h₁.removed_subset hx
    · exact (h₁.subset_union (h₂.removed_subset hx)).resolve_right
        fun hadd => Set.disjoint_left.mp hundo hadd hx
  disjoint := by
    rw [Set.disjoint_union_left, Set.disjoint_union_right, Set.disjoint_union_right]
    exact ⟨⟨h₁.disjoint, hundo⟩, hback.symm, h₂.disjoint⟩

/-- Announcements about the parts of a set, merged: what is removed from one part
must not be in another. -/
theorem iUnion {ι : Type*} {S A R S' : ι → Set α} (h : ∀ i, Delta (S i) (A i) (R i) (S' i))
    (hparts : ∀ i j, i ≠ j → Disjoint (R i) (S' j)) :
    Delta (⋃ i, S i) (⋃ i, A i) (⋃ i, R i) (⋃ i, S' i) := by
  refine of_subset ?_ ?_ ?_ ?_ ?_
  · exact Set.iUnion_mono fun i => (h i).added_subset
  · exact Set.iUnion_mono fun i => (h i).removed_subset
  · rw [← Set.iUnion_union_distrib]
    exact Set.iUnion_mono fun i => (h i).subset_union
  · rw [← Set.iUnion_union_distrib]
    exact Set.iUnion_mono fun i => (h i).subset_removed
  · rw [Set.disjoint_iUnion_left]
    intro i
    rw [Set.disjoint_iUnion_right]
    intro j
    by_cases hij : i = j
    · rw [← hij]
      exact (h i).disjoint_removed
    · exact hparts i j hij

/-! ## A sequence of announcements -/

section Sequence

variable {C V : Type*} {update : C → V → V} {A R : C → V → Set α} {S : V → Set α} {p : V → Prop}
  {changes : List C} {value : V}

theorem outputs_eq_empty {out : C → V → Set α} (hvalue : p value)
    (hstep : ∀ c ∈ changes, ∀ v, p v → p (update c v) ∧ out c v = ∅) :
    outputs update out changes value = ∅ := by
  induction changes generalizing value with
  | nil => rfl
  | cons c changes ih =>
    obtain ⟨hnext, hempty⟩ := hstep c List.mem_cons_self value hvalue
    rw [outputs, hempty, Set.empty_union]
    exact ih hnext fun c' hc' => hstep c' (List.mem_cons_of_mem _ hc')

/-- Announcements in sequence that all only add, or all only remove. -/
theorem outputs_of_one_sided (hvalue : p value) (hstep : ∀ c ∈ changes, ∀ v, p v →
      p (update c v) ∧ Delta (S v) (A c v) (R c v) (S (update c v)))
    (hempty : (∀ c ∈ changes, ∀ v, p v → R c v = ∅) ∨ ∀ c ∈ changes, ∀ v, p v → A c v = ∅) :
    Delta (S value) (outputs update A changes value) (outputs update R changes value)
      (S (updates update changes value)) := by
  have hdisjoint : Disjoint (outputs update A changes value) (outputs update R changes value) := by
    have hnone : outputs update R changes value = ∅ ∨ outputs update A changes value = ∅ :=
      hempty.imp
        (fun h => outputs_eq_empty hvalue fun c hc v hv => ⟨(hstep c hc v hv).1, h c hc v hv⟩)
        (fun h => outputs_eq_empty hvalue fun c hc v hv => ⟨(hstep c hc v hv).1, h c hc v hv⟩)
    rcases hnone with hnone | hnone <;> simp [hnone]
  clear hempty
  induction changes generalizing value with
  | nil => exact refl
  | cons c changes ih =>
    obtain ⟨hnext, hdelta⟩ := hstep c List.mem_cons_self value hvalue
    rw [outputs, outputs, Set.disjoint_union_left, Set.disjoint_union_right,
      Set.disjoint_union_right] at hdisjoint
    obtain ⟨⟨-, hundo⟩, hback, hrest⟩ := hdisjoint
    exact hdelta.trans (ih hnext (fun c' hc' => hstep c' (List.mem_cons_of_mem c hc')) hrest)
      hback.symm hundo

theorem outputs_of_length_le_one (hlength : changes.length ≤ 1) (hvalue : p value)
    (hstep : ∀ c ∈ changes, ∀ v, p v →
      p (update c v) ∧ Delta (S v) (A c v) (R c v) (S (update c v))) :
    Delta (S value) (outputs update A changes value) (outputs update R changes value)
      (S (updates update changes value)) := by
  match changes, hlength with
  | [], _ => exact refl
  | [c], _ =>
    simp only [outputs, Set.union_empty]
    exact (hstep c List.mem_cons_self value hvalue).2

end Sequence

end Delta

/-- What is left of `Delta` for announcements that are merged without care: everything
new is announced, only what is known is announced as removed, and what is announced
as removed and is there all the same is announced as added too. -/
structure Covers (S added removed S' : Set α) : Prop where
  new : S' ⊆ S ∪ added
  known : removed ⊆ S ∪ added
  gone : removed ∩ S' ⊆ added

namespace Covers

theorem of_delta (h : Delta S added removed S₁) : Covers S added removed S₁ where
  new := h.subset_union
  known := h.removed_subset.trans Set.subset_union_left
  gone := fun _ hx => absurd hx.2 (Set.disjoint_left.mp h.disjoint_removed hx.1)

theorem trans (h₁ : Covers S added₁ removed₁ S₁) (h₂ : Covers S₁ added₂ removed₂ S₂) :
    Covers S (added₁ ∪ added₂) (removed₁ ∪ removed₂) S₂ where
  new := by
    intro x hx
    rcases h₂.new hx with hx | hx
    · exact (h₁.new hx).imp_right Or.inl
    · exact Or.inr (Or.inr hx)
  known := by
    rintro x (hx | hx)
    · exact (h₁.known hx).imp_right Or.inl
    · rcases h₂.known hx with hx | hx
      · exact (h₁.new hx).imp_right Or.inl
      · exact Or.inr (Or.inr hx)
  gone := by
    rintro x ⟨hremoved | hremoved, hx⟩
    · rcases h₂.new hx with hx | hx
      · exact Or.inl (h₁.gone ⟨hremoved, hx⟩)
      · exact Or.inr hx
    · exact Or.inr (h₂.gone ⟨hremoved, hx⟩)

end Covers

end Diego
