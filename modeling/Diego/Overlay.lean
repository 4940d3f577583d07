import Mathlib.Data.List.Nodup

/-!
# Overlays

Lists of items that have keys, one on top of the other: an item hides those with its key in the
lists before.  `Visible` are the items that are not hidden, and `Overlays sources result` says
that `result` has each of them once.  `Overlays.append` puts one more list on top.
-/

namespace Diego

variable {α κ : Type*} (key : α → κ)

/-- The item is in a list, and no later list has its key. -/
def Visible (sources : List (List α)) (x : α) : Prop :=
  ∃ before source after, sources = before ++ source :: after ∧ x ∈ source ∧
    ∀ later ∈ after, ∀ y ∈ later, key y ≠ key x

/-- Each key of a source is in the result once, with the item from the last source that has it. -/
structure Overlays (sources : List (List α)) (result : List α) : Prop where
  nodup : (result.map key).Nodup
  mem_iff : ∀ x, x ∈ result ↔ Visible key sources x

variable {key} {sources : List (List α)} {source result : List α}

theorem not_visible_nil {x : α} : ¬ Visible key [] x := by
  rintro ⟨before, source, after, heq, -⟩
  simp at heq

theorem visible_append_singleton {x : α} :
    Visible key (sources ++ [source]) x ↔
      x ∈ source ∨ Visible key sources x ∧ ∀ y ∈ source, key y ≠ key x := by
  constructor
  · rintro ⟨before, source', after, heq, hmem, hhidden⟩
    -- either the list of the item is the last one, or it is one of the others
    rcases List.eq_nil_or_concat after with rfl | ⟨after, last, rfl⟩
    · obtain ⟨-, hlast⟩ := List.append_inj' heq rfl
      obtain rfl := List.singleton_inj.mp hlast
      exact Or.inl hmem
    · rw [List.concat_eq_append, ← List.cons_append, ← List.append_assoc] at heq
      obtain ⟨rfl, hlast⟩ := List.append_inj' heq rfl
      obtain rfl := List.singleton_inj.mp hlast
      refine Or.inr ⟨⟨before, source', after, rfl, hmem, fun later hlater => ?_⟩, ?_⟩
      · exact hhidden later (by simp [hlater])
      · exact hhidden source (by simp)
  · rintro (hmem | ⟨⟨before, source', after, rfl, hmem, hhidden⟩, hsource⟩)
    · exact ⟨sources, source, [], rfl, hmem, by simp⟩
    · refine ⟨before, source', after ++ [source], by simp, hmem, fun later hlater => ?_⟩
      rcases List.mem_append.mp hlater with hlater | hlater
      · exact hhidden later hlater
      · rwa [List.mem_singleton.mp hlater]

theorem overlays_nil : Overlays key [] [] where
  nodup := List.nodup_nil
  mem_iff x := by simp [not_visible_nil]

theorem Overlays.append {result' : List α} (h : Overlays key sources result)
    (hnodup : (result'.map key).Nodup)
    (hmem : ∀ x, x ∈ result' ↔ x ∈ source ∨ x ∈ result ∧ ∀ y ∈ source, key y ≠ key x) :
    Overlays key (sources ++ [source]) result' where
  nodup := hnodup
  mem_iff x := by rw [hmem, visible_append_singleton, h.mem_iff]

/-- A list without items hides nothing. -/
theorem Overlays.append_nil (h : Overlays key sources result) :
    Overlays key (sources ++ [[]]) result :=
  h.append h.nodup fun x => by simp

end Diego
