import Mathlib.Data.List.Basic
import Mathlib.Data.List.Infix
import Mathlib.Data.List.Induction

/-!
# Trees of entries

A tree of entries that are found by the names that lead to them.  An entry is found only in an
entry that is a directory, so nothing is below what is absent.  A tree grows by `create`, and
`update` changes an entry but not whether it is a directory; both leave all other entries alone.
-/

namespace Diego.FileTree

variable {Name Node : Type} {isDir : Node → Bool}

structure Tree (Name Node : Type) (isDir : Node → Bool) where
  node : List Name → Option Node
  closed : ∀ location name, (node (location ++ [name])).isSome = true →
    (node location).any isDir = true

namespace Tree

/-- Nothing is below an entry that is absent. -/
theorem absent_below (tree : Tree Name Node isDir) {location : List Name}
    (h : tree.node location = none) (rest : List Name) : tree.node (location ++ rest) = none := by
  induction rest using List.reverseRecOn with
  | nil => rw [List.append_nil, h]
  | append_singleton rest name ih =>
    by_contra hsome
    rw [← List.append_assoc] at hsome
    have hdir := tree.closed (location ++ rest) name (Option.isSome_iff_ne_none.mpr hsome)
    rw [ih] at hdir
    cases hdir

variable [DecidableEq Name]

/-- A new entry in a directory. -/
def create (tree : Tree Name Node isDir) (location : List Name) (node : Node)
    (hparent : (tree.node location.dropLast).any isDir = true)
    (habsent : tree.node location = none) : Tree Name Node isDir where
  node l := if l = location then some node else tree.node l
  closed l name hsome := by
    have hl : (tree.node l).any isDir = true := by
      split at hsome
      · rename_i heq
        rw [← heq, List.dropLast_concat] at hparent
        exact hparent
      · exact tree.closed l name hsome
    have hne : l ≠ location := by
      rintro rfl
      rw [habsent] at hl
      cases hl
    rw [if_neg hne]
    exact hl

/-- A change of the entry, if it is there. -/
def update (tree : Tree Name Node isDir) (location : List Name) (f : Node → Node)
    (hf : ∀ node, isDir (f node) = isDir node) : Tree Name Node isDir where
  node l := if l = location then (tree.node l).map f else tree.node l
  closed l name hsome := by
    have hl : (tree.node l).any isDir = true := by
      split at hsome
      · exact tree.closed l name (Option.isSome_map ▸ hsome)
      · exact tree.closed l name hsome
    split
    · cases hnode : tree.node l with
      | none =>
        rw [hnode] at hl
        cases hl
      | some node =>
        rw [hnode] at hl
        exact (hf node).trans hl
    · exact hl

variable {tree : Tree Name Node isDir} {location l : List Name} {node : Node} {f : Node → Node}

theorem node_create_self (hparent : (tree.node location.dropLast).any isDir = true)
    (habsent : tree.node location = none) :
    (tree.create location node hparent habsent).node location = some node :=
  if_pos rfl

theorem node_create_of_ne (hparent : (tree.node location.dropLast).any isDir = true)
    (habsent : tree.node location = none) (h : l ≠ location) :
    (tree.create location node hparent habsent).node l = tree.node l :=
  if_neg h

theorem node_update_self (hf : ∀ node, isDir (f node) = isDir node) :
    (tree.update location f hf).node location = (tree.node location).map f :=
  if_pos rfl

theorem node_update_of_ne (hf : ∀ node, isDir (f node) = isDir node) (h : l ≠ location) :
    (tree.update location f hf).node l = tree.node l :=
  if_neg h

end Tree

end Diego.FileTree
