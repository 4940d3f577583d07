import Diego.GoMap
import Diego.Overlay

/-!
# Processes of an app

`buildpackapplifecycle/buildpackrunner/resources/launch.go`.  `MergeProcesses` puts the processes
of one list over those of another, by their types.  It writes to the array of its first argument
for as long as `append` does not move its result to another one, so that the loop over the first
list may or may not see what it has written; the types it compares are the same.
-/

namespace Diego.Buildpack

open List

structure Process where
  type : String
  command : String
  sidecarFor : List String
  memory : Int
  deriving DecidableEq

structure LaunchData where
  processes : List Process
  deriving DecidableEq

def Process.replaceable (p otherProc : Process) : Bool :=
  p.type = otherProc.type

/-- The loop over a map, in the order of its entries. -/
def procDataToProcesses (procData : GoMap String String) : List Process :=
  procData.entries.map fun entry => ⟨entry.1, entry.2, [], 0⟩

/-! ## MergeProcesses -/

/-- The inner loop: the result with `procB` at the indices where `listA` has its type, and
whether there are any. -/
def replace (procB : Process) : List Process → List Process → List Process × Bool
  | procA :: listA, proc :: result =>
    let rest := replace procB listA result
    if procA.replaceable procB then (procB :: rest.1, true) else (proc :: rest.1, rest.2)
  | _, result => (result, false)

section Merge

variable (moves : List Process → Bool)

/-- The outer loop.  `moves` says for which slices `append` has to make a new array, and
`shared` that the result still has the array of `listA`. -/
def mergeLoop : List Process → List Process → Bool → List Process → List Process
  | [], _, _, result => result
  | procB :: listB, listA, shared, result =>
    let (result, replaced) := replace procB listA result
    let listA := if shared then result.take listA.length else listA
    if replaced then mergeLoop listB listA shared result
    else mergeLoop listB listA (shared && !moves result) (result ++ [procB])

def mergeProcesses (listA listB : List Process) : List Process :=
  mergeLoop moves listB listA true listA

end Merge

/-! ## The result of MergeProcesses -/

/-- The process with `procB` in its place if it has the same type. -/
def Process.replacedBy (procB p : Process) : Process :=
  if p.type = procB.type then procB else p

variable {p procB : Process}

theorem Process.type_replacedBy : (procB.replacedBy p).type = p.type := by
  unfold Process.replacedBy
  split
  · rename_i heq
    exact heq.symm
  · rfl

variable {listA listB : List Process} (moves : List Process → Bool) {result : List Process}

theorem replace_eq (h : listA.map Process.type = result.map Process.type) (added : List Process) :
    replace procB listA (result ++ added) =
      (result.map procB.replacedBy ++ added, decide (procB.type ∈ result.map Process.type)) := by
  induction listA generalizing result with
  | nil =>
    obtain rfl : result = [] := by simpa using h.symm
    rfl
  | cons procA listA ih =>
    cases result with
    | nil => simp at h
    | cons proc result =>
      obtain ⟨htype, hrest⟩ := cons_eq_cons.mp h
      simp only [cons_append, replace, Process.replaceable, htype, ih hrest]
      by_cases heq : proc.type = procB.type
      · simp [heq, Process.replacedBy]
      · simp [heq, Process.replacedBy, Ne.symm heq]

/-- The process of the same type in the list, or else the process itself. -/
def Process.overriddenBy (listB : List Process) (p : Process) : Process :=
  (listB.find? fun procB => p.type = procB.type).getD p

theorem Process.overriddenBy_of_forall_ne (h : ∀ procB ∈ listB, p.type ≠ procB.type) :
    p.overriddenBy listB = p := by
  unfold Process.overriddenBy
  rw [find?_eq_none.mpr (by simpa using h)]
  rfl

theorem Process.overriddenBy_cons (h : ∀ other ∈ listB, procB.type ≠ other.type) :
    p.overriddenBy (procB :: listB) = (procB.replacedBy p).overriddenBy listB := by
  by_cases heq : p.type = procB.type
  · rw [Process.replacedBy, if_pos heq, Process.overriddenBy_of_forall_ne h]
    simp [Process.overriddenBy, heq]
  · simp [Process.overriddenBy, Process.replacedBy, heq]

theorem Process.overriddenBy_spec :
    (p.overriddenBy listB = p ∧ ∀ procB ∈ listB, p.type ≠ procB.type) ∨
      p.overriddenBy listB ∈ listB ∧ (p.overriddenBy listB).type = p.type := by
  cases hfind : listB.find? fun procB => p.type = procB.type with
  | none =>
    have hne : ∀ procB ∈ listB, p.type ≠ procB.type := by
      simpa using find?_eq_none.mp hfind
    exact Or.inl ⟨Process.overriddenBy_of_forall_ne hne, hne⟩
  | some procB =>
    have heq : p.overriddenBy listB = procB := by
      rw [Process.overriddenBy, hfind]
      rfl
    have htype := find?_some hfind
    simp only [decide_eq_true_eq] at htype
    rw [heq]
    exact Or.inr ⟨mem_of_find?_eq_some hfind, htype.symm⟩

theorem Process.type_overriddenBy : (p.overriddenBy listB).type = p.type := by
  rcases p.overriddenBy_spec with ⟨heq, -⟩ | ⟨-, htype⟩
  · rw [heq]
  · exact htype

/-- The loop writes over the processes of `listA` and appends those of other types, whether the
arrays are shared or not. -/
theorem mergeLoop_eq (shared : Bool) (h : listA.map Process.type = result.map Process.type)
    (hB : (listB.map Process.type).Nodup) (added : List Process) :
    mergeLoop moves listB listA shared (result ++ added) =
      result.map (Process.overriddenBy listB) ++
        (added ++ listB.filter fun procB => procB.type ∉ result.map Process.type) := by
  induction listB generalizing listA shared result added with
  | nil =>
    have hid : Process.overriddenBy [] = id := rfl
    simp [mergeLoop, hid]
  | cons procB listB ih =>
    obtain ⟨hnew, hB⟩ := nodup_cons.mp hB
    have hothers : ∀ other ∈ listB, procB.type ≠ other.type := by
      intro other hother heq
      exact hnew (heq ▸ mem_map_of_mem hother)
    have htypes : (result.map procB.replacedBy).map Process.type = result.map Process.type := by
      simp [Process.type_replacedBy]
    have hmap : result.map (Process.overriddenBy (procB :: listB)) =
        (result.map procB.replacedBy).map (Process.overriddenBy listB) := by
      simp [Process.overriddenBy_cons hothers]
    have hlength : (result.map procB.replacedBy).length = listA.length := by
      simpa using (congrArg length h).symm
    have hlistA : (if shared then (result.map procB.replacedBy ++ added).take listA.length
        else listA).map Process.type = (result.map procB.replacedBy).map Process.type := by
      split
      · rw [take_left' hlength]
      · rw [h, htypes]
    rw [mergeLoop, replace_eq h]
    by_cases hmem : procB.type ∈ result.map Process.type
    · simp only [hmem, decide_true, if_true]
      rw [ih shared hlistA hB, hmap, htypes, filter_cons_of_neg (by simpa using hmem)]
    · simp only [hmem, decide_false, Bool.false_eq_true, if_false]
      rw [append_assoc, ih _ hlistA hB, hmap, htypes,
        filter_cons_of_pos (by simpa using hmem), append_assoc, singleton_append]

theorem mergeProcesses_eq (hB : (listB.map Process.type).Nodup) :
    mergeProcesses moves listA listB =
      listA.map (Process.overriddenBy listB) ++
        listB.filter fun procB => procB.type ∉ listA.map Process.type := by
  have h := mergeLoop_eq moves true (rfl : listA.map Process.type = _) hB []
  rwa [append_nil] at h

theorem mem_mergeProcesses (hB : (listB.map Process.type).Nodup) (p : Process) :
    p ∈ mergeProcesses moves listA listB ↔
      p ∈ listB ∨ p ∈ listA ∧ ∀ procB ∈ listB, procB.type ≠ p.type := by
  rw [mergeProcesses_eq moves hB, mem_append, mem_map, mem_filter]
  constructor
  · rintro (⟨procA, hprocA, rfl⟩ | ⟨hp, -⟩)
    · rcases procA.overriddenBy_spec with ⟨heq, hne⟩ | ⟨hmem, -⟩
      · rw [heq]
        exact Or.inr ⟨hprocA, fun procB hprocB => (hne procB hprocB).symm⟩
      · exact Or.inl hmem
    · exact Or.inl hp
  · rintro (hp | ⟨hp, hne⟩)
    · by_cases htype : p.type ∈ listA.map Process.type
      · obtain ⟨procA, hprocA, heq⟩ := mem_map.mp htype
        refine Or.inl ⟨procA, hprocA, ?_⟩
        rcases procA.overriddenBy_spec with ⟨-, hne⟩ | ⟨hmem, hsame⟩
        · exact absurd heq (hne p hp)
        · exact inj_on_of_nodup_map hB hmem hp (hsame.trans heq)
      · exact Or.inr ⟨hp, by simpa using htype⟩
    · refine Or.inl ⟨p, hp, Process.overriddenBy_of_forall_ne ?_⟩
      exact fun procB hprocB => (hne procB hprocB).symm

theorem types_mergeProcesses_nodup (hA : (listA.map Process.type).Nodup)
    (hB : (listB.map Process.type).Nodup) :
    ((mergeProcesses moves listA listB).map Process.type).Nodup := by
  rw [mergeProcesses_eq moves hB, map_append]
  have hkept : (listA.map (Process.overriddenBy listB)).map Process.type =
      listA.map Process.type := by
    simp [Process.type_overriddenBy]
  rw [hkept]
  refine List.Nodup.append hA (hB.sublist (filter_sublist.map _)) ?_
  intro type htype hadded
  obtain ⟨procB, hprocB, rfl⟩ := mem_map.mp hadded
  have hfresh := (mem_filter.mp hprocB).2
  simp only [decide_eq_true_eq] at hfresh
  exact hfresh htype

/-- **The processes of one more source are put over those before.** -/
theorem overlays_mergeProcesses {sources : List (List Process)}
    (h : Overlays Process.type sources listA) (hB : (listB.map Process.type).Nodup) :
    Overlays Process.type (sources ++ [listB]) (mergeProcesses moves listA listB) :=
  h.append (types_mergeProcesses_nodup moves h.nodup hB) (mem_mergeProcesses moves hB)

end Diego.Buildpack
