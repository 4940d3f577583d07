import Diego.Executor.NodeSteps
import Diego.Machine

/-!
# References to cached dependencies

`Create` acquires one reference for each cached dependency that it downloads, and `Destroy`
releases those that the node remembers.  The node remembers them only at the end of a `Create`
that succeeds.  When a download fails, `Create` releases the others itself; when anything fails
after the downloads it does not, and nobody knows these references any more.

So a `Destroy` that destroys the container in garden leaves no reference behind if and only
if `Create` did not fail after it had downloaded something.
-/

namespace Diego.Executor

open List

/-! ## Downloads -/

def Downloads.Fail (downloads : Downloads) : Prop :=
  ∃ download ∈ downloads, ∃ message, download.2 = .failed message

theorem Downloads.fail_cons_fetched {downloads : Downloads} {dependency : CachedDependency}
    {dir : String} : Fail ((dependency, .fetched dir) :: downloads) ↔ Fail downloads := by
  simp [Fail]

variable (downloads : Downloads) (keys : List BindMountCacheKey)

theorem drainMounts_eq : drainMounts downloads keys = keys ++ fetchedKeys downloads := by
  fun_induction drainMounts downloads keys with
  | case1 keys => simp [fetchedKeys]
  | case2 keys _ _ downloads ih => simpa [fetchedKeys] using ih
  | case3 keys dependency dir downloads ih => simpa [fetchedKeys] using ih

/-- The loop collects every reference that was acquired, also after an error. -/
theorem downloadCachedDependencies_fst :
    (downloadCachedDependencies downloads keys).1 = keys ++ fetchedKeys downloads := by
  fun_induction downloadCachedDependencies downloads keys with
  | case1 keys => simp [fetchedKeys]
  | case2 keys dependency dir downloads ih => simpa [fetchedKeys] using ih
  | case3 keys _ message downloads => simp [fetchedKeys, drainMounts_eq]

theorem downloadCachedDependencies_snd :
    (downloadCachedDependencies downloads keys).2 = none ↔ ¬ downloads.Fail := by
  fun_induction downloadCachedDependencies downloads keys with
  | case1 keys => simp [Downloads.Fail]
  | case2 keys dependency dir downloads ih => rw [ih, Downloads.fail_cons_fetched]
  | case3 keys _ message downloads => simp [Downloads.Fail]

/-- If no download fails, there is a reference for each. -/
theorem length_fetchedKeys {downloads : Downloads} (h : ¬ downloads.Fail) :
    (fetchedKeys downloads).length = downloads.length := by
  fun_induction fetchedKeys downloads with
  | case1 => rfl
  | case2 dependency message downloads ih =>
    exact absurd ⟨_, mem_cons_self, message, rfl⟩ h
  | case3 dependency dir downloads ih =>
    rw [Downloads.fail_cons_fetched] at h
    simp [ih h]

namespace StoreNode

variable {n n' : StoreNode} {call : CallId}

/-! ## The outcomes of Create -/

theorem mountVolumes_snd (mount : Nat → Option MountError) (i : Nat) (volumes : List VolumeMount) :
    (mountVolumes mount i volumes).2 = none ↔ ∀ j < volumes.length, mount (i + j) = none := by
  induction volumes generalizing i with
  | nil => simp [mountVolumes]
  | cons volume volumes ih =>
    have hsplit : (∀ j < (volume :: volumes).length, mount (i + j) = none) ↔
        mount i = none ∧ ∀ j < volumes.length, mount (i + 1 + j) = none := by
      constructor
      · intro h
        refine ⟨h 0 (Nat.zero_lt_succ _), fun j hj => ?_⟩
        rw [Nat.add_assoc, Nat.add_comm 1 j]
        exact h (j + 1) (Nat.succ_lt_succ hj)
      · rintro ⟨hfirst, hrest⟩ j hj
        cases j with
        | zero => exact hfirst
        | succ j =>
          rw [Nat.add_comm j 1, ← Nat.add_assoc]
          exact hrest j (Nat.lt_of_succ_lt_succ hj)
    rw [hsplit, mountVolumes]
    cases hmount : mount i with
    | some err => simp
    | none => simpa using ih (i + 1)

/-- Everything that `Create` does after the downloads succeeds. -/
structure CreateEnvironment.Succeeds (env : CreateEnvironment) (info : Container) : Prop where
  mount : ∀ i < info.runInfo.volumeMounts.length, env.mount i = none
  credDir : env.credDir = none
  volumeMountedFiles : info.runInfo.volumeMountedFiles.length > 0 → env.volumeMountedFiles = none
  garden : env.garden = none

/-- What `createContainer` does with references: it releases what it downloaded, forgets it,
or remembers it. -/
inductive CreateReferences (n : StoreNode) (info : Container) (env : CreateEnvironment)
    (n' : StoreNode) : Prop
  | released (hfail : env.downloads.Fail)
      (hclosed : n'.history.closed = n.history.closed ++ fetchedKeys env.downloads)
      (hkeys : n'.bindMountCacheKeys = n.bindMountCacheKeys)
  | forgotten (hfail : ¬ env.downloads.Fail) (hsucceeds : ¬ env.Succeeds info)
      (hclosed : n'.history.closed = n.history.closed)
      (hkeys : n'.bindMountCacheKeys = n.bindMountCacheKeys)
  | remembered (hfail : ¬ env.downloads.Fail) (hsucceeds : env.Succeeds info)
      (hclosed : n'.history.closed = n.history.closed)
      (hkeys : n'.bindMountCacheKeys = fetchedKeys env.downloads)

theorem createContainer_references (info : Container) (env : CreateEnvironment) :
    (n.createContainer info env).1.history.fetched =
        n.history.fetched ++ fetchedKeys env.downloads ∧
      CreateReferences n info env (n.createContainer info env).1 := by
  have hkeys := downloadCachedDependencies_fst env.downloads []
  have hfail := downloadCachedDependencies_snd env.downloads []
  have hmount := mountVolumes_snd env.mount 0 info.runInfo.volumeMounts
  simp only [Nat.zero_add] at hkeys hmount
  unfold createContainer
  dsimp only
  split
  · rename_i err herr
    refine ⟨rfl, .released ?_ ?_ rfl⟩
    · rw [herr] at hfail
      simpa using hfail
    · simp [StoreNode.complete, closeDirectories, hkeys]
  rename_i hnone
  have hdownloaded := hfail.mp hnone
  split
  · rename_i err herr
    refine ⟨rfl, .forgotten hdownloaded (fun hsucceeds => ?_) rfl rfl⟩
    rw [hmount.mpr hsucceeds.mount] at herr
    exact nomatch herr
  rename_i hmounted
  split
  · rename_i err herr
    refine ⟨rfl, .forgotten hdownloaded (fun hsucceeds => ?_) rfl rfl⟩
    rw [hsucceeds.credDir] at herr
    exact nomatch herr
  rename_i hcredDir
  split
  · rename_i err herr
    refine ⟨rfl, .forgotten hdownloaded (fun hsucceeds => ?_) rfl rfl⟩
    split at herr
    · rename_i hfiles
      rw [hsucceeds.volumeMountedFiles hfiles] at herr
      exact nomatch herr
    · exact nomatch herr
  rename_i hfiles
  split
  · rename_i err herr
    refine ⟨rfl, .forgotten hdownloaded (fun hsucceeds => ?_) rfl rfl⟩
    rw [hsucceeds.garden] at herr
    exact nomatch herr
  rename_i hgarden
  have hsucceeds : env.Succeeds info := by
    refine ⟨hmount.mp hmounted, hcredDir, fun hlength => ?_, hgarden⟩
    rwa [if_pos hlength] at hfiles
  split <;> exact ⟨rfl, .remembered hdownloaded hsucceeds rfl hkeys⟩

/-! ## The balance -/

/-- `Create` does not fail once it has downloaded something. -/
def KeepsReferences : NodeAction → StoreNode → Prop
  | .createFinish call env, n => ∀ info, n.calls call = .creating info →
      info.runInfo.cachedDependencies = [] ∨ env.downloads.Fail ∨ env.Succeeds info
  | _, _ => True

/-- Before `Create` the node remembers no references, and nothing is released or remembered
that was not acquired. -/
structure Referenced (n : StoreNode) : Prop where
  locked : n.Locked
  uncreated : Uncreated n.info.state → n.bindMountCacheKeys = []
  creating : ∀ c info, n.calls c = .creating info →
    info.state = .initializing ∧ n.bindMountCacheKeys = []
  acquired : (n.history.closed ++ n.bindMountCacheKeys).Subperm n.history.fetched

/-- The references that are not released are those that the node remembers. -/
def Balanced (n : StoreNode) : Prop :=
  n.history.fetched.Perm (n.history.closed ++ n.bindMountCacheKeys)

theorem referenced_new {config : ContainerConfig} {container : Container} :
    (newStoreNode config container).Referenced where
  locked := locked_new
  uncreated _ := rfl
  creating _ _ h := nomatch h
  acquired := List.Subperm.refl []

/-- A step that neither acquires nor releases references. -/
structure SameReferences (n n' : StoreNode) : Prop where
  fetched : n'.history.fetched = n.history.fetched
  closed : n'.history.closed = n.history.closed
  bindMountCacheKeys : n'.bindMountCacheKeys = n.bindMountCacheKeys
  uncreated : Uncreated n'.info.state → Uncreated n.info.state
  creating : ∀ c info, n'.calls c = .creating info →
    n.calls c = .creating info ∨ n.info.state = .initializing ∧ info = n.info

theorem Quiet.sameReferences (h : Quiet n n') : SameReferences n n' where
  fetched := congrArg History.fetched h.history
  closed := congrArg History.closed h.history
  bindMountCacheKeys := h.bindMountCacheKeys
  uncreated := h.uncreated
  creating := h.creating

/-- A `Destroy` that fails in garden keeps the references. -/
theorem sameReferences_destroyFinish {env : DestroyEnvironment}
    (hgarden : destroyContainer env.garden ≠ none) (hstep : n.destroyFinish call env = some n') :
    SameReferences n n' := by
  have hnode : n.step (.destroyFinish call env) = some n' := hstep
  have hsame : n'.history.fetched = n.history.fetched ∧ n'.history.closed = n.history.closed ∧
      n'.bindMountCacheKeys = n.bindMountCacheKeys ∧ n'.info = n.info := by
    obtain ⟨info, -, rfl⟩ := destroyFinish_spec hstep
    unfold destroyInGarden
    split
    · exact ⟨rfl, rfl, rfl, rfl⟩
    · exact absurd (by assumption) hgarden
  obtain ⟨hfetched, hclosed, hkeys, hinfo⟩ := hsame
  refine ⟨hfetched, hclosed, hkeys, ?_, fun _ _ => (effect_of_step hnode).turn.creating⟩
  rw [hinfo]
  exact id

theorem Referenced.same (h : n.Referenced) (hlocked : n'.Locked) (hsame : SameReferences n n') :
    n'.Referenced where
  locked := hlocked
  uncreated hstate := by
    rw [hsame.bindMountCacheKeys]
    exact h.uncreated (hsame.uncreated hstate)
  creating c info hcall := by
    rw [hsame.bindMountCacheKeys]
    rcases hsame.creating c info hcall with hbefore | ⟨hstate, rfl⟩
    · exact h.creating c info hbefore
    · exact ⟨hstate, h.uncreated (Or.inr hstate)⟩
  acquired := by
    rw [hsame.fetched, hsame.closed, hsame.bindMountCacheKeys]
    exact h.acquired

theorem SameReferences.balanced (hsame : SameReferences n n') : n'.Balanced ↔ n.Balanced := by
  unfold Balanced
  rw [hsame.fetched, hsame.closed, hsame.bindMountCacheKeys]

variable {info : Container} {env : CreateEnvironment}

theorem createFinish_downloads (hcall : n.calls call = .creating info)
    (hstep : n.createFinish call env = some n') :
    (env.downloads.map Prod.fst).Perm info.runInfo.cachedDependencies := by
  unfold createFinish at hstep
  rw [hcall] at hstep
  dsimp only at hstep
  split at hstep
  · assumption
  · simp at hstep

theorem CreatedInfo.not_uncreated {before copy after : Container}
    (h : CreatedInfo before copy after) (hcopy : copy.state = .initializing) :
    ¬ Uncreated after.state := by
  cases h with
  | failed _ => exact not_uncreated_completed
  | created _ => rintro (h | h) <;> exact nomatch h
  | invalid hne => exact absurd hcopy hne

theorem keepsReferences_createFinish (hcall : n.calls call = .creating info) :
    KeepsReferences (.createFinish call env) n ↔
      info.runInfo.cachedDependencies = [] ∨ env.downloads.Fail ∨ env.Succeeds info := by
  simp [KeepsReferences, hcall]

/-- Without a failed download there are references unless there are no dependencies. -/
theorem fetchedKeys_eq_nil_iff (hfail : ¬ env.downloads.Fail)
    (hperm : (env.downloads.map Prod.fst).Perm info.runInfo.cachedDependencies) :
    fetchedKeys env.downloads = [] ↔ info.runInfo.cachedDependencies = [] := by
  rw [← length_eq_zero_iff, length_fetchedKeys hfail, ← length_eq_zero_iff,
    ← hperm.length_eq, length_map]

/-- `Create` keeps the balance if and only if it does not fail after a download. -/
theorem CreateReferences.balanced (h : CreateReferences n info env n')
    (hfetched : n'.history.fetched = n.history.fetched ++ fetchedKeys env.downloads)
    (hperm : (env.downloads.map Prod.fst).Perm info.runInfo.cachedDependencies)
    (hkeys : n.bindMountCacheKeys = []) (hacquired : n.history.closed.Subperm n.history.fetched) :
    n'.Balanced ↔ n.Balanced ∧
      (info.runInfo.cachedDependencies = [] ∨ env.downloads.Fail ∨ env.Succeeds info) := by
  unfold Balanced
  rw [hfetched, hkeys, append_nil]
  cases h with
  | released hfail hclosed hkeys' =>
    rw [hclosed, hkeys', hkeys, append_nil, perm_append_right_iff]
    exact (and_iff_left (Or.inr (Or.inl hfail))).symm
  | remembered hfail hsucceeds hclosed hkeys' =>
    rw [hclosed, hkeys', perm_append_right_iff]
    exact (and_iff_left (Or.inr (Or.inr hsucceeds))).symm
  | forgotten hfail hsucceeds hclosed hkeys' =>
    rw [hclosed, hkeys', hkeys, append_nil, ← fetchedKeys_eq_nil_iff hfail hperm]
    constructor
    · intro hbalanced
      have hlength := hbalanced.length_eq
      have hle := hacquired.length_le
      rw [length_append] at hlength
      have hnone : fetchedKeys env.downloads = [] :=
        length_eq_zero_iff.mp (by omega)
      rw [hnone, append_nil] at hbalanced
      exact ⟨hbalanced, Or.inl hnone⟩
    · rintro ⟨hbalanced, hnone | hsome⟩
      · rwa [hnone, append_nil]
      · rcases hsome with hfail' | hsucceeds'
        · exact absurd hfail' hfail
        · exact absurd hsucceeds' hsucceeds

theorem CreateReferences.acquired (h : CreateReferences n info env n')
    (hfetched : n'.history.fetched = n.history.fetched ++ fetchedKeys env.downloads)
    (hkeys : n.bindMountCacheKeys = []) (hacquired : n.history.closed.Subperm n.history.fetched) :
    (n'.history.closed ++ n'.bindMountCacheKeys).Subperm n'.history.fetched := by
  rw [hfetched]
  cases h with
  | released _ hclosed hkeys' =>
    rw [hclosed, hkeys', hkeys, append_nil]
    exact (subperm_append_right _).mpr hacquired
  | remembered _ _ hclosed hkeys' =>
    rw [hclosed, hkeys']
    exact (subperm_append_right _).mpr hacquired
  | forgotten _ _ hclosed hkeys' =>
    rw [hclosed, hkeys', hkeys, append_nil]
    exact hacquired.trans (sublist_append_left _ _).subperm

theorem Referenced.createFinish (h : n.Referenced) (hstep : n.createFinish call env = some n') :
    n'.Referenced ∧ (n'.Balanced ↔ n.Balanced ∧ KeepsReferences (.createFinish call env) n) := by
  have hnode : n.step (.createFinish call env) = some n' := hstep
  have hlocked := h.locked.step hnode
  have hflow := (effect_of_step hnode).turn.flow
  obtain ⟨info, hcall, rfl⟩ := createFinish_spec hstep
  have hperm := createFinish_downloads hcall hstep
  obtain ⟨hstate, hkeys⟩ := h.creating call info hcall
  have hacquired := h.acquired
  rw [hkeys, append_nil] at hacquired
  obtain ⟨hfetched, hreferences⟩ := n.createContainer_references info env
  obtain ⟨info', keys, gardenContainer, history, heq, hinfo, -⟩ := n.createContainer_spec
  have huncreated : ¬ Uncreated (n.createContainer info env).1.info.state := by
    rw [heq]
    exact hinfo.not_uncreated hstate
  rw [keepsReferences_createFinish hcall]
  refine ⟨⟨hlocked, fun hbefore => absurd hbefore huncreated, ?_,
    hreferences.acquired hfetched hkeys hacquired⟩,
    hreferences.balanced hfetched hperm hkeys hacquired⟩
  -- no other call is at work on a copy, because `call` had `opLock`
  intro c other hother
  rcases hflow c with hsame | hflow
  · have hbefore : n.calls c = .creating other := hsame.symm.trans hother
    obtain rfl := h.locked.unique (by rw [hbefore]; rfl) (by rw [hcall]; rfl)
    simp [StoreNode.releaseOpLock, StoreNode.setCall] at hother
  · rw [hother] at hflow
    generalize n.calls c = before at hflow
    exact nomatch hflow

/-- One step keeps the balance if and only if it is not a `Create` that fails after a
download. -/
theorem Referenced.step (h : n.Referenced) {action : NodeAction}
    (hretry : ∀ call env, action = .destroyFinish call env → destroyContainer env.garden ≠ none)
    (hstep : StoreNode.step action n = some n') :
    n'.Referenced ∧ (n'.Balanced ↔ n.Balanced ∧ KeepsReferences action n) := by
  by_cases hcreate : ∃ call env, action = .createFinish call env
  · obtain ⟨call, env, rfl⟩ := hcreate
    exact h.createFinish hstep
  have hkeeps : KeepsReferences action n := by
    unfold KeepsReferences
    split
    · exact absurd ⟨_, _, rfl⟩ hcreate
    · trivial
  have hsame : SameReferences n n' := by
    cases hasks : Asks action with
    | false => exact (quiet_step hasks hstep).sameReferences
    | true =>
      unfold Asks at hasks
      split at hasks
      · exact absurd ⟨_, _, rfl⟩ hcreate
      · exact sameReferences_destroyFinish (hretry _ _ rfl) hstep
      · exact nomatch hasks
  refine ⟨h.same (h.locked.step hstep) hsame, ?_⟩
  rw [hsame.balanced]
  exact (and_iff_left hkeeps).symm

/-- As long as no `Destroy` succeeds in garden, the balance is kept if and only if `Create`
does not fail after a download. -/
theorem referenced_of_run {config : ContainerConfig} {container : Container}
    {actions : List NodeAction}
    (hretries : ∀ call env, .destroyFinish call env ∈ actions → destroyContainer env.garden ≠ none)
    (hrun : Machine.run StoreNode.step (newStoreNode config container) actions = some n) :
    n.Referenced ∧ (n.Balanced ↔ (newStoreNode config container).Balanced ∧
      Machine.Meets StoreNode.step KeepsReferences (newStoreNode config container) actions) := by
  refine Machine.holds_iff_meets ?_ referenced_new hrun
  intro action hmem state next h
  refine h.step fun call env heq => hretries call env ?_
  rwa [← heq]

/-- A `Destroy` that succeeds in garden releases what the node remembers. -/
theorem destroyFinish_references {env : DestroyEnvironment}
    (hgarden : destroyContainer env.garden = none) (hstep : n.destroyFinish call env = some n') :
    n'.history.fetched = n.history.fetched ∧
      n'.history.closed = n.history.closed ++ n.bindMountCacheKeys := by
  obtain ⟨info, -, rfl⟩ := destroyFinish_spec hstep
  unfold destroyInGarden
  rw [hgarden]
  exact ⟨rfl, rfl⟩

/-- **References to cached dependencies are balanced.**  After the first `Destroy` that
succeeds in garden nothing was released that was not acquired, and every reference is
released if and only if `Create` did not fail after a download. -/
theorem references_balanced_iff_keepsReferences (config : ContainerConfig) (container : Container)
    (actions : List NodeAction) (call : CallId) (env : DestroyEnvironment)
    (hretries : ∀ call env, .destroyFinish call env ∈ actions → destroyContainer env.garden ≠ none)
    (hgarden : destroyContainer env.garden = none)
    (hrun : Machine.run StoreNode.step (newStoreNode config container) actions = some n)
    (hdestroy : n.destroyFinish call env = some n') :
    n'.history.closed.Subperm n'.history.fetched ∧
      (n'.history.fetched.Perm n'.history.closed ↔
        Machine.Meets StoreNode.step KeepsReferences (newStoreNode config container) actions) := by
  obtain ⟨hreferenced, hbalanced⟩ := referenced_of_run hretries hrun
  obtain ⟨hfetched, hclosed⟩ := destroyFinish_references hgarden hdestroy
  rw [hfetched, hclosed]
  exact ⟨hreferenced.acquired, hbalanced.trans (and_iff_right (List.Perm.refl []))⟩

/-- An initializing container with one cached dependency. -/
def dependentContainer : Container :=
  { newReservedContainerFromAllocationRequest ⟨"instance", true, ⟨512, 256, 0⟩, ∅⟩ 0 with
    state := .initializing
    runInfo := { (default : RunInfo) with cachedDependencies := [⟨"lib"⟩] } }

/-- The dependency is downloaded, and garden answers so. -/
def downloadedLib (garden : Option Error) : CreateEnvironment :=
  ⟨[(⟨"lib"⟩, .fetched "/cache/lib")], fun _ => none, none, none, garden⟩

theorem references_balanced_after_create :
    ∃ n n', Machine.run StoreNode.step (newStoreNode ⟨.noop, 60⟩ dependentContainer)
        [.create 0, .createCopy 0, .createFinish 0 (downloadedLib none), .signal 1 .destroy,
          .lock 1, .stop 1, .stopComplete 1, .await 1, .destroyCopy 1] = some n ∧
      n.destroyFinish 1 ⟨.destroyed, fun _ => .closed⟩ = some n' ∧
      n'.history.fetched.Perm n'.history.closed := by
  obtain ⟨n, n', hrun, hdestroy⟩ : ∃ n n',
      Machine.run StoreNode.step (newStoreNode ⟨.noop, 60⟩ dependentContainer)
        [.create 0, .createCopy 0, .createFinish 0 (downloadedLib none), .signal 1 .destroy,
          .lock 1, .stop 1, .stopComplete 1, .await 1, .destroyCopy 1] = some n ∧
      n.destroyFinish 1 ⟨.destroyed, fun _ => .closed⟩ = some n' := ⟨_, _, rfl, rfl⟩
  refine ⟨n, n', hrun, hdestroy, (references_balanced_iff_keepsReferences _ _ _ 1
    ⟨.destroyed, fun _ => .closed⟩ (by simp) rfl hrun hdestroy).2.mpr ?_⟩
  have hsucceeds (info : Container) : (downloadedLib none).Succeeds info :=
    ⟨fun _ _ => rfl, rfl, fun _ => rfl, rfl⟩
  simp [Machine.Meets, KeepsReferences, hsucceeds]

/-- Garden fails to create the container, and the reference to the dependency is lost. -/
theorem reference_lost_after_download :
    ∃ n n', Machine.run StoreNode.step (newStoreNode ⟨.noop, 60⟩ dependentContainer)
        [.create 0, .createCopy 0,
          .createFinish 0 (downloadedLib (some (.other (bytes "no space")))),
          .signal 1 .destroy, .lock 1, .stop 1, .await 1, .destroyCopy 1] = some n ∧
      n.destroyFinish 1 ⟨.destroyed, fun _ => .closed⟩ = some n' ∧
      n'.history.fetched = [⟨"lib", "/cache/lib"⟩] ∧ n'.history.closed = [] :=
  ⟨_, _, rfl, rfl, rfl, rfl⟩

end StoreNode

end Diego.Executor
