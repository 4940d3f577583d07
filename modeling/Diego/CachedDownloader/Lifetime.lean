import Diego.CachedDownloader.Holders

/-!
# Cached directories outlive their holders

Removing, evicting and replacing entries, and the runs of the whole cache.  An entry that
makes room has no users, so evicting it costs no holder anything.  `Add` and `AddDirectory`
read the old entry before they make room: if it is evicted meanwhile, the second decrement
hits an entry that has nothing left; otherwise replacing an entry is removing it and then
installing the new one.
-/

namespace Diego.CachedDownloader

open FileCache FileCacheEntry Function Option

/-! ## Removing an entry -/

namespace FileCacheEntry

variable (e : FileCacheEntry) (disk : Disk)

/-- An entry that loses its directory although somebody holds it: with one holder and more
than one open file, the counters after `decrementUse` are zero and positive. -/
def LosesHeldDirectory (e : FileCacheEntry) : Prop :=
  e.directoryInUseCount = 1 ∧ 2 ≤ e.fileInUseCount

instance : Decidable e.LosesHeldDirectory :=
  inferInstanceAs (Decidable (_ ∧ _))

theorem decrementUse_spec :
    (e.decrementUse disk).1.filePath = e.filePath ∧
      (e.decrementUse disk).1.directoryInUseCount = e.directoryInUseCount - 1 ∧
      ((e.directoryInUseCount ≤ 0 ∨ e.LosesHeldDirectory) ∧
          (e.decrementUse disk).1.expandedDirectoryPath = .empty ∧
          (e.decrementUse disk).2 e.expandedDirectoryPath = false ∨
        0 < e.directoryInUseCount ∧ ¬ e.LosesHeldDirectory ∧
          (e.decrementUse disk).1.expandedDirectoryPath = e.expandedDirectoryPath ∧
          ∀ path, path ≠ e.filePath → (e.decrementUse disk).2 path = disk path) := by
  obtain ⟨size, heq⟩ := e.decrementFileInUseCount_eq disk
  have hfile : (e.decrementFileInUseCount disk).1.filePath = e.filePath := by rw [heq]
  have hdirectory : (e.decrementFileInUseCount disk).1.expandedDirectoryPath =
      e.expandedDirectoryPath := by rw [heq]
  have hcount : (e.decrementFileInUseCount disk).1.directoryInUseCount =
      e.directoryInUseCount := by rw [heq]
  have hfileCount : (e.decrementFileInUseCount disk).1.fileInUseCount =
      e.fileInUseCount - 1 := by rw [heq]
  -- the file counter drops first, so the directory goes only with two open files or more
  have hlast : (e.decrementFileInUseCount disk).1.ClosesLast ↔
      e.directoryInUseCount ≤ 0 ∨ e.LosesHeldDirectory := by
    unfold ClosesLast LosesHeldDirectory
    omega
  obtain ⟨hfile', -, hcount', hcase⟩ := (e.decrementFileInUseCount
    disk).1.decrementDirectoryInUseCount_spec (e.decrementFileInUseCount disk).2
  refine ⟨hfile'.trans hfile, hcount'.trans (by rw [hcount]), ?_⟩
  rcases hcase with ⟨hcloses, hempty, hdisk⟩ | ⟨hcloses, hkeep, hdisk⟩
  · refine Or.inl ⟨hlast.mp hcloses, hempty, ?_⟩
    rw [decrementUse, hdisk, hdirectory]
    exact Disk.removeAll_self
  · rw [hlast, not_or] at hcloses
    refine Or.inr ⟨Int.not_le.mp hcloses.1, hcloses.2, hkeep.trans hdirectory, ?_⟩
    intro path hpath
    rw [decrementUse, hdisk]
    exact e.disk_decrementFileInUseCount disk hpath

end FileCacheEntry

section Retire

variable {c : FileCache} {held : Held} {openFiles : OpenFiles} {key : String} {ref : EntryRef}

/-- The old entries after an entry with this directory has been retired. -/
structure Retired (before after : GoMap (String × Path) EntryRef) (key : String) (ref : EntryRef)
    (path : Path) : Prop where
  self : path ≠ .empty → after.lookup (key, path) = some ref
  other : ∀ key' path', path' ≠ .empty → (key', path') ≠ (key, path) →
    after.lookup (key', path') = before.lookup (key', path')
  ne_empty : ∀ key' ref', after.lookup (key', .empty) = some ref' →
    before.lookup (key', .empty) = some ref'

/-- Retiring an entry changes the entry, the disk and the old entries. -/
theorem FileCache.retire_eq :
    ∃ oldEntries, c.retire key ref =
        { c.onEntry ref decrementUse with oldEntries := oldEntries } ∧
      Retired c.oldEntries oldEntries key ref
        ((c.heap ref).decrementUse c.disk).1.expandedDirectoryPath := by
  unfold retire updateOldEntries
  rw [heap_onEntry]
  dsimp only
  split
  · rename_i hpath
    refine ⟨_, rfl, fun _ => AList.lookup_insert _, ?_, ?_⟩
    · intro key' path' _ hne
      exact AList.lookup_insert_ne hne
    · intro key' ref' hlookup
      rwa [GoMap.lookup_insert_ite, if_neg] at hlookup
      exact fun heq => hpath (Prod.mk.inj heq).2.symm
  · rename_i hpath
    rw [not_not] at hpath
    split
    · refine ⟨_, rfl, fun hne => absurd hpath hne, ?_, ?_⟩
      · intro key' path' _ hne
        exact AList.lookup_erase_ne hne
      · intro key' ref' hlookup
        exact (GoMap.lookup_erase_eq_some.mp hlookup).2
    · exact ⟨_, rfl, fun hne => absurd hpath hne, fun _ _ _ _ => rfl, fun _ _ h => h⟩

theorem FileCache.remove_eq (hlookup : c.entries.lookup key = some ref) :
    ∃ oldEntries, c.remove key =
        { c.onEntry ref decrementUse with
          oldEntries := oldEntries
          entries := c.entries.erase key } ∧
      Retired c.oldEntries oldEntries key ref
        ((c.heap ref).decrementUse c.disk).1.expandedDirectoryPath := by
  obtain ⟨oldEntries, hretire, hretired⟩ := c.retire_eq
  refine ⟨oldEntries, ?_, hretired⟩
  unfold remove
  rw [hlookup]
  dsimp only
  rw [hretire]
  rfl

variable {key' : String} {other : EntryRef} {env : Environment} {size : Int}
  {cachingInfo : CachingInfo}

section

variable (h : Tracks c held openFiles) (hlookup : c.entries.lookup key = some ref)
include h hlookup

/-- The keys that are left when one is deleted have other entries. -/
theorem Tracks.lookup_erase (hlookup' : (c.entries.erase key).lookup key' = some other) :
    c.entries.lookup key' = some other ∧ other ≠ ref := by
  obtain ⟨hne, hbefore⟩ := GoMap.lookup_erase_eq_some.mp hlookup'
  refine ⟨hbefore, ?_⟩
  rintro rfl
  exact hne (h.key_eq hlookup hbefore)

variable (hcareful : ¬ (c.heap ref).LosesHeldDirectory)
include hcareful

/-- While somebody holds the directory of an entry, retiring the entry keeps it. -/
theorem Tracks.decrementUse_keeps {path : Path} (howner : path.owner = some ref)
    (hpositive : 0 < held key' path) :
    key' = key ∧ ((c.heap ref).decrementUse c.disk).1.expandedDirectoryPath = path ∧
      (c.heap ref).directoryInUseCount = held key path ∧
      ((c.heap ref).decrementUse c.disk).2 path = true := by
  obtain ⟨rfl, hpath, hdirectory, hdisk⟩ := h.held_current hlookup howner hpositive
  have hcount := (h.live key' ref hlookup).directoryCount
  rw [← hpath] at hcount
  obtain ⟨-, -, hcase⟩ := (c.heap ref).decrementUse_spec c.disk
  rcases hcase with ⟨hloses, -, -⟩ | ⟨-, -, hkeep, hkeepDisk⟩
  · rcases hloses with hnone | hloses
    · omega
    · exact absurd hloses hcareful
  · refine ⟨rfl, hkeep.trans hdirectory, hcount, ?_⟩
    rw [hkeepDisk path (h.directory_ne_file hpositive)]
    exact hdisk

/-- An entry that is removed and keeps a directory becomes an old one. -/
theorem Tracks.old_of_removed
    (hpath : ((c.heap ref).decrementUse c.disk).1.expandedDirectoryPath ≠ .empty)
    {oldEntries : GoMap (String × Path) EntryRef} :
    Old { c.onEntry ref decrementUse with
        oldEntries := oldEntries
        entries := c.entries.erase key }
      held key ((c.heap ref).decrementUse c.disk).1.expandedDirectoryPath ref := by
  have hlive := h.live key ref hlookup
  obtain ⟨nanos, hname⟩ := hlive.name
  obtain ⟨-, hcount, hcase⟩ := (c.heap ref).decrementUse_spec c.disk
  have hdirectory : ((c.heap ref).decrementUse c.disk).1.expandedDirectoryPath =
      .expanded (.cached ⟨key, nanos, ref⟩) := by
    rcases hcase with ⟨-, hempty, -⟩ | ⟨-, -, hkeep, -⟩
    · exact absurd hempty hpath
    · rw [hkeep] at hpath ⊢
      rw [hlive.directory.resolve_left hpath, hname]
  refine ⟨hlive.le, fun _ hlookup' => (h.lookup_erase hlookup hlookup').2 rfl,
    ⟨nanos, hdirectory⟩, ?_⟩
  intro hpositive
  obtain ⟨-, -, hsame, -⟩ := h.decrementUse_keeps hlookup hcareful (by rw [hdirectory]; rfl)
    hpositive
  rw [heap_onEntry]
  exact ⟨rfl, by omega⟩

/-- An entry that is current can be removed without loss to its holders, unless it loses a
directory that is held. -/
theorem Tracks.remove : Tracks (c.remove key) held openFiles := by
  obtain ⟨oldEntries, hremove, hretired⟩ := remove_eq hlookup
  have hlocal := (h.owned ref).decrementUse c.disk
  have hheap : ∀ other, other ≠ ref → (c.onEntry ref decrementUse).heap other = c.heap other :=
    fun other hother => update_of_ne hother _ _
  rw [hremove]
  refine ⟨?_, ?_, ?_, ?_, h.unopened⟩
  · intro other
    by_cases hother : other = ref
    · subst hother
      rw [heap_onEntry]
      exact hlocal.owned
    · rw [hheap other hother]
      exact h.owned other
  · intro key' other hlookup'
    obtain ⟨hbefore, hother⟩ := h.lookup_erase hlookup hlookup'
    exact (h.live key' other hbefore).congr le_rfl (hheap other hother) (fun _ _ => rfl) rfl
  · intro key' path other hlookup'
    -- no old entry is filed under the empty path
    have hpath : path ≠ .empty := by
      rintro rfl
      obtain ⟨nanos, hname⟩ := (h.old _ _ _ (hretired.ne_empty key' other hlookup')).name
      simp at hname
    by_cases hself : (key', path) =
        (key, ((c.heap ref).decrementUse c.disk).1.expandedDirectoryPath)
    · obtain ⟨rfl, rfl⟩ := Prod.mk.inj hself
      obtain rfl : ref = other := some.inj ((hretired.self hpath).symm.trans hlookup')
      exact h.old_of_removed hlookup hcareful hpath
    · rw [hretired.other key' path hpath hself] at hlookup'
      have hold := h.old key' path other hlookup'
      -- it was old before, so it is not the entry that is removed
      refine hold.congr le_rfl ?_ (hheap other ?_) rfl
      · exact fun key'' hlookup'' => hold.notCurrent key'' (h.lookup_erase hlookup hlookup'').1
      · rintro rfl
        exact hold.notCurrent key hlookup
  · intro key' path hpositive
    have hkept := h.kept key' path hpositive
    obtain ⟨other, nanos, hpath, -⟩ := hkept.entry
    have howner : path.owner = some other := by
      rw [hpath]
      rfl
    by_cases hother : other = ref
    · subst hother
      obtain ⟨rfl, hdirectory, -, hexists⟩ :=
        h.decrementUse_keeps hlookup hcareful howner hpositive
      refine ⟨hexists, other, nanos, hpath, Or.inr ?_⟩
      rw [← hdirectory]
      refine hretired.self ?_
      rw [hdirectory, hpath]
      simp
    · have heq {other'} (howner' : path.owner = some other') : other' = other :=
        some.inj (howner'.symm.trans howner)
      -- the directory of another entry: neither the disk nor the maps change there
      refine hkept.congr (hlocal.disk path other howner hother) ?_ ?_ ?_
      · intro other' howner'
        exact hheap other' (heq howner' ▸ hother)
      · intro other' howner' hcurrent
        refine GoMap.lookup_erase_eq_some.mpr ⟨?_, hcurrent⟩
        rintro rfl
        exact hother ((heq howner').symm.trans (some.inj (hcurrent.symm.trans hlookup)))
      · intro other' howner' hold
        refine (hretired.other key' path (by simp [hpath]) ?_).trans hold
        exact fun hself => hlocal.owned.directory_ne howner hother (Prod.mk.inj hself).2

end

/-- The current entries after a new one has been installed. -/
theorem FileCache.lookup_install
    (hlookup : (c.install env key size cachingInfo).entries.lookup key' = some other) :
    key' = key ∧ other = c.seq + 1 ∨ c.entries.lookup key' = some other := by
  simp only [install, GoMap.lookup_insert_ite] at hlookup
  split at hlookup
  · rename_i hkey
    exact Or.inl ⟨hkey, (some.inj hlookup).symm⟩
  · exact Or.inr hlookup

/-- Nobody uses the entry that is made next. -/
theorem Tracks.live_install (h : Tracks c held openFiles) :
    Live (c.install env key size cachingInfo) held openFiles key (c.seq + 1) := by
  have hheld : held key (.expanded (.cached ⟨key, env.nanos, c.seq + 1⟩)) = 0 := by
    by_contra hne
    have hle : c.seq + 1 ≤ c.seq := h.owner_le rfl (Nat.pos_of_ne_zero hne)
    omega
  have hopen : openFiles (c.seq + 1) = 0 := h.unopened _ (Nat.lt_succ_self _)
  constructor
  · exact le_refl _
  · exact ⟨env.nanos, by simp [install, newFileCacheEntry]⟩
  · exact Or.inl (by simp [install, newFileCacheEntry])
  · simp [install, newFileCacheEntry, hheld]
  · simp [install, newFileCacheEntry, hopen]

/-- A key without an entry gets a new one, which nobody uses yet. -/
theorem Tracks.install (h : Tracks c held openFiles) (hlookup : c.entries.lookup key = none) :
    Tracks (c.install env key size cachingInfo) held openFiles := by
  have hheap : ∀ other, other ≠ c.seq + 1 →
      (c.install env key size cachingInfo).heap other = c.heap other := by
    intro other hother
    exact update_of_ne hother _ _
  have hne {other : EntryRef} (hle : other ≤ c.seq) : other ≠ c.seq + 1 :=
    Nat.ne_of_lt (Nat.lt_succ_of_le hle)
  refine ⟨?_, ?_, ?_, ?_, ?_⟩
  · intro other
    by_cases hother : other = c.seq + 1
    · subst hother
      simp only [FileCache.install, update_self]
      exact ⟨Or.inr ⟨key, env.nanos, rfl⟩, Or.inl rfl⟩
    · rw [hheap other hother]
      exact h.owned other
  · intro key' other hlookup'
    rcases FileCache.lookup_install hlookup' with ⟨rfl, rfl⟩ | hbefore
    · exact h.live_install
    · have hlive := h.live key' other hbefore
      exact hlive.congr (Nat.le_succ _) (hheap other (hne hlive.le)) (fun _ _ => rfl) rfl
  · intro key' path other hlookup'
    have hold := h.old key' path other hlookup'
    -- old entries are older than the new one
    refine hold.congr (Nat.le_succ _) ?_ (hheap other (hne hold.le)) rfl
    intro key'' hlookup''
    rcases FileCache.lookup_install hlookup'' with ⟨-, rfl⟩ | hbefore
    · exact absurd hold.le (Nat.not_succ_le_self _)
    · exact hold.notCurrent key'' hbefore
  · intro key' path hpositive
    have hkept := h.kept key' path hpositive
    obtain ⟨ref, nanos, hpath, -⟩ := hkept.entry
    refine hkept.congr (Disk.create_of_ne (by simp [hpath])) ?_ ?_ fun _ _ => id
    · intro other howner
      exact hheap other (hne (h.owner_le howner hpositive))
    · intro other _ hcurrent
      refine (AList.lookup_insert_ne ?_).trans hcurrent
      rintro rfl
      simp [hlookup] at hcurrent
  · intro other hlt
    exact h.unopened other (Nat.lt_of_succ_lt hlt)

/-- Nothing is left of an entry, and no map refers to it. -/
structure Gone (c : FileCache) (ref : EntryRef) : Prop where
  notCurrent : ∀ key, c.entries.lookup key ≠ some ref
  notOld : ∀ key path, c.oldEntries.lookup (key, path) ≠ some ref
  directory : (c.heap ref).expandedDirectoryPath = .empty
  le : ref ≤ c.seq

/-- Retiring an entry of which nothing is left has no effect on others. -/
theorem Tracks.retire_gone (h : Tracks c held openFiles) (hgone : Gone c ref) :
    Tracks (c.retire key ref) held openFiles := by
  have hnone : ∀ key' path, path.owner = some ref → ¬ 0 < held key' path := by
    intro key' path howner hpositive
    exact hgone.notOld key' path (h.held_old hgone.notCurrent howner hpositive).1
  have hstep : Tracks (c.onEntry ref decrementUse) held openFiles := by
    refine h.onEntry ((h.owned ref).decrementUse c.disk) (fun _ _ _ => rfl) (fun _ _ => rfl) ?_ ?_
      ?_ (fun hlt => absurd hgone.le (not_le.mpr hlt))
    · intro key' hlookup
      exact absurd hlookup (hgone.notCurrent key')
    · intro key' path hold
      exact absurd hold (hgone.notOld key' path)
    · intro key' path howner hpositive
      exact absurd hpositive (hnone key' path howner)
  have hdirectory : ((c.onEntry ref
      decrementUse).heap ref).expandedDirectoryPath = .empty := by
    rw [heap_onEntry]
    obtain ⟨-, -, hcase⟩ := (c.heap ref).decrementUse_spec c.disk
    rcases hcase with ⟨-, hempty, -⟩ | ⟨-, -, hkeep, -⟩
    · exact hempty
    · exact hkeep.trans hgone.directory
  -- without a directory it is not filed, and at most the empty path is forgotten
  unfold retire updateOldEntries
  rw [hdirectory]
  split
  · refine hstep.eraseOld ?_
    by_contra hne
    obtain ⟨-, other, nanos, hpath, -⟩ := h.kept key .empty (Nat.pos_of_ne_zero hne)
    simp at hpath
  · exact hstep

end Retire

/-! ## Making room and replacing an entry -/

section MakeRoom

variable {c : FileCache} {held : Held} {openFiles : OpenFiles} {key excluded : String}
  {ref : EntryRef}

/-- The entry that `makeRoom` evicts is one that nobody uses. -/
theorem FileCache.oldestEntry_spec {keys : List String}
    (h : c.oldestEntry excluded keys = some (key, ref)) :
    c.entries.lookup key = some ref ∧ (c.heap ref).inUse = false ∧ key ≠ excluded := by
  have hfold : ∀ (keys : List String) (oldest : Int × Option (String × EntryRef)),
      (∀ key ref, oldest.2 = some (key, ref) →
        c.entries.lookup key = some ref ∧ (c.heap ref).inUse = false ∧ key ≠ excluded) →
      ∀ key ref, (keys.foldl (c.oldestStep excluded) oldest).2 = some (key, ref) →
        c.entries.lookup key = some ref ∧ (c.heap ref).inUse = false ∧ key ≠ excluded := by
    intro keys
    induction keys with
    | nil => exact fun _ h => h
    | cons candidate keys ih =>
      intro oldest holdest
      refine ih _ ?_
      intro key ref hstep
      unfold oldestStep at hstep
      split at hstep
      · exact holdest key ref hstep
      · rename_i ref' hlookup
        split at hstep
        · rename_i hevict
          obtain ⟨rfl, rfl⟩ := Prod.mk.inj (some.inj hstep)
          exact ⟨hlookup, by simpa using hevict.2.2, hevict.2.1⟩
        · exact holdest key ref hstep
  exact hfold keys (maxTime, none) nofun key ref h

/-- What every eviction of an unused entry keeps, `makeRoom` keeps. -/
theorem FileCache.makeRoom_induction {P : FileCache → Prop} {env : Environment} {size : Int}
    (hremove : ∀ c key ref, P c → c.entries.lookup key = some ref →
      (c.heap ref).inUse = false → key ≠ excluded → P (c.remove key))
    (h : P c) : P (c.makeRoom env size excluded) := by
  have hloop : ∀ turns turn usedSpace c, P c →
      P (makeRoomLoop env size excluded turns turn usedSpace c) := by
    intro turns
    induction turns with
    | zero => exact fun _ _ _ h => h
    | succ turns ih =>
      intro turn usedSpace c h
      unfold makeRoomLoop
      split
      · split
        · exact h
        · rename_i key ref holdest
          obtain ⟨hlookup, hunused, hne⟩ := oldestEntry_spec holdest
          exact ih _ _ _ (hremove c key ref h hlookup hunused hne)
      · exact h
  exact hloop _ _ _ c h

theorem FileCacheEntry.not_losesHeldDirectory {e : FileCacheEntry} (h : e.inUse = false) :
    ¬ e.LosesHeldDirectory := by
  rintro ⟨hdirectory, -⟩
  simp [inUse, hdirectory] at h

theorem Tracks.makeRoom (h : Tracks c held openFiles) (env : Environment) (size : Int)
    (excluded : String) : Tracks (c.makeRoom env size excluded) held openFiles := by
  refine makeRoom_induction (P := fun c => Tracks c held openFiles) ?_ h
  intro c key ref h hlookup hunused _
  exact h.remove hlookup (not_losesHeldDirectory hunused)

/-- An entry that was not evicted is as it was. -/
structure Untouched (c c' : FileCache) (key : String) (ref : EntryRef) : Prop where
  current : c'.entries.lookup key = some ref
  heap : c'.heap ref = c.heap ref

structure Evicts (c c' : FileCache) (key : String) (ref : EntryRef) : Prop where
  seq : c'.seq = c.seq
  entries : c'.entries = c.entries.erase key
  old : ∀ key' path other, c'.oldEntries.lookup (key', path) = some other →
    c.oldEntries.lookup (key', path) = some other
  heap : ∀ other, other ≠ ref → c'.heap other = c.heap other
  directory : (c'.heap ref).expandedDirectoryPath = .empty

theorem FileCache.evicts_remove (hlookup : c.entries.lookup key = some ref)
    (hunused : (c.heap ref).inUse = false) : Evicts c (c.remove key) key ref := by
  obtain ⟨oldEntries, hremove, hretired⟩ := remove_eq hlookup
  have hempty : ((c.heap ref).decrementUse c.disk).1.expandedDirectoryPath = .empty := by
    obtain ⟨-, -, hspec⟩ := (c.heap ref).decrementUse_spec c.disk
    rcases hspec with ⟨-, hempty, -⟩ | ⟨hpositive, -, -, -⟩
    · exact hempty
    · simp [inUse] at hunused
      omega
  rw [hremove]
  refine ⟨rfl, rfl, ?_, fun other hother => update_of_ne hother _ _, ?_⟩
  · intro key' path other hlookup'
    by_cases hpath : path = .empty
    · subst hpath
      exact hretired.ne_empty key' other hlookup'
    · refine (hretired.other key' path hpath ?_).symm.trans hlookup'
      rw [hempty]
      exact fun heq => hpath (Prod.mk.inj heq).2
  · rw [heap_onEntry]
    exact hempty

variable {c' : FileCache} {path : Path} {env : Environment} {size : Int} {cachingInfo : CachingInfo}

theorem Tracks.gone_of_evicts (h : Tracks c held openFiles)
    (hlookup : c.entries.lookup key = some ref) (hevicts : Evicts c c' key ref) : Gone c' ref := by
  refine ⟨?_, ?_, hevicts.directory, ?_⟩
  · intro key' hlookup'
    rw [hevicts.entries] at hlookup'
    exact (h.lookup_erase hlookup hlookup').2 rfl
  · intro key' path hlookup'
    exact (h.old key' path ref (hevicts.old key' path ref hlookup')).notCurrent key hlookup
  · rw [hevicts.seq]
    exact (h.live key ref hlookup).le

/-- An entry that is gone stays so when another one is evicted. -/
theorem Gone.evicts {other : EntryRef} (h : Gone c other)
    (hlookup : c.entries.lookup key = some ref) (hevicts : Evicts c c' key ref) :
    Gone c' other := by
  have hne : other ≠ ref := by
    rintro rfl
    exact h.notCurrent key hlookup
  refine ⟨?_, ?_, ?_, ?_⟩
  · intro key' hlookup'
    rw [hevicts.entries] at hlookup'
    exact h.notCurrent key' (GoMap.lookup_erase_eq_some.mp hlookup').2
  · exact fun key' path hlookup' => h.notOld key' path (hevicts.old key' path other hlookup')
  · rw [hevicts.heap other hne]
    exact h.directory
  · rw [hevicts.seq]
    exact h.le

/-- Making room leaves an entry alone or leaves nothing of it. -/
theorem Tracks.makeRoom_entry (h : Tracks c held openFiles)
    (hlookup : c.entries.lookup key = some ref) :
    Untouched c (c.makeRoom env size excluded) key ref ∨
      ((c.heap ref).inUse = false ∧ key ≠ excluded ∧ Gone (c.makeRoom env size excluded) ref ∧
        (c.makeRoom env size excluded).entries.lookup key = none) := by
  refine (makeRoom_induction (P := fun c' => Tracks c' held openFiles ∧
    (Untouched c c' key ref ∨ ((c.heap ref).inUse = false ∧ key ≠ excluded ∧ Gone c' ref ∧
      c'.entries.lookup key = none))) ?_ ⟨h, Or.inl ⟨hlookup, rfl⟩⟩).2
  rintro c' key' ref' ⟨h', hcase⟩ hlookup' hunused hne
  refine ⟨h'.remove hlookup' (not_losesHeldDirectory hunused), ?_⟩
  have hevicts := evicts_remove hlookup' hunused
  rcases hcase with huntouched | ⟨hunused', hne', hgone, hnone⟩
  · by_cases hkey : key' = key
    · -- the entry itself is evicted
      subst hkey
      obtain rfl : ref' = ref := some.inj (hlookup'.symm.trans huntouched.current)
      refine Or.inr ⟨huntouched.heap ▸ hunused, hne, h'.gone_of_evicts hlookup' hevicts, ?_⟩
      rw [hevicts.entries]
      exact AList.lookup_erase _ _
    · refine Or.inl ⟨?_, ?_⟩
      · rw [hevicts.entries]
        exact (AList.lookup_erase_ne (Ne.symm hkey)).trans huntouched.current
      · rw [hevicts.heap ref, huntouched.heap]
        rintro rfl
        exact hkey (h'.key_eq huntouched.current hlookup')
  · refine Or.inr ⟨hunused', hne', hgone.evicts hlookup' hevicts, ?_⟩
    rw [hevicts.entries, GoMap.lookup_erase_ite, hnone]
    exact ite_self none

theorem Disk.create_removeAll {disk : Disk} {other : Path} (h : other ≠ path) :
    (disk.create other).removeAll path = (disk.removeAll path).create other :=
  update_comm h.symm _ _ _ |>.symm

/-- A new path beside those of an entry makes no difference to what `decrementUse` does. -/
theorem FileCacheEntry.decrementUse_create {e : FileCacheEntry} {disk : Disk}
    (hfile : path ≠ e.filePath) (hdirectory : path ≠ e.expandedDirectoryPath) :
    e.decrementUse (disk.create path) =
      ((e.decrementUse disk).1, (e.decrementUse disk).2.create path) := by
  have hstep : e.decrementFileInUseCount (disk.create path) =
      ((e.decrementFileInUseCount disk).1, (e.decrementFileInUseCount disk).2.create path) := by
    unfold decrementFileInUseCount
    dsimp only
    split
    · rw [Disk.create_removeAll hfile]
    · rfl
  have hsame : (e.decrementFileInUseCount disk).1.expandedDirectoryPath =
      e.expandedDirectoryPath := by
    obtain ⟨size, heq⟩ := e.decrementFileInUseCount_eq disk
    rw [heq]
  unfold decrementUse
  rw [hstep]
  unfold decrementDirectoryInUseCount
  dsimp only
  split
  · rw [hsame, Disk.create_removeAll hdirectory]
  · rfl

/-- Replacing an entry that is still there is removing it and installing the new one. -/
theorem Tracks.retire_install (h : Tracks c held openFiles)
    (hlookup : c.entries.lookup key = some ref) :
    (c.install env key size cachingInfo).retire key ref =
      (c.remove key).install env key size cachingInfo := by
  have hne : ref ≠ c.seq + 1 :=
    Nat.ne_of_lt (Nat.lt_succ_of_le (h.live key ref hlookup).le)
  have howner : (Path.cached ⟨key, env.nanos, c.seq + 1⟩).owner = some (c.seq + 1) := rfl
  have hentry : (c.install env key size cachingInfo).onEntry ref decrementUse =
      (c.onEntry ref decrementUse).install env key size cachingInfo := by
    unfold FileCache.onEntry FileCache.install
    dsimp only
    rw [update_of_ne hne, decrementUse_create
      ((h.owned ref).file_ne howner hne.symm) ((h.owned ref).directory_ne howner hne.symm),
      update_comm hne]
  have hheap : ((c.onEntry ref decrementUse).install env key size
      cachingInfo).heap ref = (c.onEntry ref decrementUse).heap ref :=
    update_of_ne hne _ _
  unfold FileCache.remove
  rw [hlookup]
  unfold FileCache.retire FileCache.updateOldEntries
  rw [hentry]
  dsimp only
  rw [hheap]
  split
  · unfold FileCache.install
    dsimp only
    rw [GoMap.insert_erase]
  · split
    · unfold FileCache.install
      dsimp only
      rw [GoMap.insert_erase]
    · unfold FileCache.install
      dsimp only
      rw [GoMap.insert_erase]

theorem Tracks.replace (h : Tracks c held openFiles) (env : Environment) (size : Int)
    (cachingInfo : CachingInfo)
    (hcareful : ∀ ref, c.entries.lookup key = some ref → ¬ (c.heap ref).LosesHeldDirectory) :
    Tracks (c.replace env key size cachingInfo) held openFiles := by
  have hroom := h.makeRoom env size ""
  unfold FileCache.replace
  cases hlookup : c.entries.lookup key with
  | none =>
    refine hroom.install ?_
    refine FileCache.makeRoom_induction (P := fun c => c.entries.lookup key = none) ?_ hlookup
    intro c key' ref hnone hlookup' _ _
    obtain ⟨oldEntries, hremove, -⟩ := FileCache.remove_eq hlookup'
    rw [hremove, GoMap.lookup_erase_ite, hnone]
    exact ite_self none
  | some ref =>
    rcases h.makeRoom_entry hlookup with huntouched | ⟨-, -, hgone, hnone⟩
    · dsimp only
      rw [hroom.retire_install huntouched.current]
      have hremoved := hroom.remove huntouched.current
        (huntouched.heap ▸ hcareful ref hlookup)
      refine hremoved.install ?_
      obtain ⟨oldEntries, hremove, -⟩ := FileCache.remove_eq huntouched.current
      rw [hremove]
      exact AList.lookup_erase _ _
    · refine (hroom.install hnone).retire_gone ?_
      have hne : ref ≠ (c.makeRoom env size "").seq + 1 :=
        Nat.ne_of_lt (Nat.lt_succ_of_le hgone.le)
      refine ⟨?_, hgone.notOld, ?_, Nat.le_succ_of_le hgone.le⟩
      · intro key' hlookup'
        simp only [FileCache.install, GoMap.lookup_insert_ite] at hlookup'
        split at hlookup'
        · exact hne (some.inj hlookup').symm
        · exact hgone.notCurrent key' hlookup'
      · have hheap : ((c.makeRoom env size "").install env key size cachingInfo).heap ref =
            (c.makeRoom env size "").heap ref := update_of_ne hne _ _
        rw [hheap]
        exact hgone.directory

theorem FileCache.lookup_replace :
    (c.replace env key size cachingInfo).entries.lookup key =
      some (c.replace env key size cachingInfo).seq := by
  have hinstall : ∀ c : FileCache, (c.install env key size cachingInfo).entries.lookup key =
      some (c.install env key size cachingInfo).seq :=
    fun c => AList.lookup_insert _
  unfold replace
  cases c.entries.lookup key with
  | none => exact hinstall _
  | some ref =>
    obtain ⟨oldEntries, hretire, -⟩ := ((c.makeRoom env size "").install env key size
      cachingInfo).retire_eq
    dsimp only
    rw [hretire]
    exact hinstall _

/-- A current entry with one holder and two open files. -/
structure Loses (c : FileCache) (held : Held) (key : String) (ref : EntryRef) : Prop where
  current : c.entries.lookup key = some ref
  loses : (c.heap ref).LosesHeldDirectory
  held : held key (c.heap ref).expandedDirectoryPath = 1
  owner : (c.heap ref).expandedDirectoryPath.owner = some ref

theorem Tracks.loses (h : Tracks c held openFiles) (hlookup : c.entries.lookup key = some ref)
    (hloses : (c.heap ref).LosesHeldDirectory) : Loses c held key ref := by
  have hlive := h.live key ref hlookup
  obtain ⟨nanos, hname⟩ := hlive.name
  have howner : (Path.expanded (c.heap ref).filePath).owner = some ref := by
    rw [hname]
    rfl
  have hcount := hlive.directoryCount
  rw [hloses.1] at hcount
  have hpositive : 0 < held key (.expanded (c.heap ref).filePath) := by omega
  obtain ⟨-, -, hdirectory, -⟩ := h.held_current hlookup howner hpositive
  refine ⟨hlookup, hloses, ?_, ?_⟩
  · rw [hdirectory]
    omega
  · rw [hdirectory]
    exact howner

theorem Loses.disk_remove (hloses : Loses c held key ref) :
    (c.remove key).disk (c.heap ref).expandedDirectoryPath = false := by
  obtain ⟨oldEntries, hremove, -⟩ := remove_eq hloses.current
  obtain ⟨-, -, hspec⟩ := (c.heap ref).decrementUse_spec c.disk
  rw [hremove]
  rcases hspec with ⟨-, -, hdisk⟩ | ⟨-, hnot, -⟩
  · exact hdisk
  · exact absurd hloses.loses hnot

theorem Tracks.heap_replace (h : Tracks c held openFiles) :
    (c.replace env key size cachingInfo).heap (c.replace env key size cachingInfo).seq =
      newFileCacheEntry (.cached ⟨key, env.nanos, (c.replace env key size cachingInfo).seq⟩) size
        env.now cachingInfo := by
  have hinstall : ∀ c : FileCache, (c.install env key size cachingInfo).heap (c.seq + 1) =
      newFileCacheEntry (.cached ⟨key, env.nanos, c.seq + 1⟩) size env.now cachingInfo :=
    fun c => update_self _ _ _
  unfold FileCache.replace
  cases hlookup : c.entries.lookup key with
  | none => exact hinstall _
  | some ref =>
    obtain ⟨oldEntries, hretire, -⟩ := ((c.makeRoom env size "").install env key size
      cachingInfo).retire_eq
    have hle : ref ≤ (c.makeRoom env size "").seq := by
      rcases h.makeRoom_entry hlookup with huntouched | ⟨-, -, hgone, -⟩
      · exact ((h.makeRoom env size "").live key ref huntouched.current).le
      · exact hgone.le
    dsimp only
    rw [hretire]
    refine (update_of_ne ?_ _ _).trans (hinstall _)
    exact (Nat.ne_of_lt (Nat.lt_succ_of_le hle)).symm

theorem Loses.disk_replace (hloses : Loses c held key ref) (h : Tracks c held openFiles) :
    (c.replace env key size cachingInfo).disk (c.heap ref).expandedDirectoryPath = false ∧
      ref ≠ (c.replace env key size cachingInfo).seq := by
  have hroom := h.makeRoom env size ""
  rcases h.makeRoom_entry hloses.current with huntouched | ⟨hunused, -, -, -⟩
  · have hloses' : Loses (c.makeRoom env size "") held key ref := by
      refine hroom.loses huntouched.current ?_
      rw [huntouched.heap]
      exact hloses.loses
    have hdisk := hloses'.disk_remove
    rw [huntouched.heap] at hdisk
    have hseq : ((c.makeRoom env size "").remove key).seq = (c.makeRoom env size "").seq := by
      obtain ⟨oldEntries, hremove, -⟩ := remove_eq huntouched.current
      rw [hremove]
      rfl
    have hne : ref ≠ (c.makeRoom env size "").seq + 1 :=
      Nat.ne_of_lt (Nat.lt_succ_of_le (hroom.live key ref huntouched.current).le)
    unfold replace
    rw [hloses.current]
    dsimp only
    rw [hroom.retire_install huntouched.current]
    refine ⟨?_, ?_⟩
    · refine (Disk.create_of_ne ?_).trans hdisk
      intro heq
      have howner := hloses.owner
      rw [heq] at howner
      simp only [Path.owner, some.injEq] at howner
      exact hne (howner.symm.trans (by rw [hseq]))
    · intro heq
      exact hne (heq.trans (by simp [install, hseq]))
  · have hdirectory := hloses.loses.1
    simp [inUse, hdirectory] at hunused

end MakeRoom

/-! ## Runs of the cache -/

inductive Action
  | add (env : Environment) (cacheKey : String) (size : Int) (cachingInfo : CachingInfo)
  | addDirectory (env : Environment) (cacheKey : String) (size : Int) (cachingInfo : CachingInfo)
  | get (env : Environment) (cacheKey : String)
  | getDirectory (env : Environment) (cacheKey : String)
  | remove (cacheKey : String)
  | makeRoom (env : Environment)
  | closeDirectory (cacheKey : String) (dirPath : Path)
  | closeFile (ref : EntryRef)

/-- The cache with the directories that are held and the files that are open. -/
structure World where
  cache : FileCache
  held : Held
  openFiles : OpenFiles

def World.new (maxSizeInBytes minimumPartitionFreeBytes : Int) : World where
  cache := newCache maxSizeInBytes minimumPartitionFreeBytes
  held _ _ := 0
  openFiles _ := 0

/-- One call.  A directory is closed at most as often as it was returned for the key; a file
that is closed again reports an error and does nothing. -/
def World.step : Action → World → Option World
  | .add env cacheKey size cachingInfo, w =>
    let c := w.cache.add env cacheKey size cachingInfo
    some ⟨c, w.held, Function.update w.openFiles c.seq (w.openFiles c.seq + 1)⟩
  | .addDirectory env cacheKey size cachingInfo, w =>
    let result := w.cache.addDirectory env cacheKey size cachingInfo
    some ⟨result.1, w.held.acquire cacheKey result.2, w.openFiles⟩
  | .get env cacheKey, w =>
    let result := w.cache.get env cacheKey
    match result.2 with
    | .error _ => some { w with cache := result.1 }
    | .ok ref =>
      some ⟨result.1, w.held, Function.update w.openFiles ref (w.openFiles ref + 1)⟩
  | .getDirectory env cacheKey, w =>
    let result := w.cache.getDirectory env cacheKey
    match result.2 with
    | .error _ => some { w with cache := result.1 }
    | .ok dir => some ⟨result.1, w.held.acquire cacheKey dir, w.openFiles⟩
  | .remove cacheKey, w => some { w with cache := w.cache.remove cacheKey }
  | .makeRoom env, w => some { w with cache := w.cache.makeRoom env 0 "" }
  | .closeDirectory cacheKey dirPath, w =>
    if 0 < w.held cacheKey dirPath then
      some ⟨(w.cache.closeDirectory cacheKey dirPath).1, w.held.release cacheKey dirPath,
        w.openFiles⟩
    else none
  | .closeFile ref, w =>
    if 0 < w.openFiles ref then
      some ⟨w.cache.closeFile ref, w.held, Function.update w.openFiles ref (w.openFiles ref - 1)⟩
    else none

def World.HeldExist (w : World) : Prop :=
  ∀ cacheKey dirPath, 0 < w.held cacheKey dirPath → w.cache.disk dirPath = true

/-- The steps that cost no holder a directory: an entry that is replaced or removed does not
have exactly one holder and several open files, and the directory of an old entry is not
closed by one of exactly two holders, whom the counter shows as one. -/
def Careful : Action → World → Prop
  | .add _ cacheKey _ _, w | .addDirectory _ cacheKey _ _, w | .remove cacheKey, w =>
    ∀ ref ∈ w.cache.entries.lookup cacheKey, ¬ (w.cache.heap ref).LosesHeldDirectory
  | .closeDirectory cacheKey dirPath, w =>
    w.cache.currentEntry cacheKey dirPath = none →
      ∀ ref ∈ w.cache.oldEntries.lookup (cacheKey, dirPath),
        (w.cache.heap ref).directoryInUseCount ≠ 1
  | .get _ _, _ | .getDirectory _ _, _ | .makeRoom _, _ | .closeFile _, _ => True

instance : (action : Action) → (w : World) → Decidable (Careful action w)
  | .add _ _ _ _, _ | .addDirectory _ _ _ _, _ | .remove _, _ =>
    inferInstanceAs (Decidable (∀ ref ∈ _, _))
  | .closeDirectory _ _, _ => inferInstanceAs (Decidable (_ → ∀ ref ∈ _, _))
  | .get _ _, _ | .getDirectory _ _, _ | .makeRoom _, _ | .closeFile _, _ =>
    inferInstanceAs (Decidable True)

/-- The counters of the cache tell the holders. -/
def World.Tracked (w : World) : Prop :=
  Tracks w.cache w.held w.openFiles

variable {maxSizeInBytes minimumPartitionFreeBytes : Int}

theorem World.tracked_new : (World.new maxSizeInBytes minimumPartitionFreeBytes).Tracked where
  owned _ := ⟨Or.inl rfl, Or.inl rfl⟩
  live _ _ hlookup := nomatch hlookup
  old _ _ _ hlookup := nomatch hlookup
  kept _ _ hpositive := absurd hpositive (lt_irrefl 0)
  unopened _ _ := rfl

theorem World.Tracked.heldExist {w : World} (h : w.Tracked) : w.HeldExist :=
  fun cacheKey dirPath hpositive => (Tracks.kept h cacheKey dirPath hpositive).disk

section Step

variable {w : World} (h : w.Tracked) (env : Environment) (cacheKey : String)

include h

variable (size : Int) (cachingInfo : CachingInfo)

/-- Room is made for an entry without touching it. -/
theorem World.Tracked.makeRoom_for {ref : EntryRef}
    (hlookup : w.cache.entries.lookup cacheKey = some ref) :
    Tracks (w.cache.makeRoom env size cacheKey) w.held w.openFiles ∧
      (w.cache.makeRoom env size cacheKey).entries.lookup cacheKey = some ref := by
  refine ⟨Tracks.makeRoom h env size cacheKey, ?_⟩
  rcases Tracks.makeRoom_entry h hlookup with huntouched | ⟨-, hne, -, -⟩
  · exact huntouched.current
  · exact absurd rfl hne

theorem World.Tracked.add (hcareful : Careful (.add env cacheKey size cachingInfo) w) :
    Tracks (w.cache.add env cacheKey size cachingInfo) w.held
      (update w.openFiles (w.cache.add env cacheKey size cachingInfo).seq
        (w.openFiles (w.cache.add env cacheKey size cachingInfo).seq + 1)) :=
  (Tracks.replace h env size cachingInfo hcareful).readCloser
    w.cache.lookup_replace

theorem World.Tracked.addDirectory
    (hcareful : Careful (.addDirectory env cacheKey size cachingInfo) w) :
    Tracks (w.cache.addDirectory env cacheKey size cachingInfo).1
      (w.held.acquire cacheKey (w.cache.addDirectory env cacheKey size cachingInfo).2)
      w.openFiles := by
  have hreplace := Tracks.replace h env size cachingInfo hcareful
  obtain ⟨htracks, hpath⟩ := hreplace.expandedDirectory
    w.cache.lookup_replace
  rw [← hpath] at htracks
  exact htracks

theorem World.Tracked.get : ∀ w', World.step (.get env cacheKey) w = some w' → w'.Tracked := by
  intro w' hstep
  unfold World.step FileCache.get at hstep
  dsimp only at hstep
  cases hlookup : w.cache.entries.lookup cacheKey with
  | none =>
    rw [hlookup] at hstep
    cases hstep
    exact h
  | some ref =>
    rw [hlookup] at hstep
    cases hstep
    have hroom : ∃ c, (if (w.cache.heap ref).fileDoesNotExist w.cache.disk then
          w.cache.makeRoom env (w.cache.heap ref).size cacheKey else w.cache) = c ∧
        Tracks c w.held w.openFiles ∧ c.entries.lookup cacheKey = some ref := by
      refine ⟨_, rfl, ?_⟩
      split
      · exact h.makeRoom_for env cacheKey _ hlookup
      · exact ⟨h, hlookup⟩
    obtain ⟨c, hc, htracks, hcurrent⟩ := hroom
    dsimp only
    rw [hc]
    exact (htracks.onMetadata hcurrent fun e disk => ⟨_, _, rfl⟩).readCloser hcurrent

theorem World.Tracked.getDirectory :
    ∀ w', World.step (.getDirectory env cacheKey) w = some w' → w'.Tracked := by
  intro w' hstep
  unfold World.step FileCache.getDirectory at hstep
  dsimp only at hstep
  cases hlookup : w.cache.entries.lookup cacheKey with
  | none =>
    rw [hlookup] at hstep
    cases hstep
    exact h
  | some ref =>
    rw [hlookup] at hstep
    cases hstep
    dsimp only
    generalize (w.cache.heap ref).dirDoesNotExist w.cache.disk = expanding
    have hroom : ∃ c, (if expanding then
          (w.cache.makeRoom env (w.cache.heap ref).size cacheKey).onEntry ref fun e disk =>
            ({ e with size := e.size * 2 }, disk) else w.cache) = c ∧
        Tracks c w.held w.openFiles ∧ c.entries.lookup cacheKey = some ref := by
      refine ⟨_, rfl, ?_⟩
      split
      · obtain ⟨htracks, hcurrent⟩ := h.makeRoom_for env cacheKey (w.cache.heap ref).size hlookup
        exact ⟨htracks.onMetadata hcurrent fun e disk => ⟨_, _, rfl⟩, hcurrent⟩
      · exact ⟨h, hlookup⟩
    obtain ⟨c, hc, htracks, hcurrent⟩ := hroom
    rw [hc]
    have haccess : Tracks (c.onEntry ref fun e disk => ({ e with access := env.now }, disk))
        w.held w.openFiles := htracks.onMetadata hcurrent fun e disk => ⟨_, _, rfl⟩
    obtain ⟨hexpanded, hpath⟩ := haccess.expandedDirectory hcurrent
    rw [← hpath] at hexpanded
    have hsize : ∀ (e : FileCacheEntry) (disk : Disk), ∃ size access,
        ((if (expanding && e.fileDoesNotExist disk) = true then
            { e with size := e.size.tdiv 2 } else e), disk) =
          ({ e with size := size, access := access }, disk) := by
      intro e disk
      split
      · exact ⟨_, _, rfl⟩
      · exact ⟨e.size, e.access, rfl⟩
    exact hexpanded.onMetadata hcurrent hsize

theorem World.Tracked.closeDirectory {dirPath : Path} (hpositive : 0 < w.held cacheKey dirPath)
    (hcareful : Careful (.closeDirectory cacheKey dirPath) w) :
    Tracks (w.cache.closeDirectory cacheKey dirPath).1 (w.held.release cacheKey dirPath)
      w.openFiles := by
  unfold FileCache.closeDirectory
  cases hcurrent : w.cache.currentEntry cacheKey dirPath with
  | some ref =>
    obtain ⟨hlookup, hpath⟩ := filter_eq_some_iff.mp hcurrent
    obtain rfl := of_decide_eq_true hpath
    have hclose := Tracks.closeCurrent h hlookup hpositive
    have hlive := Tracks.live h cacheKey ref hlookup
    dsimp only
    rw [if_neg]
    · exact hclose
    · have hcount := hlive.directoryCount
      rcases hlive.directory with hempty | hexpanded
      · obtain ⟨-, other, nanos, hname, -⟩ := Tracks.kept h _ _ hpositive
        rw [hempty] at hname
        simp at hname
      · rw [hexpanded] at hpositive
        omega
  | none =>
    obtain ⟨-, ref, nanos, hname, hentry⟩ := Tracks.kept h cacheKey dirPath hpositive
    rcases hentry with ⟨hlookup, hpath⟩ | hold
    · have hsome : w.cache.currentEntry cacheKey dirPath = some ref :=
        filter_eq_some_iff.mpr ⟨hlookup, decide_eq_true hpath⟩
      simp [hcurrent] at hsome
    · exact Tracks.closeOldDirectory h hpositive hold (hcareful hcurrent ref hold)

theorem World.Tracked.step {action : Action} {w' : World} (hcareful : Careful action w)
    (hstep : World.step action w = some w') : w'.Tracked := by
  cases action with
  | add env cacheKey size cachingInfo =>
    cases hstep
    exact h.add env cacheKey size cachingInfo hcareful
  | addDirectory env cacheKey size cachingInfo =>
    cases hstep
    exact h.addDirectory env cacheKey size cachingInfo hcareful
  | get env cacheKey => exact h.get env cacheKey w' hstep
  | getDirectory env cacheKey => exact h.getDirectory env cacheKey w' hstep
  | remove cacheKey =>
    cases hstep
    cases hlookup : w.cache.entries.lookup cacheKey with
    | none =>
      have hsame : w.cache.remove cacheKey = w.cache := by
        unfold remove
        rw [hlookup]
      rw [hsame]
      exact h
    | some ref => exact Tracks.remove h hlookup (hcareful ref hlookup)
  | makeRoom env =>
    cases hstep
    exact Tracks.makeRoom h env 0 ""
  | closeDirectory cacheKey dirPath =>
    simp only [World.step] at hstep
    split at hstep
    · rename_i hpositive
      cases hstep
      exact h.closeDirectory cacheKey hpositive hcareful
    · simp at hstep
  | closeFile ref =>
    simp only [World.step] at hstep
    split at hstep
    · rename_i hopen
      cases hstep
      exact Tracks.closeFile h hopen
    · simp at hstep

end Step

/-! ## Steps that are not careful -/

section Lost

variable {c : FileCache} {held : Held} {openFiles : OpenFiles} {cacheKey : String}

theorem Tracks.replace_careful (h : Tracks c held openFiles) (env : Environment) (size : Int)
    (cachingInfo : CachingInfo) (method : FileCacheEntry → Disk → FileCacheEntry × Disk)
    (hmethod : ∀ ref nanos disk, Local ref disk
      (method (newFileCacheEntry (.cached ⟨cacheKey, nanos, ref⟩) size env.now cachingInfo) disk))
    (hexist : ∀ path, 0 < held cacheKey path →
      ((c.replace env cacheKey size cachingInfo).onEntry
        (c.replace env cacheKey size cachingInfo).seq method).disk path = true) :
    ∀ ref ∈ c.entries.lookup cacheKey, ¬ (c.heap ref).LosesHeldDirectory := by
  intro ref hlookup hloses
  have hlost := h.loses hlookup hloses
  obtain ⟨hdisk, hne⟩ := hlost.disk_replace h
  have hlocal := (hmethod (c.replace env cacheKey size cachingInfo).seq env.nanos
    (c.replace env cacheKey size cachingInfo).disk).disk _ ref hlost.owner hne
  rw [← h.heap_replace, hdisk] at hlocal
  have htrue := hexist _ (hlost.held ▸ Nat.one_pos)
  exact absurd (hlocal.symm.trans htrue) (by decide)

theorem Tracks.remove_careful (h : Tracks c held openFiles)
    (hexist : ∀ path, 0 < held cacheKey path → (c.remove cacheKey).disk path = true) :
    ∀ ref ∈ c.entries.lookup cacheKey, ¬ (c.heap ref).LosesHeldDirectory := by
  intro ref hlookup hloses
  have hlost := h.loses hlookup hloses
  have htrue := hexist _ (hlost.held ▸ Nat.one_pos)
  exact absurd (hlost.disk_remove.symm.trans htrue) (by decide)

theorem Disk.removeAll_eq_false {disk : Disk} {path other : Path} (h : disk path = false) :
    disk.removeAll other path = false := by
  by_cases heq : path = other
  · rw [heq]
    exact Disk.removeAll_self
  · rw [Disk.removeAll_of_ne heq]
    exact h

variable {dirPath : Path}

/-- Closing at a counter of one deletes the directory of an old entry: the counter drops to
zero, where either the open files or `inUse` count it as unused. -/
theorem FileCache.disk_closeOldDirectory {ref : EntryRef}
    (hlookup : c.oldEntries.lookup (cacheKey, dirPath) = some ref)
    (hpath : (c.heap ref).expandedDirectoryPath = dirPath)
    (hcount : (c.heap ref).directoryInUseCount = 1) :
    (c.closeOldDirectory cacheKey dirPath).1.disk dirPath = false := by
  obtain ⟨-, hfile, hcount', hcase⟩ := (c.heap ref).decrementDirectoryInUseCount_spec c.disk
  unfold closeOldDirectory
  rw [hlookup]
  dsimp only
  rw [heap_onEntry]
  rcases hcase with ⟨hlast, -, hdisk⟩ | ⟨hnot, hkeep, -⟩
  · have hgone : (c.onEntry ref decrementDirectoryInUseCount).disk dirPath = false := by
      rw [← hpath]
      exact (congrFun hdisk _).trans Disk.removeAll_self
    split
    · exact Disk.removeAll_eq_false (Disk.removeAll_eq_false hgone)
    · exact hgone
  · have hunused : ((c.heap ref).decrementDirectoryInUseCount c.disk).1.inUse = false := by
      unfold FileCacheEntry.ClosesLast at hnot
      simp only [inUse, Bool.or_eq_false_iff, decide_eq_false_iff_not]
      omega
    rw [if_pos (by rw [hunused]; rfl)]
    refine Disk.removeAll_eq_false ?_
    rw [heap_onEntry, hkeep, hpath]
    exact Disk.removeAll_self

theorem Tracks.closeDirectory_careful (h : Tracks c held openFiles)
    (hpositive : 0 < held cacheKey dirPath)
    (hexist : 0 < held.release cacheKey dirPath cacheKey dirPath →
      (c.closeDirectory cacheKey dirPath).1.disk dirPath = true)
    (hcurrent : c.currentEntry cacheKey dirPath = none) :
    ∀ ref ∈ c.oldEntries.lookup (cacheKey, dirPath), (c.heap ref).directoryInUseCount ≠ 1 := by
  intro ref hlookup hcount
  obtain ⟨hpath, hholders⟩ := (h.old cacheKey dirPath ref hlookup).count hpositive
  have htrue := hexist (by rw [Held.release_self]; omega)
  unfold closeDirectory at htrue
  rw [hcurrent] at htrue
  exact absurd ((disk_closeOldDirectory hlookup hpath hcount).symm.trans htrue)
    (by decide)

/-- A step that is not careful costs a holder its directory. -/
theorem World.Tracked.careful {action : Action} {w w' : World} (h : w.Tracked)
    (hstep : World.step action w = some w') (hexist : w'.HeldExist) : Careful action w := by
  cases action with
  | add env cacheKey size cachingInfo =>
    cases hstep
    refine Tracks.replace_careful h env size cachingInfo readCloser ?_
      (hexist cacheKey)
    intro ref nanos disk
    exact Owned.readCloser ⟨Or.inr ⟨_, _, rfl⟩, Or.inl rfl⟩ disk
  | addDirectory env cacheKey size cachingInfo =>
    cases hstep
    refine Tracks.replace_careful h env size cachingInfo expandedDirectory ?_ ?_
    · intro ref nanos disk
      exact Owned.expandedDirectory ⟨Or.inr ⟨_, _, rfl⟩, Or.inl rfl⟩ disk rfl
    · intro path hpositive
      refine hexist cacheKey path (lt_of_lt_of_le hpositive ?_)
      exact Held.le_acquire _ _
  | remove cacheKey =>
    cases hstep
    exact Tracks.remove_careful h (hexist cacheKey)
  | closeDirectory cacheKey dirPath =>
    simp only [World.step] at hstep
    split at hstep
    · rename_i hpositive
      cases hstep
      exact Tracks.closeDirectory_careful h hpositive (hexist cacheKey dirPath)
    · simp at hstep
  | get _ _ | getDirectory _ _ | makeRoom _ | closeFile _ => trivial

end Lost

/-- **Every directory that is held stays on disk**, in every state of a run of calls, if and
only if every call of the run is careful. -/
theorem held_directories_exist_iff_careful (maxSizeInBytes minimumPartitionFreeBytes : Int)
    (actions : List Action)
    (hrun : (Machine.run World.step (World.new maxSizeInBytes minimumPartitionFreeBytes)
      actions).isSome) :
    (∀ w, Machine.Visits World.step (World.new maxSizeInBytes minimumPartitionFreeBytes)
        actions w → w.HeldExist) ↔
      Machine.Meets World.step Careful (World.new maxSizeInBytes minimumPartitionFreeBytes)
        actions :=
  Machine.safe_iff_meets (fun _ => World.Tracked.heldExist)
    (fun _ _ _ h => h.step) (fun _ _ _ => World.Tracked.careful)
    World.tracked_new hrun

/-- A partition with room, at time zero. -/
def Environment.idle : Environment where
  nanos := 0
  now := 0
  freeSpace _ := 0
  order _ keys := keys
  order_perm _ _ := List.Perm.refl _

/-- The directory of the first entry of a key, in an idle environment. -/
def firstDirectory (cacheKey : String) : Path :=
  .expanded (.cached ⟨cacheKey, 0, 1⟩)

/-- A directory with two holders is replaced twice, and the holder of the second one closes. -/
def replacements : List Action :=
  [.addDirectory .idle "droplet" 10 default, .getDirectory .idle "droplet",
    .addDirectory .idle "droplet" 20 default, .add .idle "droplet" 20 default,
    .closeDirectory "droplet" (.expanded (.cached ⟨"droplet", 0, 2⟩))]

theorem held_directories_exist_of_replacement :
    (Machine.run World.step (World.new 100 0) replacements).isSome ∧
      ∀ w, Machine.Visits World.step (World.new 100 0) replacements w → w.HeldExist := by
  have hrun : (Machine.run World.step (World.new 100 0) replacements).isSome := by decide
  exact ⟨hrun, (held_directories_exist_iff_careful 100 0 replacements hrun).mpr (by decide)⟩

/-- Two holders of a removed entry, one of whom closes the directory; and one holder of an
entry with two open files that is removed. -/
theorem held_directory_deleted :
    (∃ w, Machine.run World.step (World.new 100 0)
        [.addDirectory .idle "droplet" 10 default, .getDirectory .idle "droplet",
          .remove "droplet", .closeDirectory "droplet" (firstDirectory "droplet")] = some w ∧
      w.held "droplet" (firstDirectory "droplet") = 1 ∧
      w.cache.disk (firstDirectory "droplet") = false) ∧
    ∃ w, Machine.run World.step (World.new 100 0)
        [.add .idle "droplet" 10 default, .get .idle "droplet", .getDirectory .idle "droplet",
          .remove "droplet"] = some w ∧
      w.held "droplet" (firstDirectory "droplet") = 1 ∧
      w.cache.disk (firstDirectory "droplet") = false :=
  ⟨⟨_, rfl, by decide, by decide⟩, ⟨_, rfl, by decide, by decide⟩⟩

end Diego.CachedDownloader
