import Diego.CachedDownloader.LastAdded
import Diego.CachedDownloader.Lifetime

/-! # The cache when nothing fails

A cache with contents on whose disk nothing fails is the cache without contents: every call
changes the entries and the disk in the same way.  What is known of the holders of directories
therefore holds for it. -/

namespace Diego.CachedDownloader

open FileCache FileCacheEntry Option Stored

variable {Bytes Tree : Type}

/-! ## Methods -/

theorem Items.disk_removeAll_none {items : Items Bytes Tree} {path : Path} :
    (items.removeAll path none).disk = items.disk.removeAll path := by
  funext path'
  by_cases hpath : path' = path
  · subst hpath
    simp [disk, removeAll, Disk.removeAll]
  · simp [disk, removeAll, Disk.removeAll, hpath]

/-- The entry and the disk, without the contents. -/
def forget (result : FileCacheEntry × Items Bytes Tree) : FileCacheEntry × Disk :=
  (result.1, result.2.disk)

section Entries

variable (e : FileCacheEntry) (items : Items Bytes Tree)

theorem forget_releaseDirectory :
    forget (e.releaseDirectory items none) = e.decrementDirectoryInUseCount items.disk := by
  unfold releaseDirectory decrementDirectoryInUseCount forget
  dsimp only
  split
  · rw [Items.disk_removeAll_none]
  · rfl

theorem forget_releaseFile :
    forget (e.releaseFile items none) = e.decrementFileInUseCount items.disk := by
  unfold releaseFile decrementFileInUseCount forget
  dsimp only
  split
  · rw [Items.disk_removeAll_none]
  · rfl

theorem forget_releaseUse :
    forget (e.releaseUse items ⟨none, none⟩) = e.decrementUse items.disk := by
  unfold releaseUse decrementUse
  rw [← forget_releaseFile, forget_releaseDirectory]
  rfl

theorem forget_discard :
    forget (e.discard items ⟨none, none⟩) = FileCache.discard e items.disk := by
  unfold FileCacheEntry.discard FileCache.discard forget
  rw [Items.disk_removeAll_none, Items.disk_removeAll_none]

variable (archiver : Archiver Bytes Tree)

/-- An entry has a tarball, or a directory to make it of. -/
def FileCacheEntry.Readable : Prop :=
  (∃ content, items e.filePath = some (.file content)) ∨
    items e.filePath = none ∧ ∃ tree, items e.expandedDirectoryPath = some (.directory tree)

/-- An entry has a directory, or a tarball to make it of. -/
def FileCacheEntry.Expandable : Prop :=
  (∃ tree, e.expandedDirectoryPath ≠ .empty ∧
    items e.expandedDirectoryPath = some (.directory tree)) ∨
  e.dirDoesNotExist items.disk = true ∧
    ∃ content tree, items e.filePath = some (.file content) ∧ archiver.extract content = some tree

variable {e items archiver}

theorem forget_read (h : e.Readable items) {env : Outcomes Bytes Tree} (henv : env.Fine) :
    forget (e.read items archiver env.reading).1 = e.readCloser items.disk ∧
      (e.read items archiver env.reading).2.isSome = true := by
  obtain ⟨-, -, -, hcreate, hwrite, hremove, hopen, hseek, -, -⟩ := henv
  rcases h with ⟨content, hfile⟩ | ⟨hnone, tree, htree⟩
  · have hexists : e.fileDoesNotExist items.disk = false := by
      simp [fileDoesNotExist, Items.disk, hfile]
    simp [FileCacheEntry.read, openFile, readCloser, hfile, hopen, hseek, hexists, forget]
  · have hmissing : e.fileDoesNotExist items.disk = true := by
      simp [fileDoesNotExist, Items.disk, hnone]
    by_cases hcount : e.directoryInUseCount = 0 <;>
      simp [FileCacheEntry.read, openFile, readCloser, tarball, hnone, htree, hcreate, hwrite,
        hremove, hseek, hmissing, hcount, forget, Items.disk_removeAll_none, Items.disk_put]

theorem forget_expand (h : e.Expandable items archiver) {env : Outcomes Bytes Tree}
    (henv : env.Fine) :
    forget (e.expand items archiver env.expansion).1 = e.expandedDirectory items.disk ∧
      (e.expand items archiver env.expansion).2.isSome = true := by
  have hextract := henv.extract
  have hremove := henv.removeFile
  rcases h with ⟨tree, hpath, htree⟩ | ⟨hmissing, content, tree, hfile, htree⟩
  · have hexists : e.dirDoesNotExist items.disk = false := by
      simp [dirDoesNotExist, Items.disk, htree, hpath]
    simp [expand, expandedDirectory, hexists, htree, forget, incrementDirectoryInUseCount]
  · by_cases hcount : e.fileInUseCount = 0 <;>
      simp [expand, expandedDirectory, extractTar, hmissing, hfile, htree, hextract, hremove,
        hcount, forget, incrementDirectoryInUseCount, Items.disk_removeAll_none, Items.disk_put]

end Entries

namespace Stored

variable {s : Stored Bytes Tree} {env : Outcomes Bytes Tree} {cacheKey : String} {ref : EntryRef}
  {outcome : Retirement Tree} {size : Int} {content : Bytes} {cachingInfo : CachingInfo}

theorem synced_remove (h : s.Synced) : (s.remove cacheKey outcome).Synced := by
  unfold remove
  split
  · exact h
  · obtain ⟨oldEntries, heq, -⟩ := retire_eq (s := s)
    rw [heq]
    rfl

theorem synced_makeRoom (h : s.Synced) : (s.makeRoom env size cacheKey).Synced :=
  makeRoom_induction (fun _ _ _ _ hsynced _ _ _ => synced_remove hsynced) h

theorem cache_put (h : s.Synced) {result : FileCacheEntry × Items Bytes Tree}
    {method : FileCacheEntry → Disk → FileCacheEntry × Disk}
    (hresult : forget result = method (s.cache.heap ref) s.items.disk) :
    (s.put ref result).cache = s.cache.onEntry ref method := by
  unfold put FileCache.onEntry
  rw [h, ← hresult]
  rfl

theorem cache_retire (h : s.Synced) :
    (s.retire cacheKey ref ⟨none, none⟩).cache = s.cache.retire cacheKey ref := by
  unfold retire FileCache.retire
  dsimp only
  rw [cache_put h (forget_releaseUse _ _)]

theorem cache_remove (h : s.Synced) :
    (s.remove cacheKey ⟨none, none⟩).cache = s.cache.remove cacheKey := by
  unfold remove FileCache.remove
  cases s.cache.entries.lookup cacheKey with
  | none => rfl
  | some ref =>
    dsimp only
    rw [cache_retire h]

theorem cache_makeRoomLoop (henv : env.Fine) (h : s.Synced) {turns turn : Nat} {usedSpace : Int} :
    (makeRoomLoop env size cacheKey turns turn usedSpace s).cache =
      FileCache.makeRoomLoop env.toEnvironment size cacheKey turns turn usedSpace s.cache := by
  induction turns generalizing s turn usedSpace with
  | zero => rfl
  | succ turns ih =>
    unfold makeRoomLoop FileCache.makeRoomLoop
    split
    · cases s.cache.oldestEntry cacheKey (env.order turn s.cache.entries.keys) with
      | none => rfl
      | some oldest =>
        rw [henv.evictions, ih (synced_remove h), cache_remove h]
    · rfl

theorem cache_makeRoom (henv : env.Fine) (h : s.Synced) :
    (s.makeRoom env size cacheKey).cache = s.cache.makeRoom env.toEnvironment size cacheKey :=
  cache_makeRoomLoop henv h

theorem cache_replace (henv : env.Fine) (h : s.Synced) :
    (s.replace env cacheKey content size cachingInfo).1.cache =
        s.cache.replace env.toEnvironment cacheKey size cachingInfo ∧
      (s.replace env cacheKey content size cachingInfo).2 = true := by
  have hroom : (s.makeRoom env size "").Synced := synced_makeRoom h
  have hinstall : ((s.makeRoom env size "").install env cacheKey content size cachingInfo).cache =
      (s.cache.makeRoom env.toEnvironment size "").install env.toEnvironment cacheKey size
        cachingInfo := by
    rw [← cache_makeRoom henv h]
    rfl
  unfold replace FileCache.replace
  simp only [henv.rename, henv.retirement, Bool.not_true, Bool.false_eq_true, if_false]
  cases s.cache.entries.lookup cacheKey with
  | none => exact ⟨hinstall, rfl⟩
  | some old =>
    refine ⟨?_, rfl⟩
    rw [cache_retire (synced_install hroom), hinstall]

end Stored

/-! ## Calls -/

section Refinement

variable {archiver : Archiver Bytes Tree} {Extra : EntryRel} {w : Shelf Bytes Tree}
  {s : Stored Bytes Tree} {env : Outcomes Bytes Tree} {key : String} {ref : EntryRef}
  {content : Bytes} {n : Nat} {e : FileCacheEntry} {items : Items Bytes Tree} {c : FileCache}

theorem Serves.readable (h : Serves archiver content n e items) : e.Readable items := by
  cases hmissing : e.fileDoesNotExist items.disk with
  | false =>
    obtain ⟨item, hitem⟩ := fileDoesNotExist_eq_false.mp hmissing
    obtain ⟨content', rfl, -⟩ := h.file item hitem
    exact Or.inl ⟨content', hitem⟩
  | true =>
    obtain ⟨hne, item, hitem⟩ := dirDoesNotExist_eq_false.mp (h.present hmissing)
    obtain ⟨tree, rfl, -⟩ := h.tree hne item hitem
    exact Or.inr ⟨fileDoesNotExist_eq_true.mp hmissing, tree, hitem⟩

theorem Serves.expandable (h : Serves archiver content n e items)
    (hcontent : (archiver.extract content).isSome) : e.Expandable items archiver := by
  cases hmissing : e.dirDoesNotExist items.disk with
  | false =>
    obtain ⟨hne, item, hitem⟩ := dirDoesNotExist_eq_false.mp hmissing
    obtain ⟨tree, rfl, -⟩ := h.tree hne item hitem
    exact Or.inl ⟨tree, hne, hitem⟩
  | true =>
    have hexists : e.fileDoesNotExist items.disk = false := by
      by_contra hne
      rw [h.present (Bool.not_eq_false _ ▸ hne)] at hmissing
      cases hmissing
    obtain ⟨item, hitem⟩ := fileDoesNotExist_eq_false.mp hexists
    obtain ⟨content', rfl, hsame⟩ := h.file item hitem
    obtain ⟨tree, htree⟩ := isSome_iff_exists.mp hcontent
    exact Or.inr ⟨hmissing, content', tree, hitem, hsame.extract_eq.trans htree⟩

theorem Stored.cache_read (h : s.Synced) (henv : env.Fine)
    (hreadable : (s.cache.heap ref).Readable s.items) :
    (s.put ref ((s.cache.heap ref).read s.items archiver env.reading).1).cache =
        s.cache.onEntry ref readCloser ∧
      ((s.cache.heap ref).read s.items archiver env.reading).2.isSome = true := by
  obtain ⟨hforget, hsome⟩ := forget_read hreadable henv
  exact ⟨cache_put h hforget, hsome⟩

theorem Stored.cache_prepare (h : s.Synced) (henv : env.Fine) (key : String) (ref : EntryRef)
    (missing : Bool) :
    (s.prepare env key ref missing).cache =
      (if missing then s.cache.makeRoom env.toEnvironment (s.cache.heap ref).size key
        else s.cache).onEntry ref fun e disk => ({ e with access := env.now }, disk) := by
  cases missing with
  | false => exact cache_put h rfl
  | true =>
    rw [← cache_makeRoom henv h]
    exact cache_put (synced_makeRoom h) rfl

theorem Shelf.Faithful.cache_add (h : w.Faithful archiver Extra) (henv : env.Fine) (key : String)
    (content : Bytes) (size : Int) (cachingInfo : CachingInfo) :
    (w.add archiver env key content size cachingInfo).1.stored.cache =
        w.stored.cache.add env.toEnvironment key size cachingInfo ∧
      (w.add archiver env key content size cachingInfo).2.isSome = true := by
  have hreplace := h.replace env key content size cachingInfo
  obtain ⟨hcache, hrename⟩ := cache_replace henv h.keeps.synced
  obtain ⟨hread, hsome⟩ := cache_read hreplace.keeps.synced henv
    (h.serves_new hrename).readable
  unfold Shelf.add FileCache.add
  rw [Stored.add_eq, hrename, ← hcache]
  dsimp only
  rw [w.stored.lookup_replace.1]
  exact ⟨hread, hsome⟩

theorem Shelf.Faithful.cache_addDirectory (h : w.Faithful archiver Extra) (henv : env.Fine)
    (hcontent : (archiver.extract content).isSome) (key : String) (size : Int)
    (cachingInfo : CachingInfo) :
    (w.addDirectory archiver env key content size cachingInfo).1.stored.cache =
      (w.stored.cache.addDirectory env.toEnvironment key size cachingInfo).1 := by
  have hreplace := h.replace env key content size cachingInfo
  obtain ⟨hcache, hrename⟩ := cache_replace henv h.keeps.synced
  obtain ⟨hforget, -⟩ := forget_expand ((h.serves_new hrename).expandable hcontent) henv
  unfold Shelf.addDirectory FileCache.addDirectory
  rw [Stored.addDirectory_eq, hrename, ← hcache]
  dsimp only
  rw [w.stored.lookup_replace.1]
  exact cache_put hreplace.keeps.synced hforget

theorem Shelf.Faithful.cache_get (h : w.Faithful archiver Extra) (henv : env.Fine) :
    (w.get archiver env key).1.stored.cache = (w.stored.cache.get env.toEnvironment key).1 ∧
      (w.get archiver env key).2.map Prod.fst =
        (w.stored.cache.get env.toEnvironment key).2.toOption := by
  unfold Shelf.get FileCache.get
  cases hlookup : w.stored.cache.entries.lookup key with
  | none =>
    rw [Stored.get_eq_none hlookup]
    exact ⟨rfl, rfl⟩
  | some ref =>
    rw [Stored.get_eq hlookup]
    dsimp only
    generalize (w.stored.cache.heap ref).fileDoesNotExist w.stored.cache.disk = missing
    have hs := h.prepare env key ref missing
    have hprepare := cache_prepare h.keeps.synced henv key ref missing
    obtain ⟨hcurrent, -⟩ := h.keeps.prepare_entry hlookup
    obtain ⟨-, -, content, -, hserves⟩ := hs.good key ref hcurrent
    obtain ⟨hread, hsome⟩ := cache_read hs.synced henv hserves.readable
    obtain ⟨content', hcontent⟩ := isSome_iff_exists.mp hsome
    rw [hread, hcontent, hprepare]
    exact ⟨rfl, rfl⟩

theorem FileCache.onEntry_onEntry (first second : FileCacheEntry → Disk → FileCacheEntry × Disk) :
    (c.onEntry ref first).onEntry ref second =
      c.onEntry ref fun e disk => second (first e disk).1 (first e disk).2 := by
  unfold onEntry
  dsimp only
  rw [Function.update_self, Function.update_idem]

theorem Shelf.Faithful.cache_getDirectory (h : w.Faithful archiver Extra) (henv : env.Fine)
    (hcontent : ∀ ref content, w.stored.cache.entries.lookup key = some ref →
      w.original ref = some content → (archiver.extract content).isSome) :
    (w.getDirectory archiver env key).1.stored.cache =
      (w.stored.cache.getDirectory env.toEnvironment key).1 := by
  unfold Shelf.getDirectory FileCache.getDirectory
  cases hlookup : w.stored.cache.entries.lookup key with
  | none =>
    rw [Stored.getDirectory_eq_none hlookup]
  | some ref =>
    unfold Stored.getDirectory
    rw [hlookup]
    dsimp only
    generalize (w.stored.cache.heap ref).dirDoesNotExist w.stored.cache.disk = missing
    have hs := h.prepare env key ref missing
    have hprepare := cache_prepare h.keeps.synced henv key ref missing
    obtain ⟨hcurrent, -⟩ := h.keeps.prepare_entry hlookup
    obtain ⟨-, -, content, horiginal, hserves⟩ := hs.good key ref hcurrent
    generalize w.stored.prepare env key ref missing = s at hs hprepare hserves
    have hroom : (if missing then (w.stored.cache.makeRoom env.toEnvironment
          (w.stored.cache.heap ref).size key).onEntry ref fun e disk =>
            ({ e with size := e.size * 2 }, disk)
        else w.stored.cache).onEntry ref (fun e disk => ({ e with access := env.now }, disk)) =
        s.cache.onEntry ref fun e disk =>
          (if missing then { e with size := e.size * 2 } else e, disk) := by
      rw [hprepare]
      cases missing <;> simp [FileCache.onEntry_onEntry]
    rw [hroom, FileCache.onEntry_onEntry, FileCache.onEntry_onEntry]
    generalize hdoubled : (if missing then
      { s.cache.heap ref with size := (s.cache.heap ref).size * 2 } else s.cache.heap ref) = doubled
    have hdouble : Serves archiver content (w.openFiles ref) doubled s.items := by
      subst hdoubled
      cases missing with
      | false => exact hserves
      | true => exact hserves.resize _
    obtain ⟨hforget, hsome⟩ := forget_expand
      (hdouble.expandable (hcontent ref content hlookup horiginal)) henv
    obtain ⟨found, hfound⟩ := isSome_iff_exists.mp hsome
    rw [hfound]
    refine cache_put hs.synced ?_
    rw [hdoubled, ← hforget]
    rfl

theorem Stored.cache_closeDirectory (h : s.Synced) {dirPath : Path} :
    (s.closeDirectory key dirPath none ⟨none, none⟩).1.cache =
      (s.cache.closeDirectory key dirPath).1 := by
  unfold Stored.closeDirectory FileCache.closeDirectory
  cases s.cache.currentEntry key dirPath with
  | some ref =>
    dsimp only
    split
    · rfl
    · exact cache_put h (forget_releaseDirectory _ _)
  | none =>
    unfold Stored.closeOldDirectory FileCache.closeOldDirectory
    cases s.cache.oldEntries.lookup (key, dirPath) with
    | none => rfl
    | some ref =>
      have hclose := cache_put h (forget_releaseDirectory (s.cache.heap ref) s.items)
      dsimp only
      rw [← hclose]
      split
      · rw [← cache_put (s := s.put ref _) rfl (forget_discard _ _)]
      · rfl

end Refinement

/-! ## Runs -/

/-- A call, without the contents. -/
def Call.action : Call Bytes Tree → Action
  | .add env cacheKey _ size cachingInfo => .add env.toEnvironment cacheKey size cachingInfo
  | .addDirectory env cacheKey _ size cachingInfo =>
    .addDirectory env.toEnvironment cacheKey size cachingInfo
  | .get env cacheKey => .get env.toEnvironment cacheKey
  | .getDirectory env cacheKey => .getDirectory env.toEnvironment cacheKey
  | .remove cacheKey _ => .remove cacheKey
  | .makeRoom env => .makeRoom env.toEnvironment
  | .closeDirectory cacheKey dirPath _ _ => .closeDirectory cacheKey dirPath
  | .closeFile ref _ => .closeFile ref

/-- A call in which nothing fails, and which adds a tarball if it adds something. -/
def Call.Fine (archiver : Archiver Bytes Tree) : Call Bytes Tree → Prop
  | .add env _ content _ _ | .addDirectory env _ content _ _ =>
    env.Fine ∧ (archiver.extract content).isSome = true
  | .get env _ | .getDirectory env _ | .makeRoom env => env.Fine
  | .remove _ outcome => outcome = ⟨none, none⟩
  | .closeDirectory _ _ removal outcome => removal = none ∧ outcome = ⟨none, none⟩
  | .closeFile _ removal => removal = none

/-- Every content is a tarball. -/
def Shelf.Extracts (archiver : Archiver Bytes Tree) (w : Shelf Bytes Tree) : EntryRel :=
  fun _ ref => ∀ content, w.original ref = some content → (archiver.extract content).isSome = true

/-- A cache with tarballs, and the same cache without contents. -/
structure Matches (archiver : Archiver Bytes Tree) (shelf : Shelf Bytes Tree) (w : World) :
    Prop where
  faithful : shelf.Faithful archiver (shelf.Extracts archiver)
  cache : shelf.stored.cache = w.cache
  openFiles : shelf.openFiles = w.openFiles

section Runs

variable {archiver : Archiver Bytes Tree} {history : History Bytes Tree} {w w' : World}
  {maxSizeInBytes minimumPartitionFreeBytes : Int} {calls : List (Call Bytes Tree)}

theorem Shelf.Adds.extracts {shelf shelf' : Shelf Bytes Tree} {content : Bytes} {key : String}
    {renamed : Bool}
    (h : shelf.Adds archiver (shelf.Extracts archiver) key content renamed shelf')
    (hcontent : (archiver.extract content).isSome = true) :
    shelf'.Faithful archiver (shelf'.Extracts archiver) := by
  refine h.mono ?_ ?_
  · intro key' ref _ _ horiginal hextracts content' hcontent'
    exact hextracts content' (horiginal.symm.trans hcontent')
  · intro _ horiginal content' hcontent'
    exact some.inj (horiginal.symm.trans hcontent') ▸ hcontent

theorem Outcomes.Fine.readsClean {env : Outcomes Bytes Tree} (h : env.Fine) {e : FileCacheEntry}
    {items : Items Bytes Tree} : e.ReadsClean items env.reading := by
  intro _ _
  refine ⟨h.writeTar, fun _ => ?_⟩
  rw [h.removeDirectory]
  rfl

theorem Matches.step {call : Call Bytes Tree} (h : Matches archiver history.shelf w)
    (hfine : call.Fine archiver) (hstep : World.step call.action w = some w') :
    ∃ history', History.step archiver call history = some history' ∧
      Matches archiver history'.shelf w' := by
  cases call with
  | add env key content size cachingInfo =>
    obtain ⟨henv, hcontent⟩ := hfine
    obtain ⟨hcache, hsome⟩ := h.faithful.cache_add henv key content size cachingInfo
    cases hstep
    refine ⟨_, rfl, ?_, ?_, ?_⟩
    · exact (h.faithful.add env key content size cachingInfo).extracts hcontent
    · rw [← h.cache]
      exact hcache
    · unfold Shelf.add at hsome hcache ⊢
      dsimp only at hsome hcache ⊢
      rw [hcache, hsome, h.cache, ← h.openFiles]
      rfl
  | addDirectory env key content size cachingInfo =>
    obtain ⟨henv, hcontent⟩ := hfine
    have hcache := h.faithful.cache_addDirectory henv hcontent key size cachingInfo
    cases hstep
    refine ⟨_, rfl, ?_, ?_, ?_⟩
    · exact (h.faithful.addDirectory env key content size cachingInfo).extracts hcontent
    · rw [← h.cache]
      exact hcache
    · exact h.openFiles
  | get env key =>
    obtain ⟨hcache, hfound⟩ := h.faithful.cache_get hfine
    rw [h.cache] at hcache hfound
    have hfaithful : (history.shelf.get archiver env key).1.Faithful archiver
        (history.shelf.Extracts archiver) :=
      h.faithful.get fun ref _ => hfine.readsClean
    rw [Call.action, World.step] at hstep
    cases hresult : (w.cache.get env.toEnvironment key).2 with
    | error err =>
      rw [hresult] at hstep hfound
      cases hstep
      have hnone := map_eq_none_iff.mp hfound
      refine ⟨_, rfl, hfaithful, hcache, ?_⟩
      unfold Shelf.get at hnone ⊢
      dsimp only at hnone ⊢
      rw [hnone]
      exact h.openFiles
    | ok ref =>
      rw [hresult] at hstep hfound
      cases hstep
      obtain ⟨found, hsome, rfl⟩ := map_eq_some_iff.mp hfound
      refine ⟨_, rfl, hfaithful, hcache, ?_⟩
      unfold Shelf.get at hsome ⊢
      dsimp only at hsome ⊢
      rw [hsome, ← h.openFiles]
      rfl
  | getDirectory env key =>
    have hcache := h.faithful.cache_getDirectory hfine
      (fun ref content hlookup => (h.faithful.keeps.good key ref hlookup).1 content)
    rw [h.cache] at hcache
    rw [Call.action, World.step] at hstep
    cases hresult : (w.cache.getDirectory env.toEnvironment key).2 with
    | error err | ok dir =>
      rw [hresult] at hstep
      cases hstep
      exact ⟨_, rfl, h.faithful.getDirectory, hcache, h.openFiles⟩
  | remove key outcome =>
    cases hstep
    cases hfine
    refine ⟨_, rfl, h.faithful.remove, ?_, h.openFiles⟩
    rw [← h.cache]
    exact cache_remove h.faithful.keeps.synced
  | makeRoom env =>
    cases hstep
    refine ⟨_, rfl, h.faithful.makeRoom, ?_, h.openFiles⟩
    rw [← h.cache]
    exact cache_makeRoom hfine h.faithful.keeps.synced
  | closeDirectory key dirPath removal outcome =>
    obtain ⟨rfl, rfl⟩ := hfine
    rw [Call.action, World.step, ite_none_right_eq_some] at hstep
    obtain ⟨-, hstep⟩ := hstep
    cases hstep
    refine ⟨_, rfl, h.faithful.closeDirectory, ?_, h.openFiles⟩
    rw [← h.cache]
    exact cache_closeDirectory h.faithful.keeps.synced
  | closeFile ref removal =>
    cases hfine
    rw [Call.action, World.step, ite_none_right_eq_some] at hstep
    obtain ⟨hopen, hstep⟩ := hstep
    cases hstep
    rw [← h.openFiles] at hopen
    refine ⟨_, if_pos hopen, h.faithful.closeFile hopen, ?_, ?_⟩
    · rw [← h.cache]
      exact cache_put h.faithful.keeps.synced (forget_releaseFile _ _)
    · rw [← h.openFiles]
      rfl

/-- Every run without failures is one of the cache without contents. -/
theorem Matches.run (h : Matches archiver history.shelf w)
    (hfine : ∀ call ∈ calls, call.Fine archiver)
    (hrun : Machine.run World.step w (calls.map Call.action) = some w') :
    ∃ history', Machine.run (History.step archiver) history calls = some history' ∧
      Matches archiver history'.shelf w' :=
  Machine.run_map (fun _ _ _ _ hmatches => hmatches.step) h hfine hrun

theorem matches_new :
    Matches archiver
      (History.new maxSizeInBytes minimumPartitionFreeBytes : History Bytes Tree).shelf
      (World.new maxSizeInBytes minimumPartitionFreeBytes) :=
  ⟨Shelf.faithful_new, rfl, rfl⟩

/-- **A run in which nothing fails is one of the cache without contents**: the two caches are the
same, and if the calls are careful what is held is on the disk. -/
theorem exists_held_of_fine (hfine : ∀ call ∈ calls, call.Fine archiver)
    (hrun : Machine.run World.step (World.new maxSizeInBytes minimumPartitionFreeBytes)
      (calls.map Call.action) = some w) :
    ∃ history, Machine.run (History.step archiver)
        (History.new maxSizeInBytes minimumPartitionFreeBytes) calls = some history ∧
      history.shelf.stored.cache = w.cache ∧ history.shelf.openFiles = w.openFiles ∧
      (Machine.Meets World.step Careful
          (World.new maxSizeInBytes minimumPartitionFreeBytes) (calls.map Call.action) →
        ∀ cacheKey dirPath, 0 < w.held cacheKey dirPath →
          ∃ item, history.shelf.stored.items dirPath = some item) := by
  obtain ⟨history, hhistory, hmatches⟩ := matches_new.run hfine hrun
  refine ⟨history, hhistory, hmatches.cache, hmatches.openFiles, ?_⟩
  intro hcareful cacheKey dirPath hheld
  have htracked : w.Tracked := by
    refine Machine.Reaches.invariant World.tracked_new ?_ (Machine.reaches_of_run hcareful hrun)
    intro action w w' htracked hcareful hstep
    exact htracked.step hcareful hstep
  have hdisk := htracked.heldExist cacheKey dirPath hheld
  rw [← hmatches.cache, hmatches.faithful.keeps.synced] at hdisk
  exact isSome_iff_exists.mp hdisk

/-- A directory is closed, and returned again. -/
def directoryReturned : List (Call (List Nat) Nat) :=
  directoryUsed ++ [.getDirectory .idle "droplet"]

theorem exists_held_of_returned :
    ∃ history item,
      Machine.run (History.step .single) (History.new 100 0) directoryReturned = some history ∧
      history.shelf.stored.items (firstDirectory "droplet") = some item := by
  have hidle : Outcomes.idle.Fine := ⟨rfl, fun _ => rfl, rfl, rfl, rfl, rfl, rfl, rfl, rfl, rfl⟩
  have hfine : ∀ call ∈ directoryReturned, call.Fine .single := by
    simp [directoryReturned, directoryUsed, Call.Fine, hidle, Archiver.single]
  have hcareful : Machine.Meets World.step Careful (World.new 100 0)
      (directoryReturned.map Call.action) := by decide
  have hworld : Machine.run World.step (World.new 100 0) (directoryReturned.map Call.action) =
      some _ := rfl
  obtain ⟨history, hrun, -, -, hheld⟩ := exists_held_of_fine hfine hworld
  obtain ⟨item, hitem⟩ := hheld hcareful "droplet" (firstDirectory "droplet") (by decide)
  exact ⟨history, item, hrun, hitem⟩

end Runs

end Diego.CachedDownloader
