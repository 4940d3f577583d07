import Diego.CachedDownloader.UseCounts
import Mathlib.Algebra.BigOperators.Group.List.Basic
import Mathlib.Algebra.Order.Ring.Int

/-!
# The cache across restarts

`SaveState` and `RecoverState` of `cacheddownloader/cached_downloader.go`.  The cache is written
to `saved_cache.json` as JSON, which has the exported fields only: the counts and the two limits
are not among them.  A new process reads the file, sweeps every name below `CachedPath` that no
current entry has, and makes room for its own limit.

The decoder allocates an entry for each one that it reads.  As before, its address is the sequence
number in its name, so what was current is current again under the same reference
(`Keeps.recovered`).  `EvictsOldest` says without a loop which entries may be missing then, and
`Keeps.makesRoom_makeRoomLoop` that the loop of `makeRoom` takes such steps only.
-/

namespace Diego.CachedDownloader

open FileCache FileCacheEntry Option

variable {Bytes Tree : Type}

/-! ## Saving -/

/-- The exported fields of an entry. -/
structure SavedEntry where
  size : Int
  access : Int
  cachingInfo : CachingInfo
  filePath : Path
  expandedDirectoryPath : Path
  deriving DecidableEq

/-- What is in `saved_cache.json`, but for `CachedPath`. -/
structure SavedCache where
  entries : GoMap String SavedEntry
  oldEntries : GoMap (String × Path) SavedEntry
  seq : Nat

def SavedCache.allEntries (saved : SavedCache) : List SavedEntry :=
  saved.entries.values ++ saved.oldEntries.values

def FileCacheEntry.saved (e : FileCacheEntry) : SavedEntry where
  size := e.size
  access := e.access
  cachingInfo := e.cachingInfo
  filePath := e.filePath
  expandedDirectoryPath := e.expandedDirectoryPath

/-- `time.Time.MarshalJSON` fails for a year that does not have four digits.  Times are in
nanoseconds since 1970. -/
def marshalsTime (time : Int) : Bool :=
  -62167219200 * 10 ^ 9 ≤ time && time < 253402300800 * 10 ^ 9

def FileCache.currentEntries (c : FileCache) : GoMap String SavedEntry :=
  c.entries.mapValues fun ref => (c.heap ref).saved

/-- `json.Marshal(c.cache)`. -/
def FileCache.marshal (c : FileCache) : Option SavedCache :=
  let saved : SavedCache :=
    { entries := c.currentEntries
      oldEntries := c.oldEntries.mapValues fun ref => (c.heap ref).saved
      seq := c.seq }
  if saved.allEntries.all fun e => marshalsTime e.access then some saved else none

structure CacheDirectory (Bytes Tree : Type) where
  /-- The tarballs and the directories of entries. -/
  items : Items Bytes Tree
  savedCache : Option SavedCache
  /-- The names in `temp`, if there is such a directory. -/
  temp : Option (List String)
  /-- All other names. -/
  strays : List String

/-- `SaveState`, `none` for an error. -/
def saveState (c : FileCache) (dir : CacheDirectory Bytes Tree) :
    Option (CacheDirectory Bytes Tree) :=
  c.marshal.map fun saved => { dir with savedCache := some saved }

/-! ## Recovering -/

/-- The decoder leaves the counts zero. -/
def SavedEntry.entry (e : SavedEntry) : FileCacheEntry where
  size := e.size
  access := e.access
  cachingInfo := e.cachingInfo
  filePath := e.filePath
  expandedDirectoryPath := e.expandedDirectoryPath
  directoryInUseCount := 0
  fileInUseCount := 0

/-- The address of an entry, read from its name. -/
def SavedEntry.ref (e : SavedEntry) : EntryRef :=
  (e.filePath.owner.or e.expandedDirectoryPath.owner).getD 0

/-- The memory that the decoder fills. -/
def SavedCache.heap (saved : SavedCache) (ref : EntryRef) : FileCacheEntry :=
  match saved.allEntries.find? fun e => e.ref = ref with
  | none => newFileCacheEntry .empty 0 0 default
  | some e => e.entry

/-- `json.NewDecoder(file).Decode(c.cache)`, of a new cache. -/
def FileCache.decode (c : FileCache) (saved : SavedCache) : FileCache :=
  { c with
    entries := saved.entries.mapValues SavedEntry.ref
    oldEntries := saved.oldEntries.mapValues SavedEntry.ref
    seq := saved.seq
    heap := saved.heap }

/-- The loop that sets the counts of the current entries to zero. -/
def FileCache.resetUse (c : FileCache) : FileCache :=
  { c with
    heap := fun ref =>
      if ref ∈ c.entries.values then
        { c.heap ref with directoryInUseCount := 0, fileInUseCount := 0 }
      else c.heap ref }

def FileCache.trackedFiles (c : FileCache) : List Path :=
  c.entries.values.flatMap fun ref => [(c.heap ref).filePath, (c.heap ref).expandedDirectoryPath]

/-- The loop over the files of `CachedPath`: what is not tracked goes, the saved state and the
temporary directory as well. -/
def CacheDirectory.sweep (dir : CacheDirectory Bytes Tree) (trackedFiles : List Path) :
    CacheDirectory Bytes Tree where
  items path := if path ∈ trackedFiles then dir.items path else none
  savedCache := none
  temp := none
  strays := []

/-- `createTempCachedDir`, which a new process calls first. -/
def createTempCachedDir (dir : CacheDirectory Bytes Tree) : CacheDirectory Bytes Tree :=
  { dir with temp := some [] }

/-- The cache and the disk before `RecoverState` makes room. -/
def FileCache.reload (c : FileCache) (dir : CacheDirectory Bytes Tree) : Stored Bytes Tree :=
  let decoded := dir.savedCache.elim c c.decode
  let reset := decoded.resetUse
  let items := (dir.sweep reset.trackedFiles).items
  { cache := { reset with disk := items.disk }, items := items }

/-- `RecoverState`, `none` for an error. -/
def recoverState (c : FileCache) (env : Outcomes Bytes Tree) (dir : CacheDirectory Bytes Tree) :
    Option (FileCache × CacheDirectory Bytes Tree) :=
  let reloaded := c.reload dir
  let swept := dir.sweep reloaded.cache.trackedFiles
  let roomy := reloaded.makeRoom env 0 ""
  -- `os.Mkdir` fails if the temporary directory is still there
  if swept.temp.isSome then none
  else some (roomy.cache, { swept with items := roomy.items, temp := some [] })

/-- A process saves its cache, and a new one with limits of its own recovers it. -/
def restart (c : FileCache) (env : Outcomes Bytes Tree)
    (maxSizeInBytes minimumPartitionFreeBytes : Int) (dir : CacheDirectory Bytes Tree) :
    Option (FileCache × CacheDirectory Bytes Tree) :=
  (saveState c dir).bind fun saved =>
    recoverState (newCache maxSizeInBytes minimumPartitionFreeBytes) env (createTempCachedDir saved)

/-- What happens to a cache. -/
inductive ProcessEvent (Bytes Tree : Type)
  | call (call : Call Bytes Tree)
  | restart (env : Outcomes Bytes Tree) (maxSizeInBytes minimumPartitionFreeBytes : Int)
      (temp : Option (List String)) (strays : List String)

def ProcessEvent.step (archiver : Archiver Bytes Tree) :
    ProcessEvent Bytes Tree → History Bytes Tree → Option (History Bytes Tree)
  | .call cacheCall, w => History.step archiver cacheCall w
  | .restart env maxSizeInBytes minimumPartitionFreeBytes temp strays, w =>
    let dir := ⟨w.shelf.stored.items, none, temp, strays⟩
    (CachedDownloader.restart w.shelf.stored.cache env maxSizeInBytes minimumPartitionFreeBytes
      dir).map fun recovered =>
        { w with
          shelf := { w.shelf with
            stored := ⟨recovered.1, recovered.2.items⟩
            openFiles := fun _ => 0 } }

/-! ## Eviction -/

section Eviction

variable {K V : Type} [DecidableEq K] (size access : V → Int) (limit : Int)

def totalSize (m : GoMap K V) : Int :=
  (m.values.map size).sum

/-- The keys leave the map one after the other, each as the least recently used one at a time when
the limit is exceeded. -/
inductive EvictsOldest : GoMap K V → List K → GoMap K V → Prop
  | done (m : GoMap K V) : EvictsOldest m [] m
  | evict {m rest : GoMap K V} {key : K} {value : V} {keys : List K}
      (hover : limit < totalSize size m) (hlookup : m.lookup key = some value)
      (hleast : ∀ other value', m.lookup other = some value' → access value ≤ access value')
      (h : EvictsOldest (m.erase key) keys rest) : EvictsOldest m (key :: keys) rest

theorem totalSize_erase {m : GoMap K V} {key : K} {value : V}
    (hlookup : m.lookup key = some value) :
    totalSize size (m.erase key) = totalSize size m - size value := by
  have hperm := (GoMap.values_erase_perm hlookup).map size
  have hsum := hperm.sum_eq
  rw [List.map_cons, List.sum_cons] at hsum
  unfold totalSize
  omega

end Eviction

/-- The least recently used entries of the cache go. -/
abbrev EvictsEntries (limit : Int) :
    GoMap String SavedEntry → List String → GoMap String SavedEntry → Prop :=
  EvictsOldest SavedEntry.size SavedEntry.access limit

namespace FileCache

variable {c : FileCache} {excluded : String} {key : String}

theorem usedSpace_eq : c.usedSpace = totalSize SavedEntry.size c.currentEntries := by
  unfold usedSpace totalSize currentEntries
  rw [GoMap.values_mapValues, List.map_map]
  rfl

theorem lookup_currentEntries :
    c.currentEntries.lookup key = (c.entries.lookup key).map fun ref => (c.heap ref).saved :=
  GoMap.lookup_mapValues _ _

theorem lookup_currentEntries_of_some {ref : EntryRef} (hlookup : c.entries.lookup key = some ref) :
    c.currentEntries.lookup key = some (c.heap ref).saved := by
  rw [lookup_currentEntries, hlookup]
  rfl

/-! ### The search for the oldest entry -/

/-- `makeRoom` may evict every current entry. -/
def AllEvictable (c : FileCache) (excluded : String) : Prop :=
  ∀ key ref, c.entries.lookup key = some ref →
    (c.heap ref).access < maxTime ∧ key ≠ excluded ∧ (c.heap ref).inUse = false

/-- `oldestAccessTime` is the time of the entry that was found. -/
def Found (c : FileCache) (oldest : Int × Option (String × EntryRef)) : Prop :=
  oldest = (maxTime, none) ∨ ∃ key ref, oldest = ((c.heap ref).access, some (key, ref))

variable {keys : List String}

theorem found_foldl {oldest : Int × Option (String × EntryRef)} (h : c.Found oldest) :
    c.Found (keys.foldl (c.oldestStep excluded) oldest) := by
  induction keys generalizing oldest with
  | nil => exact h
  | cons key keys ih =>
    apply ih
    unfold oldestStep
    split
    · exact h
    · rename_i ref hlookup
      split
      · exact Or.inr ⟨key, ref, rfl⟩
      · exact h

theorem oldestStep_le (oldest : Int × Option (String × EntryRef)) (key : String) :
    (c.oldestStep excluded oldest key).1 ≤ oldest.1 := by
  unfold oldestStep
  split
  · exact le_rfl
  · split
    · rename_i hevict
      exact hevict.1.le
    · exact le_rfl

theorem foldl_oldestStep_le (keys : List String) (oldest : Int × Option (String × EntryRef)) :
    (keys.foldl (c.oldestStep excluded) oldest).1 ≤ oldest.1 := by
  induction keys generalizing oldest with
  | nil => exact le_rfl
  | cons key keys ih => exact (ih _).trans (oldestStep_le oldest key)

/-- The loop ends with a time that no entry it has seen is older than. -/
theorem foldl_oldestStep_le_access (h : c.AllEvictable excluded) {ref : EntryRef}
    (hlookup : c.entries.lookup key = some ref) (hkey : key ∈ keys)
    (oldest : Int × Option (String × EntryRef)) :
    (keys.foldl (c.oldestStep excluded) oldest).1 ≤ (c.heap ref).access := by
  induction keys generalizing oldest with
  | nil => simp at hkey
  | cons first keys ih =>
    rcases List.mem_cons.mp hkey with rfl | hkey
    · refine (foldl_oldestStep_le keys _).trans ?_
      obtain ⟨-, hne, hunused⟩ := h key ref hlookup
      unfold oldestStep
      rw [hlookup]
      dsimp only
      split
      · exact le_rfl
      · rename_i hnot
        by_contra hlt
        exact hnot ⟨not_le.mp hlt, hne, by rw [hunused]; rfl⟩
    · exact ih hkey _

/-- Where every entry may be evicted, the search finds one unless there is none, and it finds a
least recently used one. -/
theorem oldestEntry_least (h : c.AllEvictable excluded) (hkeys : keys.Perm c.entries.keys) :
    (c.oldestEntry excluded keys = none → ∀ key, c.entries.lookup key = none) ∧
      ∀ key ref, c.oldestEntry excluded keys = some (key, ref) →
        ∀ other ref', c.entries.lookup other = some ref' →
          (c.heap ref).access ≤ (c.heap ref').access := by
  have hseen : ∀ other ref', c.entries.lookup other = some ref' →
      (keys.foldl (c.oldestStep excluded) (maxTime, none)).1 ≤ (c.heap ref').access := by
    intro other ref' hlookup
    refine foldl_oldestStep_le_access h hlookup (hkeys.mem_iff.mpr ?_) _
    exact AList.mem_keys.mpr (AList.lookup_isSome.mp (hlookup ▸ rfl))
  have hfound : c.Found (keys.foldl (c.oldestStep excluded) (maxTime, none)) :=
    found_foldl (Or.inl rfl)
  unfold oldestEntry
  rcases hfound with hfound | ⟨found, ref, hfound⟩
  · -- nothing was found: an entry would be older than the end of time
    rw [hfound] at hseen ⊢
    refine ⟨fun _ key => ?_, fun _ _ hsome => absurd hsome (by simp)⟩
    cases hlookup : c.entries.lookup key with
    | none => rfl
    | some ref => exact absurd (hseen key ref hlookup) (not_le.mpr (h key ref hlookup).1)
  · rw [hfound] at hseen ⊢
    refine ⟨fun hnone => absurd hnone (by simp), ?_⟩
    intro key ref' hsome
    obtain ⟨rfl, rfl⟩ := Prod.mk.inj (some.inj hsome)
    exact hseen

end FileCache

/-! ### Making room -/

/-- `makeRoom(0, "")` may evict the entry. -/
def Evictable : EntryProp Bytes Tree :=
  fun key _ e _ => e.access < maxTime ∧ key ≠ "" ∧ e.inUse = false

section MakeRoom

variable {Good : EntryProp Bytes Tree} {s : Stored Bytes Tree} {key : String} {ref : EntryRef}
  {outcome : Retirement Tree}

theorem own_evictable : (Evictable : EntryProp Bytes Tree).Own :=
  fun _ _ _ _ _ _ h => h

theorem Stored.entries_remove (hlookup : s.cache.entries.lookup key = some ref) :
    (s.remove key outcome).cache.entries = s.cache.entries.erase key := by
  rw [Stored.remove_eq hlookup, Stored.retire_seq.2]

theorem Stored.limits_remove :
    (s.remove key outcome).cache.maxSizeInBytes = s.cache.maxSizeInBytes ∧
      (s.remove key outcome).cache.minimumPartitionFreeBytes =
        s.cache.minimumPartitionFreeBytes := by
  cases hlookup : s.cache.entries.lookup key with
  | none =>
    unfold Stored.remove
    rw [hlookup]
    exact ⟨rfl, rfl⟩
  | some ref =>
    obtain ⟨oldEntries, heq, -⟩ := Stored.retire_eq
    rw [Stored.remove_eq hlookup, heq]
    exact ⟨rfl, rfl⟩

theorem Keeps.ne_of_erase (h : Keeps Good s) (hlookup : s.cache.entries.lookup key = some ref)
    {key' : String} {other : EntryRef}
    (hother : (s.cache.entries.erase key).lookup key' = some other) : other ≠ ref := by
  rintro rfl
  obtain ⟨hne, hother⟩ := GoMap.lookup_erase_eq_some.mp hother
  exact hne (h.key_eq hlookup hother)

/-- The other entries stay as they are. -/
theorem Keeps.currentEntries_remove (h : Keeps Good s)
    (hlookup : s.cache.entries.lookup key = some ref) :
    (s.remove key outcome).cache.currentEntries = s.cache.currentEntries.erase key := by
  obtain ⟨oldEntries, heq, -⟩ := Stored.retire_eq
  unfold currentEntries
  rw [GoMap.erase_mapValues, Stored.remove_eq hlookup, heq]
  refine GoMap.mapValues_congr ?_
  intro other hother
  obtain ⟨key', hother⟩ := GoMap.mem_values.mp hother
  change (Function.update s.cache.heap ref _ other).saved = _
  rw [Function.update_of_ne (h.ne_of_erase hlookup hother)]

theorem Stored.usedSpace_of_empty (h : ∀ key, s.cache.entries.lookup key = none) :
    s.cache.usedSpace = 0 := by
  have hvalues : s.cache.entries.values = [] := by
    refine List.eq_nil_iff_forall_not_mem.mpr ?_
    intro ref hmem
    obtain ⟨key, hlookup⟩ := GoMap.mem_values.mp hmem
    rw [h key] at hlookup
    simp at hlookup
  unfold usedSpace
  rw [hvalues]
  rfl

/-- What `makeRoom(0, "")` achieves from a state in which it may evict every entry. -/
structure MakesRoom (s s' : Stored Bytes Tree) : Prop where
  fits : s'.cache.usedSpace ≤ s.cache.maxSizeInBytes ∨ s'.cache.usedSpace = 0
  evicts : s.cache.minimumPartitionFreeBytes ≤ 0 →
    ∃ keys, EvictsEntries s.cache.maxSizeInBytes s.cache.currentEntries keys
      s'.cache.currentEntries

theorem MakesRoom.done (h : s.cache.usedSpace ≤ s.cache.maxSizeInBytes ∨ s.cache.usedSpace = 0) :
    MakesRoom s s :=
  ⟨h, fun _ => ⟨[], .done _⟩⟩

theorem MakesRoom.evict {s' : Stored Bytes Tree} (hkeeps : Keeps Good s)
    (hlookup : s.cache.entries.lookup key = some ref)
    (hover : s.cache.minimumPartitionFreeBytes ≤ 0 → s.cache.maxSizeInBytes < s.cache.usedSpace)
    (hleast : ∀ other ref', s.cache.entries.lookup other = some ref' →
      (s.cache.heap ref).access ≤ (s.cache.heap ref').access)
    (h : MakesRoom (s.remove key outcome) s') : MakesRoom s s' := by
  obtain ⟨hmax, hmin⟩ := s.limits_remove
  refine ⟨hmax ▸ h.fits, ?_⟩
  intro hnone
  obtain ⟨keys, hkeys⟩ := h.evicts (hmin ▸ hnone)
  rw [hmax, hkeeps.currentEntries_remove hlookup] at hkeys
  refine ⟨key :: keys, .evict ?_ (lookup_currentEntries_of_some hlookup) ?_ hkeys⟩
  · rw [← usedSpace_eq]
    exact hover hnone
  · intro other value' hother
    rw [lookup_currentEntries] at hother
    obtain ⟨ref', hlookup', rfl⟩ := map_eq_some_iff.mp hother
    exact hleast other ref' hlookup'

/-- The loop of `makeRoom`, by induction on its turns: each evicts a least recently used entry, and
there are enough of them to evict all. -/
theorem Keeps.makesRoom_makeRoomLoop {env : Outcomes Bytes Tree} {turns turn : Nat}
    (h : Keeps Evictable s) (hturns : s.cache.entries.keys.length ≤ turns) :
    MakesRoom s (Stored.makeRoomLoop env 0 "" turns turn s.cache.usedSpace s) := by
  induction turns generalizing s turn with
  | zero =>
    refine .done (Or.inr (Stored.usedSpace_of_empty fun key => ?_))
    have hnil : s.cache.entries.keys = [] := List.eq_nil_of_length_eq_zero (Nat.le_zero.mp hturns)
    refine AList.lookup_eq_none.mpr fun hmem => ?_
    rw [AList.mem_keys, hnil] at hmem
    simp at hmem
  | succ turns ih =>
    obtain ⟨hnone, hsome⟩ := oldestEntry_least
      (fun key ref hlookup => h.good key ref hlookup) (env.order_perm turn s.cache.entries.keys)
    unfold Stored.makeRoomLoop
    split
    · split
      · rename_i holdest
        exact .done (Or.inr (Stored.usedSpace_of_empty (hnone holdest)))
      · rename_i key ref holdest
        obtain ⟨hlookup, -, -⟩ := oldestEntry_spec holdest
        have hspace : s.cache.usedSpace - (s.cache.heap ref).size =
            (s.remove key (env.evictions turn)).cache.usedSpace := by
          rw [usedSpace_eq, usedSpace_eq, h.currentEntries_remove hlookup,
            totalSize_erase _ (lookup_currentEntries_of_some hlookup)]
          rfl
        rw [hspace]
        refine .evict h hlookup ?_ (hsome key ref holdest) (ih (h.remove own_evictable key _) ?_)
        · omega
        · have hmem : key ∈ s.cache.entries.keys :=
            AList.mem_keys.mpr (AList.lookup_isSome.mp (hlookup ▸ rfl))
          rw [Stored.entries_remove hlookup, AList.keys_erase, List.length_erase_of_mem hmem]
          omega
    · refine .done (Or.inl ?_)
      omega

theorem Keeps.makesRoom (h : Keeps Evictable s) {env : Outcomes Bytes Tree} :
    MakesRoom s (s.makeRoom env 0 "") :=
  h.makesRoom_makeRoomLoop le_rfl

end MakeRoom

/-! ## The state that is read back -/

def FileCacheEntry.Unused (e : FileCacheEntry) : Prop :=
  e.directoryInUseCount = 0 ∧ e.fileInUseCount = 0

/-- Sequence numbers start with one. -/
def Numbered : EntryProp Bytes Tree :=
  fun _ ref _ _ => 0 < ref

variable {e : FileCacheEntry} {ref : EntryRef} {c : FileCache} {saved : SavedCache} {key : String}

theorem ref_saved_of_name {name : UniqueName} (hname : e.filePath = .cached name) :
    e.saved.ref = name.seq := by
  unfold SavedEntry.ref saved
  rw [hname]
  rfl

/-- The name of an entry tells its address, unless it has lost its names. -/
theorem Owned.ref_saved (h : Owned ref e) :
    e.saved.ref = ref ∨
      e.saved.ref = 0 ∧ e.filePath = .empty ∧ e.expandedDirectoryPath = .empty := by
  rcases h.file with hfile | ⟨key, nanos, hfile⟩
  · rcases h.directory with hdirectory | ⟨key, nanos, hdirectory⟩
    · simp [SavedEntry.ref, saved, hfile, hdirectory, Path.owner]
    · simp [SavedEntry.ref, saved, hfile, hdirectory, Path.owner]
  · exact Or.inl (ref_saved_of_name hfile)

theorem Owned.entry_saved (h : Owned ref e) : Owned e.saved.ref e.saved.entry := by
  rcases h.ref_saved with heq | ⟨-, hfile, hdirectory⟩
  · rw [heq]
    exact ⟨h.file, h.directory⟩
  · exact ⟨Or.inl hfile, Or.inl hdirectory⟩

namespace SavedCache

variable {saved : SavedCache}

theorem heap_cases (ref : EntryRef) :
    saved.heap ref = newFileCacheEntry .empty 0 0 default ∨
      ∃ e ∈ saved.allEntries, e.ref = ref ∧ saved.heap ref = e.entry := by
  unfold heap
  grind

theorem heap_of_unique {e : SavedEntry} (hmem : e ∈ saved.allEntries)
    (hunique : ∀ e' ∈ saved.allEntries, e'.ref = e.ref → e' = e) : saved.heap e.ref = e.entry := by
  unfold heap
  split
  · rename_i hnone
    have hne := List.find?_eq_none.mp hnone e hmem
    simp at hne
  · rename_i e' hfind
    rw [hunique e' (List.mem_of_find?_eq_some hfind) (by simpa using List.find?_some hfind)]

theorem unused_heap (saved : SavedCache) (ref : EntryRef) : (saved.heap ref).Unused := by
  rcases saved.heap_cases ref with heq | ⟨e, -, -, heq⟩
  · rw [heq]
    exact ⟨rfl, rfl⟩
  · rw [heq]
    exact ⟨rfl, rfl⟩

end SavedCache

/-- The decoder has left nothing to reset. -/
theorem FileCache.resetUse_of_unused (h : ∀ ref, (c.heap ref).Unused) : c.resetUse = c := by
  have hheap : c.resetUse.heap = c.heap := by
    funext ref
    obtain ⟨hdirectory, hfile⟩ := h ref
    unfold resetUse
    dsimp only
    split
    · calc
        { c.heap ref with directoryInUseCount := 0, fileInUseCount := 0 } =
            { c.heap ref with
              directoryInUseCount := (c.heap ref).directoryInUseCount
              fileInUseCount := (c.heap ref).fileInUseCount } := by rw [hdirectory, hfile]
        _ = c.heap ref := rfl
    · rfl
  calc
    c.resetUse = { c with heap := c.resetUse.heap } := rfl
    _ = c := by rw [hheap]

theorem FileCache.marshal_eq_some (h : c.marshal = some saved) :
    saved = ⟨c.currentEntries, c.oldEntries.mapValues fun ref => (c.heap ref).saved, c.seq⟩ ∧
      ∀ e ∈ saved.allEntries, e.access < maxTime := by
  unfold marshal at h
  rw [ite_none_right_eq_some] at h
  obtain ⟨htimes, hsaved⟩ := h
  cases hsaved
  refine ⟨rfl, ?_⟩
  intro e hmem
  have htime := List.all_eq_true.mp htimes e hmem
  unfold marshalsTime at htime
  rw [Bool.and_eq_true, decide_eq_true_eq, decide_eq_true_eq] at htime
  refine htime.2.trans ?_
  decide

/-- What is saved are the current and the old entries. -/
theorem FileCache.mem_allEntries (hsaved : c.marshal = some saved) {e : SavedEntry}
    (hmem : e ∈ saved.allEntries) :
    ∃ ref, e = (c.heap ref).saved ∧
      ((∃ key, c.entries.lookup key = some ref) ∨
        ∃ place, c.oldEntries.lookup place = some ref) := by
  obtain ⟨rfl, -⟩ := marshal_eq_some hsaved
  rcases List.mem_append.mp hmem with hmem | hmem
  · obtain ⟨key, hentry⟩ := GoMap.mem_values.mp hmem
    rw [lookup_currentEntries] at hentry
    obtain ⟨ref, hlookup, rfl⟩ := map_eq_some_iff.mp hentry
    exact ⟨ref, rfl, Or.inl ⟨key, hlookup⟩⟩
  · obtain ⟨place, hentry⟩ := GoMap.mem_values.mp hmem
    rw [GoMap.lookup_mapValues] at hentry
    obtain ⟨ref, hold, rfl⟩ := map_eq_some_iff.mp hentry
    exact ⟨ref, rfl, Or.inr ⟨place, hold⟩⟩

theorem FileCache.saved_mem_allEntries (hsaved : c.marshal = some saved)
    (hlookup : c.entries.lookup key = some ref) : (c.heap ref).saved ∈ saved.allEntries := by
  rw [(marshal_eq_some hsaved).1]
  exact List.mem_append_left _
    (GoMap.mem_values.mpr ⟨key, lookup_currentEntries_of_some hlookup⟩)

/-- The current entry is the one that was saved, and so are its tarball and its directory. -/
def RecoveredFrom (s : Stored Bytes Tree) : EntryProp Bytes Tree :=
  fun key ref e items => s.cache.entries.lookup key = some ref ∧
    e = (s.cache.heap ref).saved.entry ∧
    ∀ path ∈ [e.filePath, e.expandedDirectoryPath], path.owner = some ref →
      items path = s.items path

theorem own_recoveredFrom {s : Stored Bytes Tree} : (RecoveredFrom s).Own := by
  rintro key ref e items items' hitems ⟨hlookup, he, hsame⟩
  refine ⟨hlookup, he, ?_⟩
  intro path hpath howner
  rw [hitems path howner, hsame path hpath howner]

section Reload

variable {s : Stored Bytes Tree} {saved : SavedCache} {dir : CacheDirectory Bytes Tree}
  {c : FileCache}

theorem FileCache.reload_eq (hsaved : dir.savedCache = some saved) :
    c.reload dir =
      { cache := { c.decode saved with
          disk := (dir.sweep (c.decode saved).trackedFiles).items.disk }
        items := (dir.sweep (c.decode saved).trackedFiles).items } := by
  have hreset : (c.decode saved).resetUse = c.decode saved :=
    resetUse_of_unused saved.unused_heap
  unfold reload
  rw [hsaved, elim_some]
  dsimp only
  rw [hreset]

variable {key : String} {ref : EntryRef}

section

variable (h : Keeps Numbered s)
include h

theorem Keeps.ref_current (hlookup : s.cache.entries.lookup key = some ref) :
    (s.cache.heap ref).saved.ref = ref := by
  obtain ⟨nanos, hname⟩ := h.name key ref hlookup
  exact ref_saved_of_name hname

/-- An old entry is not read back to the place of a current one. -/
theorem Keeps.ref_old {place : String × Path} (hold : s.cache.oldEntries.lookup place = some ref) :
    (s.cache.heap ref).saved.ref ≤ s.cache.seq ∧
      ∀ key, s.cache.entries.lookup key ≠ some (s.cache.heap ref).saved.ref := by
  rcases (h.owned ref).ref_saved with heq | ⟨heq, -⟩
  · rw [heq]
    exact h.old place ref hold
  · rw [heq]
    refine ⟨Nat.zero_le _, ?_⟩
    intro key hlookup
    exact lt_irrefl 0 (h.good key 0 hlookup)

variable (hsaved : s.cache.marshal = some saved)
include hsaved

/-- The entries are at the addresses where they were. -/
theorem Keeps.entries_decode : (c.decode saved).entries = s.cache.entries := by
  obtain ⟨rfl, -⟩ := marshal_eq_some hsaved
  unfold decode currentEntries
  rw [GoMap.mapValues_mapValues]
  refine (GoMap.mapValues_congr ?_).trans (GoMap.mapValues_id _)
  intro ref hmem
  obtain ⟨key, hlookup⟩ := GoMap.mem_values.mp hmem
  exact h.ref_current hlookup

/-- A saved entry with the address of a current one is that entry. -/
theorem Keeps.saved_unique (hlookup : s.cache.entries.lookup key = some ref) {e : SavedEntry}
    (hmem : e ∈ saved.allEntries) (href : e.ref = ref) : e = (s.cache.heap ref).saved := by
  obtain ⟨ref', rfl, ⟨key', hlookup'⟩ | ⟨place, hold⟩⟩ := mem_allEntries hsaved hmem
  · rw [h.ref_current hlookup'] at href
    rw [href]
  · rw [← href] at hlookup
    exact absurd hlookup ((h.ref_old hold).2 key)

theorem Keeps.heap_decode (hlookup : s.cache.entries.lookup key = some ref) :
    saved.heap ref = (s.cache.heap ref).saved.entry := by
  have href := h.ref_current hlookup
  have hheap : saved.heap (s.cache.heap ref).saved.ref = (s.cache.heap ref).saved.entry := by
    apply SavedCache.heap_of_unique (saved_mem_allEntries hsaved hlookup)
    intro e hmem heq
    exact h.saved_unique hsaved hlookup hmem (heq.trans href)
  rw [href] at hheap
  exact hheap

theorem Keeps.owned_decode (ref : EntryRef) : Owned ref (saved.heap ref) := by
  rcases saved.heap_cases ref with heq | ⟨e, hmem, rfl, heq⟩
  · rw [heq]
    exact ⟨Or.inl rfl, Or.inl rfl⟩
  · rw [heq]
    obtain ⟨ref, rfl, -⟩ := mem_allEntries hsaved hmem
    exact (h.owned ref).entry_saved

end

theorem FileCache.mem_trackedFiles {path : Path} :
    path ∈ c.trackedFiles ↔ ∃ key ref, c.entries.lookup key = some ref ∧
      path ∈ [(c.heap ref).filePath, (c.heap ref).expandedDirectoryPath] := by
  unfold trackedFiles
  rw [List.mem_flatMap]
  constructor
  · rintro ⟨ref, hmem, hpath⟩
    obtain ⟨key, hlookup⟩ := GoMap.mem_values.mp hmem
    exact ⟨key, ref, hlookup, hpath⟩
  · rintro ⟨key, ref, hlookup, hpath⟩
    exact ⟨ref, GoMap.mem_values.mpr ⟨key, hlookup⟩, hpath⟩

/-- What is read back has the entries that were saved, with their tarballs and directories. -/
theorem Keeps.reload (h : Keeps Numbered s) (hsaved : s.cache.marshal = some saved)
    (hdir : dir.savedCache = some saved) (hitems : dir.items = s.items) :
    Keeps (RecoveredFrom s) (c.reload dir) := by
  have hentries := h.entries_decode (c := c) hsaved
  rw [reload_eq hdir]
  refine ⟨rfl, h.owned_decode hsaved, ?_, ?_, ?_, ?_⟩
  · intro key ref hlookup
    rw [hentries] at hlookup
    rw [(marshal_eq_some hsaved).1]
    exact h.le key ref hlookup
  · intro key ref hlookup
    rw [hentries] at hlookup
    obtain ⟨nanos, hname⟩ := h.name key ref hlookup
    refine ⟨nanos, ?_⟩
    change (saved.heap ref).filePath = _
    rw [h.heap_decode hsaved hlookup]
    exact hname
  · intro key ref hlookup
    have hlookup' := hlookup
    rw [hentries] at hlookup
    refine ⟨hlookup, h.heap_decode hsaved hlookup, ?_⟩
    intro path hpath howner
    have htracked : path ∈ (c.decode saved).trackedFiles :=
      mem_trackedFiles.mpr ⟨key, ref, hlookup', hpath⟩
    change (if path ∈ (c.decode saved).trackedFiles then dir.items path else none) = _
    rw [if_pos htracked, hitems]
  · intro place ref hold
    have hread : (s.cache.oldEntries.lookup place).map
        (fun ref => (s.cache.heap ref).saved.ref) = some ref := by
      rw [← hold, (marshal_eq_some hsaved).1]
      unfold decode
      rw [GoMap.lookup_mapValues, GoMap.lookup_mapValues, map_map]
      rfl
    obtain ⟨ref', hold', rfl⟩ := map_eq_some_iff.mp hread
    rw [hentries, (marshal_eq_some hsaved).1]
    exact h.ref_old hold'

end Reload

/-! ## What eviction leaves behind -/

theorem FileCacheEntry.releaseUse_of_unused (h : e.Unused) (items : Items Bytes Tree) :
    e.releaseUse items ⟨none, none⟩ =
      ({ e with
          directoryInUseCount := -1
          fileInUseCount := -1
          expandedDirectoryPath := .empty },
        (items.removeAll e.filePath none).removeAll e.expandedDirectoryPath none) := by
  obtain ⟨hdirectory, hfile⟩ := h
  simp [releaseUse, releaseFile, releaseDirectory, hdirectory, hfile]

theorem FileCache.updateOldEntries_of_empty (hpath : (c.heap ref).expandedDirectoryPath = .empty)
    (hunused : (c.heap ref).inUse = false) :
    c.updateOldEntries key ref = { c with oldEntries := c.oldEntries.erase (key, .empty) } := by
  simp [updateOldEntries, hpath, hunused]

/-- Below `CachedPath` are files of current entries only, and nobody uses an old entry. -/
structure Tidy (s : Stored Bytes Tree) : Prop where
  items : ∀ path, (s.items path).isSome → path ∈ s.cache.trackedFiles
  old : ∀ place ref, s.cache.oldEntries.lookup place = some ref → (s.cache.heap ref).Unused

section Tidy

variable {Good : EntryProp Bytes Tree} {s : Stored Bytes Tree} {key : String} {ref : EntryRef}

/-- An entry that nobody uses is gone with its files: it has no directory any more for which it
would become an old entry. -/
theorem Stored.remove_of_unused (hlookup : s.cache.entries.lookup key = some ref)
    (hunused : (s.cache.heap ref).Unused) :
    (s.remove key ⟨none, none⟩).items =
        (s.items.removeAll (s.cache.heap ref).filePath none).removeAll
          (s.cache.heap ref).expandedDirectoryPath none ∧
      (s.remove key ⟨none, none⟩).cache.oldEntries = s.cache.oldEntries.erase (key, .empty) ∧
      ∀ other, other ≠ ref → (s.remove key ⟨none, none⟩).cache.heap other = s.cache.heap other := by
  rw [Stored.remove_eq hlookup]
  unfold Stored.retire Stored.put
  dsimp only
  rw [releaseUse_of_unused hunused, updateOldEntries_of_empty]
  · refine ⟨rfl, rfl, ?_⟩
    intro other hne
    exact Function.update_of_ne hne _ _
  · simp only [Function.update_self]
  · simp only [Function.update_self]
    rfl

theorem Tidy.remove (h : Tidy s) (hkeeps : Keeps Good s)
    (hlookup : s.cache.entries.lookup key = some ref) (hunused : (s.cache.heap ref).Unused) :
    Tidy (s.remove key ⟨none, none⟩) := by
  obtain ⟨hitems, hold, hheap⟩ := Stored.remove_of_unused hlookup hunused
  constructor
  · intro path hpath
    rw [hitems] at hpath
    have hdirectory : path ≠ (s.cache.heap ref).expandedDirectoryPath := by
      rintro rfl
      simp at hpath
    rw [Items.removeAll_of_ne hdirectory] at hpath
    have hfile : path ≠ (s.cache.heap ref).filePath := by
      rintro rfl
      simp at hpath
    rw [Items.removeAll_of_ne hfile] at hpath
    -- so the entry whose file it is stays
    obtain ⟨key', other, hother, hmem⟩ := mem_trackedFiles.mp (h.items path hpath)
    have hne : other ≠ ref := by
      rintro rfl
      simp [hfile, hdirectory] at hmem
    refine mem_trackedFiles.mpr ⟨key', other, ?_, ?_⟩
    · rw [Stored.entries_remove hlookup, GoMap.lookup_erase_eq_some]
      refine ⟨?_, hother⟩
      rintro rfl
      exact hne (some.inj (hother.symm.trans hlookup))
    · rw [hheap other hne]
      exact hmem
  · intro place other hother
    rw [hold, GoMap.lookup_erase_eq_some] at hother
    have hne : other ≠ ref := by
      rintro rfl
      exact (hkeeps.old place other hother.2).2 key hlookup
    rw [hheap other hne]
    exact h.old place other hother.2

/-- Making room in a tidy cache that nobody uses leaves it tidy. -/
theorem Tidy.makeRoom (h : Tidy s) (hkeeps : Keeps Good s) (hown : Good.Own)
    (hunused : ∀ key ref e items, Good key ref e items → e.Unused) {env : Outcomes Bytes Tree}
    (henv : env.Fine) {size : Int} {excluded : String} : Tidy (s.makeRoom env size excluded) := by
  refine (Stored.makeRoom_induction (P := fun s => Tidy s ∧ Keeps Good s) ?_ ⟨h, hkeeps⟩).1
  rintro s key ref turn ⟨h, hkeeps⟩ hlookup - -
  rw [henv.evictions turn]
  refine ⟨h.remove hkeeps hlookup ?_, hkeeps.remove hown key _⟩
  exact hunused key ref _ _ (hkeeps.good key ref hlookup)

theorem FileCache.tidy_reload {dir : CacheDirectory Bytes Tree}
    (hsaved : dir.savedCache = some saved) : Tidy (c.reload dir) := by
  rw [reload_eq hsaved]
  constructor
  · intro path hpath
    change (if path ∈ (c.decode saved).trackedFiles then dir.items path else none).isSome at hpath
    split at hpath
    · assumption
    · simp at hpath
  · intro place ref _
    exact saved.unused_heap ref

end Tidy

/-! ## Restarts -/

/-- The cache of a new process with the directory of an old one. -/
structure RecoversExactly (limit minimum : Int) (before : Stored Bytes Tree) (cache : FileCache)
    (dir : CacheDirectory Bytes Tree) : Prop where
  unused : ∀ ref ∈ cache.entries.values ++ cache.oldEntries.values, (cache.heap ref).Unused
  kept : ∀ key ref, cache.entries.lookup key = some ref →
    ∃ ref', before.cache.entries.lookup key = some ref' ∧
      (cache.heap ref).cachingInfo = (before.cache.heap ref').cachingInfo ∧
      (cache.heap ref).filePath = (before.cache.heap ref').filePath ∧
      (cache.heap ref).expandedDirectoryPath = (before.cache.heap ref').expandedDirectoryPath ∧
      ∀ path ∈ [(cache.heap ref).filePath, (cache.heap ref).expandedDirectoryPath],
        path ≠ .empty → dir.items path = before.items path
  /-- `makeRoom` never evicts the key `""`. -/
  evicted : minimum ≤ 0 → "" ∉ before.cache.entries →
    ∃ keys, EvictsEntries limit before.cache.currentEntries keys cache.currentEntries
  fits : 0 ≤ limit → "" ∉ before.cache.entries → cache.usedSpace ≤ limit
  items : ∀ path, (dir.items path).isSome → path ∈ cache.trackedFiles
  savedCache : dir.savedCache = none
  temp : dir.temp = some []
  strays : dir.strays = []

theorem Owned.owner_of_mem (h : Owned ref e) {path : Path}
    (hpath : path ∈ [e.filePath, e.expandedDirectoryPath]) (hne : path ≠ .empty) :
    path.owner = some ref := by
  rw [List.mem_pair] at hpath
  rcases hpath with rfl | rfl
  · obtain ⟨key, nanos, heq⟩ := h.file.resolve_left hne
    rw [heq]
    rfl
  · obtain ⟨key, nanos, heq⟩ := h.directory.resolve_left hne
    rw [heq]
    rfl

section Restart

variable {s : Stored Bytes Tree} {saved : SavedCache} {dir : CacheDirectory Bytes Tree}
  {env : Outcomes Bytes Tree} {limit minimum : Int}

theorem Keeps.currentEntries_reload (h : Keeps Numbered s) (hsaved : s.cache.marshal = some saved)
    (hdir : dir.savedCache = some saved) :
    (c.reload dir).cache.currentEntries = s.cache.currentEntries := by
  rw [reload_eq hdir]
  unfold currentEntries
  rw [h.entries_decode hsaved]
  refine GoMap.mapValues_congr ?_
  intro ref hmem
  obtain ⟨key, hlookup⟩ := GoMap.mem_values.mp hmem
  change (saved.heap ref).saved = _
  rw [h.heap_decode hsaved hlookup]
  rfl

/-- Every entry that is read back may be evicted. -/
theorem Keeps.evictable_reload (h : Keeps Numbered s) (hsaved : s.cache.marshal = some saved)
    (hdir : dir.savedCache = some saved) (hitems : dir.items = s.items)
    (hkeys : "" ∉ s.cache.entries) : Keeps Evictable (c.reload dir) := by
  refine (h.reload hsaved hdir hitems).mono ?_
  rintro key ref - ⟨hlookup, he, -⟩
  rw [he]
  refine ⟨?_, ?_, rfl⟩
  · exact (marshal_eq_some hsaved).2 (s.cache.heap ref).saved
      (saved_mem_allEntries hsaved hlookup)
  · rintro rfl
    exact hkeys (AList.lookup_isSome.mp (hlookup ▸ rfl))

theorem recoverState_eq :
    recoverState c env dir =
      some (((c.reload dir).makeRoom env 0 "").cache,
        { items := ((c.reload dir).makeRoom env 0 "").items
          savedCache := none
          temp := some []
          strays := [] }) :=
  rfl

theorem restart_eq (hsaved : s.cache.marshal = some saved) :
    restart s.cache env limit minimum dir =
      recoverState (newCache limit minimum) env
        (createTempCachedDir { dir with savedCache := some saved }) := by
  unfold restart saveState
  rw [hsaved]
  rfl

theorem Keeps.recovered (h : Keeps Numbered s) (hsaved : s.cache.marshal = some saved)
    (hdir : dir.savedCache = some saved) (hitems : dir.items = s.items) (c : FileCache)
    (env : Outcomes Bytes Tree) : Keeps (RecoveredFrom s) ((c.reload dir).makeRoom env 0 "") :=
  (h.reload hsaved hdir hitems).makeRoom own_recoveredFrom env 0 ""

theorem Keeps.recoversExactly (h : Keeps Numbered s) (hsaved : s.cache.marshal = some saved)
    (hdir : dir.savedCache = some saved) (hitems : dir.items = s.items) (henv : env.Fine) :
    ∃ cache dir', recoverState (newCache limit minimum) env dir = some (cache, dir') ∧
      RecoversExactly limit minimum s cache dir' := by
  have hrecovered := h.recovered hsaved hdir hitems (newCache limit minimum) env
  have htidy : Tidy (((newCache limit minimum).reload dir).makeRoom env 0 "") := by
    refine (tidy_reload hdir).makeRoom (h.reload hsaved hdir hitems)
      own_recoveredFrom ?_ henv
    rintro key ref e items ⟨-, rfl, -⟩
    exact ⟨rfl, rfl⟩
  have hroom : "" ∉ s.cache.entries → MakesRoom ((newCache limit minimum).reload dir)
      (((newCache limit minimum).reload dir).makeRoom env 0 "") := by
    intro hkeys
    exact (h.evictable_reload hsaved hdir hitems hkeys).makesRoom
  have hlimits : ((newCache limit minimum).reload dir).cache.maxSizeInBytes = limit ∧
      ((newCache limit minimum).reload dir).cache.minimumPartitionFreeBytes = minimum := by
    rw [reload_eq hdir]
    exact ⟨rfl, rfl⟩
  refine ⟨_, _, recoverState_eq, ?_⟩
  refine ⟨?_, ?_, ?_, ?_, htidy.items, rfl, rfl, rfl⟩
  · intro ref hmem
    rcases List.mem_append.mp hmem with hmem | hmem
    · obtain ⟨key, hlookup⟩ := GoMap.mem_values.mp hmem
      rw [(hrecovered.good key ref hlookup).2.1]
      exact ⟨rfl, rfl⟩
    · obtain ⟨place, hold⟩ := GoMap.mem_values.mp hmem
      exact htidy.old place ref hold
  · intro key ref hlookup
    obtain ⟨hbefore, he, hpaths⟩ := hrecovered.good key ref hlookup
    refine ⟨ref, hbefore, ?_, ?_, ?_, ?_⟩
    · rw [he]
      rfl
    · rw [he]
      rfl
    · rw [he]
      rfl
    · intro path hpath hne
      exact hpaths path hpath ((hrecovered.owned ref).owner_of_mem hpath hne)
  · intro hminimum hkeys
    obtain ⟨keys, hevicts⟩ := (hroom hkeys).evicts (hlimits.2.trans_le hminimum)
    rw [hlimits.1, h.currentEntries_reload hsaved hdir] at hevicts
    exact ⟨keys, hevicts⟩
  · intro hlimit hkeys
    rcases (hroom hkeys).fits with hfits | hzero
    · exact hfits.trans_eq hlimits.1
    · exact hzero.trans_le hlimit

end Restart

section Runs

variable {archiver : Archiver Bytes Tree} {history : History Bytes Tree}

theorem closed_numbered : (Numbered : EntryProp Bytes Tree).Closed archiver where
  own := fun _ _ _ _ _ _ h => h
  timeless := fun _ _ _ _ _ _ h => h
  fresh := fun _ _ _ _ _ _ _ h => h
  read := fun _ _ _ _ _ h => h
  expand := fun _ _ _ _ _ h => h
  releaseFile := fun _ _ _ _ _ h => h
  releaseDirectory := fun _ _ _ _ _ _ h => h

theorem Keeps.step_process {event : ProcessEvent Bytes Tree} {history' : History Bytes Tree}
    (h : Keeps Numbered history.shelf.stored)
    (hstep : event.step archiver history = some history') :
    Keeps Numbered history'.shelf.stored := by
  cases event with
  | call cacheCall => exact Keeps.step_closed h closed_numbered hstep
  | restart env limit minimum temp strays =>
    obtain ⟨recovered, hrestart, rfl⟩ := map_eq_some_iff.mp hstep
    obtain ⟨saved', hsave, hrecover⟩ := bind_eq_some_iff.mp hrestart
    obtain ⟨saved, hsaved, rfl⟩ := map_eq_some_iff.mp hsave
    cases hrecover
    refine (h.recovered hsaved rfl rfl (newCache limit minimum) env).mono ?_
    rintro key ref - ⟨hlookup, -⟩
    exact h.good key ref hlookup

theorem numbered_of_reaches {maxSizeInBytes minimumPartitionFreeBytes : Int}
    (h : Machine.Reaches (ProcessEvent.step archiver) (fun _ _ => True)
      (History.new maxSizeInBytes minimumPartitionFreeBytes) history) :
    Keeps Numbered history.shelf.stored := by
  induction h with
  | refl => exact Stored.keeps_new
  | step _ _ hstep ih => exact Keeps.step_process ih hstep

/-- Whatever calls and restarts came before, and whatever failed in them: where the state is saved,
a new process recovers it exactly. -/
theorem restart_recovers_exactly {maxSizeInBytes minimumPartitionFreeBytes : Int}
    (h : Machine.Reaches (ProcessEvent.step archiver) (fun _ _ => True)
      (History.new maxSizeInBytes minimumPartitionFreeBytes) history)
    (dir : CacheDirectory Bytes Tree) (hitems : dir.items = history.shelf.stored.items)
    (hsaves : (saveState history.shelf.stored.cache dir).isSome) (limit minimum : Int)
    {env : Outcomes Bytes Tree} (henv : env.Fine) :
    ∃ cache dir', restart history.shelf.stored.cache env limit minimum dir = some (cache, dir') ∧
      RecoversExactly limit minimum history.shelf.stored cache dir' := by
  obtain ⟨saved, hsaved⟩ : ∃ saved, history.shelf.stored.cache.marshal = some saved := by
    unfold saveState at hsaves
    rw [Option.isSome_map] at hsaves
    exact Option.isSome_iff_exists.mp hsaves
  rw [restart_eq hsaved]
  exact (numbered_of_reaches h).recoversExactly hsaved rfl hitems henv

end Runs

/-! ## Two entries -/

def Outcomes.idleAt (now : Int) : Outcomes (List Nat) Nat :=
  { Outcomes.idle with now := now }

/-- A directory under one key, then a tarball under another; both are in use. -/
def twoEntries (directoryKey fileKey : String) : List (ProcessEvent (List Nat) Nat) :=
  [.call (.addDirectory (.idleAt 1) directoryKey [7] 10 ⟨"first", ""⟩),
    .call (.add (.idleAt 2) fileKey [8] 10 ⟨"second", ""⟩)]

/-- The directory of the cache, with an old download and a stray file. -/
def History.directory (w : History (List Nat) Nat) : CacheDirectory (List Nat) Nat :=
  ⟨w.shelf.stored.items, none, some ["download"], ["lost+found"]⟩

/-- The keys and the space of a cache after a restart with this limit. -/
def restartedWith (limit : Int) (events : List (ProcessEvent (List Nat) Nat)) :
    Option (List String × Int) :=
  (Machine.run (ProcessEvent.step .single) (History.new 100 0) events).bind fun w =>
    (restart w.shelf.stored.cache .idle limit 0 w.directory).map fun recovered =>
      (recovered.1.entries.keys, recovered.1.usedSpace)

theorem restart_evicts_older :
    ∃ w cache dir,
      Machine.run (ProcessEvent.step .single) (History.new 100 0) (twoEntries "app" "droplet") =
        some w ∧
      restart w.shelf.stored.cache .idle 15 0 w.directory = some (cache, dir) ∧
      RecoversExactly 15 0 w.shelf.stored cache dir ∧
      (cache.entries.keys, cache.usedSpace) = (["droplet"], 10) := by
  have hkeys : restartedWith 15 (twoEntries "app" "droplet") = some (["droplet"], 10) := by decide
  obtain ⟨w, hrun, hrestarted⟩ := Option.bind_eq_some_iff.mp hkeys
  obtain ⟨⟨cache, dir⟩, hrestart, hcache⟩ := Option.map_eq_some_iff.mp hrestarted
  have hmeets : Machine.Meets (ProcessEvent.step .single) (fun _ _ => True) (History.new 100 0)
      (twoEntries "app" "droplet") := by decide
  obtain ⟨saved, hsave, -⟩ := Option.bind_eq_some_iff.mp hrestart
  have hfine : Outcomes.idle.Fine := ⟨rfl, fun _ => rfl, rfl, rfl, rfl, rfl, rfl, rfl, rfl, rfl⟩
  obtain ⟨cache', dir', hrestart', hexact⟩ := restart_recovers_exactly
    (Machine.reaches_of_run hmeets hrun) w.directory rfl (hsave ▸ rfl) 15 0 hfine
  obtain ⟨rfl, rfl⟩ := Prod.mk.inj (Option.some.inj (hrestart'.symm.trans hrestart))
  exact ⟨w, cache', dir', hrun, hrestart, hexact, hcache⟩

/-- A negative limit is exceeded by an empty cache.  The entry of the key `""` stays even if it is
the older one and alone exceeds the limit. -/
theorem restart_keeps_empty_key :
    restartedWith (-1) [] = some ([], 0) ∧
      restartedWith 15 (twoEntries "" "droplet") = some ([""], 10) ∧
      restartedWith 5 (twoEntries "" "droplet") = some ([""], 10) := by
  decide

end Diego.CachedDownloader
