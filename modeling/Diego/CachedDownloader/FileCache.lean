import Diego.GoMap
import Mathlib.Algebra.Ring.Int.Defs

/-!
# The file cache of the cached downloader

`cacheddownloader/file_cache.go`.  An entry of the cache is a tarball, a directory that the
tarball was expanded into, or both; two counters say how many callers use each of them.  An
entry that is replaced or removed loses one from each counter, so that a counter of minus
one means that the asset may go, and moves to `OldEntries` as long as it has a directory.

Entries are shared by pointer: the maps, the open files and a replaced entry in the middle
of `Add` all refer to the same `FileCacheEntry`.  A pointer is an `EntryRef`, and as every
entry is made right after `c.Seq++`, the value of `Seq` serves as its address.

File system calls succeed here.  The cache keys are hex digests, so the names below
`CachedPath` are siblings, and `os.RemoveAll` of one of them removes nothing of another.
-/

namespace Diego.CachedDownloader

/-! ## Paths and the disk -/

/-- The parts of `fmt.Sprintf("%s-%d-%d", cacheKey, time.Now().UnixNano(), c.Seq)`. -/
structure UniqueName where
  cacheKey : String
  nanos : Int
  seq : Nat
  deriving DecidableEq

inductive Path
  /-- The empty string. -/
  | empty
  /-- `filepath.Join(c.CachedPath, uniqueName)`. -/
  | cached (name : UniqueName)
  /-- `file + ".d"`. -/
  | expanded (file : Path)
  deriving DecidableEq

/-- Which paths exist. -/
abbrev Disk := Path → Bool

/-- `os.RemoveAll`. -/
def Disk.removeAll (disk : Disk) (path : Path) : Disk :=
  Function.update disk path false

/-- A file or a directory appears: `os.Rename`, `os.Create` and `extractTarToDirectory`. -/
def Disk.create (disk : Disk) (path : Path) : Disk :=
  Function.update disk path true

/-! ## Entries -/

structure CachingInfo where
  eTag : String
  lastModified : String
  deriving DecidableEq, Inhabited

structure FileCacheEntry where
  size : Int
  access : Int
  cachingInfo : CachingInfo
  filePath : Path
  expandedDirectoryPath : Path
  directoryInUseCount : Int
  fileInUseCount : Int
  deriving DecidableEq

def newFileCacheEntry (cachePath : Path) (size now : Int) (cachingInfo : CachingInfo) :
    FileCacheEntry where
  size := size
  access := now
  cachingInfo := cachingInfo
  filePath := cachePath
  expandedDirectoryPath := .empty
  directoryInUseCount := 0
  fileInUseCount := 0

namespace FileCacheEntry

def inUse (e : FileCacheEntry) : Bool :=
  e.directoryInUseCount > 0 || e.fileInUseCount > 0

def incrementDirectoryInUseCount (e : FileCacheEntry) : FileCacheEntry :=
  { e with directoryInUseCount := e.directoryInUseCount + 1 }

def incrementFileInUseCount (e : FileCacheEntry) : FileCacheEntry :=
  { e with fileInUseCount := e.fileInUseCount + 1 }

/-- The directory goes when the tarball is the only asset that is used, or when the entry
was removed and nobody uses the directory any more. -/
def decrementDirectoryInUseCount (e : FileCacheEntry) (disk : Disk) : FileCacheEntry × Disk :=
  let count := e.directoryInUseCount - 1
  if count < 0 ∨ (count = 0 ∧ e.fileInUseCount > 0) then
    ({ e with
        directoryInUseCount := count
        expandedDirectoryPath := .empty
        size := if e.fileInUseCount > 0 then e.size.tdiv 2 else e.size },
      disk.removeAll e.expandedDirectoryPath)
  else ({ e with directoryInUseCount := count }, disk)

def decrementFileInUseCount (e : FileCacheEntry) (disk : Disk) : FileCacheEntry × Disk :=
  let count := e.fileInUseCount - 1
  if count < 0 ∨ (count = 0 ∧ e.directoryInUseCount > 0) then
    ({ e with
        fileInUseCount := count
        size := if e.directoryInUseCount > 0 then e.size.tdiv 2 else e.size },
      disk.removeAll e.filePath)
  else ({ e with fileInUseCount := count }, disk)

def decrementUse (e : FileCacheEntry) (disk : Disk) : FileCacheEntry × Disk :=
  let afterFile := e.decrementFileInUseCount disk
  afterFile.1.decrementDirectoryInUseCount afterFile.2

def fileDoesNotExist (e : FileCacheEntry) (disk : Disk) : Bool :=
  !disk e.filePath

def dirDoesNotExist (e : FileCacheEntry) (disk : Disk) : Bool :=
  e.expandedDirectoryPath = .empty || !disk e.expandedDirectoryPath

/-- `readCloser`: the tarball is written again from the directory if it is missing, and a
directory that nobody uses goes. -/
def readCloser (e : FileCacheEntry) (disk : Disk) : FileCacheEntry × Disk :=
  let written :=
    if e.fileDoesNotExist disk then
      let disk := disk.create e.filePath
      if e.directoryInUseCount = 0 then (e, disk.removeAll e.expandedDirectoryPath)
      else ({ e with size := e.size * 2 }, disk)
    else (e, disk)
  (written.1.incrementFileInUseCount, written.2)

/-- `expandedDirectory`: a missing directory is extracted from the tarball, and a tarball
that nobody uses goes.  The directory is returned in the entry. -/
def expandedDirectory (e : FileCacheEntry) (disk : Disk) : FileCacheEntry × Disk :=
  let extracted :=
    if e.dirDoesNotExist disk then
      let e := { e with expandedDirectoryPath := .expanded e.filePath }
      let disk := disk.create e.expandedDirectoryPath
      -- without the tarball the directory is the only copy
      if e.fileInUseCount = 0 then (e, disk.removeAll e.filePath) else (e, disk)
    else (e, disk)
  (extracted.1.incrementDirectoryInUseCount, extracted.2)

end FileCacheEntry

/-! ## The cache -/

abbrev EntryRef := Nat

/-- The cache, with the memory its pointers refer to and the disk below `CachedPath`.  The
key `cacheKey+dirPath` of an old entry is the pair of the two: the path ends with the
sequence number of its entry, so the concatenation determines them. -/
structure FileCache where
  maxSizeInBytes : Int
  minimumPartitionFreeBytes : Int
  entries : GoMap String EntryRef
  oldEntries : GoMap (String × Path) EntryRef
  seq : Nat
  heap : EntryRef → FileCacheEntry
  disk : Disk

def newCache (maxSizeInBytes minimumPartitionFreeBytes : Int) : FileCache where
  maxSizeInBytes := maxSizeInBytes
  minimumPartitionFreeBytes := minimumPartitionFreeBytes
  entries := ∅
  oldEntries := ∅
  seq := 0
  heap _ := newFileCacheEntry .empty 0 0 default
  disk _ := false

/-- What a call finds outside the cache: the time, the free space on the partition each
time it is asked for, and the order in which each `range` loop yields the keys. -/
structure Environment where
  nanos : Int
  now : Int
  freeSpace : Nat → Int
  order : Nat → List String → List String
  order_perm : ∀ turn keys, (order turn keys).Perm keys

/-- `maxTime`, in nanoseconds. -/
def maxTime : Int :=
  (2 ^ 63 - 1 - (1969 * 365 + 1969 / 4 - 1969 / 100 + 1969 / 400) * 24 * 60 * 60) * 10 ^ 9 +
    999999999

inductive Error
  | entryNotFound
  | alreadyClosed
  deriving DecidableEq

namespace FileCache

/-- Apply a method to the entry behind a pointer. -/
def onEntry (c : FileCache) (ref : EntryRef)
    (method : FileCacheEntry → Disk → FileCacheEntry × Disk) : FileCache :=
  let result := method (c.heap ref) c.disk
  { c with heap := Function.update c.heap ref result.1, disk := result.2 }

def updateOldEntries (c : FileCache) (cacheKey : String) (ref : EntryRef) : FileCache :=
  let path := (c.heap ref).expandedDirectoryPath
  if path ≠ .empty then { c with oldEntries := c.oldEntries.insert (cacheKey, path) ref }
  -- the path is empty here, so this deletes a key that is never inserted
  else if !(c.heap ref).inUse then { c with oldEntries := c.oldEntries.erase (cacheKey, path) }
  else c

/-- What happens to an entry that is replaced or removed. -/
def retire (c : FileCache) (cacheKey : String) (ref : EntryRef) : FileCache :=
  (c.onEntry ref FileCacheEntry.decrementUse).updateOldEntries cacheKey ref

def remove (c : FileCache) (cacheKey : String) : FileCache :=
  match c.entries.lookup cacheKey with
  | none => c
  | some ref =>
    let c := c.retire cacheKey ref
    { c with entries := c.entries.erase cacheKey }

def usedSpace (c : FileCache) : Int :=
  (c.entries.values.map fun ref => (c.heap ref).size).sum

/-- One turn of the loop that looks for the entry to evict. -/
def oldestStep (c : FileCache) (excludedCacheKey : String)
    (oldest : Int × Option (String × EntryRef)) (cacheKey : String) :
    Int × Option (String × EntryRef) :=
  match c.entries.lookup cacheKey with
  | none => oldest
  | some ref =>
    if (c.heap ref).access < oldest.1 ∧ cacheKey ≠ excludedCacheKey ∧ !(c.heap ref).inUse then
      ((c.heap ref).access, some (cacheKey, ref))
    else oldest

def oldestEntry (c : FileCache) (excludedCacheKey : String) (keys : List String) :
    Option (String × EntryRef) :=
  (keys.foldl (c.oldestStep excludedCacheKey) (maxTime, none)).2

/-- The loop of `makeRoom`.  Every turn evicts an entry, so there are at most as many turns
as entries: with none left there is nothing to evict. -/
def makeRoomLoop (env : Environment) (size : Int) (excludedCacheKey : String) :
    (turns : Nat) → (turn : Nat) → (usedSpace : Int) → FileCache → FileCache
  | 0, _, _, c => c
  | turns + 1, turn, usedSpace, c =>
    if c.maxSizeInBytes < usedSpace + size ∨
        (c.minimumPartitionFreeBytes > 0 ∧ env.freeSpace turn < c.minimumPartitionFreeBytes) then
      match c.oldestEntry excludedCacheKey (env.order turn c.entries.keys) with
      | none => c
      | some (oldestCacheKey, ref) =>
        makeRoomLoop env size excludedCacheKey turns (turn + 1)
          (usedSpace - (c.heap ref).size) (c.remove oldestCacheKey)
    else c

def makeRoom (c : FileCache) (env : Environment) (size : Int) (excludedCacheKey : String) :
    FileCache :=
  makeRoomLoop env size excludedCacheKey c.entries.keys.length 0 c.usedSpace c

/-- The new entry of a key, in its place. -/
def install (c : FileCache) (env : Environment) (cacheKey : String) (size : Int)
    (cachingInfo : CachingInfo) : FileCache :=
  let seq := c.seq + 1
  let cachePath := Path.cached ⟨cacheKey, env.nanos, seq⟩
  { c with
    seq := seq
    disk := c.disk.create cachePath
    heap := Function.update c.heap seq (newFileCacheEntry cachePath size env.now cachingInfo)
    entries := c.entries.insert cacheKey seq }

/-- The part that `Add` and `AddDirectory` share.  The old entry is read before the cache
makes room, which may evict it. -/
def replace (c : FileCache) (env : Environment) (cacheKey : String) (size : Int)
    (cachingInfo : CachingInfo) : FileCache :=
  let installed := (c.makeRoom env size "").install env cacheKey size cachingInfo
  match c.entries.lookup cacheKey with
  | none => installed
  | some oldEntry => installed.retire cacheKey oldEntry

/-- `Add`.  The file it returns is one of the entry `Entries[cacheKey]`. -/
def add (c : FileCache) (env : Environment) (cacheKey : String) (size : Int)
    (cachingInfo : CachingInfo) : FileCache :=
  let c := c.replace env cacheKey size cachingInfo
  c.onEntry c.seq FileCacheEntry.readCloser

def addDirectory (c : FileCache) (env : Environment) (cacheKey : String) (size : Int)
    (cachingInfo : CachingInfo) : FileCache × Path :=
  let c := c.replace env cacheKey size cachingInfo
  let c := c.onEntry c.seq FileCacheEntry.expandedDirectory
  (c, (c.heap c.seq).expandedDirectoryPath)

/-- `Get`.  The result names the entry whose file is returned. -/
def get (c : FileCache) (env : Environment) (cacheKey : String) :
    FileCache × Except Error EntryRef :=
  match c.entries.lookup cacheKey with
  | none => (c, .error .entryNotFound)
  | some ref =>
    let c := if (c.heap ref).fileDoesNotExist c.disk
      then c.makeRoom env (c.heap ref).size cacheKey else c
    let c := c.onEntry ref fun e disk => ({ e with access := env.now }, disk)
    (c.onEntry ref FileCacheEntry.readCloser, .ok ref)

def getDirectory (c : FileCache) (env : Environment) (cacheKey : String) :
    FileCache × Except Error Path :=
  match c.entries.lookup cacheKey with
  | none => (c, .error .entryNotFound)
  | some ref =>
    let expanding := (c.heap ref).dirDoesNotExist c.disk
    let c := if expanding then
        (c.makeRoom env (c.heap ref).size cacheKey).onEntry ref fun e disk =>
          ({ e with size := e.size * 2 }, disk)
      else c
    let c := c.onEntry ref fun e disk => ({ e with access := env.now }, disk)
    let c := c.onEntry ref FileCacheEntry.expandedDirectory
    let dir := (c.heap ref).expandedDirectoryPath
    let c := c.onEntry ref fun e disk =>
      -- the tarball goes during the expansion when nobody uses it
      (if expanding && e.fileDoesNotExist disk then { e with size := e.size.tdiv 2 } else e, disk)
    (c, .ok dir)

/-- The entry is done with, and what is left of it goes. -/
def discard (e : FileCacheEntry) (disk : Disk) : FileCacheEntry × Disk :=
  ({ e with expandedDirectoryPath := .empty, filePath := .empty },
    (disk.removeAll e.expandedDirectoryPath).removeAll e.filePath)

/-- The part of `CloseDirectory` for an entry that is not current. -/
def closeOldDirectory (c : FileCache) (cacheKey : String) (dirPath : Path) :
    FileCache × Option Error :=
  match c.oldEntries.lookup (cacheKey, dirPath) with
  | none => (c, some .entryNotFound)
  | some ref =>
    let c := c.onEntry ref FileCacheEntry.decrementDirectoryInUseCount
    if !(c.heap ref).inUse then
      let c := c.onEntry ref discard
      ({ c with oldEntries := c.oldEntries.erase (cacheKey, dirPath) }, none)
    else (c, none)

/-- The entry of a key, if the directory is the one it has now. -/
def currentEntry (c : FileCache) (cacheKey : String) (dirPath : Path) : Option EntryRef :=
  (c.entries.lookup cacheKey).filter fun ref => (c.heap ref).expandedDirectoryPath = dirPath

def closeDirectory (c : FileCache) (cacheKey : String) (dirPath : Path) :
    FileCache × Option Error :=
  match c.currentEntry cacheKey dirPath with
  | some ref =>
    if (c.heap ref).directoryInUseCount = 0 then (c, some .alreadyClosed)
    else (c.onEntry ref FileCacheEntry.decrementDirectoryInUseCount, none)
  | none => c.closeOldDirectory cacheKey dirPath

/-- `Close` of a file of an entry, current or not. -/
def closeFile (c : FileCache) (ref : EntryRef) : FileCache :=
  c.onEntry ref FileCacheEntry.decrementFileInUseCount

end FileCache

end Diego.CachedDownloader
