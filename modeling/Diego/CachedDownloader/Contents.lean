import Diego.CachedDownloader.FileCache

/-!
# The contents of the cache, and a disk that may fail

`cacheddownloader/file_cache.go` once more.  Here the disk holds the contents of tarballs and
directories, and every call to the file system may fail: `os.Rename`, `os.Create`, `os.Open`,
`Seek`, `compressor.WriteTar`, the extractor, and each `os.RemoveAll`.  What fails, and what a
call that fails leaves behind, is given by `Outcomes`.

The maps, the pointers and the choice of the entry to evict are those of `FileCache`, whose
`disk` says which paths exist.  Where nothing fails, the calls are the calls of `FileCache`.
-/

namespace Diego.CachedDownloader

open FileCacheEntry

/-- The packages `archiver/compressor` and `archiver/extractor`. -/
structure Archiver (Bytes Tree : Type) where
  /-- The tree in a tarball, `none` when it is not one. -/
  extract : Bytes → Option Tree
  writeTar : Tree → Bytes
  extract_writeTar : ∀ tree, extract (writeTar tree) = some tree

inductive Item (Bytes Tree : Type)
  | file (content : Bytes)
  | directory (content : Tree)

/-- What is on the disk. -/
abbrev Items (Bytes Tree : Type) := Path → Option (Item Bytes Tree)

variable {Bytes Tree : Type} {items : Items Bytes Tree} {path : Path}

def Items.disk (items : Items Bytes Tree) : Disk :=
  fun path => (items path).isSome

/-- Something appears at a path, in the place of what was there. -/
def Items.put (items : Items Bytes Tree) (path : Path) (item : Item Bytes Tree) :
    Items Bytes Tree :=
  Function.update items path (some item)

/-! ## What fails -/

/-- The outcome of `os.RemoveAll`: `none` when it succeeds, and otherwise what is left of a
directory.  A file that is not removed stays as it is. -/
abbrev Removal (Tree : Type) := Option Tree

def Items.removeAll (items : Items Bytes Tree) (path : Path) : Removal Tree → Items Bytes Tree
  | none => Function.update items path none
  | some leftover =>
    Function.update items path <| (items path).map fun
      | .file content => .file content
      | .directory _ => .directory leftover

/-- The two removals of `decrementUse`. -/
structure Retirement (Tree : Type) where
  file : Removal Tree
  directory : Removal Tree

/-- The calls of `readCloser`. -/
structure Reading (Bytes Tree : Type) where
  /-- `os.Create` succeeds. -/
  create : Bool
  writeTar : Bool
  /-- What it has written when it fails. -/
  partialTar : Bytes
  removeDirectory : Removal Tree
  openFile : Bool
  /-- `Seek` succeeds. -/
  seek : Bool

/-- The calls of `expandedDirectory`. -/
structure Expansion (Tree : Type) where
  /-- The extractor succeeds, if it is given a tarball. -/
  extract : Bool
  /-- The directory it leaves when it fails, if it has made one. -/
  partialTree : Option Tree
  /-- The removal of this directory. -/
  cleanUp : Removal Tree
  removeFile : Removal Tree

structure Outcomes (Bytes Tree : Type) extends Environment where
  /-- `os.Rename` succeeds. -/
  rename : Bool
  /-- The removals in each turn of `makeRoom`. -/
  evictions : Nat → Retirement Tree
  /-- The removals for an entry that is replaced or removed. -/
  retirement : Retirement Tree
  reading : Reading Bytes Tree
  expansion : Expansion Tree

/-! ## Entries -/

namespace FileCacheEntry

variable (e : FileCacheEntry) (items : Items Bytes Tree)

/-- `decrementDirectoryInUseCount`. -/
def releaseDirectory (removal : Removal Tree) : FileCacheEntry × Items Bytes Tree :=
  let count := e.directoryInUseCount - 1
  if count < 0 ∨ (count = 0 ∧ e.fileInUseCount > 0) then
    ({ e with
        directoryInUseCount := count
        -- an error of the removal is only printed
        expandedDirectoryPath := .empty
        size := if e.fileInUseCount > 0 then e.size.tdiv 2 else e.size },
      items.removeAll e.expandedDirectoryPath removal)
  else ({ e with directoryInUseCount := count }, items)

/-- `decrementFileInUseCount`. -/
def releaseFile (removal : Removal Tree) : FileCacheEntry × Items Bytes Tree :=
  let count := e.fileInUseCount - 1
  if count < 0 ∨ (count = 0 ∧ e.directoryInUseCount > 0) then
    ({ e with
        fileInUseCount := count
        size := if e.directoryInUseCount > 0 then e.size.tdiv 2 else e.size },
      items.removeAll e.filePath removal)
  else ({ e with fileInUseCount := count }, items)

/-- `decrementUse`. -/
def releaseUse (outcome : Retirement Tree) : FileCacheEntry × Items Bytes Tree :=
  let afterFile := e.releaseFile items outcome.file
  afterFile.1.releaseDirectory afterFile.2 outcome.directory

variable (archiver : Archiver Bytes Tree)

/-- The tarball of `compressor.WriteTar(e.ExpandedDirectoryPath+"/", f)`.  Without a directory it
fails. -/
def tarball : Option Bytes :=
  match items e.expandedDirectoryPath with
  | some (.directory tree) => some (archiver.writeTar tree)
  | _ => none

/-- The first half of `readCloser`: the tarball is opened, or written again from the directory.
The result is what the file contains, `none` for an error. -/
def openFile (outcome : Reading Bytes Tree) : (FileCacheEntry × Items Bytes Tree) × Option Bytes :=
  match items e.filePath with
  | some (.file content) => ((e, items), if outcome.openFile then some content else none)
  | some (.directory _) => ((e, items), none)
  | none =>
    if !outcome.create then ((e, items), none)
    else
      match (if outcome.writeTar then e.tarball items archiver else none) with
      -- the file stays with what was written to it
      | none => ((e, items.put e.filePath (.file outcome.partialTar)), none)
      | some content =>
        let written := items.put e.filePath (.file content)
        if e.directoryInUseCount = 0 then
          ((e, written.removeAll e.expandedDirectoryPath outcome.removeDirectory), some content)
        else (({ e with size := e.size * 2 }, written), some content)

/-- `readCloser`. -/
def read (outcome : Reading Bytes Tree) : (FileCacheEntry × Items Bytes Tree) × Option Bytes :=
  let opened := e.openFile items archiver outcome
  match opened.2 with
  | none => (opened.1, none)
  | some content =>
    ((opened.1.1.incrementFileInUseCount, opened.1.2),
      -- the counter stays when `Seek` fails
      if outcome.seek then some content else none)

/-- The tree that the extractor makes of the tarball, `none` when it fails. -/
def extractTar (outcome : Expansion Tree) : Option Tree :=
  match items e.filePath with
  | some (.file content) => if outcome.extract then archiver.extract content else none
  | _ => none

/-- `expandedDirectory`.  An extraction into a directory with leftovers of the same tarball gives
the tree of the tarball. -/
def expand (outcome : Expansion Tree) :
    (FileCacheEntry × Items Bytes Tree) × Option (Path × Tree) :=
  if e.dirDoesNotExist items.disk then
    let path := Path.expanded e.filePath
    match e.extractTar items archiver outcome with
    | none =>
      let left := outcome.partialTree.elim items fun tree => items.put path (.directory tree)
      (({ e with expandedDirectoryPath := .empty }, left.removeAll path outcome.cleanUp), none)
    | some tree =>
      let extracted := items.put path (.directory tree)
      let left := if e.fileInUseCount = 0 then extracted.removeAll e.filePath outcome.removeFile
        else extracted
      (({ e with expandedDirectoryPath := path }.incrementDirectoryInUseCount, left),
        some (path, tree))
  else
    match items e.expandedDirectoryPath with
    | some (.directory tree) =>
      ((e.incrementDirectoryInUseCount, items), some (e.expandedDirectoryPath, tree))
    | _ => ((e, items), none)

/-- The entry is done with, and what is left of it goes. -/
def discard (outcome : Retirement Tree) : FileCacheEntry × Items Bytes Tree :=
  ({ e with expandedDirectoryPath := .empty, filePath := .empty },
    (items.removeAll e.expandedDirectoryPath outcome.directory).removeAll e.filePath outcome.file)

end FileCacheEntry

/-! ## The cache -/

structure Stored (Bytes Tree : Type) where
  cache : FileCache
  items : Items Bytes Tree

def newStored (maxSizeInBytes minimumPartitionFreeBytes : Int) : Stored Bytes Tree where
  cache := newCache maxSizeInBytes minimumPartitionFreeBytes
  items _ := none

namespace Stored

variable (s : Stored Bytes Tree)

/-- What a method has made of an entry and of the disk. -/
def put (ref : EntryRef) (result : FileCacheEntry × Items Bytes Tree) : Stored Bytes Tree where
  cache := { s.cache with
    heap := Function.update s.cache.heap ref result.1
    disk := result.2.disk }
  items := result.2

/-- What happens to an entry that is replaced or removed. -/
def retire (cacheKey : String) (ref : EntryRef) (outcome : Retirement Tree) : Stored Bytes Tree :=
  let s := s.put ref ((s.cache.heap ref).releaseUse s.items outcome)
  { s with cache := s.cache.updateOldEntries cacheKey ref }

def remove (cacheKey : String) (outcome : Retirement Tree) : Stored Bytes Tree :=
  match s.cache.entries.lookup cacheKey with
  | none => s
  | some ref =>
    let s := s.retire cacheKey ref outcome
    { s with cache := { s.cache with entries := s.cache.entries.erase cacheKey } }

def makeRoomLoop (env : Outcomes Bytes Tree) (size : Int) (excludedCacheKey : String) :
    (turns : Nat) → (turn : Nat) → (usedSpace : Int) → Stored Bytes Tree → Stored Bytes Tree
  | 0, _, _, s => s
  | turns + 1, turn, usedSpace, s =>
    if s.cache.maxSizeInBytes < usedSpace + size ∨
        (s.cache.minimumPartitionFreeBytes > 0 ∧
          env.freeSpace turn < s.cache.minimumPartitionFreeBytes) then
      match s.cache.oldestEntry excludedCacheKey (env.order turn s.cache.entries.keys) with
      | none => s
      | some (oldestCacheKey, ref) =>
        makeRoomLoop env size excludedCacheKey turns (turn + 1)
          (usedSpace - (s.cache.heap ref).size) (s.remove oldestCacheKey (env.evictions turn))
    else s

def makeRoom (env : Outcomes Bytes Tree) (size : Int) (excludedCacheKey : String) :
    Stored Bytes Tree :=
  makeRoomLoop env size excludedCacheKey s.cache.entries.keys.length 0 s.cache.usedSpace s

/-- The new entry of a key, in its place, with the file that was renamed. -/
def install (env : Outcomes Bytes Tree) (cacheKey : String) (content : Bytes) (size : Int)
    (cachingInfo : CachingInfo) : Stored Bytes Tree where
  cache := s.cache.install env.toEnvironment cacheKey size cachingInfo
  items := s.items.put (.cached ⟨cacheKey, env.nanos, s.cache.seq + 1⟩) (.file content)

/-- The part that `Add` and `AddDirectory` share; `false` when `os.Rename` fails. -/
def replace (env : Outcomes Bytes Tree) (cacheKey : String) (content : Bytes) (size : Int)
    (cachingInfo : CachingInfo) : Stored Bytes Tree × Bool :=
  let roomy := s.makeRoom env size ""
  if !env.rename then
    ({ roomy with cache := { roomy.cache with seq := roomy.cache.seq + 1 } }, false)
  else
    let installed := roomy.install env cacheKey content size cachingInfo
    match s.cache.entries.lookup cacheKey with
    | none => (installed, true)
    | some oldEntry => (installed.retire cacheKey oldEntry env.retirement, true)

variable (archiver : Archiver Bytes Tree)

/-- `Add`, with what the file that it returns contains. -/
def add (env : Outcomes Bytes Tree) (cacheKey : String) (content : Bytes) (size : Int)
    (cachingInfo : CachingInfo) : Stored Bytes Tree × Option Bytes :=
  let replaced := s.replace env cacheKey content size cachingInfo
  if !replaced.2 then (replaced.1, none)
  else
    let s := replaced.1
    let result := (s.cache.heap s.cache.seq).read s.items archiver env.reading
    (s.put s.cache.seq result.1, result.2)

/-- `AddDirectory`, with what the directory that it returns contains. -/
def addDirectory (env : Outcomes Bytes Tree) (cacheKey : String) (content : Bytes) (size : Int)
    (cachingInfo : CachingInfo) : Stored Bytes Tree × Option (Path × Tree) :=
  let replaced := s.replace env cacheKey content size cachingInfo
  if !replaced.2 then (replaced.1, none)
  else
    let s := replaced.1
    let result := (s.cache.heap s.cache.seq).expand s.items archiver env.expansion
    (s.put s.cache.seq result.1, result.2)

/-- The room that `Get` and `GetDirectory` make, and the time of the access. -/
def prepare (env : Outcomes Bytes Tree) (cacheKey : String) (ref : EntryRef) (missing : Bool) :
    Stored Bytes Tree :=
  let s := if missing then s.makeRoom env (s.cache.heap ref).size cacheKey else s
  s.put ref ({ s.cache.heap ref with access := env.now }, s.items)

/-- `Get`, with the entry and the content of the file that it returns. -/
def get (env : Outcomes Bytes Tree) (cacheKey : String) :
    Stored Bytes Tree × Option (EntryRef × Bytes × CachingInfo) :=
  match s.cache.entries.lookup cacheKey with
  | none => (s, none)
  | some ref =>
    let s := s.prepare env cacheKey ref ((s.cache.heap ref).fileDoesNotExist s.cache.disk)
    let result := (s.cache.heap ref).read s.items archiver env.reading
    (s.put ref result.1, result.2.map fun content => (ref, content, (s.cache.heap ref).cachingInfo))

def getDirectory (env : Outcomes Bytes Tree) (cacheKey : String) :
    Stored Bytes Tree × Option (Path × Tree × CachingInfo) :=
  match s.cache.entries.lookup cacheKey with
  | none => (s, none)
  | some ref =>
    let expanding := (s.cache.heap ref).dirDoesNotExist s.cache.disk
    let s := s.prepare env cacheKey ref expanding
    let e := s.cache.heap ref
    let e := if expanding then { e with size := e.size * 2 } else e
    let result := e.expand s.items archiver env.expansion
    match result.2 with
    | none => (s.put ref result.1, none)
    | some (dir, tree) =>
      let e := result.1.1
      -- the tarball goes during the expansion when nobody uses it
      let e := if expanding && e.fileDoesNotExist result.1.2.disk then
        { e with size := e.size.tdiv 2 } else e
      (s.put ref (e, result.1.2), some (dir, tree, e.cachingInfo))

/-- The part of `CloseDirectory` for an entry that is not current. -/
def closeOldDirectory (cacheKey : String) (dirPath : Path) (removal : Removal Tree)
    (outcome : Retirement Tree) : Stored Bytes Tree × Option Error :=
  match s.cache.oldEntries.lookup (cacheKey, dirPath) with
  | none => (s, some .entryNotFound)
  | some ref =>
    let s := s.put ref ((s.cache.heap ref).releaseDirectory s.items removal)
    if !(s.cache.heap ref).inUse then
      let s := s.put ref ((s.cache.heap ref).discard s.items outcome)
      ({ s with cache := { s.cache with
        oldEntries := s.cache.oldEntries.erase (cacheKey, dirPath) } }, none)
    else (s, none)

def closeDirectory (cacheKey : String) (dirPath : Path) (removal : Removal Tree)
    (outcome : Retirement Tree) : Stored Bytes Tree × Option Error :=
  match s.cache.currentEntry cacheKey dirPath with
  | some ref =>
    if (s.cache.heap ref).directoryInUseCount = 0 then (s, some .alreadyClosed)
    else (s.put ref ((s.cache.heap ref).releaseDirectory s.items removal), none)
  | none => s.closeOldDirectory cacheKey dirPath removal outcome

/-- `Close` of a file of an entry, current or not. -/
def closeFile (ref : EntryRef) (removal : Removal Tree) : Stored Bytes Tree :=
  s.put ref ((s.cache.heap ref).releaseFile s.items removal)

end Stored

/-- Every call to the file system succeeds. -/
structure Outcomes.Fine (env : Outcomes Bytes Tree) : Prop where
  rename : env.rename = true
  evictions : ∀ turn, env.evictions turn = ⟨none, none⟩
  retirement : env.retirement = ⟨none, none⟩
  create : env.reading.create = true
  writeTar : env.reading.writeTar = true
  removeDirectory : env.reading.removeDirectory = none
  openFile : env.reading.openFile = true
  seek : env.reading.seek = true
  extract : env.expansion.extract = true
  removeFile : env.expansion.removeFile = none

/-! ## The cache and the contents -/

theorem Items.disk_put (item : Item Bytes Tree) :
    (items.put path item).disk = items.disk.create path := by
  funext path'
  by_cases hpath : path' = path
  · subst hpath
    simp [disk, put, Disk.create]
  · simp [disk, put, Disk.create, hpath]

/-- The disk of the cache says which contents there are. -/
def Stored.Synced (s : Stored Bytes Tree) : Prop :=
  s.cache.disk = s.items.disk

theorem Stored.synced_install {s : Stored Bytes Tree} {env : Outcomes Bytes Tree}
    {cacheKey : String} {content : Bytes} {size : Int} {cachingInfo : CachingInfo} (h : s.Synced) :
    (s.install env cacheKey content size cachingInfo).Synced := by
  unfold Stored.Synced Stored.install FileCache.install
  rw [Items.disk_put, ← h]

end Diego.CachedDownloader
