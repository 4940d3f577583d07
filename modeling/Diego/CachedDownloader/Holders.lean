import Diego.CachedDownloader.FileCache
import Diego.Machine

/-!
# The holders of a cached directory

A run of the cache is a sequence of calls; beside the cache it keeps how often each
directory is held (returned more often than closed) and how many files of each entry are
open.  A directory is closed at most as often as it was returned, and a file once.

The invariant `Tracks` ties the counters of the entries to the holders.  The counters of a
current entry are its holders.  Those of an old one are one less, and here the code slips
twice: an entry with one holder of its directory and two open files that is replaced or
removed loses its directory, because the counters are then zero and positive; and when one
of two holders closes the directory of an old entry, the counter drops to zero, which
`inUse` takes for unused.  In every other step the directories of all holders stay, so a
run keeps them if and only if it takes neither of these steps.
-/

namespace Diego.CachedDownloader

open FileCache FileCacheEntry

/-! ## Paths and their entries -/

def Path.owner : Path → Option EntryRef
  | .empty => none
  | .cached name => some name.seq
  | .expanded file => file.owner

structure Owned (ref : EntryRef) (e : FileCacheEntry) : Prop where
  file : e.filePath = .empty ∨ ∃ key nanos, e.filePath = .cached ⟨key, nanos, ref⟩
  directory : e.expandedDirectoryPath = .empty ∨
    ∃ key nanos, e.expandedDirectoryPath = .expanded (.cached ⟨key, nanos, ref⟩)

/-- The result of a method leaves the paths of other entries alone. -/
structure Local (ref : EntryRef) (disk : Disk) (result : FileCacheEntry × Disk) : Prop where
  owned : Owned ref result.1
  disk : ∀ path other, path.owner = some other → other ≠ ref → result.2 path = disk path

variable {path : Path} {ref other : EntryRef} {e : FileCacheEntry}

theorem Owned.file_ne (h : Owned ref e) (hpath : path.owner = some other) (hother : other ≠ ref) :
    path ≠ e.filePath := by
  rintro rfl
  rcases h.file with heq | ⟨key, nanos, heq⟩
  · rw [heq] at hpath
    simp [Path.owner] at hpath
  · rw [heq] at hpath
    exact hother (Option.some.inj hpath).symm

theorem Owned.directory_ne (h : Owned ref e) (hpath : path.owner = some other)
    (hother : other ≠ ref) : path ≠ e.expandedDirectoryPath := by
  rintro rfl
  rcases h.directory with heq | ⟨key, nanos, heq⟩
  · rw [heq] at hpath
    simp [Path.owner] at hpath
  · rw [heq] at hpath
    exact hother (Option.some.inj hpath).symm

theorem expanded_ne {key : String} {nanos : Int} (hname : e.filePath = .cached ⟨key, nanos, ref⟩)
    (hpath : path.owner = some other) (hother : other ≠ ref) : path ≠ .expanded e.filePath := by
  rintro rfl
  rw [hname] at hpath
  exact hother (Option.some.inj hpath).symm

namespace Disk

variable {disk : Disk} {path other : Path}

@[simp] theorem removeAll_self : disk.removeAll path path = false := by
  simp [removeAll]

theorem removeAll_of_ne (h : other ≠ path) : disk.removeAll path other = disk other := by
  simp [removeAll, h]

@[simp] theorem create_self : disk.create path path = true := by
  simp [create]

theorem create_of_ne (h : other ≠ path) : disk.create path other = disk other := by
  simp [create, h]

end Disk

section Local

variable {ref : EntryRef} {e : FileCacheEntry} (h : Owned ref e) (disk : Disk)

include h

theorem Owned.decrementDirectoryInUseCount :
    Local ref disk (e.decrementDirectoryInUseCount disk) := by
  unfold FileCacheEntry.decrementDirectoryInUseCount
  dsimp only
  split
  · refine ⟨⟨h.file, Or.inl rfl⟩, ?_⟩
    intro path other hpath hother
    exact Disk.removeAll_of_ne (h.directory_ne hpath hother)
  · exact ⟨⟨h.file, h.directory⟩, fun _ _ _ _ => rfl⟩

theorem Owned.decrementFileInUseCount : Local ref disk (e.decrementFileInUseCount disk) := by
  unfold FileCacheEntry.decrementFileInUseCount
  dsimp only
  split
  · refine ⟨⟨h.file, h.directory⟩, ?_⟩
    intro path other hpath hother
    exact Disk.removeAll_of_ne (h.file_ne hpath hother)
  · exact ⟨⟨h.file, h.directory⟩, fun _ _ _ _ => rfl⟩

theorem Owned.decrementUse : Local ref disk (e.decrementUse disk) := by
  have hfile := h.decrementFileInUseCount disk
  have hdirectory := hfile.owned.decrementDirectoryInUseCount (e.decrementFileInUseCount disk).2
  refine ⟨hdirectory.owned, ?_⟩
  intro path other hpath hother
  exact (hdirectory.disk path other hpath hother).trans (hfile.disk path other hpath hother)

theorem Owned.readCloser : Local ref disk (e.readCloser disk) := by
  have hcreate : ∀ path other, path.owner = some other → other ≠ ref →
      disk.create e.filePath path = disk path := by
    intro path other hpath hother
    exact Disk.create_of_ne (h.file_ne hpath hother)
  unfold FileCacheEntry.readCloser FileCacheEntry.incrementFileInUseCount
  split
  · split
    · refine ⟨⟨h.file, h.directory⟩, ?_⟩
      intro path other hpath hother
      exact (Disk.removeAll_of_ne (h.directory_ne hpath hother)).trans (hcreate _ _ hpath hother)
    · exact ⟨⟨h.file, h.directory⟩, hcreate⟩
  · exact ⟨⟨h.file, h.directory⟩, fun _ _ _ _ => rfl⟩

/-- A tarball is expanded beside itself. -/
theorem Owned.expandedDirectory {key : String} {nanos : Int}
    (hname : e.filePath = .cached ⟨key, nanos, ref⟩) :
    Local ref disk (e.expandedDirectory disk) := by
  unfold FileCacheEntry.expandedDirectory FileCacheEntry.incrementDirectoryInUseCount
  dsimp only
  split
  · have howned : e.filePath = .empty ∨ ∃ key nanos, e.filePath = .cached ⟨key, nanos, ref⟩ :=
      Or.inr ⟨key, nanos, hname⟩
    have hexpanded : Path.expanded e.filePath = .empty ∨
        ∃ key nanos, Path.expanded e.filePath = .expanded (.cached ⟨key, nanos, ref⟩) :=
      Or.inr ⟨key, nanos, by rw [hname]⟩
    split
    · refine ⟨⟨howned, hexpanded⟩, ?_⟩
      intro path other hpath hother
      exact (Disk.removeAll_of_ne (h.file_ne hpath hother)).trans
        (Disk.create_of_ne (expanded_ne hname hpath hother))
    · refine ⟨⟨howned, hexpanded⟩, ?_⟩
      intro path other hpath hother
      exact Disk.create_of_ne (expanded_ne hname hpath hother)
  · exact ⟨⟨h.file, h.directory⟩, fun _ _ _ _ => rfl⟩

theorem Owned.discard : Local ref disk (discard e disk) := by
  refine ⟨⟨Or.inl rfl, Or.inl rfl⟩, ?_⟩
  intro path other hpath hother
  exact (Disk.removeAll_of_ne (h.file_ne hpath hother)).trans
    (Disk.removeAll_of_ne (h.directory_ne hpath hother))

end Local

/-! ## The invariant -/

/-- How often each directory, returned for a key, is held. -/
abbrev Held := String → Path → Nat

/-- How many files of each entry are open. -/
abbrev OpenFiles := EntryRef → Nat

section Tracks

variable (c : FileCache) (held : Held) (openFiles : OpenFiles)

/-- The counters of a current entry are its holders. -/
structure Live (key : String) (ref : EntryRef) : Prop where
  le : ref ≤ c.seq
  name : ∃ nanos, (c.heap ref).filePath = .cached ⟨key, nanos, ref⟩
  directory : (c.heap ref).expandedDirectoryPath = .empty ∨
    (c.heap ref).expandedDirectoryPath = .expanded (c.heap ref).filePath
  directoryCount : (c.heap ref).directoryInUseCount = held key (.expanded (c.heap ref).filePath)
  fileCount : (c.heap ref).fileInUseCount = openFiles ref

/-- The directory counter of an old entry is one less than its holders. -/
structure Old (key : String) (path : Path) (ref : EntryRef) : Prop where
  le : ref ≤ c.seq
  notCurrent : ∀ key', c.entries.lookup key' ≠ some ref
  name : ∃ nanos, path = .expanded (.cached ⟨key, nanos, ref⟩)
  count : 0 < held key path → (c.heap ref).expandedDirectoryPath = path ∧
    (c.heap ref).directoryInUseCount + 1 = held key path

/-- A directory that is held is there, and belongs to the current entry or to an old one. -/
structure Kept (key : String) (path : Path) : Prop where
  disk : c.disk path = true
  entry : ∃ ref nanos, path = .expanded (.cached ⟨key, nanos, ref⟩) ∧
    ((c.entries.lookup key = some ref ∧ (c.heap ref).expandedDirectoryPath = path) ∨
      c.oldEntries.lookup (key, path) = some ref)

structure Tracks : Prop where
  owned : ∀ ref, Owned ref (c.heap ref)
  live : ∀ key ref, c.entries.lookup key = some ref → Live c held openFiles key ref
  old : ∀ key path ref, c.oldEntries.lookup (key, path) = some ref → Old c held key path ref
  kept : ∀ key path, 0 < held key path → Kept c key path
  unopened : ∀ ref, c.seq < ref → openFiles ref = 0

end Tracks

section Tracks

variable {c : FileCache} {held : Held} {openFiles : OpenFiles}

variable {c' : FileCache} {held' : Held} {openFiles' : OpenFiles} {key : String} {ref : EntryRef}
  {path : Path} {method : FileCacheEntry → Disk → FileCacheEntry × Disk}

/-- Nothing has happened to a current entry and to its holders. -/
theorem Live.congr (h : Live c held openFiles key ref) (hseq : c.seq ≤ c'.seq)
    (hheap : c'.heap ref = c.heap ref)
    (hheld : ∀ path, path.owner = some ref → held' key path = held key path)
    (hopen : openFiles' ref = openFiles ref) : Live c' held' openFiles' key ref := by
  obtain ⟨nanos, hname⟩ := h.name
  refine ⟨le_trans h.le hseq, ?_, ?_, ?_, ?_⟩
  · rw [hheap]
    exact ⟨nanos, hname⟩
  · rw [hheap]
    exact h.directory
  · rw [hheap, hheld, h.directoryCount]
    rw [hname]
    rfl
  · rw [hheap, hopen]
    exact h.fileCount

/-- Nothing has happened to an old entry and to its holders. -/
theorem Old.congr (h : Old c held key path ref) (hseq : c.seq ≤ c'.seq)
    (hnot : ∀ key', c'.entries.lookup key' ≠ some ref) (hheap : c'.heap ref = c.heap ref)
    (hheld : held' key path = held key path) : Old c' held' key path ref := by
  refine ⟨le_trans h.le hseq, hnot, h.name, ?_⟩
  rw [hheap, hheld]
  exact h.count

/-- Nothing has happened to a directory that is held, and to the entry it belongs to. -/
theorem Kept.congr (h : Kept c key path) (hdisk : c'.disk path = c.disk path)
    (hheap : ∀ ref, path.owner = some ref → c'.heap ref = c.heap ref)
    (hcurrent : ∀ ref, path.owner = some ref → c.entries.lookup key = some ref →
      c'.entries.lookup key = some ref)
    (hold : ∀ ref, path.owner = some ref → c.oldEntries.lookup (key, path) = some ref →
      c'.oldEntries.lookup (key, path) = some ref) : Kept c' key path := by
  obtain ⟨hexists, ref, nanos, hname, hentry⟩ := h
  have howner : path.owner = some ref := by
    rw [hname]
    rfl
  refine ⟨hdisk.trans hexists, ref, nanos, hname, ?_⟩
  rw [hheap ref howner]
  exact hentry.imp (And.imp_left (hcurrent ref howner)) (hold ref howner)

/-- What is held belongs to an entry that was made. -/
theorem Tracks.owner_le (h : Tracks c held openFiles) (howner : path.owner = some ref)
    (hpositive : 0 < held key path) : ref ≤ c.seq := by
  obtain ⟨-, other, nanos, rfl, hentry⟩ := h.kept key path hpositive
  obtain rfl : other = ref := Option.some.inj howner
  rcases hentry with ⟨hcurrent, -⟩ | hold
  · exact (h.live _ _ hcurrent).le
  · exact (h.old _ _ _ hold).le

theorem Old.owner (h : Old c held key path ref) : path.owner = some ref := by
  obtain ⟨nanos, rfl⟩ := h.name
  rfl

/-- A method of one entry keeps the invariant if it does so for this entry. -/
theorem Tracks.onEntry (h : Tracks c held openFiles)
    (hlocal : Local ref c.disk (method (c.heap ref) c.disk))
    (hheld : ∀ key path, path.owner ≠ some ref → held' key path = held key path)
    (hopen : ∀ other, other ≠ ref → openFiles' other = openFiles other)
    (hlive : ∀ key, c.entries.lookup key = some ref →
      Live (c.onEntry ref method) held' openFiles' key ref)
    (hold : ∀ key path, c.oldEntries.lookup (key, path) = some ref →
      Old (c.onEntry ref method) held' key path ref)
    (hkept : ∀ key path, path.owner = some ref → 0 < held' key path →
      Kept (c.onEntry ref method) key path) (hunopened : c.seq < ref → openFiles' ref = 0) :
    Tracks (c.onEntry ref method) held' openFiles' := by
  have hheap : ∀ other, other ≠ ref → (c.onEntry ref method).heap other = c.heap other := by
    intro other hother
    exact Function.update_of_ne hother _ _
  have hne {path : Path} {other : EntryRef} (howner : path.owner = some other)
      (hother : other ≠ ref) : path.owner ≠ some ref := by
    rw [howner]
    exact fun heq => hother (Option.some.inj heq)
  refine ⟨?_, ?_, ?_, ?_, ?_⟩
  · intro other
    by_cases hother : other = ref
    · subst hother
      simpa [onEntry] using hlocal.owned
    · rw [hheap other hother]
      exact h.owned other
  · intro key other hlookup
    by_cases hother : other = ref
    · subst hother
      exact hlive key hlookup
    · refine (h.live key other hlookup).congr le_rfl (hheap other hother) ?_ (hopen other hother)
      intro path howner
      exact hheld key path (hne howner hother)
  · intro key path other hlookup
    by_cases hother : other = ref
    · subst hother
      exact hold key path hlookup
    · have hbefore := h.old key path other hlookup
      exact hbefore.congr le_rfl hbefore.notCurrent (hheap other hother)
        (hheld key path (hne hbefore.owner hother))
  · intro key path hpositive
    by_cases howner : path.owner = some ref
    · exact hkept key path howner hpositive
    · rw [hheld key path howner] at hpositive
      have hkeep := h.kept key path hpositive
      obtain ⟨other, nanos, hname, -⟩ := hkeep.entry
      have hother {other : EntryRef} (howner' : path.owner = some other) : other ≠ ref := by
        rintro rfl
        exact howner howner'
      have howner' : path.owner = some other := by
        rw [hname]
        rfl
      exact hkeep.congr (hlocal.disk path other howner' (hother howner'))
        (fun other howner' => hheap other (hother howner')) (fun _ _ => id) fun _ _ => id
  · intro other hlt
    by_cases hother : other = ref
    · subst hother
      exact hunopened hlt
    · rw [hopen other hother]
      exact h.unopened other hlt

@[simp] theorem FileCache.heap_onEntry :
    (c.onEntry ref method).heap ref = (method (c.heap ref) c.disk).1 := by
  simp [onEntry]

section

variable (h : Tracks c held openFiles) {key' : String}
  {method : FileCacheEntry → Disk → FileCacheEntry × Disk}
include h

theorem Tracks.key_eq (hlookup : c.entries.lookup key = some ref)
    (hlookup' : c.entries.lookup key' = some ref) : key' = key := by
  obtain ⟨nanos, hname⟩ := (h.live key ref hlookup).name
  obtain ⟨nanos', hname'⟩ := (h.live key' ref hlookup').name
  have hnames := hname'.symm.trans hname
  simp only [Path.cached.injEq, UniqueName.mk.injEq] at hnames
  exact hnames.1

theorem Tracks.held_current (hlookup : c.entries.lookup key = some ref)
    (howner : path.owner = some ref) (hpositive : 0 < held key' path) :
    key' = key ∧ path = .expanded (c.heap ref).filePath ∧
      (c.heap ref).expandedDirectoryPath = path ∧ c.disk path = true := by
  obtain ⟨hdisk, other, nanos, rfl, hentry⟩ := h.kept key' path hpositive
  obtain rfl : other = ref := Option.some.inj howner
  rcases hentry with ⟨hlookup', hdirectory⟩ | hold
  · refine ⟨h.key_eq hlookup hlookup', ?_, hdirectory, hdisk⟩
    rcases (h.live key' other hlookup').directory with hempty | hexpanded
    · rw [hempty] at hdirectory
      simp at hdirectory
    · rw [← hexpanded, hdirectory]
  · exact absurd hlookup ((h.old _ _ _ hold).notCurrent key)

/-- A method that leaves the directory and its counter alone. -/
theorem Tracks.onFile (hlocal : Local ref c.disk (method (c.heap ref) c.disk))
    (hpath : (method (c.heap ref) c.disk).1.filePath = (c.heap ref).filePath)
    (hdirectory : (method (c.heap ref) c.disk).1.expandedDirectoryPath =
      (c.heap ref).expandedDirectoryPath)
    (hcount : (method (c.heap ref) c.disk).1.directoryInUseCount = (c.heap ref).directoryInUseCount)
    (hfile : ∀ key, c.entries.lookup key = some ref →
      (method (c.heap ref) c.disk).1.fileInUseCount = openFiles' ref)
    (hopen : ∀ other, other ≠ ref → openFiles' other = openFiles other)
    (hunopened : c.seq < ref → openFiles' ref = 0)
    (hdisk : ∀ key path, path.owner = some ref → 0 < held key path →
      (method (c.heap ref) c.disk).2 path = c.disk path) :
    Tracks (c.onEntry ref method) held openFiles' := by
  refine h.onEntry hlocal (fun _ _ _ => rfl) hopen ?_ ?_ ?_ hunopened
  · intro key hlookup
    obtain ⟨hle, hname, hdirectory', hcount', -⟩ := h.live key ref hlookup
    refine ⟨hle, ?_, ?_, ?_, ?_⟩
    · rw [heap_onEntry, hpath]
      exact hname
    · rw [heap_onEntry, hpath, hdirectory]
      exact hdirectory'
    · rw [heap_onEntry, hpath, hcount]
      exact hcount'
    · rw [heap_onEntry]
      exact hfile key hlookup
  · intro key path hlookup
    obtain ⟨hle, hnot, hname, hcount'⟩ := h.old key path ref hlookup
    refine ⟨hle, hnot, hname, ?_⟩
    rw [heap_onEntry, hdirectory, hcount]
    exact hcount'
  · intro key path howner hpositive
    obtain ⟨hexists, other, nanos, hname, hentry⟩ := h.kept key path hpositive
    refine ⟨(hdisk key path howner hpositive).trans hexists, other, nanos, hname, ?_⟩
    obtain rfl : other = ref := by
      rw [hname] at howner
      exact Option.some.inj howner
    rw [heap_onEntry, hdirectory]
    exact hentry

/-- The time of the last access and the size do not matter. -/
theorem Tracks.onMetadata (hlookup : c.entries.lookup key = some ref)
    (hmethod : ∀ e disk, ∃ size access,
      method e disk = ({ e with size := size, access := access }, disk)) :
    Tracks (c.onEntry ref method) held openFiles := by
  obtain ⟨size, access, heq⟩ := hmethod (c.heap ref) c.disk
  have hlive := h.live key ref hlookup
  refine h.onFile ?_ ?_ ?_ ?_ ?_ (fun _ _ => rfl) ?_ ?_
  · rw [heq]
    exact ⟨⟨(h.owned ref).file, (h.owned ref).directory⟩, fun _ _ _ _ => rfl⟩
  · rw [heq]
  · rw [heq]
  · rw [heq]
  · intro _ _
    rw [heq]
    exact hlive.fileCount
  · exact fun hlt => absurd hlive.le (not_le.mpr hlt)
  · intro _ _ _ _
    rw [heq]

end

end Tracks

/-! ## What the methods do to the directory -/

namespace FileCacheEntry

variable (e : FileCacheEntry) (disk : Disk)

theorem readCloser_eq :
    ∃ size, (e.readCloser disk).1 =
      { e with size := size, fileInUseCount := e.fileInUseCount + 1 } := by
  unfold readCloser incrementFileInUseCount
  split
  · split
    · exact ⟨e.size, rfl⟩
    · exact ⟨e.size * 2, rfl⟩
  · exact ⟨e.size, rfl⟩

theorem disk_readCloser (hfile : path ≠ e.filePath) (hused : e.directoryInUseCount ≠ 0) :
    (e.readCloser disk).2 path = disk path := by
  unfold readCloser
  split
  · exact Disk.create_of_ne hfile
  · rfl

/-- Expanding gives the directory beside the tarball, whether it is there or not. -/
theorem expandedDirectory_eq (hdirectory : e.expandedDirectoryPath = .empty ∨
      e.expandedDirectoryPath = .expanded e.filePath) :
    (e.expandedDirectory disk).1 =
        { e with
          expandedDirectoryPath := .expanded e.filePath
          directoryInUseCount := e.directoryInUseCount + 1 } ∧
      (e.expandedDirectory disk).2 (.expanded e.filePath) = true := by
  have hne : Path.expanded e.filePath ≠ e.filePath := by
    intro heq
    have hsize := congrArg sizeOf heq
    simp at hsize
  unfold expandedDirectory incrementDirectoryInUseCount
  dsimp only
  split
  · split
    · exact ⟨rfl, (Disk.removeAll_of_ne hne).trans Disk.create_self⟩
    · exact ⟨rfl, Disk.create_self⟩
  · rename_i hexists
    simp only [dirDoesNotExist, Bool.or_eq_true, decide_eq_true_eq, Bool.not_eq_true', not_or,
      Bool.not_eq_false] at hexists
    have hpath := hdirectory.resolve_left hexists.1
    rw [hpath] at hexists
    refine ⟨?_, hexists.2⟩
    rw [← hpath]

theorem decrementFileInUseCount_eq :
    ∃ size, (e.decrementFileInUseCount disk).1 =
      { e with size := size, fileInUseCount := e.fileInUseCount - 1 } := by
  unfold decrementFileInUseCount
  dsimp only
  split
  · exact ⟨_, rfl⟩
  · exact ⟨e.size, rfl⟩

theorem disk_decrementFileInUseCount (hfile : path ≠ e.filePath) :
    (e.decrementFileInUseCount disk).2 path = disk path := by
  unfold decrementFileInUseCount
  dsimp only
  split
  · exact Disk.removeAll_of_ne hfile
  · rfl

/-- A close after which the directory goes. -/
def ClosesLast (e : FileCacheEntry) : Prop :=
  e.directoryInUseCount ≤ 0 ∨ (e.directoryInUseCount = 1 ∧ 0 < e.fileInUseCount)

/-- The counter drops by one, and the directory goes with the last close. -/
theorem decrementDirectoryInUseCount_spec :
    (e.decrementDirectoryInUseCount disk).1.filePath = e.filePath ∧
      (e.decrementDirectoryInUseCount disk).1.fileInUseCount = e.fileInUseCount ∧
      (e.decrementDirectoryInUseCount disk).1.directoryInUseCount = e.directoryInUseCount - 1 ∧
      ((e.ClosesLast ∧ (e.decrementDirectoryInUseCount disk).1.expandedDirectoryPath = .empty ∧
          (e.decrementDirectoryInUseCount disk).2 = disk.removeAll e.expandedDirectoryPath) ∨
        (¬ e.ClosesLast ∧ (e.decrementDirectoryInUseCount disk).1.expandedDirectoryPath =
            e.expandedDirectoryPath ∧
          (e.decrementDirectoryInUseCount disk).2 = disk)) := by
  have hguard : e.directoryInUseCount - 1 < 0 ∨
      (e.directoryInUseCount - 1 = 0 ∧ e.fileInUseCount > 0) ↔ e.ClosesLast := by
    unfold ClosesLast
    omega
  unfold decrementDirectoryInUseCount
  by_cases hlast : e.ClosesLast
  · rw [if_pos (hguard.mpr hlast)]
    exact ⟨rfl, rfl, rfl, Or.inl ⟨hlast, rfl, rfl⟩⟩
  · rw [if_neg (mt hguard.mp hlast)]
    exact ⟨rfl, rfl, rfl, Or.inr ⟨hlast, rfl, rfl⟩⟩

end FileCacheEntry

/-! ## Opening and closing -/

def Held.acquire (held : Held) (key : String) (path : Path) : Held :=
  fun key' path' => if key' = key ∧ path' = path then held key path + 1 else held key' path'

def Held.release (held : Held) (key : String) (path : Path) : Held :=
  fun key' path' => if key' = key ∧ path' = path then held key path - 1 else held key' path'

variable (held : Held) (key : String) {key' : String} {path path' : Path}

theorem Held.acquire_self : held.acquire key path key path = held key path + 1 := by
  simp [Held.acquire]

theorem Held.release_self : held.release key path key path = held key path - 1 := by
  simp [Held.release]

theorem Held.acquire_of_ne {key : String} (h : ¬ (key' = key ∧ path' = path)) :
    held.acquire key path key' path' = held key' path' :=
  if_neg h

theorem Held.le_acquire : held key' path' ≤ held.acquire key path key' path' := by
  unfold Held.acquire
  split
  · rename_i hsame
    rw [hsame.1, hsame.2]
    exact Nat.le_succ _
  · exact le_rfl

theorem Held.release_of_ne {key : String} (h : ¬ (key' = key ∧ path' = path)) :
    held.release key path key' path' = held key' path' :=
  if_neg h

section Operations

variable {c : FileCache} {held : Held} {openFiles : OpenFiles}

variable {key : String} {path : Path} {ref : EntryRef}

section

variable (h : Tracks c held openFiles)
include h

theorem Tracks.directory_ne_file (hpositive : 0 < held key path) :
    path ≠ (c.heap ref).filePath := by
  obtain ⟨-, other, nanos, rfl, -⟩ := h.kept key path hpositive
  intro heq
  rcases (h.owned ref).file with hfile | ⟨key', nanos', hfile⟩
  · rw [hfile] at heq
    simp at heq
  · rw [hfile] at heq
    simp at heq

/-- Reading the file of a current entry opens one more. -/
theorem Tracks.readCloser (hlookup : c.entries.lookup key = some ref) :
    Tracks (c.onEntry ref readCloser) held (Function.update openFiles ref (openFiles ref + 1)) := by
  obtain ⟨size, heq⟩ := (c.heap ref).readCloser_eq c.disk
  have hlive := h.live key ref hlookup
  refine h.onFile ((h.owned ref).readCloser c.disk) (by rw [heq]) (by rw [heq]) (by rw [heq])
    ?_ (fun other hother => Function.update_of_ne hother _ _) ?_ ?_
  · rw [heq, Function.update_self]
    have hcount := hlive.fileCount
    push_cast
    omega
  · exact fun hlt => absurd hlive.le (not_le.mpr hlt)
  · intro key' path howner hpositive
    obtain ⟨rfl, rfl, -, -⟩ := h.held_current hlookup howner hpositive
    refine disk_readCloser _ _ (h.directory_ne_file hpositive) ?_
    rw [hlive.directoryCount]
    omega

/-- A file may be closed whatever has become of its entry. -/
theorem Tracks.closeFile (hopen : 0 < openFiles ref) :
    Tracks (c.closeFile ref) held (Function.update openFiles ref (openFiles ref - 1)) := by
  obtain ⟨size, heq⟩ := (c.heap ref).decrementFileInUseCount_eq c.disk
  refine h.onFile ((h.owned ref).decrementFileInUseCount c.disk) (by rw [heq]) (by rw [heq])
    (by rw [heq]) ?_ (fun other hother => Function.update_of_ne hother _ _) ?_ ?_
  · intro key hlookup
    rw [heq, Function.update_self]
    have hcount := (h.live key ref hlookup).fileCount
    dsimp only
    omega
  · intro hlt
    rw [Function.update_self, h.unopened ref hlt]
  · intro key path howner hpositive
    exact disk_decrementFileInUseCount _ _ (h.directory_ne_file hpositive)

/-- The directory of a current entry gets one more holder. -/
theorem Tracks.expandedDirectory (hlookup : c.entries.lookup key = some ref) :
    Tracks (c.onEntry ref expandedDirectory)
        (held.acquire key (.expanded (c.heap ref).filePath)) openFiles ∧
      ((c.onEntry ref expandedDirectory).heap ref).expandedDirectoryPath =
        .expanded (c.heap ref).filePath := by
  have hlive := h.live key ref hlookup
  obtain ⟨nanos, hname⟩ := hlive.name
  obtain ⟨heq, hdisk⟩ := (c.heap ref).expandedDirectory_eq c.disk hlive.directory
  refine ⟨?_, by rw [heap_onEntry, heq]⟩
  refine h.onEntry ((h.owned ref).expandedDirectory c.disk hname) ?_ (fun _ _ => rfl) ?_ ?_ ?_
    (fun hlt => absurd hlive.le (not_le.mpr hlt))
  · intro key' path howner
    refine Held.acquire_of_ne _ ?_
    rintro ⟨-, rfl⟩
    exact howner (by rw [hname]; rfl)
  · intro key' hlookup'
    obtain rfl := h.key_eq hlookup hlookup'
    refine ⟨hlive.le, ?_, ?_, ?_, ?_⟩
    · rw [heap_onEntry, heq]
      exact ⟨nanos, hname⟩
    · rw [heap_onEntry, heq]
      exact Or.inr rfl
    · rw [heap_onEntry, heq]
      rw [Held.acquire_self, hlive.directoryCount]
      rfl
    · rw [heap_onEntry, heq]
      exact hlive.fileCount
  · intro key' path hold
    exact absurd hlookup ((h.old key' path ref hold).notCurrent key)
  · intro key' path howner hpositive
    by_cases hsame : key' = key ∧ path = .expanded (c.heap ref).filePath
    · obtain ⟨rfl, rfl⟩ := hsame
      refine ⟨hdisk, ref, nanos, by rw [hname], Or.inl ⟨hlookup, ?_⟩⟩
      rw [heap_onEntry, heq]
    · rw [Held.acquire_of_ne _ hsame] at hpositive
      obtain ⟨rfl, rfl, -, -⟩ := h.held_current hlookup howner hpositive
      exact absurd ⟨rfl, rfl⟩ hsame

theorem Tracks.closeCurrent (hlookup : c.entries.lookup key = some ref)
    (hpositive : 0 < held key (c.heap ref).expandedDirectoryPath) :
    Tracks (c.onEntry ref decrementDirectoryInUseCount)
      (held.release key (c.heap ref).expandedDirectoryPath) openFiles := by
  have hlive := h.live key ref hlookup
  obtain ⟨nanos, hname⟩ := hlive.name
  have howner : (c.heap ref).expandedDirectoryPath.owner = some ref := by
    rcases (h.owned ref).directory with hempty | ⟨key', nanos', hdirectory⟩
    · obtain ⟨-, other, nanos', hpath, -⟩ := h.kept _ _ hpositive
      rw [hempty] at hpath
      simp at hpath
    · rw [hdirectory]
      rfl
  obtain ⟨-, hpath, -, hexists⟩ := h.held_current hlookup howner hpositive
  have hcount := hlive.directoryCount
  rw [← hpath] at hcount
  have hother : ∀ key' path, path.owner = some ref →
      0 < held.release key (c.heap ref).expandedDirectoryPath key' path →
      key' = key ∧ path = (c.heap ref).expandedDirectoryPath := by
    intro key' path howner' hpositive'
    by_contra hne
    rw [Held.release_of_ne _ hne] at hpositive'
    obtain ⟨hkey, hexpanded, -, -⟩ := h.held_current hlookup howner' hpositive'
    exact hne ⟨hkey, hexpanded.trans hpath.symm⟩
  obtain ⟨hfile, hfileCount, hcount', hcase⟩ :=
    (c.heap ref).decrementDirectoryInUseCount_spec c.disk
  refine h.onEntry ((h.owned ref).decrementDirectoryInUseCount c.disk) ?_ (fun _ _ => rfl) ?_ ?_
    ?_ (fun hlt => absurd hlive.le (not_le.mpr hlt))
  · intro key' path hne
    refine Held.release_of_ne _ ?_
    rintro ⟨-, rfl⟩
    exact hne howner
  · intro key' hlookup'
    obtain rfl := h.key_eq hlookup hlookup'
    refine ⟨hlive.le, ?_, ?_, ?_, ?_⟩
    · rw [heap_onEntry, hfile]
      exact ⟨nanos, hname⟩
    · rw [heap_onEntry, hfile]
      rcases hcase with ⟨-, hempty, -⟩ | ⟨-, hsame, -⟩
      · exact Or.inl hempty
      · exact Or.inr (hsame.trans hpath)
    · rw [heap_onEntry, hfile, ← hpath, Held.release_self]
      omega
    · rw [heap_onEntry, hfileCount]
      exact hlive.fileCount
  · intro key' path hold
    exact absurd hlookup ((h.old key' path ref hold).notCurrent key)
  · intro key' path howner' hpositive'
    obtain ⟨rfl, rfl⟩ := hother key' path howner' hpositive'
    rw [Held.release_self] at hpositive'
    rcases hcase with ⟨hlast, -, -⟩ | ⟨-, hsame, hdisk⟩
    · -- with a holder left, this is not the last close
      unfold FileCacheEntry.ClosesLast at hlast
      omega
    · refine ⟨?_, ref, nanos, by rw [hpath, hname], Or.inl ⟨hlookup, ?_⟩⟩
      · exact (congrFun hdisk _).trans hexists
      · rw [heap_onEntry]
        exact hsame

/-- What is held of an entry that is not current is its directory, as an old entry. -/
theorem Tracks.held_old (hnot : ∀ key, c.entries.lookup key ≠ some ref)
    (howner : path.owner = some ref) (hpositive : 0 < held key path) :
    c.oldEntries.lookup (key, path) = some ref ∧ (c.heap ref).expandedDirectoryPath = path ∧
      (c.heap ref).directoryInUseCount + 1 = held key path ∧ c.disk path = true := by
  obtain ⟨hdisk, other, nanos, rfl, hentry⟩ := h.kept key path hpositive
  obtain rfl : other = ref := Option.some.inj howner
  rcases hentry with ⟨hlookup, -⟩ | hold
  · exact absurd hlookup (hnot key)
  · obtain ⟨hdirectory, hcount⟩ := (h.old _ _ _ hold).count hpositive
    exact ⟨hold, hdirectory, hcount, hdisk⟩

/-- At most one directory of an old entry is held, for one key. -/
theorem Tracks.held_old_unique {key' : String} {path' : Path}
    (hnot : ∀ key, c.entries.lookup key ≠ some ref) (howner : path.owner = some ref)
    (hpositive : 0 < held key path) (howner' : path'.owner = some ref)
    (hpositive' : 0 < held key' path') : key' = key ∧ path' = path := by
  obtain ⟨hold, hdirectory, -, -⟩ := h.held_old hnot howner hpositive
  obtain ⟨hold', hdirectory', -, -⟩ := h.held_old hnot howner' hpositive'
  obtain rfl := hdirectory'.symm.trans hdirectory
  obtain ⟨nanos, hname⟩ := (h.old _ _ _ hold).name
  obtain ⟨nanos', hname'⟩ := (h.old _ _ _ hold').name
  have hnames := hname'.symm.trans hname
  simp only [Path.expanded.injEq, Path.cached.injEq, UniqueName.mk.injEq] at hnames
  exact ⟨hnames.1, rfl⟩

/-- A directory without holders may be forgotten. -/
theorem Tracks.eraseOld (hzero : held key path = 0) :
    Tracks { c with oldEntries := c.oldEntries.erase (key, path) } held openFiles := by
  refine ⟨h.owned, ?_, ?_, ?_, h.unopened⟩
  · intro key' ref hlookup
    exact (h.live key' ref hlookup).congr le_rfl rfl (fun _ _ => rfl) rfl
  · intro key' path' ref hlookup
    have hold := h.old key' path' ref (GoMap.lookup_erase_eq_some.mp hlookup).2
    exact hold.congr le_rfl hold.notCurrent rfl rfl
  · intro key' path' hpositive
    refine (h.kept key' path' hpositive).congr rfl (fun _ _ => rfl) (fun _ _ => id) ?_
    intro ref _ hold
    refine GoMap.lookup_erase_eq_some.mpr ⟨?_, hold⟩
    rintro heq
    obtain ⟨rfl, rfl⟩ := Prod.mk.inj heq
    omega

end

section CloseOld

variable {key : String} {path : Path} {ref : EntryRef}

section

variable (h : Tracks c held openFiles)
include h

/-- What is still held of an old entry after a close is this directory, and it has stayed, if
the counter did not drop to zero. -/
theorem Tracks.stays_of_release (hpositive : 0 < held key path)
    (hlookup : c.oldEntries.lookup (key, path) = some ref)
    (hcareful : (c.heap ref).directoryInUseCount ≠ 1) {key' : String} {path' : Path}
    (howner' : path'.owner = some ref) (hpositive' : 0 < held.release key path key' path') :
    key' = key ∧ path' = path ∧ 2 ≤ held key path ∧
      ((c.heap ref).decrementDirectoryInUseCount c.disk).1.expandedDirectoryPath = path ∧
      ((c.heap ref).decrementDirectoryInUseCount c.disk).2 = c.disk := by
  have hold := h.old key path ref hlookup
  obtain ⟨-, hdirectory, hcount, -⟩ := h.held_old hold.notCurrent hold.owner hpositive
  obtain ⟨-, -, -, hcase⟩ := (c.heap ref).decrementDirectoryInUseCount_spec c.disk
  have hsame : key' = key ∧ path' = path := by
    by_contra hne
    rw [Held.release_of_ne _ hne] at hpositive'
    exact hne (h.held_old_unique hold.notCurrent hold.owner hpositive howner' hpositive')
  obtain ⟨rfl, rfl⟩ := hsame
  rw [Held.release_self] at hpositive'
  rcases hcase with ⟨hlast, -, -⟩ | ⟨-, hkeep, hdisk⟩
  · unfold FileCacheEntry.ClosesLast at hlast
    omega
  · exact ⟨rfl, rfl, by omega, hkeep.trans hdirectory, hdisk⟩

/-- The counter of an old entry drops, but not to zero. -/
theorem Tracks.decrementOld (hpositive : 0 < held key path)
    (hlookup : c.oldEntries.lookup (key, path) = some ref)
    (hcareful : (c.heap ref).directoryInUseCount ≠ 1) :
    Tracks (c.onEntry ref decrementDirectoryInUseCount) (held.release key path) openFiles := by
  have hold := h.old key path ref hlookup
  obtain ⟨-, -, hcount, hexists⟩ := h.held_old hold.notCurrent hold.owner hpositive
  obtain ⟨-, -, hcount', -⟩ := (c.heap ref).decrementDirectoryInUseCount_spec c.disk
  refine h.onEntry ((h.owned ref).decrementDirectoryInUseCount c.disk) ?_ (fun _ _ => rfl) ?_ ?_
    ?_ (fun hlt => absurd hold.le (not_le.mpr hlt))
  · intro key' path' hne
    refine Held.release_of_ne _ ?_
    rintro ⟨-, rfl⟩
    exact hne hold.owner
  · intro key' hcurrent
    exact absurd hcurrent (hold.notCurrent key')
  · intro key' path' hlookup'
    have hold' := h.old key' path' ref hlookup'
    refine ⟨hold'.le, hold'.notCurrent, hold'.name, ?_⟩
    intro hpositive'
    obtain ⟨rfl, rfl, htwo, hkeep, -⟩ :=
      h.stays_of_release hpositive hlookup hcareful hold'.owner hpositive'
    rw [heap_onEntry, Held.release_self]
    exact ⟨hkeep, by omega⟩
  · intro key' path' howner' hpositive'
    obtain ⟨rfl, rfl, -, -, hdisk⟩ :=
      h.stays_of_release hpositive hlookup hcareful howner' hpositive'
    obtain ⟨nanos, hname⟩ := hold.name
    exact ⟨(congrFun hdisk _).trans hexists, ref, nanos, hname, Or.inr hlookup⟩

theorem Tracks.discard (hold : c.oldEntries.lookup (key, path) = some ref)
    (hnone : ∀ key' path', path'.owner = some ref → held key' path' = 0) :
    Tracks (c.onEntry ref discard) held openFiles := by
  have hentry := h.old key path ref hold
  refine h.onEntry ((h.owned ref).discard _) (fun _ _ _ => rfl) (fun _ _ => rfl) ?_ ?_ ?_
    (fun hlt => absurd hentry.le (not_le.mpr hlt))
  · intro key' hcurrent
    exact absurd hcurrent (hentry.notCurrent key')
  · intro key' path' hlookup'
    have hold' := h.old key' path' ref hlookup'
    refine ⟨hold'.le, hold'.notCurrent, hold'.name, ?_⟩
    rw [hnone key' path' hold'.owner]
    exact fun hpositive' => absurd hpositive' (lt_irrefl 0)
  · intro key' path' howner' hpositive'
    rw [hnone key' path' howner'] at hpositive'
    exact absurd hpositive' (lt_irrefl 0)

/-- One holder of an old directory closes it.  The counter must not drop to zero, which
stands for one holder left and is taken for unused. -/
theorem Tracks.closeOldDirectory (hpositive : 0 < held key path)
    (hlookup : c.oldEntries.lookup (key, path) = some ref)
    (hcareful : (c.heap ref).directoryInUseCount ≠ 1) :
    Tracks (c.closeOldDirectory key path).1 (held.release key path) openFiles := by
  have hstep := h.decrementOld hpositive hlookup hcareful
  have hold := h.old key path ref hlookup
  unfold FileCache.closeOldDirectory
  rw [hlookup]
  dsimp only
  split
  · rename_i hunused
    -- unused means that the counter is negative: nobody holds the directory any more
    have hnone : ∀ key' path', path'.owner = some ref → held.release key path key' path' = 0 := by
      intro key' path' howner'
      by_contra hne
      obtain ⟨rfl, rfl, htwo, -, -⟩ := h.stays_of_release hpositive hlookup hcareful howner'
        (Nat.pos_of_ne_zero hne)
      obtain ⟨-, hcount⟩ := hold.count hpositive
      obtain ⟨-, -, hcount', -⟩ := (c.heap ref).decrementDirectoryInUseCount_spec c.disk
      rw [FileCache.heap_onEntry] at hunused
      simp only [inUse, Bool.not_eq_true', Bool.or_eq_false_iff, decide_eq_false_iff_not] at hunused
      omega
    exact (hstep.discard hlookup hnone).eraseOld (hnone key path hold.owner)
  · exact hstep

end

end CloseOld

end Operations

end Diego.CachedDownloader
