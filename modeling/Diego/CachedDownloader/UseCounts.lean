import Diego.CachedDownloader.LastAdded

/-!
# The counts of the current entries

The counts of all current entries are one function of their references (`Counted`).  Each call of
the cache changes this function at one place or not at all; the entries that the call retires are
not current any more.  In every state that calls lead to, whatever has failed, no directory of a
current entry was closed too often (`wellFormed_of_reaches`).
-/

namespace Diego.CachedDownloader

open FileCacheEntry Function Option

variable {Bytes Tree : Type}

/-! ## Counts -/

/-- The two counts of an entry. -/
@[ext]
structure UseCounts where
  directory : Int
  file : Int
  deriving DecidableEq

def FileCacheEntry.useCounts (e : FileCacheEntry) : UseCounts :=
  ⟨e.directoryInUseCount, e.fileInUseCount⟩

abbrev EntryCounts := EntryRef → UseCounts

namespace EntryCounts

variable (counts : EntryCounts) (ref : EntryRef) (n : Int)

def addFile : EntryCounts :=
  Function.update counts ref ⟨(counts ref).directory, (counts ref).file + n⟩

def addDirectory : EntryCounts :=
  Function.update counts ref ⟨(counts ref).directory + n, (counts ref).file⟩

@[simp] theorem addFile_zero : counts.addFile ref 0 = counts := by
  unfold addFile
  rw [Int.add_zero]
  exact update_eq_self ref counts

@[simp] theorem addDirectory_zero : counts.addDirectory ref 0 = counts := by
  unfold addDirectory
  rw [Int.add_zero]
  exact update_eq_self ref counts

theorem addFile_addFile_neg : (counts.addFile ref n).addFile ref (-n) = counts := by
  unfold addFile
  rw [update_self, update_idem, Int.add_neg_cancel_right]
  exact update_eq_self ref counts

theorem addDirectory_addDirectory_neg :
    (counts.addDirectory ref n).addDirectory ref (-n) = counts := by
  unfold addDirectory
  rw [update_self, update_idem, Int.add_neg_cancel_right]
  exact update_eq_self ref counts

end EntryCounts

/-- The counts of every entry that has been made; a new one has none. -/
def Stored.counts (s : Stored Bytes Tree) : EntryCounts :=
  fun ref => if ref ≤ s.cache.seq then (s.cache.heap ref).useCounts else ⟨0, 0⟩

def Stored.CurrentCounts (s : Stored Bytes Tree) (counts : EntryCounts) : Prop :=
  ∀ cacheKey ref, s.cache.entries.lookup cacheKey = some ref →
    (s.cache.heap ref).useCounts = counts ref

/-! ## Methods -/

namespace FileCacheEntry

variable (e : FileCacheEntry) (items : Items Bytes Tree) (archiver : Archiver Bytes Tree)
  {outcome : Expansion Tree}

theorem useCounts_openFile (outcome : Reading Bytes Tree) :
    (e.openFile items archiver outcome).1.1.useCounts = e.useCounts := by
  unfold openFile
  split
  · rfl
  · rfl
  · split
    · rfl
    · split
      · rfl
      · split <;> rfl

/-- `readCloser` counts the file that it has opened, whether or not it returns it. -/
theorem useCounts_read (outcome : Reading Bytes Tree) :
    (e.read items archiver outcome).1.1.useCounts =
      ⟨e.directoryInUseCount,
        e.fileInUseCount + if (e.openFile items archiver outcome).2.isSome then 1 else 0⟩ := by
  have hopen := e.useCounts_openFile items archiver outcome
  unfold read
  generalize e.openFile items archiver outcome = opened at hopen ⊢
  obtain ⟨⟨e', items'⟩, result⟩ := opened
  have hopen : e'.useCounts = e.useCounts := hopen
  obtain ⟨hdirectory, hfile⟩ := UseCounts.mk.inj hopen
  cases result with
  | none => simp [useCounts, hdirectory, hfile]
  | some content => simp [useCounts, incrementFileInUseCount, hdirectory, hfile]

/-- `expandedDirectory` counts a directory if and only if it returns one. -/
theorem useCounts_expand :
    (e.expand items archiver outcome).1.1.useCounts =
      ⟨e.directoryInUseCount + if (e.expand items archiver outcome).2.isSome then 1 else 0,
        e.fileInUseCount⟩ := by
  unfold expand
  split
  · split
    · simp [useCounts]
    · simp [useCounts, incrementDirectoryInUseCount]
  · split
    · simp [useCounts, incrementDirectoryInUseCount]
    · simp [useCounts]

variable (removal : Removal Tree)

theorem useCounts_releaseFile :
    (e.releaseFile items removal).1.useCounts = ⟨e.directoryInUseCount, e.fileInUseCount - 1⟩ := by
  unfold releaseFile
  dsimp only
  split <;> rfl

theorem useCounts_releaseDirectory :
    (e.releaseDirectory items removal).1.useCounts =
      ⟨e.directoryInUseCount - 1, e.fileInUseCount⟩ := by
  unfold releaseDirectory
  dsimp only
  split <;> rfl

end FileCacheEntry

/-! ## Calls -/

def Counted (counts : EntryCounts) : EntryProp Bytes Tree :=
  fun _ ref e _ => e.useCounts = counts ref

variable (counts : EntryCounts) (s : Stored Bytes Tree) (archiver : Archiver Bytes Tree)
  (env : Outcomes Bytes Tree) (key : String) (content : Bytes) (size : Int)
  (cachingInfo : CachingInfo)

theorem own_counted : (Counted counts : EntryProp Bytes Tree).Own :=
  fun _ _ _ _ _ _ h => h

theorem timeless_counted : (Counted counts : EntryProp Bytes Tree).Timeless :=
  fun _ _ _ _ _ _ h => h

section Calls

variable {archiver : Archiver Bytes Tree} {s : Stored Bytes Tree} {counts : EntryCounts}
  {env : Outcomes Bytes Tree} {key : String} {ref : EntryRef}

variable {Good : EntryProp Bytes Tree}

theorem Keeps.counts_eq (h : Keeps Good s) (hlookup : s.cache.entries.lookup key = some ref) :
    s.counts ref = (s.cache.heap ref).useCounts :=
  if_pos (h.le key ref hlookup)

theorem Keeps.counted (h : Keeps Good s) : Keeps (Counted s.counts) s :=
  h.mono fun _ _ hlookup _ => (h.counts_eq hlookup).symm

/-- A method of one entry changes the counts of this one only. -/
theorem Keeps.counted_put (h : Keeps (Counted counts) s)
    {result : FileCacheEntry × Items Bytes Tree} (hlocal : LocalItems ref s.items result)
    (hpath : result.1.filePath = (s.cache.heap ref).filePath) {count : UseCounts}
    (hcount : (s.cache.heap ref).useCounts = counts ref → result.1.useCounts = count) :
    Keeps (Counted (update counts ref count)) (s.put ref result) := by
  refine h.put (own_counted _) hlocal ?_ ?_
  · intro key other hne _ hcounts
    unfold Counted at hcounts ⊢
    rw [update_of_ne hne, hcounts]
  · intro key hlookup
    refine ⟨hpath, ?_⟩
    unfold Counted
    rw [update_self]
    exact hcount (h.good key ref hlookup)

theorem Keeps.counted_read (h : Keeps (Counted counts) s) (archiver : Archiver Bytes Tree)
    (ref : EntryRef) (outcome : Reading Bytes Tree) :
    Keeps (Counted (counts.addFile ref
        (if ((s.cache.heap ref).openFile s.items archiver outcome).2.isSome then 1 else 0)))
      (s.put ref ((s.cache.heap ref).read s.items archiver outcome).1) := by
  refine h.counted_put ((h.owned ref).read _ archiver)
    filePath_read ?_
  intro hcounts
  rw [useCounts_read, ← hcounts]
  rfl

/-- The entry whose file `Get` opens, whether or not it can seek in it then. -/
def Stored.opens (s : Stored Bytes Tree) (archiver : Archiver Bytes Tree)
    (env : Outcomes Bytes Tree) (key : String) : Option EntryRef :=
  (s.cache.entries.lookup key).filter fun ref =>
    let s := s.prepare env key ref ((s.cache.heap ref).fileDoesNotExist s.cache.disk)
    ((s.cache.heap ref).openFile s.items archiver env.reading).2.isSome

/-- `Get` counts the file that it opens, and returns it if `Seek` does not fail. -/
theorem Keeps.counted_get (h : Keeps (Counted counts) s) (archiver : Archiver Bytes Tree)
    (env : Outcomes Bytes Tree) (key : String) :
    Keeps (Counted ((s.opens archiver env key).elim counts fun ref => counts.addFile ref 1))
        (s.get archiver env key).1 ∧
      (s.get archiver env key).2.map Prod.fst =
        if env.reading.seek then s.opens archiver env key else none := by
  cases hlookup : s.cache.entries.lookup key with
  | none =>
    simp only [Stored.get_eq_none hlookup, Stored.opens, hlookup, filter_none, elim_none]
    exact ⟨h, (ite_self none).symm⟩
  | some ref =>
    rw [Stored.get_eq hlookup]
    simp only [Stored.opens, hlookup, filter_some]
    generalize (s.cache.heap ref).fileDoesNotExist s.cache.disk = missing
    have hs : Keeps (Counted counts) (s.prepare env key ref missing) :=
      h.prepare (own_counted counts) (timeless_counted counts)
    have hread := hs.counted_read archiver ref env.reading
    rw [read_snd]
    cases hopened : (((s.prepare env key ref missing).cache.heap ref).openFile
        (s.prepare env key ref missing).items archiver env.reading).2 with
    | none =>
      simp only [hopened, isSome_none, Bool.false_eq_true, if_false,
        EntryCounts.addFile_zero] at hread
      exact ⟨hread, by simp⟩
    | some content =>
      simp only [hopened, isSome_some, if_true] at hread
      exact ⟨hread, by cases env.reading.seek <;> rfl⟩

/-- The entry of the key stays current. -/
theorem Keeps.lookup_get (h : Keeps Good s) :
    (s.get archiver env key).1.cache.entries.lookup key = s.cache.entries.lookup key := by
  cases hlookup : s.cache.entries.lookup key with
  | none => rw [Stored.get_eq_none hlookup, hlookup]
  | some ref =>
    rw [Stored.get_eq hlookup]
    exact (h.prepare_entry hlookup).1

theorem Keeps.seq_get (h : Keeps Good s) : (s.get archiver env key).1.cache.seq = s.cache.seq := by
  cases hlookup : s.cache.entries.lookup key with
  | none => rw [Stored.get_eq_none hlookup]
  | some ref =>
    rw [Stored.get_eq hlookup]
    exact (h.prepare_entry hlookup).2.2.2

theorem Keeps.counted_closeFile (h : Keeps (Counted counts) s) (ref : EntryRef)
    (removal : Removal Tree) :
    Keeps (Counted (counts.addFile ref (-1))) (s.closeFile ref removal) := by
  refine h.counted_put ((h.owned ref).releaseFile s.items removal)
    (filePath_releaseFile _ _ removal) ?_
  intro hcounts
  rw [useCounts_releaseFile, ← hcounts]
  rfl

theorem FileCacheEntry.expandedDirectoryPath_expand {e : FileCacheEntry} {items : Items Bytes Tree}
    {outcome : Expansion Tree} {found : Path × Tree}
    (hfound : (e.expand items archiver outcome).2 = some found) :
    (e.expand items archiver outcome).1.1.expandedDirectoryPath = found.1 := by
  revert hfound
  unfold expand
  split
  · split
    · nofun
    · rintro ⟨⟩
      rfl
  · split
    · rintro ⟨⟩
      rfl
    · nofun

theorem Keeps.counted_getDirectory (h : Keeps (Counted counts) s)
    (hlookup : s.cache.entries.lookup key = some ref) (env : Outcomes Bytes Tree)
    (archiver : Archiver Bytes Tree) :
    Keeps (Counted (counts.addDirectory ref
        (if (s.getDirectory archiver env key).2.isSome then 1 else 0)))
      (s.getDirectory archiver env key).1 := by
  obtain ⟨size, size', hget, hfound⟩ := Stored.getDirectory_eq hlookup
  have hsome := congrArg isSome hfound
  rw [isSome_map] at hsome
  rw [hget, hsome]
  generalize (s.cache.heap ref).dirDoesNotExist s.cache.disk = missing
  have hs : Keeps (Counted counts) (s.prepare env key ref missing) :=
    h.prepare (own_counted counts) (timeless_counted counts)
  obtain ⟨hcurrent, -⟩ := h.prepare_entry hlookup
  obtain ⟨nanos, hname⟩ := hs.name key ref hcurrent
  have hlocal := ((hs.owned ref).resize size).expand (s.prepare env key ref missing).items archiver
    hname env.expansion
  refine hs.counted_put (hlocal.resize size')
    filePath_expand ?_
  intro hcounts
  refine (useCounts_expand _ _ archiver).trans ?_
  rw [← hcounts]
  rfl

theorem Keeps.seq_getDirectory (h : Keeps Good s) :
    (s.getDirectory archiver env key).1.cache.seq = s.cache.seq := by
  cases hlookup : s.cache.entries.lookup key with
  | none => rw [Stored.getDirectory_eq_none hlookup]
  | some ref =>
    obtain ⟨size, size', hget, -⟩ := Stored.getDirectory_eq hlookup
    rw [hget]
    exact (h.prepare_entry hlookup).2.2.2

/-- The directory that `GetDirectory` returns is the one of the current entry. -/
theorem Keeps.lookup_getDirectory (h : Keeps Good s)
    (hlookup : s.cache.entries.lookup key = some ref) :
    (s.getDirectory archiver env key).1.cache.entries.lookup key = some ref ∧
      (s.getDirectory archiver env key).1.cache.seq = s.cache.seq ∧
      ∀ found ∈ (s.getDirectory archiver env key).2,
        ((s.getDirectory archiver env key).1.cache.heap ref).expandedDirectoryPath = found.1 := by
  obtain ⟨size, size', hget, hfound⟩ := Stored.getDirectory_eq hlookup
  rw [hget]
  obtain ⟨hcurrent, -, -, hseq⟩ := h.prepare_entry hlookup
  refine ⟨hcurrent, hseq, ?_⟩
  intro found hresult
  rw [hresult] at hfound
  have hpath := expandedDirectoryPath_expand hfound.symm
  unfold Stored.put
  dsimp only
  rw [update_self]
  exact hpath

section

variable (h : Keeps (Counted counts) s)
include h

/-- The directory that is closed is the one of the current entry, and it is in use. -/
theorem Keeps.counted_closeDirectory {dirPath : Path}
    (hlookup : s.cache.entries.lookup key = some ref)
    (hdir : (s.cache.heap ref).expandedDirectoryPath = dirPath)
    (hused : (s.cache.heap ref).directoryInUseCount ≠ 0) (removal : Removal Tree)
    (outcome : Retirement Tree) :
    Keeps (Counted (counts.addDirectory ref (-1)))
      (s.closeDirectory key dirPath removal outcome).1 := by
  have hcurrent : s.cache.currentEntry key dirPath = some ref := by
    unfold FileCache.currentEntry
    rw [hlookup]
    simp [hdir]
  unfold Stored.closeDirectory
  simp only [hcurrent, if_neg hused]
  refine h.counted_put ((h.owned ref).releaseDirectory s.items removal)
    (filePath_releaseDirectory _ _ removal) ?_
  intro hcounts
  rw [useCounts_releaseDirectory, ← hcounts]
  rfl

variable (hnew : counts (s.cache.seq + 1) = ⟨0, 0⟩)
include hnew

theorem Keeps.counted_replace {content : Bytes} {size : Int} {cachingInfo : CachingInfo} :
    Keeps (Counted counts) (s.replace env key content size cachingInfo).1 := by
  refine h.replace (own_counted counts) ?_
  intro _ items _
  exact hnew.symm

/-- `Add` counts the file that it opens after `os.Rename`. -/
theorem Keeps.counted_add (archiver : Archiver Bytes Tree) (env : Outcomes Bytes Tree)
    (key : String) (content : Bytes) (size : Int) (cachingInfo : CachingInfo) :
    Keeps (Counted (counts.addFile (s.cache.seq + 1)
        (if env.rename && env.reading.openFile then 1 else 0)))
      (s.add archiver env key content size cachingInfo).1 := by
  have hreplace : Keeps (Counted counts) (s.replace env key content size cachingInfo).1 :=
    h.counted_replace hnew
  have hrename : (s.replace env key content size cachingInfo).2 = env.rename := Stored.replace_snd
  rw [Stored.add_eq, ← hrename]
  cases hrenamed : (s.replace env key content size cachingInfo).2 with
  | false =>
    simp only [Bool.false_and, Bool.false_eq_true, if_false, EntryCounts.addFile_zero]
    exact hreplace
  | true =>
    have hread := hreplace.counted_read archiver (s.cache.seq + 1) env.reading
    rw [h.isSome_openFile_new hrenamed archiver] at hread
    exact hread

theorem Keeps.counted_addDirectory (env : Outcomes Bytes Tree) (archiver : Archiver Bytes Tree)
    (key : String) (content : Bytes) (size : Int) (cachingInfo : CachingInfo) :
    Keeps (Counted (counts.addDirectory (s.cache.seq + 1)
        (if (s.addDirectory archiver env key content size cachingInfo).2.isSome then 1 else 0)))
      (s.addDirectory archiver env key content size cachingInfo).1 := by
  have hreplace : Keeps (Counted counts) (s.replace env key content size cachingInfo).1 :=
    h.counted_replace hnew
  rw [Stored.addDirectory_eq]
  cases hrename : (s.replace env key content size cachingInfo).2 with
  | false =>
    simp only [Bool.false_eq_true, if_false, isSome_none, EntryCounts.addDirectory_zero]
    exact hreplace
  | true =>
    obtain ⟨nanos, hname⟩ := hreplace.name key _ (s.lookup_replace.2 hrename)
    refine hreplace.counted_put
      ((hreplace.owned _).expand _ archiver hname env.expansion)
      filePath_expand ?_
    intro hcounts
    refine (useCounts_expand _ _ archiver).trans ?_
    rw [← hcounts]
    rfl

end

end Calls

/-- The directory that `AddDirectory` returns is the one of the new entry. -/
theorem Stored.expandedDirectoryPath_addDirectory {s : Stored Bytes Tree}
    {archiver : Archiver Bytes Tree} {env : Outcomes Bytes Tree} {key : String} {content : Bytes}
    {size : Int} {cachingInfo : CachingInfo} {found : Path × Tree}
    (hresult : (s.addDirectory archiver env key content size cachingInfo).2 = some found) :
    ((s.addDirectory archiver env key content size cachingInfo).1.cache.heap
      (s.cache.seq + 1)).expandedDirectoryPath = found.1 := by
  rw [Stored.addDirectory_eq] at hresult ⊢
  cases hrename : (s.replace env key content size cachingInfo).2 with
  | false =>
    rw [hrename] at hresult
    cases hresult
  | true =>
    rw [hrename] at hresult
    have hpath := expandedDirectoryPath_expand hresult
    rw [if_pos rfl]
    unfold Stored.put
    dsimp only
    rw [update_self]
    exact hpath

/-! ## The states of the cache -/

/-- Every method keeps the property, whatever fails. -/
structure EntryProp.Closed (archiver : Archiver Bytes Tree) (Good : EntryProp Bytes Tree) :
    Prop where
  own : Good.Own
  timeless : Good.Timeless
  fresh : ∀ key ref path size now cachingInfo items, 0 < ref →
    Good key ref (newFileCacheEntry path size now cachingInfo) items
  read : ∀ key ref e items outcome, Good key ref e items →
    Good key ref (e.read items archiver outcome).1.1 (e.read items archiver outcome).1.2
  expand : ∀ key ref e items outcome, Good key ref e items →
    Good key ref (e.expand items archiver outcome).1.1 (e.expand items archiver outcome).1.2
  releaseFile : ∀ key ref e items removal, Good key ref e items →
    Good key ref (e.releaseFile items removal).1 (e.releaseFile items removal).2
  releaseDirectory : ∀ key ref e items removal, e.directoryInUseCount ≠ 0 → Good key ref e items →
    Good key ref (e.releaseDirectory items removal).1 (e.releaseDirectory items removal).2

section States

variable {archiver : Archiver Bytes Tree} {s : Stored Bytes Tree} {Good : EntryProp Bytes Tree}
  {maxSizeInBytes minimumPartitionFreeBytes : Int}

section

variable (h : Keeps Good s)
include h

theorem Keeps.replace_closed (hclosed : Good.Closed archiver) (env : Outcomes Bytes Tree)
    (key : String) (content : Bytes) (size : Int) (cachingInfo : CachingInfo) :
    Keeps Good (s.replace env key content size cachingInfo).1 :=
  h.replace hclosed.own fun _ items _ => hclosed.fresh key _ _ _ _ _ items (Nat.succ_pos _)

theorem Keeps.put_closed {ref : EntryRef} {key : String} (hown : Good.Own)
    (hlookup : s.cache.entries.lookup key = some ref) {result : FileCacheEntry × Items Bytes Tree}
    (hlocal : LocalItems ref s.items result)
    (hpath : result.1.filePath = (s.cache.heap ref).filePath)
    (hgood : Good key ref (s.cache.heap ref) s.items → Good key ref result.1 result.2) :
    Keeps Good (s.put ref result) := by
  refine h.put hown hlocal (fun _ _ _ _ => id) ?_
  intro key' hlookup'
  obtain rfl := h.key_eq hlookup hlookup'
  exact ⟨hpath, hgood (h.good key' ref hlookup')⟩

variable (hclosed : Good.Closed archiver)
include hclosed

theorem Keeps.add_closed {env : Outcomes Bytes Tree} {key : String} {content : Bytes} {size : Int}
    {cachingInfo : CachingInfo} :
    Keeps Good (s.add archiver env key content size cachingInfo).1 := by
  have hs := h.replace_closed hclosed env key content size cachingInfo
  rw [Stored.add_eq]
  split
  · rename_i hrename
    exact hs.put_closed hclosed.own (s.lookup_replace.2 hrename)
      ((hs.owned _).read _ archiver) filePath_read
      (hclosed.read key _ _ _ env.reading)
  · exact hs

theorem Keeps.addDirectory_closed {env : Outcomes Bytes Tree} {key : String} {content : Bytes}
    {size : Int} {cachingInfo : CachingInfo} :
    Keeps Good (s.addDirectory archiver env key content size cachingInfo).1 := by
  have hs := h.replace_closed hclosed env key content size cachingInfo
  rw [Stored.addDirectory_eq]
  split
  · rename_i hrename
    have hlookup := s.lookup_replace.2 hrename
    obtain ⟨nanos, hname⟩ := hs.name key _ hlookup
    exact hs.put_closed hclosed.own hlookup ((hs.owned _).expand _ archiver hname env.expansion)
      filePath_expand (hclosed.expand key _ _ _ env.expansion)
  · exact hs

theorem Keeps.get_closed {env : Outcomes Bytes Tree} {key : String} :
    Keeps Good (s.get archiver env key).1 := by
  cases hlookup : s.cache.entries.lookup key with
  | none =>
    rw [Stored.get_eq_none hlookup]
    exact h
  | some ref =>
    rw [Stored.get_eq hlookup]
    generalize (s.cache.heap ref).fileDoesNotExist s.cache.disk = missing
    have hs : Keeps Good (s.prepare env key ref missing) :=
      h.prepare hclosed.own hclosed.timeless
    exact hs.put_closed hclosed.own (h.prepare_entry hlookup).1
      ((hs.owned _).read _ archiver) filePath_read
      (hclosed.read key _ _ _ env.reading)

theorem Keeps.getDirectory_closed {env : Outcomes Bytes Tree} {key : String} :
    Keeps Good (s.getDirectory archiver env key).1 := by
  cases hlookup : s.cache.entries.lookup key with
  | none =>
    rw [Stored.getDirectory_eq_none hlookup]
    exact h
  | some ref =>
    obtain ⟨size, size', hget, -⟩ := Stored.getDirectory_eq hlookup
    rw [hget]
    generalize (s.cache.heap ref).dirDoesNotExist s.cache.disk = missing
    have hs : Keeps Good (s.prepare env key ref missing) :=
      h.prepare hclosed.own hclosed.timeless
    obtain ⟨hcurrent, -⟩ := h.prepare_entry hlookup
    obtain ⟨nanos, hname⟩ := hs.name key ref hcurrent
    refine hs.put_closed hclosed.own hcurrent
      ((((hs.owned ref).resize size).expand _ archiver hname env.expansion).resize size')
      filePath_expand ?_
    -- only the size of the entry changes before and after the expansion
    intro hgood
    refine hclosed.timeless key ref _ _ size' _ ?_
    exact hclosed.expand key ref _ _ env.expansion (hclosed.timeless key ref _ _ size _ hgood)

end

theorem Keeps.step_closed {call : Call Bytes Tree} {history history' : History Bytes Tree}
    (h : Keeps Good history.shelf.stored) (hclosed : Good.Closed archiver)
    (hstep : History.step archiver call history = some history') :
    Keeps Good history'.shelf.stored := by
  cases call with
  | add env key content size cachingInfo =>
    cases hstep
    exact h.add_closed hclosed
  | addDirectory env key content size cachingInfo =>
    cases hstep
    exact h.addDirectory_closed hclosed
  | get env key =>
    cases hstep
    exact h.get_closed hclosed
  | getDirectory env key =>
    cases hstep
    exact h.getDirectory_closed hclosed
  | remove key outcome =>
    cases hstep
    exact h.remove hclosed.own key outcome
  | makeRoom env =>
    cases hstep
    exact h.makeRoom hclosed.own env 0 ""
  | closeDirectory key dirPath removal outcome =>
    cases hstep
    refine h.closeDirectory hclosed.own ?_
    intro ref _ hne hgood
    exact hclosed.releaseDirectory key ref _ _ removal hne hgood
  | closeFile ref removal =>
    rw [History.step, ite_none_right_eq_some] at hstep
    obtain ⟨-, hstep⟩ := hstep
    cases hstep
    refine h.put hclosed.own ((h.owned ref).releaseFile _ removal) (fun _ _ _ _ => id) ?_
    intro key hlookup
    exact ⟨filePath_releaseFile _ _ removal,
      hclosed.releaseFile key ref _ _ removal (h.good key ref hlookup)⟩

/-- No directory of a current entry is closed too often. -/
def DirectoryCounted : EntryProp Bytes Tree :=
  fun _ _ e _ => 0 ≤ e.directoryInUseCount

theorem closed_directoryCounted : (DirectoryCounted : EntryProp Bytes Tree).Closed archiver where
  own := fun _ _ _ _ _ _ h => h
  timeless := fun _ _ _ _ _ _ h => h
  fresh := fun _ _ _ _ _ _ _ _ => Int.le_refl 0
  read := by
    intro key ref e items outcome hcount
    have hopen : (e.openFile items archiver outcome).1.1.directoryInUseCount =
        e.directoryInUseCount :=
      congrArg UseCounts.directory (e.useCounts_openFile items archiver outcome)
    unfold DirectoryCounted FileCacheEntry.read at *
    dsimp only
    rw [← hopen] at hcount
    split <;> exact hcount
  expand := by
    intro key ref e items outcome hcount
    have hexpand : (e.expand items archiver outcome).1.1.directoryInUseCount =
        e.directoryInUseCount + if (e.expand items archiver outcome).2.isSome then 1 else 0 :=
      congrArg UseCounts.directory (e.useCounts_expand items archiver)
    unfold DirectoryCounted at *
    rw [hexpand]
    split <;> omega
  releaseFile := by
    intro key ref e items removal hcount
    have hrelease : (e.releaseFile items removal).1.directoryInUseCount = e.directoryInUseCount :=
      congrArg UseCounts.directory (e.useCounts_releaseFile items removal)
    unfold DirectoryCounted at *
    rw [hrelease]
    exact hcount
  releaseDirectory := by
    intro key ref e items removal hne hcount
    have hrelease : (e.releaseDirectory items removal).1.directoryInUseCount =
        e.directoryInUseCount - 1 :=
      congrArg UseCounts.directory (e.useCounts_releaseDirectory items removal)
    unfold DirectoryCounted at *
    omega

end States

/-- What holds in every state of the cache. -/
def Shelf.WellFormed (w : Shelf Bytes Tree) : Prop :=
  Keeps DirectoryCounted w.stored

/-- Every state that calls lead to is well formed, whatever fails. -/
theorem wellFormed_of_reaches {archiver : Archiver Bytes Tree} {history : History Bytes Tree}
    {maxSizeInBytes minimumPartitionFreeBytes : Int}
    (h : Machine.Reaches (History.step archiver) (fun _ _ => True)
      (History.new maxSizeInBytes minimumPartitionFreeBytes) history) :
    history.shelf.WellFormed := by
  induction h with
  | refl => exact Stored.keeps_new
  | step _ _ hstep ih => exact Keeps.step_closed ih closed_directoryCounted hstep

end Diego.CachedDownloader
