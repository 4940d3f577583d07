import Diego.CachedDownloader.CurrentEntries

/-!
# The cache serves what was added

Every current entry of the cache holds the content that it was made with: as a tarball, as a
directory, or as both, and what a counter says is in use is there.  `Serves` is this invariant of
one entry, and it is kept by every method whatever fails, but for two failures of `readCloser`: a
tarball that could only be written in part, which stays at its path, and an unused directory that
could only be removed in part, which the entry still refers to.  The next call takes either for
complete.
-/

namespace Diego.CachedDownloader

open FileCacheEntry Function Option

variable {Bytes Tree : Type} {path : Path}

/-- The same file, or tarballs of the same tree. -/
def Archiver.SameContent (archiver : Archiver Bytes Tree) (content content' : Bytes) : Prop :=
  content' = content ∨
    ∃ tree, archiver.extract content = some tree ∧ archiver.extract content' = some tree

theorem Archiver.SameContent.extract_eq {archiver : Archiver Bytes Tree}
    {content content' : Bytes} (h : archiver.SameContent content content') :
    archiver.extract content' = archiver.extract content := by
  rcases h with rfl | ⟨tree, hcontent, hcontent'⟩
  · rfl
  · rw [hcontent, hcontent']

theorem Path.expanded_ne : Path.expanded path ≠ path := by
  intro heq
  have hsize := congrArg sizeOf heq
  simp at hsize

/-! ## One entry -/

/-- An entry that was made with `content`, `openFiles` files of which are open. -/
structure Serves (archiver : Archiver Bytes Tree) (content : Bytes) (openFiles : Nat)
    (e : FileCacheEntry) (items : Items Bytes Tree) : Prop where
  directory : e.expandedDirectoryPath = .empty ∨ e.expandedDirectoryPath = .expanded e.filePath
  file : ∀ item ∈ items e.filePath,
    ∃ content', item = .file content' ∧ archiver.SameContent content content'
  tree : e.expandedDirectoryPath ≠ .empty → ∀ item ∈ items e.expandedDirectoryPath,
    ∃ tree, item = .directory tree ∧ archiver.extract content = some tree
  present : e.fileDoesNotExist items.disk = true → e.dirDoesNotExist items.disk = false
  fileCount : (openFiles : Int) ≤ e.fileInUseCount
  directoryCount : 0 ≤ e.directoryInUseCount
  fileUsed : 0 < e.fileInUseCount → e.fileDoesNotExist items.disk = false
  directoryUsed : 0 < e.directoryInUseCount → e.dirDoesNotExist items.disk = false

namespace FileCacheEntry

variable {e : FileCacheEntry} {items : Items Bytes Tree}

theorem fileDoesNotExist_eq_false : e.fileDoesNotExist items.disk = false ↔
    ∃ item, items e.filePath = some item := by
  simp [fileDoesNotExist, Items.disk, isSome_iff_exists]

theorem fileDoesNotExist_eq_true : e.fileDoesNotExist items.disk = true ↔
    items e.filePath = none := by
  simp [fileDoesNotExist, Items.disk]

theorem dirDoesNotExist_eq_false : e.dirDoesNotExist items.disk = false ↔
    e.expandedDirectoryPath ≠ .empty ∧ ∃ item, items e.expandedDirectoryPath = some item := by
  simp [dirDoesNotExist, Items.disk, isSome_iff_exists]

end FileCacheEntry

section Entry

variable {archiver : Archiver Bytes Tree} {content : Bytes} {n : Nat} {e : FileCacheEntry}
  {items : Items Bytes Tree}

variable {path : Path} {n' : Nat} {content' : Bytes}

theorem serves_new (hpath : items path = some (.file content)) {size now : Int}
    {cachingInfo : CachingInfo} :
    Serves archiver content 0 (newFileCacheEntry path size now cachingInfo) items where
  directory := Or.inl rfl
  file := by
    intro item hitem
    obtain rfl := some.inj (hpath.symm.trans hitem)
    exact ⟨content, rfl, Or.inl rfl⟩
  tree := fun hne => absurd rfl hne
  present := by
    intro hmissing
    rw [fileDoesNotExist_eq_true] at hmissing
    cases hpath.symm.trans hmissing
  fileCount := Int.le_refl 0
  directoryCount := Int.le_refl 0
  fileUsed := fun h => absurd h (Int.lt_irrefl 0)
  directoryUsed := fun h => absurd h (Int.lt_irrefl 0)

variable {e' : FileCacheEntry} {items' : Items Bytes Tree} {outcome : Reading Bytes Tree}
  {removal : Removal Tree}

/-- Nothing else of the entry, and nothing else on the disk, matters. -/
theorem Serves.congr (h : Serves archiver content n e items) (hpath : e'.filePath = e.filePath)
    (hdirectory : e'.expandedDirectoryPath = e.expandedDirectoryPath)
    (hfileCount : e'.fileInUseCount = e.fileInUseCount)
    (hdirectoryCount : e'.directoryInUseCount = e.directoryInUseCount)
    (hfile : items' e.filePath = items e.filePath)
    (htree : items' (.expanded e.filePath) = items (.expanded e.filePath)) :
    Serves archiver content n e' items' := by
  have htree' : e.expandedDirectoryPath ≠ .empty →
      items' e.expandedDirectoryPath = items e.expandedDirectoryPath := by
    intro hne
    rw [h.directory.resolve_left hne, htree]
  have hfileExists : e'.fileDoesNotExist items'.disk = e.fileDoesNotExist items.disk := by
    simp [fileDoesNotExist, Items.disk, hpath, hfile]
  have hdirExists : e'.dirDoesNotExist items'.disk = e.dirDoesNotExist items.disk := by
    by_cases hne : e.expandedDirectoryPath = .empty
    · simp [dirDoesNotExist, hdirectory, hne]
    · simp [dirDoesNotExist, Items.disk, hdirectory, htree' hne]
  refine ⟨?_, ?_, ?_, ?_, ?_, ?_, ?_, ?_⟩
  · rw [hdirectory, hpath]
    exact h.directory
  · rw [hpath, hfile]
    exact h.file
  · rw [hdirectory]
    intro hne
    rw [htree' hne]
    exact h.tree hne
  · rw [hfileExists, hdirExists]
    exact h.present
  · rw [hfileCount]
    exact h.fileCount
  · rw [hdirectoryCount]
    exact h.directoryCount
  · rw [hfileCount, hfileExists]
    exact h.fileUsed
  · rw [hdirectoryCount, hdirExists]
    exact h.directoryUsed

/-- The failures of `readCloser` after which the entry is not what it was: a tarball that is
written in part, and an unused directory that is removed in part. -/
def FileCacheEntry.ReadsClean (e : FileCacheEntry) (items : Items Bytes Tree)
    (outcome : Reading Bytes Tree) : Prop :=
  e.fileDoesNotExist items.disk = true → outcome.create = true →
    outcome.writeTar = true ∧ (e.directoryInUseCount = 0 → outcome.removeDirectory.isNone = true)

instance (e : FileCacheEntry) (items : Items Bytes Tree) (outcome : Reading Bytes Tree) :
    Decidable (e.ReadsClean items outcome) :=
  inferInstanceAs (Decidable (e.fileDoesNotExist items.disk = true → outcome.create = true →
    outcome.writeTar = true ∧ (e.directoryInUseCount = 0 → outcome.removeDirectory.isNone = true)))

section

variable (h : Serves archiver content n e items)
include h

theorem Serves.tarball (hmissing : items e.filePath = none) :
    ∃ tree, items (.expanded e.filePath) = some (.directory tree) ∧
      e.expandedDirectoryPath = .expanded e.filePath ∧ archiver.extract content = some tree ∧
      e.tarball items archiver = some (archiver.writeTar tree) := by
  have hpresent := h.present (FileCacheEntry.fileDoesNotExist_eq_true.mpr hmissing)
  obtain ⟨hne, item, hitem⟩ := FileCacheEntry.dirDoesNotExist_eq_false.mp hpresent
  obtain ⟨tree, rfl, htree⟩ := h.tree hne item hitem
  have hpath := h.directory.resolve_left hne
  refine ⟨tree, hpath ▸ hitem, hpath, htree, ?_⟩
  unfold FileCacheEntry.tarball
  rw [hitem]

/-- The entry has its tarball, and its directory is still there or was not used. -/
theorem Serves.of_file (hpath : e'.filePath = e.filePath)
    (hdirectory : e'.expandedDirectoryPath = e.expandedDirectoryPath)
    (hcount : (n' : Int) ≤ e'.fileInUseCount)
    (hdirectoryCount : e'.directoryInUseCount = e.directoryInUseCount)
    (hfile : items' e.filePath = some (.file content'))
    (hsame : archiver.SameContent content content')
    (htree : items' (.expanded e.filePath) = items (.expanded e.filePath) ∨
      items' (.expanded e.filePath) = none ∧ e.directoryInUseCount = 0) :
    Serves archiver content n' e' items' := by
  have hexists : e'.fileDoesNotExist items'.disk = false :=
    fileDoesNotExist_eq_false.mpr ⟨_, hpath ▸ hfile⟩
  refine ⟨?_, ?_, ?_, ?_, hcount, ?_, fun _ => hexists, ?_⟩
  · rw [hdirectory, hpath]
    exact h.directory
  · rw [hpath]
    intro item hitem
    obtain rfl := some.inj (hfile.symm.trans hitem)
    exact ⟨content', rfl, hsame⟩
  · rw [hdirectory]
    intro hne item hitem
    have hexpanded := h.directory.resolve_left hne
    rw [hexpanded] at hitem
    rcases htree with hkept | ⟨hnone, -⟩
    · rw [hkept, ← hexpanded] at hitem
      exact h.tree hne item hitem
    · rw [hnone] at hitem
      cases hitem
  · intro hmissing
    rw [hexists] at hmissing
    cases hmissing
  · rw [hdirectoryCount]
    exact h.directoryCount
  · rw [hdirectoryCount]
    intro hpositive
    obtain ⟨hne, item, hitem⟩ :=
      dirDoesNotExist_eq_false.mp (h.directoryUsed hpositive)
    have hexpanded := h.directory.resolve_left hne
    refine dirDoesNotExist_eq_false.mpr ⟨hdirectory ▸ hne, item, ?_⟩
    rcases htree with hkept | ⟨-, hzero⟩
    · rw [hdirectory, hexpanded, hkept, ← hexpanded, hitem]
    · omega

/-- What `readCloser` finds or makes. -/
theorem Serves.openFile (hclean : e.ReadsClean items outcome) :
    (∀ content' ∈ (e.openFile items archiver outcome).2, ∀ n' : Nat,
        (n' : Int) ≤ e.fileInUseCount + 1 →
        Serves archiver content n' (e.openFile items archiver outcome).1.1.incrementFileInUseCount
          (e.openFile items archiver outcome).1.2) ∧
      ((e.openFile items archiver outcome).2 = none →
        (e.openFile items archiver outcome).1 = (e, items)) := by
  cases hitem : items e.filePath with
  | some item =>
    obtain ⟨content', rfl, hsame⟩ := h.file item hitem
    simp only [FileCacheEntry.openFile, hitem, implies_true, and_true]
    intro _ _ n' hcount
    exact h.of_file rfl rfl hcount rfl hitem hsame (Or.inl rfl)
  | none =>
    obtain ⟨tree, htree, hdirectory, hextract, htarball⟩ := h.tarball hitem
    have hmissing := FileCacheEntry.fileDoesNotExist_eq_true.mpr hitem
    have hsame : archiver.SameContent content (archiver.writeTar tree) :=
      Or.inr ⟨tree, hextract, archiver.extract_writeTar tree⟩
    cases hcreate : outcome.create with
    | false => simp [FileCacheEntry.openFile, hitem, hcreate]
    | true =>
      obtain ⟨hwrite, hremove⟩ := hclean hmissing hcreate
      by_cases hcount : e.directoryInUseCount = 0
      · have hremove := isNone_iff_eq_none.mp (hremove hcount)
        simp only [FileCacheEntry.openFile, hitem, hcreate, hwrite, hcount, htarball, hremove,
          Bool.not_true, Bool.false_eq_true, if_false, if_true]
        refine ⟨?_, fun hnone => absurd hnone (some_ne_none _)⟩
        intro _ _ n' hle
        refine h.of_file rfl rfl hle rfl ?_ hsame (Or.inr ⟨?_, hcount⟩)
        · rw [Items.removeAll_of_ne (hdirectory ▸ Path.expanded_ne.symm), Items.put_self]
        · rw [hdirectory, Items.removeAll_none_self]
      · simp only [FileCacheEntry.openFile, hitem, hcreate, hwrite, hcount, htarball]
        refine ⟨?_, fun hnone => absurd hnone (some_ne_none _)⟩
        intro _ _ n' hle
        exact h.of_file rfl rfl hle rfl Items.put_self hsame
          (Or.inl (Items.put_of_ne Path.expanded_ne))

/-- The counter is one higher if `readCloser` has a file to return. -/
theorem Serves.read (hclean : e.ReadsClean items outcome) :
    Serves archiver content (if (e.read items archiver outcome).2.isSome then n + 1 else n)
      (e.read items archiver outcome).1.1 (e.read items archiver outcome).1.2 := by
  obtain ⟨hsome, hnone⟩ := h.openFile hclean
  have hcount := h.fileCount
  unfold FileCacheEntry.read
  cases hopened : (e.openFile items archiver outcome).2 with
  | none =>
    simp only [hopened]
    rw [hnone hopened]
    exact h
  | some content' =>
    simp only [hopened]
    refine hsome content' hopened _ ?_
    cases outcome.seek
    · simp only [Bool.false_eq_true, if_false, isSome_none]
      omega
    · simp only [if_true, isSome_some]
      omega

/-- What `readCloser` returns is the content of the entry, whatever fails. -/
theorem Serves.read_content (hresult : (e.read items archiver outcome).2 = some content') :
    archiver.SameContent content content' := by
  have hopened : (e.openFile items archiver outcome).2 = some content' := by
    unfold FileCacheEntry.read at hresult
    cases hopened : (e.openFile items archiver outcome).2 with
    | none => simp [hopened] at hresult
    | some opened =>
      simp only [hopened, ite_none_right_eq_some] at hresult
      exact hresult.2
  cases hitem : items e.filePath with
  | some item =>
    obtain ⟨found, rfl, hsame⟩ := h.file item hitem
    simp only [FileCacheEntry.openFile, hitem, ite_none_right_eq_some, some.injEq] at hopened
    exact hopened.2 ▸ hsame
  | none =>
    obtain ⟨tree, -, -, hextract, htarball⟩ := h.tarball hitem
    have hwritten : content' = archiver.writeTar tree := by
      revert hopened
      unfold FileCacheEntry.openFile
      rw [hitem, htarball]
      dsimp only
      split
      · exact fun hresult => absurd hresult.symm (some_ne_none _)
      · split
        · exact fun hresult => absurd hresult.symm (some_ne_none _)
        · rename_i hwritten
          have hwritten := (ite_none_right_eq_some.mp hwritten).2
          split <;> exact fun hresult => by
            rw [← some.inj hresult, some.inj hwritten]
    exact Or.inr ⟨tree, hextract, hwritten ▸ archiver.extract_writeTar tree⟩

end

theorem FileCacheEntry.filePath_read :
    (e.read items archiver outcome).1.1.filePath = e.filePath := by
  have hopened : (e.openFile items archiver outcome).1.1.filePath = e.filePath := by
    unfold openFile
    split
    · rfl
    · rfl
    · split
      · rfl
      · split
        · rfl
        · split <;> rfl
  unfold read
  dsimp only
  split
  · exact hopened
  · exact hopened

/-- A file that is removed is gone, or stays as it is. -/
theorem Items.removeAll_file (hfile : items path = some (.file content)) :
    items.removeAll path removal path = none ∨
      items.removeAll path removal path = some (.file content) := by
  cases removal with
  | none => exact Or.inl (by simp [Items.removeAll])
  | some leftover => exact Or.inr (by simp [Items.removeAll, hfile])

/-- The entry has its directory, and its tarball is still there or not in use. -/
theorem Serves.of_directory (h : Serves archiver content n e items) {tree : Tree}
    (hpath : e'.filePath = e.filePath)
    (hdirectory : e'.expandedDirectoryPath = .expanded e.filePath)
    (hfileCount : (n' : Int) ≤ e'.fileInUseCount) (hcount : 0 ≤ e'.directoryInUseCount)
    (htree : items' (.expanded e.filePath) = some (.directory tree))
    (hextract : archiver.extract content = some tree)
    (hfile : items' e.filePath = items e.filePath ∧
        (0 < e'.fileInUseCount → 0 < e.fileInUseCount) ∨
      items' e.filePath = none ∧ e'.fileInUseCount ≤ 0) : Serves archiver content n' e' items' := by
  have hexists : e'.dirDoesNotExist items'.disk = false :=
    dirDoesNotExist_eq_false.mpr ⟨by rw [hdirectory]; nofun, _, hdirectory ▸ htree⟩
  refine ⟨Or.inr (hpath ▸ hdirectory), ?_, ?_, fun _ => hexists, hfileCount, hcount, ?_,
    fun _ => hexists⟩
  · rw [hpath]
    intro item hitem
    rcases hfile with ⟨hkept, -⟩ | ⟨hnone, -⟩
    · rw [hkept] at hitem
      exact h.file item hitem
    · rw [hnone] at hitem
      cases hitem
  · intro _ item hitem
    rw [hdirectory] at hitem
    obtain rfl := some.inj (htree.symm.trans hitem)
    exact ⟨tree, rfl, hextract⟩
  · intro hpositive
    rcases hfile with ⟨hkept, hused⟩ | ⟨-, hzero⟩
    · obtain ⟨item, hitem⟩ :=
        fileDoesNotExist_eq_false.mp (h.fileUsed (hused hpositive))
      exact fileDoesNotExist_eq_false.mpr ⟨item, by rw [hpath, hkept, hitem]⟩
    · omega

/-- The directory is gone, or at least forgotten, and the tarball is there. -/
theorem Serves.without_directory (h : Serves archiver content n e items)
    (hpath : e'.filePath = e.filePath) (hdirectory : e'.expandedDirectoryPath = .empty)
    (hfileCount : e'.fileInUseCount = e.fileInUseCount) (hcount : e'.directoryInUseCount = 0)
    (hfile : items' e.filePath = items e.filePath) (hexists : e.fileDoesNotExist items.disk = false)
    : Serves archiver content n e' items' := by
  obtain ⟨item, hitem⟩ := fileDoesNotExist_eq_false.mp hexists
  have hexists' : e'.fileDoesNotExist items'.disk = false :=
    fileDoesNotExist_eq_false.mpr ⟨item, by rw [hpath, hfile, hitem]⟩
  refine ⟨Or.inl hdirectory, ?_, fun hne => absurd hdirectory hne, ?_, ?_, ?_, fun _ => hexists',
    ?_⟩
  · rw [hpath, hfile]
    exact h.file
  · rw [hexists']
    exact nofun
  · rw [hfileCount]
    exact h.fileCount
  · exact Int.le_of_eq hcount.symm
  · rw [hcount]
    exact fun hpositive => absurd hpositive (Int.lt_irrefl 0)

theorem Serves.expand (h : Serves archiver content n e items) {outcome : Expansion Tree} :
    Serves archiver content n (e.expand items archiver outcome).1.1
        (e.expand items archiver outcome).1.2 ∧
      ∀ result ∈ (e.expand items archiver outcome).2, archiver.extract content = some result.2 := by
  have hcount : 0 ≤ e.directoryInUseCount + 1 := by
    have := h.directoryCount
    omega
  cases hmissing : e.dirDoesNotExist items.disk with
  | false =>
    obtain ⟨hne, item, hitem⟩ := FileCacheEntry.dirDoesNotExist_eq_false.mp hmissing
    obtain ⟨tree, rfl, hextract⟩ := h.tree hne item hitem
    have hdirectory := h.directory.resolve_left hne
    simp only [FileCacheEntry.expand, hmissing, hitem, Bool.false_eq_true, if_false,
      mem_def, some.injEq, forall_eq']
    refine ⟨?_, hextract⟩
    exact h.of_directory rfl hdirectory h.fileCount hcount (hdirectory ▸ hitem) hextract
      (Or.inl ⟨rfl, id⟩)
  | true =>
    have hexists : e.fileDoesNotExist items.disk = false := by
      by_contra hne
      rw [h.present (Bool.not_eq_false _ ▸ hne)] at hmissing
      cases hmissing
    obtain ⟨item, hitem⟩ := FileCacheEntry.fileDoesNotExist_eq_false.mp hexists
    obtain ⟨content', rfl, hsame⟩ := h.file item hitem
    have hunused : e.directoryInUseCount = 0 := by
      have hcount := h.directoryCount
      by_contra hne
      rw [h.directoryUsed (by omega)] at hmissing
      cases hmissing
    cases htar : e.extractTar items archiver outcome with
    | none =>
      simp only [FileCacheEntry.expand, hmissing, htar, if_true]
      refine ⟨h.without_directory rfl rfl rfl hunused ?_ hexists, fun result hresult =>
        absurd hresult.symm (some_ne_none result)⟩
      rw [Items.removeAll_of_ne Path.expanded_ne.symm]
      cases outcome.partialTree with
      | none => rfl
      | some tree => exact Items.put_of_ne Path.expanded_ne.symm
    | some tree =>
      have hextract : archiver.extract content = some tree := by
        simp only [FileCacheEntry.extractTar, hitem, ite_none_right_eq_some] at htar
        exact hsame.extract_eq ▸ htar.2
      simp only [FileCacheEntry.expand, hmissing, htar, if_true, mem_def, some.injEq, forall_eq']
      refine ⟨?_, hextract⟩
      have hput : (items.put (.expanded e.filePath) (.directory tree)) e.filePath =
          some (.file content') := by
        rw [Items.put_of_ne Path.expanded_ne.symm, hitem]
      split
      · rename_i hzero
        refine h.of_directory rfl rfl h.fileCount hcount ?_ hextract ?_
        · rw [Items.removeAll_of_ne Path.expanded_ne, Items.put_self]
        · rcases Items.removeAll_file hput with hnone | hkept
          · exact Or.inr ⟨hnone, Int.le_of_eq hzero⟩
          · exact Or.inl ⟨hkept.trans hitem.symm, id⟩
      · exact h.of_directory rfl rfl h.fileCount hcount Items.put_self hextract
          (Or.inl ⟨hput.trans hitem.symm, id⟩)

theorem FileCacheEntry.filePath_expand {outcome : Expansion Tree} :
    (e.expand items archiver outcome).1.1.filePath = e.filePath := by
  unfold expand
  split
  · split <;> rfl
  · split <;> rfl

theorem Serves.releaseFile (h : Serves archiver content (n + 1) e items) :
    Serves archiver content n (e.releaseFile items removal).1 (e.releaseFile items removal).2 := by
  have hcount := h.fileCount
  have hdirectoryCount := h.directoryCount
  have hexists := h.fileUsed (by omega)
  obtain ⟨item, hitem⟩ := FileCacheEntry.fileDoesNotExist_eq_false.mp hexists
  obtain ⟨content', rfl, hsame⟩ := h.file item hitem
  unfold FileCacheEntry.releaseFile
  dsimp only
  split
  · -- the last file is closed while the directory is in use
    obtain ⟨hne, directory, hdirectory⟩ :=
      FileCacheEntry.dirDoesNotExist_eq_false.mp (h.directoryUsed (by omega))
    have hexpanded := h.directory.resolve_left hne
    obtain ⟨tree, rfl, hextract⟩ := h.tree hne directory hdirectory
    refine h.of_directory rfl hexpanded ?_ hdirectoryCount ?_ hextract ?_
    · show (n : Int) ≤ e.fileInUseCount - 1
      omega
    · rw [hexpanded] at hdirectory
      exact (Items.removeAll_of_ne Path.expanded_ne).trans hdirectory
    · have hzero : e.fileInUseCount - 1 = 0 := by omega
      rcases Items.removeAll_file hitem with hnone | hkept
      · exact Or.inr ⟨hnone, Int.le_of_eq hzero⟩
      · exact Or.inl ⟨hkept.trans hitem.symm, fun _ => by omega⟩
  · refine ⟨h.directory, h.file, h.tree, h.present, ?_, h.directoryCount, fun _ => hexists,
      h.directoryUsed⟩
    show (n : Int) ≤ e.fileInUseCount - 1
    omega

theorem Serves.releaseDirectory (h : Serves archiver content n e items)
    (hne : e.directoryInUseCount ≠ 0) :
    Serves archiver content n (e.releaseDirectory items removal).1
      (e.releaseDirectory items removal).2 := by
  have hcount := h.directoryCount
  obtain ⟨hpath, -⟩ := FileCacheEntry.dirDoesNotExist_eq_false.mp (h.directoryUsed (by omega))
  have hexpanded := h.directory.resolve_left hpath
  unfold FileCacheEntry.releaseDirectory
  dsimp only
  split
  · refine h.without_directory rfl rfl rfl ?_ ?_ (h.fileUsed (by omega))
    · show e.directoryInUseCount - 1 = 0
      omega
    · exact Items.removeAll_of_ne (hexpanded ▸ Path.expanded_ne.symm)
  · refine ⟨h.directory, h.file, h.tree, h.present, h.fileCount, ?_, h.fileUsed, ?_⟩
    · show 0 ≤ e.directoryInUseCount - 1
      omega
    · intro _
      exact h.directoryUsed (by omega)

end Entry

/-! ## The cache and its users -/

/-- The cache with the files that are open and, for every entry, the content it was made with. -/
structure Shelf (Bytes Tree : Type) where
  stored : Stored Bytes Tree
  openFiles : OpenFiles
  original : EntryRef → Option Bytes

def Shelf.new (maxSizeInBytes minimumPartitionFreeBytes : Int) : Shelf Bytes Tree where
  stored := newStored maxSizeInBytes minimumPartitionFreeBytes
  openFiles _ := 0
  original _ := none

namespace Shelf

variable (w : Shelf Bytes Tree) (archiver : Archiver Bytes Tree)

/-- One more file of an entry is open, if a call has returned one. -/
def opens (ref : EntryRef) (returned : Bool) : OpenFiles :=
  if returned then Function.update w.openFiles ref (w.openFiles ref + 1) else w.openFiles

def add (env : Outcomes Bytes Tree) (cacheKey : String) (content : Bytes) (size : Int)
    (cachingInfo : CachingInfo) : Shelf Bytes Tree × Option Bytes :=
  let result := w.stored.add archiver env cacheKey content size cachingInfo
  ({ stored := result.1
     openFiles := w.opens result.1.cache.seq result.2.isSome
     original := Function.update w.original result.1.cache.seq (some content) }, result.2)

def addDirectory (env : Outcomes Bytes Tree) (cacheKey : String) (content : Bytes) (size : Int)
    (cachingInfo : CachingInfo) : Shelf Bytes Tree × Option (Path × Tree) :=
  let result := w.stored.addDirectory archiver env cacheKey content size cachingInfo
  ({ w with
     stored := result.1
     original := Function.update w.original result.1.cache.seq (some content) }, result.2)

def get (env : Outcomes Bytes Tree) (cacheKey : String) :
    Shelf Bytes Tree × Option (EntryRef × Bytes × CachingInfo) :=
  let result := w.stored.get archiver env cacheKey
  ({ w with
     stored := result.1
     openFiles := result.2.elim w.openFiles fun found => w.opens found.1 true }, result.2)

def getDirectory (env : Outcomes Bytes Tree) (cacheKey : String) :
    Shelf Bytes Tree × Option (Path × Tree × CachingInfo) :=
  let result := w.stored.getDirectory archiver env cacheKey
  ({ w with stored := result.1 }, result.2)

def remove (cacheKey : String) (outcome : Retirement Tree) : Shelf Bytes Tree :=
  { w with stored := w.stored.remove cacheKey outcome }

def makeRoom (env : Outcomes Bytes Tree) : Shelf Bytes Tree :=
  { w with stored := w.stored.makeRoom env 0 "" }

def closeDirectory (cacheKey : String) (dirPath : Path) (removal : Removal Tree)
    (outcome : Retirement Tree) : Shelf Bytes Tree × Option Error :=
  let result := w.stored.closeDirectory cacheKey dirPath removal outcome
  ({ w with stored := result.1 }, result.2)

def closeFile (ref : EntryRef) (removal : Removal Tree) : Shelf Bytes Tree :=
  { w with
    stored := w.stored.closeFile ref removal
    openFiles := Function.update w.openFiles ref (w.openFiles ref - 1) }

end Shelf

/-! ## What the calls keep -/

/-- What the entries of a key are known to be besides. -/
abbrev EntryRel := String → EntryRef → Prop

/-- What the current entries are known to be after an entry of a key with the next number. -/
def EntryRel.adding (Extra : EntryRel) (renamed : Bool) (cacheKey : String) (seq : EntryRef) :
    EntryRel :=
  fun key ref => Extra key ref ∧ ref ≤ seq ∨ renamed = true ∧ key = cacheKey ∧ ref = seq + 1

/-- Every current entry serves the content it was made with. -/
def Shelf.Good (archiver : Archiver Bytes Tree) (Extra : EntryRel) (w : Shelf Bytes Tree) :
    EntryProp Bytes Tree :=
  fun key ref e items => Extra key ref ∧ (∃ nanos, e.filePath = .cached ⟨key, nanos, ref⟩) ∧
    ∃ content, w.original ref = some content ∧ Serves archiver content (w.openFiles ref) e items

structure Shelf.Faithful (archiver : Archiver Bytes Tree) (Extra : EntryRel)
    (w : Shelf Bytes Tree) : Prop where
  keeps : Keeps (w.Good archiver Extra) w.stored
  unopened : ∀ ref, w.stored.cache.seq < ref → w.openFiles ref = 0

section Calls

variable {archiver : Archiver Bytes Tree} {Extra Extra' : EntryRel} {w : Shelf Bytes Tree}
  {env : Outcomes Bytes Tree} {key : String} {maxSizeInBytes minimumPartitionFreeBytes : Int}

theorem Shelf.own_good : (w.Good archiver Extra).Own := by
  rintro key ref e items items' hitems ⟨hextra, ⟨nanos, hname⟩, content, horiginal, hserves⟩
  refine ⟨hextra, ⟨nanos, hname⟩, content, horiginal, hserves.congr rfl rfl rfl rfl ?_ ?_⟩
  · exact hitems _ (by rw [hname]; rfl)
  · exact hitems _ (by rw [hname]; rfl)

theorem Shelf.timeless_good : (w.Good archiver Extra).Timeless := by
  rintro key ref e items size access ⟨hextra, hname, content, horiginal, hserves⟩
  exact ⟨hextra, hname, content, horiginal, hserves.congr rfl rfl rfl rfl rfl rfl⟩

theorem Shelf.Faithful.mono (h : w.Faithful archiver Extra)
    (hextra : ∀ key ref, w.stored.cache.entries.lookup key = some ref → Extra key ref →
      Extra' key ref) : w.Faithful archiver Extra' where
  keeps := h.keeps.mono fun key ref hlookup hgood => ⟨hextra key ref hlookup hgood.1, hgood.2⟩
  unopened := h.unopened

theorem Shelf.faithful_new :
    (Shelf.new maxSizeInBytes minimumPartitionFreeBytes : Shelf Bytes Tree).Faithful archiver
      Extra where
  keeps := Stored.keeps_new
  unopened := fun _ _ => rfl

variable {s : Stored Bytes Tree} {ref : EntryRef}

variable {result : FileCacheEntry × Items Bytes Tree} {e : FileCacheEntry}
  {items : Items Bytes Tree}

/-- A call that only has made something of one entry, and may have opened a file of it. -/
theorem Shelf.Faithful.put (h : w.Faithful archiver Extra) (hs : Keeps (w.Good archiver Extra) s)
    (hseq : s.cache.seq = w.stored.cache.seq) (hlookup : s.cache.entries.lookup key = some ref)
    (hlocal : LocalItems ref s.items result)
    (hpath : result.1.filePath = (s.cache.heap ref).filePath) {openFiles : OpenFiles}
    (hopen : ∀ other, other ≠ ref → openFiles other = w.openFiles other)
    (hserves : ∀ content, w.original ref = some content →
      Serves archiver content (w.openFiles ref) (s.cache.heap ref) s.items →
      Serves archiver content (openFiles ref) result.1 result.2) :
    Shelf.Faithful archiver Extra
      { w with stored := s.put ref result, openFiles := openFiles } := by
  constructor
  · refine hs.put Shelf.own_good hlocal ?_ ?_
    · rintro key' other hne - ⟨hextra, hname, content, horiginal, hother⟩
      rw [← hopen other hne] at hother
      exact ⟨hextra, hname, content, horiginal, hother⟩
    · intro key' hlookup'
      obtain ⟨hextra, hname, content, horiginal, hbefore⟩ := hs.good key' ref hlookup'
      refine ⟨hpath, hextra, ?_, content, horiginal, hserves content horiginal hbefore⟩
      rwa [hpath]
  · intro other hlt
    have hlt : w.stored.cache.seq < other := hseq ▸ hlt
    have hne : other ≠ ref := by
      rintro rfl
      exact Nat.not_lt.mpr (hs.le key other hlookup) (hseq.symm ▸ hlt)
    exact (hopen other hne).trans (h.unopened other hlt)

theorem FileCacheEntry.ReadsClean.congr {e' : FileCacheEntry} {items' : Items Bytes Tree}
    {outcome : Reading Bytes Tree} (h : e.ReadsClean items outcome)
    (hpath : e'.filePath = e.filePath) (hfile : items' e.filePath = items e.filePath)
    (hcount : e'.directoryInUseCount = e.directoryInUseCount) : e'.ReadsClean items' outcome := by
  unfold FileCacheEntry.ReadsClean fileDoesNotExist Items.disk at *
  rw [hpath, hfile, hcount]
  exact h

/-- The entry that `Get` and `GetDirectory` work on. -/
theorem Shelf.Faithful.prepare (h : w.Faithful archiver Extra) (env : Outcomes Bytes Tree)
    (key : String) (ref : EntryRef) (missing : Bool) :
    Keeps (w.Good archiver Extra) (w.stored.prepare env key ref missing) :=
  h.keeps.prepare Shelf.own_good Shelf.timeless_good

theorem Shelf.opens_of_ne {other : EntryRef} (hne : other ≠ ref) {returned : Bool} :
    w.opens ref returned other = w.openFiles other := by
  cases returned with
  | false => rfl
  | true => exact update_of_ne hne _ _

theorem Shelf.opens_self (ref : EntryRef) (returned : Bool) :
    w.opens ref returned ref = if returned then w.openFiles ref + 1 else w.openFiles ref := by
  cases returned with
  | false => rfl
  | true => exact update_self _ _ _

theorem Stored.get_eq (hlookup : s.cache.entries.lookup key = some ref) :
    s.get archiver env key =
      let s' := s.prepare env key ref ((s.cache.heap ref).fileDoesNotExist s.cache.disk)
      let result := (s'.cache.heap ref).read s'.items archiver env.reading
      (s'.put ref result.1,
        result.2.map fun content => (ref, content, (s'.cache.heap ref).cachingInfo)) := by
  unfold Stored.get
  rw [hlookup]

theorem Stored.get_eq_none (hlookup : s.cache.entries.lookup key = none) :
    s.get archiver env key = (s, none) := by
  unfold Stored.get
  rw [hlookup]

theorem Shelf.get_eq (hlookup : w.stored.cache.entries.lookup key = some ref) :
    (w.get archiver env key).1 =
      let s' := w.stored.prepare env key ref
        ((w.stored.cache.heap ref).fileDoesNotExist w.stored.cache.disk)
      let result := (s'.cache.heap ref).read s'.items archiver env.reading
      { w with stored := s'.put ref result.1, openFiles := w.opens ref result.2.isSome } := by
  unfold Shelf.get
  rw [Stored.get_eq hlookup]
  dsimp only
  cases (read _ _ _ _).2 with
  | none | some content => rfl

theorem Shelf.Faithful.get (h : w.Faithful archiver Extra)
    (hclean : ∀ ref ∈ w.stored.cache.entries.lookup key,
      (w.stored.cache.heap ref).ReadsClean w.stored.items env.reading) :
    (w.get archiver env key).1.Faithful archiver Extra := by
  cases hlookup : w.stored.cache.entries.lookup key with
  | none =>
    unfold Shelf.get
    rw [Stored.get_eq_none hlookup]
    exact h
  | some ref =>
    rw [Shelf.get_eq hlookup]
    generalize (w.stored.cache.heap ref).fileDoesNotExist w.stored.cache.disk = missing
    have hs := h.prepare env key ref missing
    obtain ⟨hcurrent, hheap, hitems, hseq⟩ := h.keeps.prepare_entry hlookup
    have hclean' : ((w.stored.prepare env key ref missing).cache.heap ref).ReadsClean
        (w.stored.prepare env key ref missing).items env.reading := by
      obtain ⟨nanos, hname⟩ := h.keeps.name key ref hlookup
      refine (hclean ref hlookup).congr (by rw [hheap]) (hitems _ ?_) (by rw [hheap])
      rw [hname]
      rfl
    refine h.put hs hseq hcurrent ((hs.owned ref).read _ archiver)
      filePath_read (fun _ hne => Shelf.opens_of_ne hne) ?_
    intro content _ hserves
    rw [Shelf.opens_self]
    exact hserves.read hclean'

/-- What `Get` returns is the content that the current entry was made with. -/
theorem Shelf.Faithful.get_content (h : w.Faithful archiver Extra)
    {found : EntryRef × Bytes × CachingInfo} (hresult : (w.get archiver env key).2 = some found) :
    w.stored.cache.entries.lookup key = some found.1 ∧
      ∃ content, w.original found.1 = some content ∧ archiver.SameContent content found.2.1 := by
  unfold Shelf.get at hresult
  cases hlookup : w.stored.cache.entries.lookup key with
  | none =>
    rw [Stored.get_eq_none hlookup] at hresult
    cases hresult
  | some ref =>
    rw [Stored.get_eq hlookup] at hresult
    obtain ⟨content', hread, rfl⟩ := map_eq_some_iff.mp hresult
    have hs := h.prepare env key ref
      ((w.stored.cache.heap ref).fileDoesNotExist w.stored.cache.disk)
    obtain ⟨hcurrent, -⟩ := h.keeps.prepare_entry hlookup
    obtain ⟨-, -, content, horiginal, hserves⟩ := hs.good key ref hcurrent
    exact ⟨rfl, content, horiginal, hserves.read_content hread⟩

theorem Stored.getDirectory_eq_none (hlookup : s.cache.entries.lookup key = none) :
    s.getDirectory archiver env key = (s, none) := by
  unfold Stored.getDirectory
  rw [hlookup]

def FileCacheEntry.resize (e : FileCacheEntry) (size : Int) : FileCacheEntry :=
  { e with size := size }

theorem Owned.resize (h : Owned ref e) (size : Int) : Owned ref (e.resize size) :=
  ⟨h.file, h.directory⟩

theorem Serves.resize {content : Bytes} {n : Nat} (h : Serves archiver content n e items)
    (size : Int) : Serves archiver content n (e.resize size) items :=
  h.congr rfl rfl rfl rfl rfl rfl

theorem LocalItems.resize (h : LocalItems ref items result) (size : Int) :
    LocalItems ref items (result.1.resize size, result.2) :=
  ⟨h.owned.resize size, h.items⟩

/-- `GetDirectory` expands the entry, and changes nothing else of it but its size. -/
theorem Stored.getDirectory_eq (hlookup : s.cache.entries.lookup key = some ref) :
    ∃ size size' : Int,
      let s' := s.prepare env key ref ((s.cache.heap ref).dirDoesNotExist s.cache.disk)
      let result := ((s'.cache.heap ref).resize size).expand s'.items archiver env.expansion
      (s.getDirectory archiver env key).1 = s'.put ref (result.1.1.resize size', result.1.2) ∧
        (s.getDirectory archiver env key).2.map (fun found => (found.1, found.2.1)) = result.2 := by
  unfold Stored.getDirectory
  rw [hlookup]
  dsimp only
  generalize (s.cache.heap ref).dirDoesNotExist s.cache.disk = expanding
  generalize s.prepare env key ref expanding = s'
  refine ⟨if expanding then (s'.cache.heap ref).size * 2 else (s'.cache.heap ref).size, ?_⟩
  have hsize : (if expanding then { s'.cache.heap ref with size := (s'.cache.heap ref).size * 2 }
      else s'.cache.heap ref) = (s'.cache.heap ref).resize
        (if expanding then (s'.cache.heap ref).size * 2 else (s'.cache.heap ref).size) := by
    cases expanding <;> rfl
  rw [hsize]
  generalize expand _ _ _ _ = result
  obtain ⟨⟨e, items⟩, found⟩ := result
  cases found with
  | none => exact ⟨e.size, rfl, rfl⟩
  | some found =>
    refine ⟨if expanding && e.fileDoesNotExist items.disk then e.size.tdiv 2 else e.size, ?_, rfl⟩
    dsimp only
    split <;> rfl

theorem Shelf.Faithful.getDirectory (h : w.Faithful archiver Extra) :
    (w.getDirectory archiver env key).1.Faithful archiver Extra := by
  unfold Shelf.getDirectory
  dsimp only
  cases hlookup : w.stored.cache.entries.lookup key with
  | none =>
    rw [Stored.getDirectory_eq_none hlookup]
    exact h
  | some ref =>
    obtain ⟨size, size', hget, -⟩ := Stored.getDirectory_eq hlookup
    rw [hget]
    generalize (w.stored.cache.heap ref).dirDoesNotExist w.stored.cache.disk = missing
    have hs := h.prepare env key ref missing
    obtain ⟨hcurrent, -, -, hseq⟩ := h.keeps.prepare_entry hlookup
    obtain ⟨nanos, hname⟩ := hs.name key ref hcurrent
    have hlocal := ((hs.owned ref).resize size).expand (w.stored.prepare env key ref missing).items
      archiver hname env.expansion
    refine h.put hs hseq hcurrent (hlocal.resize size') filePath_expand
      (fun _ _ => rfl) ?_
    intro content _ hserves
    exact (hserves.resize size).expand.1.resize size'

/-- What `GetDirectory` returns is the tree in the content that the current entry was made with. -/
theorem Shelf.Faithful.getDirectory_content (h : w.Faithful archiver Extra)
    {found : Path × Tree × CachingInfo}
    (hresult : (w.getDirectory archiver env key).2 = some found) :
    ∃ ref content, w.stored.cache.entries.lookup key = some ref ∧
      w.original ref = some content ∧ archiver.extract content = some found.2.1 := by
  have hresult : (w.stored.getDirectory archiver env key).2 = some found := hresult
  cases hlookup : w.stored.cache.entries.lookup key with
  | none =>
    rw [Stored.getDirectory_eq_none hlookup] at hresult
    cases hresult
  | some ref =>
    obtain ⟨size, size', -, hfound⟩ := Stored.getDirectory_eq hlookup
    rw [hresult] at hfound
    generalize (w.stored.cache.heap ref).dirDoesNotExist w.stored.cache.disk = missing at hfound
    obtain ⟨hcurrent, -⟩ := h.keeps.prepare_entry hlookup
    obtain ⟨-, -, content, horiginal, hserves⟩ :=
      (h.prepare env key ref missing).good key ref hcurrent
    refine ⟨ref, content, rfl, horiginal, ?_⟩
    exact (hserves.resize size).expand.2 _ hfound.symm

/-- The cache after the new entry of `Add` or `AddDirectory`, which is not open yet. -/
theorem Shelf.Faithful.replace (h : w.Faithful archiver Extra) (env : Outcomes Bytes Tree)
    (key : String) (content : Bytes) (size : Int) (cachingInfo : CachingInfo) :
    Shelf.Faithful archiver (Extra.adding env.rename key w.stored.cache.seq)
      { w with
        stored := (w.stored.replace env key content size cachingInfo).1
        original := update w.original (w.stored.cache.seq + 1) (some content) } := by
  have hbefore : Keeps (Shelf.Good archiver (Extra.adding env.rename key w.stored.cache.seq)
      { w with
        stored := (w.stored.replace env key content size cachingInfo).1
        original := update w.original (w.stored.cache.seq + 1) (some content) })
      w.stored := by
    refine h.keeps.mono ?_
    rintro key' ref hlookup ⟨hextra, hname, content', horiginal, hserves⟩
    refine ⟨Or.inl ⟨hextra, h.keeps.le key' ref hlookup⟩, hname, content', ?_, hserves⟩
    refine (update_of_ne ?_ _ _).trans horiginal
    rintro rfl
    exact Nat.not_succ_le_self _ (h.keeps.le key' _ hlookup)
  constructor
  · refine hbefore.replace Shelf.own_good ?_
    intro hrename items hitems
    refine ⟨Or.inr ⟨hrename, rfl, rfl⟩, ⟨env.nanos, rfl⟩, content, update_self _ _ _, ?_⟩
    have hunopened : w.openFiles (w.stored.cache.seq + 1) = 0 := h.unopened _ (Nat.lt_succ_self _)
    rw [hunopened]
    exact serves_new hitems
  · intro ref hlt
    have hseq : (w.stored.replace env key content size cachingInfo).1.cache.seq =
        w.stored.cache.seq + 1 := w.stored.lookup_replace.1
    rw [hseq] at hlt
    exact h.unopened ref (lt_trans (Nat.lt_succ_self _) hlt)

variable {content : Bytes} {size : Int} {cachingInfo : CachingInfo} {dirPath : Path}
  {removal : Removal Tree} {outcome : Retirement Tree}

/-- The new entry has its tarball, so `readCloser` only opens it. -/
theorem Shelf.Faithful.readsClean_new (h : w.Faithful archiver Extra)
    (hrename : (w.stored.replace env key content size cachingInfo).2 = true)
    {outcome : Reading Bytes Tree} :
    ((w.stored.replace env key content size cachingInfo).1.cache.heap
      (w.stored.cache.seq + 1)).ReadsClean
        (w.stored.replace env key content size cachingInfo).1.items outcome := by
  obtain ⟨hheap, hfile⟩ := h.keeps.replaced_new hrename
  intro hmissing
  rw [fileDoesNotExist_eq_true, hheap] at hmissing
  cases hmissing.symm.trans hfile

section Add

variable (s archiver env key content size cachingInfo)

theorem Stored.add_eq :
    s.add archiver env key content size cachingInfo =
      let s' := (s.replace env key content size cachingInfo).1
      let result := (s'.cache.heap (s.cache.seq + 1)).read s'.items archiver env.reading
      if (s.replace env key content size cachingInfo).2 then
        (s'.put (s.cache.seq + 1) result.1, result.2)
      else (s', none) := by
  unfold Stored.add
  dsimp only
  rw [s.lookup_replace.1]
  cases (s.replace env key content size cachingInfo).2 <;> rfl

theorem Stored.addDirectory_eq :
    s.addDirectory archiver env key content size cachingInfo =
      let s' := (s.replace env key content size cachingInfo).1
      let result := (s'.cache.heap (s.cache.seq + 1)).expand s'.items archiver env.expansion
      if (s.replace env key content size cachingInfo).2 then
        (s'.put (s.cache.seq + 1) result.1, result.2)
      else (s', none) := by
  unfold Stored.addDirectory
  dsimp only
  rw [s.lookup_replace.1]
  cases (s.replace env key content size cachingInfo).2 <;> rfl

theorem Stored.seq_add :
    (s.add archiver env key content size cachingInfo).1.cache.seq = s.cache.seq + 1 := by
  rw [Stored.add_eq]
  split <;> exact s.lookup_replace.1

theorem Stored.seq_addDirectory :
    (s.addDirectory archiver env key content size cachingInfo).1.cache.seq = s.cache.seq + 1 := by
  rw [Stored.addDirectory_eq]
  split <;> exact s.lookup_replace.1

theorem Stored.lookup_add :
    (s.add archiver env key content size cachingInfo).2.isSome = true →
      (s.add archiver env key content size cachingInfo).1.cache.entries.lookup key =
        some (s.cache.seq + 1) := by
  rw [Stored.add_eq]
  split
  · exact fun _ => s.lookup_replace.2 ‹_›
  · nofun

theorem Stored.lookup_addDirectory :
    (s.addDirectory archiver env key content size cachingInfo).2.isSome = true →
      (s.addDirectory archiver env key content size cachingInfo).1.cache.entries.lookup key =
        some (s.cache.seq + 1) := by
  rw [Stored.addDirectory_eq]
  split
  · exact fun _ => s.lookup_replace.2 ‹_›
  · nofun

end Add

theorem FileCacheEntry.read_snd (outcome : Reading Bytes Tree) :
    (e.read items archiver outcome).2 =
      if outcome.seek then (e.openFile items archiver outcome).2 else none := by
  unfold read
  cases hopened : (e.openFile items archiver outcome).2 <;> simp [hopened]

section

variable {Good : EntryProp Bytes Tree} (h : Keeps Good s)
include h

/-- The new entry has its tarball, which can be opened. -/
theorem Keeps.isSome_openFile_new
    (hrename : (s.replace env key content size cachingInfo).2 = true)
    (archiver : Archiver Bytes Tree) (outcome : Reading Bytes Tree) :
    (((s.replace env key content size cachingInfo).1.cache.heap (s.cache.seq + 1)).openFile
      (s.replace env key content size cachingInfo).1.items archiver outcome).2.isSome =
        outcome.openFile := by
  obtain ⟨hheap, hfile⟩ := h.replaced_new hrename
  rw [hheap]
  simp only [openFile, newFileCacheEntry, hfile]
  cases outcome.openFile <;> rfl

/-- `Add` returns a file if `os.Rename`, `os.Open` and `Seek` succeed. -/
theorem Keeps.isSome_add :
    (s.add archiver env key content size cachingInfo).2.isSome =
      (env.rename && env.reading.openFile && env.reading.seek) := by
  rw [Stored.add_eq, ← Stored.replace_snd]
  split
  · rename_i hrename
    rw [read_snd, hrename, Bool.true_and, ← h.isSome_openFile_new hrename archiver]
    cases env.reading.seek <;> simp
  · rename_i hrename
    rw [Bool.not_eq_true] at hrename
    rw [hrename]
    rfl

end

/-- A call has made an entry of the key with the content. -/
structure Shelf.Adds (archiver : Archiver Bytes Tree) (Extra : EntryRel) (key : String)
    (content : Bytes) (renamed : Bool) (w w' : Shelf Bytes Tree) : Prop where
  faithful : w'.Faithful archiver (Extra.adding renamed key w.stored.cache.seq)
  original : w'.original = update w.original (w.stored.cache.seq + 1) (some content)

/-- What the old entries and the new one are known to be. -/
theorem Shelf.Adds.mono {renamed : Bool} {w' : Shelf Bytes Tree}
    (h : w.Adds archiver Extra key content renamed w')
    (hold : ∀ key' ref, w'.stored.cache.entries.lookup key' = some ref →
      ref ≤ w.stored.cache.seq → w'.original ref = w.original ref → Extra key' ref →
      Extra' key' ref)
    (hnew : renamed = true → w'.original (w.stored.cache.seq + 1) = some content →
      Extra' key (w.stored.cache.seq + 1)) : w'.Faithful archiver Extra' := by
  refine h.faithful.mono ?_
  rintro key' ref hcurrent (⟨hextra, hle⟩ | ⟨hrenamed, rfl, rfl⟩)
  · refine hold key' ref hcurrent hle ?_ hextra
    rw [h.original, update_of_ne (Nat.ne_of_lt (Nat.lt_succ_of_le hle))]
  · refine hnew hrenamed ?_
    rw [h.original, update_self]

theorem Shelf.Faithful.add (h : w.Faithful archiver Extra) (env : Outcomes Bytes Tree)
    (key : String) (content : Bytes) (size : Int) (cachingInfo : CachingInfo) :
    w.Adds archiver Extra key content env.rename
      (w.add archiver env key content size cachingInfo).1 := by
  have hreplace := h.replace env key content size cachingInfo
  simp only [Shelf.add, Stored.seq_add]
  refine ⟨?_, rfl⟩
  rw [Stored.add_eq]
  split
  · rename_i hrename
    refine hreplace.put hreplace.keeps rfl (w.stored.lookup_replace.2 hrename)
      ((hreplace.keeps.owned _).read _ archiver)
      filePath_read (fun _ hne => Shelf.opens_of_ne hne) ?_
    intro content' _ hserves
    rw [Shelf.opens_self]
    exact hserves.read (h.readsClean_new hrename)
  · exact hreplace

theorem Shelf.Faithful.addDirectory (h : w.Faithful archiver Extra) (env : Outcomes Bytes Tree)
    (key : String) (content : Bytes) (size : Int) (cachingInfo : CachingInfo) :
    w.Adds archiver Extra key content env.rename
      (w.addDirectory archiver env key content size cachingInfo).1 := by
  have hreplace := h.replace env key content size cachingInfo
  simp only [Shelf.addDirectory, Stored.seq_addDirectory]
  refine ⟨?_, rfl⟩
  rw [Stored.addDirectory_eq]
  split
  · rename_i hrename
    have hlookup := w.stored.lookup_replace.2 hrename
    obtain ⟨nanos, hname⟩ := hreplace.keeps.name key _ hlookup
    refine hreplace.put hreplace.keeps rfl hlookup
      ((hreplace.keeps.owned _).expand _ archiver hname env.expansion)
      filePath_expand (fun _ _ => rfl) ?_
    intro content' _ hserves
    exact hserves.expand.1
  · exact hreplace

section

variable (h : w.Faithful archiver Extra) {outcome : Retirement Tree} {removal : Removal Tree}
include h

/-- What `Add` and `AddDirectory` open or expand is the content that they were given. -/
theorem Shelf.Faithful.serves_new
    (hrename : (w.stored.replace env key content size cachingInfo).2 = true) :
    Serves archiver content (w.openFiles (w.stored.cache.seq + 1))
      ((w.stored.replace env key content size cachingInfo).1.cache.heap (w.stored.cache.seq + 1))
      (w.stored.replace env key content size cachingInfo).1.items := by
  obtain ⟨-, -, content', horiginal, hserves⟩ :=
    (h.replace env key content size cachingInfo).keeps.good key _
      (w.stored.lookup_replace.2 hrename)
  have hupdate : update w.original (w.stored.cache.seq + 1) (some content)
      (w.stored.cache.seq + 1) = some content' := horiginal
  rw [update_self] at hupdate
  cases hupdate
  exact hserves

theorem Shelf.Faithful.add_content {content' : Bytes}
    (hresult : (w.add archiver env key content size cachingInfo).2 = some content') :
    archiver.SameContent content content' := by
  have hresult : (w.stored.add archiver env key content size cachingInfo).2 = some content' :=
    hresult
  rw [Stored.add_eq] at hresult
  split at hresult
  · rename_i hrename
    exact (h.serves_new hrename).read_content hresult
  · cases hresult

theorem Shelf.Faithful.addDirectory_content {found : Path × Tree}
    (hresult : (w.addDirectory archiver env key content size cachingInfo).2 = some found) :
    archiver.extract content = some found.2 := by
  have hresult : (w.stored.addDirectory archiver env key content size cachingInfo).2 = some found :=
    hresult
  rw [Stored.addDirectory_eq] at hresult
  split at hresult
  · rename_i hrename
    exact (h.serves_new hrename).expand.2 found hresult
  · cases hresult

theorem Shelf.Faithful.remove : (w.remove key outcome).Faithful archiver Extra where
  keeps := h.keeps.remove Shelf.own_good key outcome
  unopened ref hlt := h.unopened ref (lt_of_eq_of_lt Stored.seq_remove.symm hlt)

theorem Shelf.Faithful.makeRoom : (w.makeRoom env).Faithful archiver Extra where
  keeps := h.keeps.makeRoom Shelf.own_good env 0 ""
  unopened ref hlt := h.unopened ref (lt_of_eq_of_lt (Stored.seq_makeRoom env 0 "").symm hlt)

theorem Shelf.Faithful.closeFile (hopen : 0 < w.openFiles ref) :
    (w.closeFile ref removal).Faithful archiver Extra := by
  constructor
  · refine h.keeps.put Shelf.own_good ((h.keeps.owned ref).releaseFile w.stored.items removal) ?_ ?_
    · rintro key' other hne - ⟨hextra, hname, content, horiginal, hserves⟩
      refine ⟨hextra, hname, content, horiginal, ?_⟩
      have hsame : (w.closeFile ref removal).openFiles other = w.openFiles other :=
        update_of_ne hne _ _
      rwa [hsame]
    · intro key' hlookup
      obtain ⟨hextra, hname, content, horiginal, hserves⟩ := h.keeps.good key' ref hlookup
      have hpath := filePath_releaseFile (w.stored.cache.heap ref) w.stored.items removal
      refine ⟨hpath, hextra, hpath ▸ hname, content, horiginal, ?_⟩
      have hless : (w.closeFile ref removal).openFiles ref = w.openFiles ref - 1 :=
        update_self _ _ _
      rw [hless]
      have hone : w.openFiles ref = w.openFiles ref - 1 + 1 := by omega
      rw [hone] at hserves
      exact hserves.releaseFile
  · intro other hlt
    have hzero := h.unopened other hlt
    have hne : other ≠ ref := by
      rintro rfl
      omega
    exact (update_of_ne hne _ _).trans hzero

end

theorem Stored.seq_closeDirectory :
    (s.closeDirectory key dirPath removal outcome).1.cache.seq = s.cache.seq := by
  unfold Stored.closeDirectory Stored.closeOldDirectory
  split
  · split <;> rfl
  · split
    · rfl
    · dsimp only
      split <;> rfl

theorem Shelf.Faithful.closeDirectory (h : w.Faithful archiver Extra) :
    (w.closeDirectory key dirPath removal outcome).1.Faithful archiver Extra := by
  constructor
  · refine h.keeps.closeDirectory Shelf.own_good ?_
    rintro ref - hne ⟨hextra, hname, content, horiginal, hserves⟩
    refine ⟨hextra, ?_, content, horiginal, hserves.releaseDirectory hne⟩
    rwa [filePath_releaseDirectory]
  · intro ref hlt
    exact h.unopened ref (lt_of_eq_of_lt Stored.seq_closeDirectory.symm hlt)

end Calls

end Diego.CachedDownloader
