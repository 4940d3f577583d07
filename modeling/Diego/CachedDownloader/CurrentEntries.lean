import Diego.CachedDownloader.Contents
import Diego.CachedDownloader.Lifetime

/-!
# What holds of every current entry

Most properties of the cache are properties of its current entries, each of which depends on the
entry and on its own tarball and directory only.  `Keeps Good s` says that `Good` holds of every
current entry, together with what keeps the entries apart: their paths are their own, and an old
entry is not current.  One method of one entry (`Keeps.put`), the retirement of an entry
(`Keeps.remove`), making room (`Keeps.makeRoom`) and a new entry (`Keeps.replace`) each keep it
for any such property, whatever fails on the disk.
-/

namespace Diego.CachedDownloader

variable {Bytes Tree : Type}

/-! ## Methods and the paths of their entry -/

/-- The result of a method leaves the paths of other entries alone. -/
structure LocalItems (ref : EntryRef) (items : Items Bytes Tree)
    (result : FileCacheEntry × Items Bytes Tree) : Prop where
  owned : Owned ref result.1
  items : ∀ path other, path.owner = some other → other ≠ ref → result.2 path = items path

namespace Items

variable {items : Items Bytes Tree} {path other : Path} {removal : Removal Tree}
  {item : Item Bytes Tree}

theorem removeAll_of_ne (h : other ≠ path) : items.removeAll path removal other = items other := by
  cases removal <;> simp [removeAll, h]

theorem put_of_ne (h : other ≠ path) : items.put path item other = items other := by
  simp [put, h]

@[simp] theorem put_self : items.put path item path = some item := by
  simp [put]

@[simp] theorem removeAll_none_self : items.removeAll path none path = none := by
  simp [removeAll]

end Items

section LocalItems

variable {ref : EntryRef} {e : FileCacheEntry} (h : Owned ref e) (items : Items Bytes Tree)
  (archiver : Archiver Bytes Tree)

include h

variable (removal : Removal Tree) (outcome : Retirement Tree)

theorem Owned.releaseDirectory : LocalItems ref items (e.releaseDirectory items removal) := by
  unfold FileCacheEntry.releaseDirectory
  dsimp only
  split
  · refine ⟨⟨h.file, Or.inl rfl⟩, ?_⟩
    intro path other hpath hother
    exact Items.removeAll_of_ne (h.directory_ne hpath hother)
  · exact ⟨⟨h.file, h.directory⟩, fun _ _ _ _ => rfl⟩

theorem Owned.releaseFile : LocalItems ref items (e.releaseFile items removal) := by
  unfold FileCacheEntry.releaseFile
  dsimp only
  split
  · refine ⟨⟨h.file, h.directory⟩, ?_⟩
    intro path other hpath hother
    exact Items.removeAll_of_ne (h.file_ne hpath hother)
  · exact ⟨⟨h.file, h.directory⟩, fun _ _ _ _ => rfl⟩

theorem Owned.releaseUse : LocalItems ref items (e.releaseUse items outcome) := by
  have hfile := h.releaseFile items outcome.file
  have hdirectory := hfile.owned.releaseDirectory (e.releaseFile items outcome.file).2
    outcome.directory
  refine ⟨hdirectory.owned, ?_⟩
  intro path other hpath hother
  exact (hdirectory.items path other hpath hother).trans (hfile.items path other hpath hother)

theorem Owned.discardItems : LocalItems ref items (e.discard items outcome) := by
  refine ⟨⟨Or.inl rfl, Or.inl rfl⟩, ?_⟩
  intro path other hpath hother
  exact (Items.removeAll_of_ne (h.file_ne hpath hother)).trans
    (Items.removeAll_of_ne (h.directory_ne hpath hother))

theorem Owned.openFile (outcome : Reading Bytes Tree) :
    LocalItems ref items (e.openFile items archiver outcome).1 := by
  have hput : ∀ item path other, path.owner = some other → other ≠ ref →
      items.put e.filePath item path = items path := by
    intro item path other hpath hother
    exact Items.put_of_ne (h.file_ne hpath hother)
  unfold FileCacheEntry.openFile
  split
  · exact ⟨h, fun _ _ _ _ => rfl⟩
  · exact ⟨h, fun _ _ _ _ => rfl⟩
  · split
    · exact ⟨h, fun _ _ _ _ => rfl⟩
    · split
      · exact ⟨h, hput _⟩
      · split
        · refine ⟨h, ?_⟩
          intro path other hpath hother
          exact (Items.removeAll_of_ne (h.directory_ne hpath hother)).trans
            (hput _ path other hpath hother)
        · exact ⟨⟨h.file, h.directory⟩, hput _⟩

theorem Owned.read {outcome : Reading Bytes Tree} :
    LocalItems ref items (e.read items archiver outcome).1 := by
  have hopen := h.openFile items archiver outcome
  unfold FileCacheEntry.read
  dsimp only
  split
  · exact hopen
  · exact ⟨⟨hopen.owned.file, hopen.owned.directory⟩, hopen.items⟩

/-- A tarball is expanded beside itself. -/
theorem Owned.expand {key : String} {nanos : Int} (hname : e.filePath = .cached ⟨key, nanos, ref⟩)
    (outcome : Expansion Tree) : LocalItems ref items (e.expand items archiver outcome).1 := by
  have hput : ∀ tree path other, path.owner = some other → other ≠ ref →
      items.put (.expanded e.filePath) (.directory tree) path = items path := by
    intro tree path other hpath hother
    exact Items.put_of_ne (expanded_ne hname hpath hother)
  have hexpanded : Path.expanded e.filePath = .empty ∨
      ∃ key nanos, Path.expanded e.filePath = .expanded (.cached ⟨key, nanos, ref⟩) :=
    Or.inr ⟨key, nanos, by rw [hname]⟩
  unfold FileCacheEntry.expand
  split
  · split
    · refine ⟨⟨h.file, Or.inl rfl⟩, ?_⟩
      intro path other hpath hother
      refine (Items.removeAll_of_ne (expanded_ne hname hpath hother)).trans ?_
      cases outcome.partialTree with
      | none => rfl
      | some tree => exact hput tree path other hpath hother
    · refine ⟨⟨h.file, hexpanded⟩, ?_⟩
      intro path other hpath hother
      split
      · exact (Items.removeAll_of_ne (h.file_ne hpath hother)).trans
          (hput _ path other hpath hother)
      · exact hput _ path other hpath hother
  · split
    · exact ⟨⟨h.file, h.directory⟩, fun _ _ _ _ => rfl⟩
    · exact ⟨h, fun _ _ _ _ => rfl⟩

end LocalItems

section FilePath

variable (e : FileCacheEntry) (items : Items Bytes Tree) (removal : Removal Tree)

theorem FileCacheEntry.filePath_releaseFile :
    (e.releaseFile items removal).1.filePath = e.filePath := by
  unfold releaseFile
  dsimp only
  split <;> rfl

theorem FileCacheEntry.filePath_releaseDirectory :
    (e.releaseDirectory items removal).1.filePath = e.filePath := by
  unfold releaseDirectory
  dsimp only
  split <;> rfl

end FilePath

/-! ## The invariant -/

abbrev EntryProp (Bytes Tree : Type) :=
  String → EntryRef → FileCacheEntry → Items Bytes Tree → Prop

/-- The property depends on the paths of the entry only. -/
def EntryProp.Own (Good : EntryProp Bytes Tree) : Prop :=
  ∀ key ref e items items', (∀ path, path.owner = some ref → items' path = items path) →
    Good key ref e items → Good key ref e items'

structure Keeps (Good : EntryProp Bytes Tree) (s : Stored Bytes Tree) : Prop where
  synced : s.Synced
  owned : ∀ ref, Owned ref (s.cache.heap ref)
  le : ∀ key ref, s.cache.entries.lookup key = some ref → ref ≤ s.cache.seq
  name : ∀ key ref, s.cache.entries.lookup key = some ref →
    ∃ nanos, (s.cache.heap ref).filePath = .cached ⟨key, nanos, ref⟩
  good : ∀ key ref, s.cache.entries.lookup key = some ref → Good key ref (s.cache.heap ref) s.items
  old : ∀ place ref, s.cache.oldEntries.lookup place = some ref →
    ref ≤ s.cache.seq ∧ ∀ key, s.cache.entries.lookup key ≠ some ref

section Keeps

variable {Good Good' : EntryProp Bytes Tree} {s : Stored Bytes Tree} {key : String}
  {ref : EntryRef}

variable {key' : String} {result : FileCacheEntry × Items Bytes Tree} {outcome : Retirement Tree}

theorem Keeps.key_eq (h : Keeps Good s) (hlookup : s.cache.entries.lookup key = some ref)
    (hlookup' : s.cache.entries.lookup key' = some ref) : key' = key := by
  obtain ⟨nanos, hname⟩ := h.name key ref hlookup
  obtain ⟨nanos', hname'⟩ := h.name key' ref hlookup'
  have hnames := hname'.symm.trans hname
  simp only [Path.cached.injEq, UniqueName.mk.injEq] at hnames
  exact hnames.1

theorem Keeps.mono (h : Keeps Good s) (hgood : ∀ key ref, s.cache.entries.lookup key = some ref →
      Good key ref (s.cache.heap ref) s.items → Good' key ref (s.cache.heap ref) s.items) :
    Keeps Good' s :=
  { h with good := fun key ref hlookup => hgood key ref hlookup (h.good key ref hlookup) }

theorem Keeps.put (h : Keeps Good s) (hown : Good'.Own) (hlocal : LocalItems ref s.items result)
    (hother : ∀ key other, other ≠ ref → s.cache.entries.lookup key = some other →
      Good key other (s.cache.heap other) s.items → Good' key other (s.cache.heap other) s.items)
    (hself : ∀ key, s.cache.entries.lookup key = some ref →
      result.1.filePath = (s.cache.heap ref).filePath ∧ Good' key ref result.1 result.2) :
    Keeps Good' (s.put ref result) := by
  have hheap : ∀ other, other ≠ ref → (s.put ref result).cache.heap other = s.cache.heap other := by
    intro other hne
    exact Function.update_of_ne hne _ _
  have hheap' : (s.put ref result).cache.heap ref = result.1 := Function.update_self _ _ _
  refine ⟨rfl, ?_, h.le, ?_, ?_, h.old⟩
  · intro other
    by_cases hne : other = ref
    · subst hne
      rw [hheap']
      exact hlocal.owned
    · rw [hheap other hne]
      exact h.owned other
  · intro key other hlookup
    by_cases hne : other = ref
    · subst hne
      rw [hheap', (hself key hlookup).1]
      exact h.name key other hlookup
    · rw [hheap other hne]
      exact h.name key other hlookup
  · intro key other hlookup
    by_cases hne : other = ref
    · subst hne
      rw [hheap']
      exact (hself key hlookup).2
    · rw [hheap other hne]
      refine hown key other _ _ _ ?_ (hother key other hne hlookup (h.good key other hlookup))
      intro path howner
      exact hlocal.items path other howner hne

theorem Keeps.put_old (h : Keeps Good s) (hown : Good.Own) (hlocal : LocalItems ref s.items result)
    (hnot : ∀ key, s.cache.entries.lookup key ≠ some ref) : Keeps Good (s.put ref result) :=
  h.put hown hlocal (fun _ _ _ _ => id) fun key hlookup => absurd hlookup (hnot key)

/-! ### Retiring an entry -/

theorem Stored.retire_eq :
    ∃ oldEntries, s.retire key ref outcome =
        { s.put ref ((s.cache.heap ref).releaseUse s.items outcome) with
          cache := { (s.put ref ((s.cache.heap ref).releaseUse s.items outcome)).cache with
            oldEntries := oldEntries } } ∧
      ∀ place other, oldEntries.lookup place = some other →
        other = ref ∨ s.cache.oldEntries.lookup place = some other := by
  unfold Stored.retire FileCache.updateOldEntries
  dsimp only
  split
  · refine ⟨_, rfl, ?_⟩
    intro place other hlookup
    rw [GoMap.lookup_insert_ite] at hlookup
    split at hlookup
    · exact Or.inl (Option.some.inj hlookup).symm
    · exact Or.inr hlookup
  · split
    · refine ⟨_, rfl, ?_⟩
      intro place other hlookup
      exact Or.inr (GoMap.lookup_erase_eq_some.mp hlookup).2
    · exact ⟨_, rfl, fun _ _ => Or.inr⟩

theorem Keeps.setOldEntries (h : Keeps Good s) {oldEntries : GoMap (String × Path) EntryRef}
    (hold : ∀ place ref, oldEntries.lookup place = some ref →
      ref ≤ s.cache.seq ∧ ∀ key, s.cache.entries.lookup key ≠ some ref) :
    Keeps Good { s with cache := { s.cache with oldEntries := oldEntries } } :=
  ⟨h.synced, h.owned, h.le, h.name, h.good, hold⟩

/-- An entry that is not current is retired, possibly again. -/
theorem Keeps.retire (h : Keeps Good s) (hown : Good.Own) (hle : ref ≤ s.cache.seq)
    (hnot : ∀ key, s.cache.entries.lookup key ≠ some ref) :
    Keeps Good (s.retire key ref outcome) := by
  obtain ⟨oldEntries, heq, hold⟩ := s.retire_eq
  have hput := h.put_old hown ((h.owned ref).releaseUse s.items outcome) hnot
  rw [heq]
  refine hput.setOldEntries ?_
  intro place other hlookup
  rcases hold place other hlookup with rfl | hbefore
  · exact ⟨hle, hnot⟩
  · exact h.old place other hbefore

theorem Keeps.eraseEntry (h : Keeps Good s) :
    Keeps Good { s with cache := { s.cache with entries := s.cache.entries.erase key } } := by
  have hbefore : ∀ key' ref, (s.cache.entries.erase key).lookup key' = some ref →
      s.cache.entries.lookup key' = some ref := by
    intro key' ref hlookup
    exact (GoMap.lookup_erase_eq_some.mp hlookup).2
  refine ⟨h.synced, h.owned, ?_, ?_, ?_, ?_⟩
  · exact fun key' ref hlookup => h.le key' ref (hbefore key' ref hlookup)
  · exact fun key' ref hlookup => h.name key' ref (hbefore key' ref hlookup)
  · exact fun key' ref hlookup => h.good key' ref (hbefore key' ref hlookup)
  · intro place ref hlookup
    refine ⟨(h.old place ref hlookup).1, ?_⟩
    intro key' hcurrent
    exact (h.old place ref hlookup).2 key' (hbefore key' ref hcurrent)

/-- The entry may as well leave the map before it is retired. -/
theorem Stored.remove_eq (hlookup : s.cache.entries.lookup key = some ref) :
    s.remove key outcome =
      Stored.retire { s with cache := { s.cache with entries := s.cache.entries.erase key } } key
        ref outcome := by
  unfold Stored.remove
  rw [hlookup]
  unfold Stored.retire FileCache.updateOldEntries Stored.put
  dsimp only
  split
  · rfl
  · split <;> rfl

theorem Keeps.remove (h : Keeps Good s) (hown : Good.Own) (key : String)
    (outcome : Retirement Tree) : Keeps Good (s.remove key outcome) := by
  cases hlookup : s.cache.entries.lookup key with
  | none =>
    unfold Stored.remove
    rw [hlookup]
    exact h
  | some ref =>
    rw [Stored.remove_eq hlookup]
    refine h.eraseEntry.retire hown (h.le key ref hlookup) ?_
    intro key' hlookup'
    obtain ⟨hne, hlookup'⟩ := GoMap.lookup_erase_eq_some.mp hlookup'
    exact hne (h.key_eq hlookup hlookup')

/-! ### Making room -/

variable {size : Int} {content : Bytes} {cachingInfo : CachingInfo} {excluded : String}
  {env : Outcomes Bytes Tree} {missing : Bool} {dirPath : Path} {removal : Removal Tree}

theorem Stored.makeRoom_induction {P : Stored Bytes Tree → Prop}
    (hremove : ∀ s key ref turn, P s → s.cache.entries.lookup key = some ref →
      (s.cache.heap ref).inUse = false → key ≠ excluded →
      P (s.remove key (env.evictions turn))) (h : P s) : P (s.makeRoom env size excluded) := by
  have hloop : ∀ turns turn usedSpace s, P s →
      P (Stored.makeRoomLoop env size excluded turns turn usedSpace s) := by
    intro turns
    induction turns with
    | zero => exact fun _ _ _ h => h
    | succ turns ih =>
      intro turn usedSpace s h
      unfold Stored.makeRoomLoop
      split
      · split
        · exact h
        · rename_i key ref holdest
          obtain ⟨hlookup, hunused, hne⟩ := FileCache.oldestEntry_spec holdest
          exact ih _ _ _ (hremove s key ref _ h hlookup hunused hne)
      · exact h
  exact hloop _ _ _ s h

theorem Keeps.makeRoom (h : Keeps Good s) (hown : Good.Own) (env : Outcomes Bytes Tree)
    (size : Int) (excluded : String) : Keeps Good (s.makeRoom env size excluded) := by
  refine Stored.makeRoom_induction ?_ h
  intro s key ref turn h _ _ _
  exact h.remove hown key (env.evictions turn)

theorem Stored.seq_remove : (s.remove key outcome).cache.seq = s.cache.seq := by
  unfold Stored.remove Stored.retire FileCache.updateOldEntries
  split
  · rfl
  · dsimp only
    split
    · rfl
    · split <;> rfl

theorem Stored.seq_makeRoom (env : Outcomes Bytes Tree) (size : Int) (excluded : String) :
    (s.makeRoom env size excluded).cache.seq = s.cache.seq := by
  refine Stored.makeRoom_induction (P := fun s' => s'.cache.seq = s.cache.seq) ?_ rfl
  intro s' key ref turn h _ _ _
  rw [Stored.seq_remove, h]

theorem Stored.lookup_remove :
    (s.remove key outcome).cache.entries.lookup key' =
      if key' = key then none else s.cache.entries.lookup key' := by
  cases hlookup : s.cache.entries.lookup key with
  | none =>
    unfold Stored.remove
    rw [hlookup]
    by_cases heq : key' = key
    · rw [if_pos heq, heq, hlookup]
    · rw [if_neg heq]
  | some ref =>
    obtain ⟨oldEntries, heq, -⟩ := Stored.retire_eq
    rw [Stored.remove_eq hlookup, heq]
    exact GoMap.lookup_erase_ite _

/-- The key for which there is to be room keeps its entry. -/
theorem Stored.lookup_makeRoom_excluded (env : Outcomes Bytes Tree) (size : Int) :
    (s.makeRoom env size excluded).cache.entries.lookup excluded =
      s.cache.entries.lookup excluded := by
  refine Stored.makeRoom_induction
    (P := fun s' => s'.cache.entries.lookup excluded = s.cache.entries.lookup excluded) ?_ rfl
  intro s' key ref turn h _ _ hne
  rw [Stored.lookup_remove, if_neg hne.symm, h]

/-- The entry is the one it was, with the same tarball and directory. -/
def SameAs (s : Stored Bytes Tree) : EntryProp Bytes Tree :=
  fun key ref e items => s.cache.entries.lookup key = some ref ∧ e = s.cache.heap ref ∧
    ∀ path, path.owner = some ref → items path = s.items path

theorem own_sameAs : (SameAs s).Own := by
  rintro key ref e items items' hitems ⟨hlookup, he, hsame⟩
  exact ⟨hlookup, he, fun path howner => (hitems path howner).trans (hsame path howner)⟩

/-- What is current after making room was current before and has not changed. -/
theorem Keeps.sameAs_makeRoom (h : Keeps Good s) :
    Keeps (SameAs s) (s.makeRoom env size excluded) := by
  have hbefore : Keeps (SameAs s) s := h.mono fun _ _ hlookup _ => ⟨hlookup, rfl, fun _ _ => rfl⟩
  exact hbefore.makeRoom own_sameAs env size excluded

theorem Stored.keeps_new {maxSizeInBytes minimumPartitionFreeBytes : Int} :
    Keeps Good (newStored maxSizeInBytes minimumPartitionFreeBytes) where
  synced := rfl
  owned := fun _ => ⟨Or.inl rfl, Or.inl rfl⟩
  le := nofun
  name := nofun
  good := nofun
  old := nofun

/-! ### A new entry -/

def Stored.nextPath (s : Stored Bytes Tree) (env : Outcomes Bytes Tree) (key : String) : Path :=
  .cached ⟨key, env.nanos, s.cache.seq + 1⟩

theorem Keeps.install (h : Keeps Good s) (hown : Good.Own)
    (hnew : ∀ items : Items Bytes Tree, items (s.nextPath env key) = some (.file content) →
      Good key (s.cache.seq + 1)
        (newFileCacheEntry (s.nextPath env key) size env.now cachingInfo) items) :
    Keeps Good (s.install env key content size cachingInfo) := by
  have hlookup : ∀ key' ref,
      (s.install env key content size cachingInfo).cache.entries.lookup key' = some ref →
      key' = key ∧ ref = s.cache.seq + 1 ∨
        ref ≠ s.cache.seq + 1 ∧ s.cache.entries.lookup key' = some ref := by
    intro key' ref hlookup
    have hinsert : (s.cache.entries.insert key (s.cache.seq + 1)).lookup key' = some ref := hlookup
    rw [GoMap.lookup_insert_ite] at hinsert
    split at hinsert
    · rename_i heq
      exact Or.inl ⟨heq, (Option.some.inj hinsert).symm⟩
    · refine Or.inr ⟨?_, hinsert⟩
      rintro rfl
      exact Nat.not_succ_le_self _ (h.le key' _ hinsert)
  have hheap : ∀ ref, ref ≠ s.cache.seq + 1 →
      (s.install env key content size cachingInfo).cache.heap ref = s.cache.heap ref := by
    intro ref hne
    exact Function.update_of_ne hne _ _
  have hheap' : (s.install env key content size cachingInfo).cache.heap (s.cache.seq + 1) =
      newFileCacheEntry (s.nextPath env key) size env.now cachingInfo :=
    Function.update_self _ _ _
  refine ⟨Stored.synced_install h.synced, ?_, ?_, ?_, ?_, ?_⟩
  · intro ref
    by_cases hne : ref = s.cache.seq + 1
    · subst hne
      rw [hheap']
      exact ⟨Or.inr ⟨key, env.nanos, rfl⟩, Or.inl rfl⟩
    · rw [hheap ref hne]
      exact h.owned ref
  · intro key' ref hcurrent
    rcases hlookup key' ref hcurrent with ⟨-, rfl⟩ | ⟨-, hbefore⟩
    · exact le_rfl
    · exact le_trans (h.le key' ref hbefore) (Nat.le_succ _)
  · intro key' ref hcurrent
    rcases hlookup key' ref hcurrent with ⟨rfl, rfl⟩ | ⟨hne, hbefore⟩
    · rw [hheap']
      exact ⟨env.nanos, rfl⟩
    · rw [hheap ref hne]
      exact h.name key' ref hbefore
  · intro key' ref hcurrent
    rcases hlookup key' ref hcurrent with ⟨rfl, rfl⟩ | ⟨hne, hbefore⟩
    · rw [hheap']
      exact hnew _ Items.put_self
    · rw [hheap ref hne]
      refine hown key' ref _ _ _ ?_ (h.good key' ref hbefore)
      intro path howner
      refine Items.put_of_ne ?_
      rintro rfl
      exact hne (Option.some.inj howner).symm
  · intro place ref hold
    have hle := (h.old place ref hold).1
    refine ⟨le_trans hle (Nat.le_succ _), ?_⟩
    intro key' hcurrent
    rcases hlookup key' ref hcurrent with ⟨-, rfl⟩ | ⟨-, hbefore⟩
    · exact Nat.not_succ_le_self _ hle
    · exact (h.old place ref hold).2 key' hbefore

theorem Keeps.bumpSeq (h : Keeps Good s) :
    Keeps Good { s with cache := { s.cache with seq := s.cache.seq + 1 } } := by
  refine ⟨h.synced, h.owned, ?_, h.name, h.good, ?_⟩
  · exact fun key ref hlookup => le_trans (h.le key ref hlookup) (Nat.le_succ _)
  · intro place ref hlookup
    exact ⟨le_trans (h.old place ref hlookup).1 (Nat.le_succ _), (h.old place ref hlookup).2⟩

/-- `Add` and `AddDirectory` up to the new entry, whether or not the cache has evicted the old one
to make room. -/
theorem Keeps.replace (h : Keeps Good s) (hown : Good.Own)
    (hnew : env.rename = true → ∀ items : Items Bytes Tree,
      items (s.nextPath env key) = some (.file content) →
      Good key (s.cache.seq + 1)
        (newFileCacheEntry (s.nextPath env key) size env.now cachingInfo) items) :
    Keeps Good (s.replace env key content size cachingInfo).1 := by
  have hroom := h.makeRoom hown env size ""
  have hseq := s.seq_makeRoom env size ""
  have hinstall : env.rename = true →
      Keeps Good ((s.makeRoom env size "").install env key content size cachingInfo) := by
    intro hrename
    refine hroom.install hown ?_
    unfold Stored.nextPath
    rw [hseq]
    exact hnew hrename
  unfold Stored.replace
  split
  · exact hroom.bumpSeq
  · rename_i hrename
    rw [Bool.not_eq_true, Bool.not_eq_false'] at hrename
    have hinstall := hinstall hrename
    split
    · exact hinstall
    · rename_i old hlookup
      have hle : old ≤ (s.makeRoom env size "").cache.seq := hseq ▸ h.le key old hlookup
      refine hinstall.retire hown (le_trans hle (Nat.le_succ _)) ?_
      -- the key has the new entry now, and no other key ever had the old one
      intro key' hcurrent
      have hinsert : ((s.makeRoom env size "").cache.entries.insert key
          ((s.makeRoom env size "").cache.seq + 1)).lookup key' = some old := hcurrent
      rw [GoMap.lookup_insert_ite] at hinsert
      split at hinsert
      · rw [← Option.some.inj hinsert] at hle
        exact Nat.not_succ_le_self _ hle
      · rename_i hne
        have hbefore := (h.sameAs_makeRoom.good key' old hinsert).1
        exact hne (h.key_eq hlookup hbefore)

theorem Stored.retire_seq :
    (s.retire key ref outcome).cache.seq = s.cache.seq ∧
      (s.retire key ref outcome).cache.entries = s.cache.entries := by
  obtain ⟨oldEntries, heq, -⟩ := s.retire_eq
  rw [heq]
  exact ⟨rfl, rfl⟩

theorem Stored.lookup_replace :
    (s.replace env key content size cachingInfo).1.cache.seq = s.cache.seq + 1 ∧
      ((s.replace env key content size cachingInfo).2 = true →
        (s.replace env key content size cachingInfo).1.cache.entries.lookup key =
          some (s.cache.seq + 1)) := by
  have hinstall : ((s.makeRoom env size "").install env key content size cachingInfo).cache.seq =
        s.cache.seq + 1 ∧
      ((s.makeRoom env size "").install env key content size cachingInfo).cache.entries.lookup key =
        some (s.cache.seq + 1) := by
    rw [← s.seq_makeRoom env size ""]
    exact ⟨rfl, AList.lookup_insert _⟩
  unfold Stored.replace
  split
  · exact ⟨congrArg (· + 1) (s.seq_makeRoom env size ""), nofun⟩
  · split
    · exact ⟨hinstall.1, fun _ => hinstall.2⟩
    · rw [Stored.retire_seq.1, Stored.retire_seq.2]
      exact ⟨hinstall.1, fun _ => hinstall.2⟩

/-- The entry is one of before, or the one that `os.Rename` has made for the key. -/
def Replaced (s : Stored Bytes Tree) (env : Outcomes Bytes Tree) (key : String) (content : Bytes)
    (size : Int) (cachingInfo : CachingInfo) : EntryProp Bytes Tree :=
  fun key' ref e items => SameAs s key' ref e items ∧ ref ≠ s.cache.seq + 1 ∨
    env.rename = true ∧ key' = key ∧ ref = s.cache.seq + 1 ∧
      e = newFileCacheEntry (s.nextPath env key) size env.now cachingInfo ∧
      items (s.nextPath env key) = some (.file content)

theorem Keeps.replaced (h : Keeps Good s) :
    Keeps (Replaced s env key content size cachingInfo)
      (s.replace env key content size cachingInfo).1 := by
  have hbefore : Keeps (Replaced s env key content size cachingInfo) s := by
    refine h.mono fun key' ref hlookup _ => Or.inl ⟨⟨hlookup, rfl, fun _ _ => rfl⟩, ?_⟩
    rintro rfl
    exact Nat.not_succ_le_self _ (h.le key' _ hlookup)
  refine hbefore.replace ?_ ?_
  · rintro key' ref e items items' hitems (⟨hsame, hne⟩ | ⟨hrename, rfl, rfl, he, hfile⟩)
    · exact Or.inl ⟨own_sameAs key' ref e items items' hitems hsame, hne⟩
    · refine Or.inr ⟨hrename, rfl, rfl, he, ?_⟩
      rw [hitems _ rfl, hfile]
  · intro hrename items hitems
    exact Or.inr ⟨hrename, rfl, rfl, rfl, hitems⟩

theorem Stored.replace_snd : (s.replace env key content size cachingInfo).2 = env.rename := by
  unfold Stored.replace
  cases hrename : env.rename with
  | false => rfl
  | true =>
    rw [Bool.not_true, if_neg Bool.false_ne_true]
    split <;> rfl

/-- The new entry is as it was made, and has its tarball. -/
theorem Keeps.replaced_new (h : Keeps Good s)
    (hrename : (s.replace env key content size cachingInfo).2 = true) :
    (s.replace env key content size cachingInfo).1.cache.heap (s.cache.seq + 1) =
        newFileCacheEntry (s.nextPath env key) size env.now cachingInfo ∧
      (s.replace env key content size cachingInfo).1.items (s.nextPath env key) =
        some (.file content) := by
  rcases h.replaced.good key _ (s.lookup_replace.2 hrename) with ⟨-, hne⟩ | ⟨-, -, -, hheap, hfile⟩
  · exact absurd rfl hne
  · exact ⟨hheap, hfile⟩

/-! ### An access -/

/-- The property does not depend on the size and the time of the last access. -/
def EntryProp.Timeless (Good : EntryProp Bytes Tree) : Prop :=
  ∀ key ref e items size access, Good key ref e items →
    Good key ref { e with size := size, access := access } items

/-- The entry that is asked for stays what it was, but for the time of the access. -/
theorem Keeps.prepare_entry (h : Keeps Good s) (hlookup : s.cache.entries.lookup key = some ref) :
    (s.prepare env key ref missing).cache.entries.lookup key = some ref ∧
      (s.prepare env key ref missing).cache.heap ref = { s.cache.heap ref with access := env.now } ∧
      (∀ path, path.owner = some ref → (s.prepare env key ref missing).items path = s.items path) ∧
      (s.prepare env key ref missing).cache.seq = s.cache.seq := by
  have hheap : ∀ s' : Stored Bytes Tree,
      (s'.put ref ({ s'.cache.heap ref with access := env.now }, s'.items)).cache.heap ref =
        { s'.cache.heap ref with access := env.now } := by
    intro s'
    exact Function.update_self _ _ _
  cases missing with
  | false => exact ⟨hlookup, hheap s, fun _ _ => rfl, rfl⟩
  | true =>
    have hcurrent := (s.lookup_makeRoom_excluded env (s.cache.heap ref).size).trans hlookup
    obtain ⟨-, hsame, hitems⟩ := h.sameAs_makeRoom.good key ref
      hcurrent
    refine ⟨hcurrent, ?_, hitems, s.seq_makeRoom env _ key⟩
    exact (hheap _).trans
      (congrArg (fun e : FileCacheEntry => { e with access := env.now }) hsame)

theorem Keeps.prepare (h : Keeps Good s) (hown : Good.Own) (htimeless : Good.Timeless) :
    Keeps Good (s.prepare env key ref missing) := by
  have htouch : ∀ s' : Stored Bytes Tree, Keeps Good s' →
      Keeps Good (s'.put ref ({ s'.cache.heap ref with access := env.now }, s'.items)) := by
    intro s' h'
    refine h'.put hown ⟨⟨(h'.owned ref).file, (h'.owned ref).directory⟩, fun _ _ _ _ => rfl⟩
      (fun _ _ _ _ => id) ?_
    intro key' hlookup
    exact ⟨rfl, htimeless key' ref _ _ _ _ (h'.good key' ref hlookup)⟩
  cases missing with
  | false => exact htouch s h
  | true => exact htouch _ (h.makeRoom hown env _ key)

/-! ### Closing a directory -/

theorem Keeps.closeOldDirectory (h : Keeps Good s) (hown : Good.Own) :
    Keeps Good (s.closeOldDirectory key dirPath removal outcome).1 := by
  unfold Stored.closeOldDirectory
  cases hlookup : s.cache.oldEntries.lookup (key, dirPath) with
  | none => exact h
  | some ref =>
    have hnot := (h.old _ ref hlookup).2
    have hput := h.put_old hown ((h.owned ref).releaseDirectory s.items removal) hnot
    dsimp only
    split
    · refine (hput.put_old hown ((hput.owned ref).discardItems _ outcome) hnot).setOldEntries ?_
      intro place other hother
      exact h.old place other (GoMap.lookup_erase_eq_some.mp hother).2
    · exact hput

/-- A directory of the current entry, which must be in use. -/
theorem Keeps.closeDirectory (h : Keeps Good s) (hown : Good.Own)
    (hrelease : ∀ ref, s.cache.entries.lookup key = some ref →
      (s.cache.heap ref).directoryInUseCount ≠ 0 → Good key ref (s.cache.heap ref) s.items →
      Good key ref ((s.cache.heap ref).releaseDirectory s.items removal).1
        ((s.cache.heap ref).releaseDirectory s.items removal).2) :
    Keeps Good (s.closeDirectory key dirPath removal outcome).1 := by
  unfold Stored.closeDirectory
  cases hcurrent : s.cache.currentEntry key dirPath with
  | none => exact h.closeOldDirectory hown
  | some ref =>
    have hlookup := (Option.filter_eq_some_iff.mp hcurrent).1
    dsimp only
    split
    · exact h
    · rename_i hne
      refine h.put hown ((h.owned ref).releaseDirectory s.items removal)
        (fun _ _ _ _ => id) ?_
      intro key' hlookup'
      obtain rfl := h.key_eq hlookup hlookup'
      exact ⟨FileCacheEntry.filePath_releaseDirectory _ _ removal,
        hrelease ref hlookup hne (h.good _ ref hlookup)⟩

end Keeps

end Diego.CachedDownloader
