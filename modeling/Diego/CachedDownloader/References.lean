import Diego.CachedDownloader.Downloader
import Diego.CachedDownloader.UseCounts

/-!
# References of a fetch

A fetch takes a reference to the entry that it looks up, and on each of its ways out it has to hand
the reference over or to drop it, while `Add`, `AddDirectory` and `Remove` retire that entry.  A
file is counted before `Seek`, so an error of `Seek` leaves a count behind that nobody drops.  It
does no harm when the entry is not current afterwards; `Shelf.Drops` says exactly when a fetch of a
file holds a reference exactly when it returns one, and a fetch of a directory always does.
-/

namespace Diego.CachedDownloader

open Option

variable {Bytes Tree : Type}

/-! ## Fetches -/

/-- What a fetch of a file does to the counts of the current entries. -/
def FileReference (cacheKey : String) (before after : Stored Bytes Tree) :
    Except FetchError (Fetched Bytes × Int) → Prop
  | .ok (.cached ref _, _) =>
    after.cache.entries.lookup cacheKey = some ref ∧
      after.CurrentCounts (before.counts.addFile ref 1)
  | .ok (.temporary _, _) | .error _ => after.CurrentCounts before.counts

/-- What a fetch of a directory does to the counts of the current entries. -/
def DirectoryReference (cacheKey : String) (before after : Stored Bytes Tree) :
    Except FetchError ((Path × Tree) × Int) → Prop
  | .ok ((dir, _), _) =>
    ∃ ref, after.cache.entries.lookup cacheKey = some ref ∧
      (after.cache.heap ref).expandedDirectoryPath = dir ∧
      after.CurrentCounts (before.counts.addDirectory ref 1)
  | .error _ => after.CurrentCounts before.counts

section Fetches

variable {w : Shelf Bytes Tree} {Good : EntryProp Bytes Tree}
  {outcomes : FetchOutcomes Bytes Tree} {cacheKey : String} {archiver : Archiver Bytes Tree}

theorem Stored.counts_new (s : Stored Bytes Tree) : s.counts (s.cache.seq + 1) = ⟨0, 0⟩ :=
  if_neg (Nat.not_succ_le_self _)

theorem Keeps.currentCounts {s : Stored Bytes Tree} {counts : EntryCounts}
    (h : Keeps (Counted counts) s) : s.CurrentCounts counts :=
  h.good

theorem Stored.CurrentCounts.congr {s : Stored Bytes Tree} {counts counts' : EntryCounts}
    (h : s.CurrentCounts counts)
    (hsame : ∀ key ref, s.cache.entries.lookup key = some ref → counts ref = counts' ref) :
    s.CurrentCounts counts' :=
  fun key ref hlookup => (h key ref hlookup).trans (hsame key ref hlookup)

theorem Stored.CurrentCounts.not_of_addFile {s : Stored Bytes Tree} {counts counts' : EntryCounts}
    {ref : EntryRef} (h : s.CurrentCounts (counts.addFile ref 1)) {key : String}
    (hlookup : s.cache.entries.lookup key = some ref) (hsame : counts ref = counts' ref) :
    ¬ s.CurrentCounts counts' := by
  intro hbefore
  have hcounts := (h key ref hlookup).symm.trans (hbefore key ref hlookup)
  rw [EntryCounts.addFile, Function.update_self, ← hsame] at hcounts
  have hfile : (counts ref).file + 1 = (counts ref).file := congrArg UseCounts.file hcounts
  omega

/-- The counts when a file of the entry was opened, and dropped again or not. -/
def EntryCounts.opened (counts : EntryCounts) (entry : Option EntryRef) (dropped : Bool) :
    EntryCounts :=
  if dropped then counts else entry.elim counts fun ref => counts.addFile ref 1

theorem EntryCounts.opened_of_ne {counts : EntryCounts} {entry : Option EntryRef} {dropped : Bool}
    {other : EntryRef} (hne : entry ≠ some other) :
    counts.opened entry dropped other = counts other := by
  unfold opened
  split
  · rfl
  · cases entry with
    | none => rfl
    | some ref => exact Function.update_of_ne (fun heq => hne (congrArg some heq.symm)) _ _

/-- A count that is left behind shows as long as its entry is current. -/
theorem Stored.currentCounts_iff {s : Stored Bytes Tree} {counts : EntryCounts}
    {entry : Option EntryRef} {dropped : Bool} (h : s.CurrentCounts (counts.opened entry dropped)) :
    s.CurrentCounts counts ↔
      ∀ ref, entry = some ref → dropped = true ∨ ∀ key, s.cache.entries.lookup key ≠ some ref := by
  constructor
  · rintro hcounts ref rfl
    cases dropped with
    | true => exact Or.inl rfl
    | false => exact Or.inr fun key hlookup => h.not_of_addFile hlookup rfl hcounts
  · intro hgone
    cases dropped with
    | true => exact h
    | false =>
      refine h.congr fun key ref hlookup => EntryCounts.opened_of_ne ?_
      intro hentry
      exact (hgone ref hentry).elim nofun fun hgone => hgone key hlookup

/-! ### What becomes of the old entry -/

section Superseded

variable {s : Stored Bytes Tree} {ref : EntryRef} (h : Keeps Good s)
  (hlookup : s.cache.entries.lookup cacheKey = some ref)
include h hlookup

theorem Keeps.gone_remove (outcome : Retirement Tree) (key : String) :
    (s.remove cacheKey outcome).cache.entries.lookup key ≠ some ref := by
  intro hcurrent
  have hentries : (s.remove cacheKey outcome).cache.entries = s.cache.entries.erase cacheKey := by
    unfold Stored.remove
    rw [hlookup]
    exact congrArg (AList.erase cacheKey) Stored.retire_seq.2
  rw [hentries] at hcurrent
  obtain ⟨hne, hbefore⟩ := GoMap.lookup_erase_eq_some.mp hcurrent
  exact hne (h.key_eq hlookup hbefore)

variable {env : Outcomes Bytes Tree} {content : Bytes} {size : Int} {cachingInfo : CachingInfo}

theorem Keeps.gone_replace (hrename : env.rename = true) (key : String) :
    (s.replace env cacheKey content size cachingInfo).1.cache.entries.lookup key ≠ some ref := by
  have hle := h.le cacheKey ref hlookup
  intro hcurrent
  rcases h.replaced.good key ref hcurrent with ⟨⟨hbefore, -⟩, hne⟩ | ⟨-, -, hnew, -⟩
  · obtain rfl := h.key_eq hlookup hbefore
    refine hne (Option.some.inj (hcurrent.symm.trans (s.lookup_replace.2 ?_)))
    exact Stored.replace_snd.trans hrename
  · rw [hnew] at hle
    exact Nat.not_succ_le_self _ hle

/-- Without `os.Rename` the entry is gone if it was evicted. -/
theorem Keeps.gone_replace_iff (hrename : env.rename = false) :
    (∀ key, (s.replace env cacheKey content size cachingInfo).1.cache.entries.lookup key ≠
        some ref) ↔
      (s.makeRoom env size "").cache.entries.lookup cacheKey = none := by
  have hentries : (s.replace env cacheKey content size cachingInfo).1.cache.entries =
      (s.makeRoom env size "").cache.entries := by
    simp [Stored.replace, hrename]
  have hroom : Keeps (SameAs s) (s.makeRoom env size "") := h.sameAs_makeRoom
  rw [hentries]
  constructor
  · intro hgone
    rw [eq_none_iff_forall_ne_some]
    intro other hother
    have hbefore := (hroom.good cacheKey other hother).1
    exact hgone cacheKey (hother.trans (hbefore.symm.trans hlookup))
  · intro hnone key hcurrent
    obtain rfl := h.key_eq hlookup (hroom.good key ref hcurrent).1
    cases hnone.symm.trans hcurrent

end Superseded

/-! ### Files -/

/-- The lookup leaves a count behind if `Seek` fails, or if what it returned cannot be closed. -/
theorem Shelf.counted_disregard (h : Keeps Good w.stored) :
    let lookup := w.get archiver outcomes.get cacheKey
    let w' := lookup.1.disregard lookup.2 outcomes
    Keeps (Counted (w.stored.counts.opened (w.stored.opens archiver outcomes.get cacheKey)
        (outcomes.get.reading.seek && outcomes.close))) w'.stored ∧
      w'.stored.cache.seq = w.stored.cache.seq ∧
      w'.stored.cache.entries.lookup cacheKey = w.stored.cache.entries.lookup cacheKey := by
  have hseq : (w.stored.get archiver outcomes.get cacheKey).1.cache.seq = w.stored.cache.seq :=
    h.seq_get
  have hlookup : (w.stored.get archiver outcomes.get cacheKey).1.cache.entries.lookup cacheKey =
      w.stored.cache.entries.lookup cacheKey := h.lookup_get
  obtain ⟨hcounted, hfound⟩ := h.counted.counted_get archiver outcomes.get cacheKey
  unfold Shelf.disregard Shelf.get
  dsimp only
  cases hresult : (w.stored.get archiver outcomes.get cacheKey).2 with
  | none =>
    refine ⟨?_, hseq, hlookup⟩
    cases hseek : outcomes.get.reading.seek with
    | false => exact hcounted
    | true =>
      -- nothing was opened
      rw [hresult, hseek, if_pos rfl] at hfound
      rw [← hfound] at hcounted ⊢
      rw [EntryCounts.opened, map_none, elim_none, ite_self]
      exact hcounted
  | some found =>
    have hseek : outcomes.get.reading.seek = true := by
      by_contra hseek
      rw [hresult, if_neg hseek] at hfound
      cases hfound
    rw [hresult, hseek, if_pos rfl] at hfound
    rw [← hfound] at hcounted ⊢
    rw [hseek]
    cases outcomes.close with
    | false => exact ⟨hcounted, hseq, hlookup⟩
    | true =>
      have hclosed := hcounted.counted_closeFile found.1 outcomes.released
      rw [map_some, elim_some, EntryCounts.addFile_addFile_neg] at hclosed
      exact ⟨hclosed, hseq, hlookup⟩

/-- When a fetch of a file drops the reference that it does not return.  If `Get` has opened a file,
`Seek` must not fail, and `Close` must not where the file is disregarded, unless the entry is then
replaced, removed or evicted; and `Seek` must not fail in `Add`, when `os.Rename` and `os.Open` have
succeeded. -/
def Shelf.Drops (w : Shelf Bytes Tree) (archiver : Archiver Bytes Tree)
    (populate : CachingInfo → Populated Bytes) (cacheKey : String)
    (outcomes : FetchOutcomes Bytes Tree) : Prop :=
  let lookup := w.get archiver outcomes.get cacheKey
  let opened := (w.stored.opens archiver outcomes.get cacheKey).isSome
  match populate (currentCachingInfo (lookup.2.map Prod.snd)) with
  | .error _ => opened = true → (outcomes.get.reading.seek && outcomes.close) = true
  | .ok none => opened = true → outcomes.get.reading.seek = true
  | .ok (some (download, _)) =>
    (opened = true → (outcomes.get.reading.seek && outcomes.close) = true ∨
      (download.cachingInfo.isCacheable = true → outcomes.add.rename = true ∨
        ((lookup.1.disregard lookup.2 outcomes).stored.makeRoom outcomes.add download.size
          "").cache.entries.lookup cacheKey = none)) ∧
    (download.cachingInfo.isCacheable = true → outcomes.add.rename = true →
      outcomes.add.reading.openFile = true → outcomes.add.reading.seek = true)

theorem Stored.opens_eq_some {s : Stored Bytes Tree} {env : Outcomes Bytes Tree} {ref : EntryRef}
    (h : s.opens archiver env cacheKey = some ref) : s.cache.entries.lookup cacheKey = some ref :=
  (filter_eq_some_iff.mp h).1

/-- `Add` after the lookup was disregarded. -/
theorem Keeps.fileReference_add {s : Stored Bytes Tree} {counts : EntryCounts}
    {entry : Option EntryRef} {dropped : Bool} (h : Keeps (Counted (counts.opened entry dropped)) s)
    (hnew : counts (s.cache.seq + 1) = ⟨0, 0⟩)
    (hentry : ∀ ref, entry = some ref → s.cache.entries.lookup cacheKey = some ref)
    (archiver : Archiver Bytes Tree) (env : Outcomes Bytes Tree) (content : Bytes) (size : Int)
    (cachingInfo : CachingInfo) :
    let added := s.add archiver env cacheKey content size cachingInfo
    (if added.2.isSome then added.1.cache.entries.lookup cacheKey = some (s.cache.seq + 1) ∧
          added.1.CurrentCounts (counts.addFile (s.cache.seq + 1) 1)
        else added.1.CurrentCounts counts) ↔
      (entry.isSome = true → dropped = true ∨ env.rename = true ∨
        (s.makeRoom env size "").cache.entries.lookup cacheKey = none) ∧
      (env.rename = true → env.reading.openFile = true → env.reading.seek = true) := by
  have hentry_ne : entry ≠ some (s.cache.seq + 1) := by
    intro heq
    exact Nat.not_succ_le_self _ (h.le cacheKey _ (hentry _ heq))
  have hnew' : counts.opened entry dropped (s.cache.seq + 1) = ⟨0, 0⟩ :=
    (EntryCounts.opened_of_ne hentry_ne).trans hnew
  have hadded := h.counted_add hnew' archiver env cacheKey content size cachingInfo
  have hentries : (s.add archiver env cacheKey content size cachingInfo).1.cache.entries =
      (s.replace env cacheKey content size cachingInfo).1.cache.entries := by
    rw [Stored.add_eq]
    split <;> rfl
  dsimp only
  rw [h.isSome_add]
  generalize (s.add archiver env cacheKey content size cachingInfo).1 = added at hadded hentries ⊢
  cases hrename : env.rename with
  | false =>
    simp only [hrename, Bool.false_and, Bool.false_eq_true, if_false, EntryCounts.addFile_zero,
      false_imp_iff, and_true, false_or] at hadded ⊢
    rw [Stored.currentCounts_iff hadded.currentCounts, hentries]
    cases entry with
    | none => simp
    | some ref =>
      simp only [some.injEq, forall_eq', isSome_some, forall_const]
      exact or_congr_right (Keeps.gone_replace_iff h (hentry ref rfl) hrename)
  | true =>
    have hlookup : added.cache.entries.lookup cacheKey = some (s.cache.seq + 1) := by
      rw [hentries]
      exact s.lookup_replace.2 (Stored.replace_snd.trans hrename)
    -- the old entry has been replaced
    have hsame : ∀ n key ref, added.cache.entries.lookup key = some ref →
        (counts.opened entry dropped).addFile (s.cache.seq + 1) n ref =
          counts.addFile (s.cache.seq + 1) n ref := by
      intro n key ref hcurrent
      have hne : entry ≠ some ref := by
        intro heq
        rw [hentries] at hcurrent
        exact Keeps.gone_replace h (hentry ref heq) hrename key hcurrent
      unfold EntryCounts.addFile
      rw [EntryCounts.opened_of_ne hentry_ne]
      by_cases heq : ref = s.cache.seq + 1
      · rw [heq, Function.update_self, Function.update_self]
      · rw [Function.update_of_ne heq, Function.update_of_ne heq, EntryCounts.opened_of_ne hne]
    simp only [hrename, Bool.true_and, true_or, or_true, implies_true, true_and, true_imp_iff]
      at hadded ⊢
    cases hopen : env.reading.openFile with
    | false =>
      have hcounts := hadded.currentCounts.congr (hsame _)
      simp only [hopen, Bool.false_eq_true, if_false, EntryCounts.addFile_zero] at hcounts
      simpa using hcounts
    | true =>
      simp only [hopen, if_true] at hadded
      cases hseek : env.reading.seek with
      | true => simpa using ⟨hlookup, hadded.currentCounts.congr (hsame 1)⟩
      | false =>
        simpa using hadded.currentCounts.not_of_addFile hlookup (EntryCounts.opened_of_ne hentry_ne)

/-- A fetch of a file holds a reference exactly when it returns one if and only if it drops the
others. -/
theorem Shelf.fileReference_iff (h : Keeps Good w.stored) (archiver : Archiver Bytes Tree)
    (populate : CachingInfo → Populated Bytes) (outcomes : FetchOutcomes Bytes Tree) :
    FileReference cacheKey w.stored
        (w.fetchCachedFile archiver populate cacheKey outcomes).1.stored
        (w.fetchCachedFile archiver populate cacheKey outcomes).2 ↔
      w.Drops archiver populate cacheKey outcomes := by
  obtain ⟨hdropped, hseq, hlookup⟩ := Shelf.counted_disregard h
  obtain ⟨hcounted, hfound⟩ := h.counted.counted_get archiver outcomes.get cacheKey
  have hopens : ∀ ref, w.stored.opens archiver outcomes.get cacheKey = some ref →
      w.stored.cache.entries.lookup cacheKey = some ref := fun ref => Stored.opens_eq_some
  unfold Shelf.fetchCachedFile Shelf.Drops
  dsimp only
  cases populate (currentCachingInfo ((w.get archiver outcomes.get cacheKey).2.map Prod.snd)) with
  | error err =>
    refine (Stored.currentCounts_iff hdropped.currentCounts).trans ?_
    rw [isSome_iff_exists]
    constructor
    · rintro hgone ⟨ref, hopened⟩
      exact (hgone ref hopened).resolve_right fun hgone =>
        hgone cacheKey (hlookup.trans (hopens ref hopened))
    · exact fun hclosed ref hopened => Or.inl (hclosed ⟨ref, hopened⟩)
  | ok answer =>
    cases answer with
    | none =>
      cases hresult : (w.get archiver outcomes.get cacheKey).2 with
      | some found =>
        have hresult : (w.stored.get archiver outcomes.get cacheKey).2 = some found := hresult
        rw [hresult, map_some] at hfound
        split at hfound
        · rename_i hseek
          refine iff_of_true ⟨?_, ?_⟩ fun _ => hseek
          · exact h.lookup_get.trans (hopens _ hfound.symm)
          · rw [← hfound] at hcounted
            exact hcounted.currentCounts
        · cases hfound
      | none =>
        have hresult : (w.stored.get archiver outcomes.get cacheKey).2 = none := hresult
        rw [hresult, map_none] at hfound
        have hcounted : Keeps (Counted (w.stored.counts.opened
            (w.stored.opens archiver outcomes.get cacheKey) false)) _ := hcounted
        refine (Stored.currentCounts_iff hcounted.currentCounts).trans ?_
        cases hopened : w.stored.opens archiver outcomes.get cacheKey with
        | none => simp
        | some ref =>
          simp only [some.injEq, forall_eq', Bool.false_eq_true, false_or, isSome_some,
            forall_const]
          refine iff_of_false (fun hgone => ?_) fun hseek => ?_
          · exact hgone cacheKey (h.lookup_get.trans (hopens ref hopened))
          · rw [if_pos hseek, hopened] at hfound
            cases hfound
    | some answer =>
      obtain ⟨download, size⟩ := answer
      generalize (w.get archiver outcomes.get cacheKey).1.disregard
        (w.get archiver outcomes.get cacheKey).2 outcomes = w' at hdropped hseq hlookup ⊢
      have hentry : ∀ ref, w.stored.opens archiver outcomes.get cacheKey = some ref →
          w'.stored.cache.entries.lookup cacheKey = some ref := fun ref hopened =>
        hlookup.trans (hopens ref hopened)
      dsimp only
      cases hcacheable : download.cachingInfo.isCacheable with
      | true =>
        have hnew : w.stored.counts (w'.stored.cache.seq + 1) = ⟨0, 0⟩ := by
          rw [hseq]
          exact w.stored.counts_new
        have hadd := hdropped.fileReference_add hnew hentry archiver outcomes.add
          download.content download.size download.cachingInfo
        simp only [if_true, forall_const]
        refine Iff.trans ?_ hadd
        have hlast : (w'.add archiver outcomes.add cacheKey download.content download.size
            download.cachingInfo).1.stored.cache.seq = w'.stored.cache.seq + 1 :=
          w'.stored.seq_add archiver outcomes.add cacheKey download.content download.size
            download.cachingInfo
        rw [hlast]
        unfold Shelf.add
        cases (w'.stored.add archiver outcomes.add cacheKey download.content download.size
          download.cachingInfo).2 <;> simp [FileReference]
      | false =>
        have hremoved := hdropped.remove (own_counted _) cacheKey outcomes.remove
        have hcounts : (w'.remove cacheKey outcomes.remove).stored.CurrentCounts w.stored.counts :=
          (Stored.currentCounts_iff hremoved.currentCounts).mpr fun ref hopened =>
            Or.inr (hdropped.gone_remove (hentry ref hopened) outcomes.remove)
        simp only [Bool.false_eq_true, if_false, false_imp_iff, or_true, implies_true, and_self,
          iff_true]
        cases outcomes.openTemporary <;> exact hcounts

/-- The reference of the lookup is dropped: the directory is the one of the current entry. -/
theorem Shelf.counted_disregardDirectory (h : Keeps Good w.stored)
    (hused : ∀ ref, w.stored.cache.entries.lookup cacheKey = some ref →
      0 ≤ (w.stored.cache.heap ref).directoryInUseCount) :
    let lookup := w.getDirectory archiver outcomes.get cacheKey
    let w' := lookup.1.disregardDirectory cacheKey lookup.2 outcomes
    Keeps (Counted w.stored.counts) w'.stored ∧ w'.stored.cache.seq = w.stored.cache.seq := by
  unfold Shelf.disregardDirectory Shelf.getDirectory
  dsimp only
  cases hlookup : w.stored.cache.entries.lookup cacheKey with
  | none =>
    rw [Stored.getDirectory_eq_none hlookup]
    exact ⟨h.counted, rfl⟩
  | some ref =>
    have hcounted := h.counted.counted_getDirectory hlookup outcomes.get archiver
    obtain ⟨hcurrent, hseq, hpath⟩ := h.lookup_getDirectory hlookup
    cases hresult : (w.stored.getDirectory archiver outcomes.get cacheKey).2 with
    | none =>
      simp only [hresult, isSome_none, Bool.false_eq_true, if_false,
        EntryCounts.addDirectory_zero] at hcounted
      exact ⟨hcounted, hseq⟩
    | some found =>
      simp only [hresult, isSome_some, if_true] at hcounted
      have hne : ((w.stored.getDirectory archiver outcomes.get cacheKey).1.cache.heap
          ref).directoryInUseCount ≠ 0 := by
        have hcount := hcounted.good cacheKey ref hcurrent
        unfold Counted EntryCounts.addDirectory at hcount
        rw [Function.update_self, h.counts_eq hlookup] at hcount
        have hdirectory : ((w.stored.getDirectory archiver outcomes.get cacheKey).1.cache.heap
            ref).directoryInUseCount = (w.stored.cache.heap ref).directoryInUseCount + 1 :=
          congrArg UseCounts.directory hcount
        have hnonneg := hused ref hlookup
        omega
      have hclosed := hcounted.counted_closeDirectory hcurrent (hpath found hresult) hne
        outcomes.released outcomes.discarded
      rw [EntryCounts.addDirectory_addDirectory_neg] at hclosed
      exact ⟨hclosed, Stored.seq_closeDirectory.trans hseq⟩

theorem Shelf.directoryReference_fetchCachedDirectory (h : Keeps Good w.stored)
    (hused : ∀ ref, w.stored.cache.entries.lookup cacheKey = some ref →
      0 ≤ (w.stored.cache.heap ref).directoryInUseCount) (archiver : Archiver Bytes Tree)
    (populate : CachingInfo → Populated Bytes) (outcomes : FetchOutcomes Bytes Tree) :
    DirectoryReference cacheKey w.stored
      (w.fetchCachedDirectory archiver populate cacheKey outcomes).1.stored
      (w.fetchCachedDirectory archiver populate cacheKey outcomes).2 := by
  obtain ⟨hdropped, hseq⟩ := Shelf.counted_disregardDirectory h hused
  unfold Shelf.fetchCachedDirectory
  dsimp only
  split
  · exact hdropped.currentCounts
  · cases hlookup : w.stored.cache.entries.lookup cacheKey with
    | none =>
      unfold Shelf.getDirectory
      rw [Stored.getDirectory_eq_none hlookup]
      exact h.counted.currentCounts
    | some ref =>
      have hcounted := h.counted.counted_getDirectory hlookup outcomes.get archiver
      obtain ⟨hcurrent, -, hpath⟩ := h.lookup_getDirectory hlookup
      split
      · rename_i found hresult
        have hresult : (w.stored.getDirectory archiver outcomes.get cacheKey).2 = some found :=
          hresult
        rw [hresult] at hcounted
        exact ⟨ref, hcurrent, hpath found hresult, hcounted.currentCounts⟩
      · rename_i hresult
        have hresult : (w.stored.getDirectory archiver outcomes.get cacheKey).2 = none := hresult
        simp only [hresult, isSome_none, Bool.false_eq_true, if_false,
          EntryCounts.addDirectory_zero] at hcounted
        exact hcounted.currentCounts
  · rename_i download size _
    generalize (w.getDirectory archiver outcomes.get cacheKey).1.disregardDirectory cacheKey
      (w.getDirectory archiver outcomes.get cacheKey).2 outcomes = w' at hdropped hseq ⊢
    have hnew : w.stored.counts (w'.stored.cache.seq + 1) = ⟨0, 0⟩ := by
      rw [hseq]
      exact w.stored.counts_new
    split
    · have hadded := hdropped.counted_addDirectory hnew outcomes.add archiver cacheKey
        download.content download.size download.cachingInfo
      split
      · rename_i found hresult
        have hresult : (w'.stored.addDirectory archiver outcomes.add cacheKey download.content
          download.size download.cachingInfo).2 = some found := hresult
        rw [hresult] at hadded
        refine ⟨w'.stored.cache.seq + 1,
          w'.stored.lookup_addDirectory archiver outcomes.add cacheKey download.content
            download.size download.cachingInfo ?_, ?_, hadded.currentCounts⟩
        · exact congrArg isSome hresult
        · exact Stored.expandedDirectoryPath_addDirectory hresult
      · rename_i hresult
        have hresult : (w'.stored.addDirectory archiver outcomes.add cacheKey download.content
          download.size download.cachingInfo).2 = none := hresult
        simp only [hresult, isSome_none, Bool.false_eq_true, if_false,
          EntryCounts.addDirectory_zero] at hadded
        exact hadded.currentCounts
    · exact (hdropped.remove (own_counted _) cacheKey outcomes.remove).currentCounts

end Fetches

/-! ## The limiter -/

def Caller.Asked (cacheKey : String) : Caller → Prop
  | .idle => False
  | .trying key | .waiting key _ | .acquired key _ => key = cacheKey
  | .cancelled | .released => True

/-- The caller has no limiter, and has left none behind. -/
def Limiter.Free (l : Limiter) (c : CallerId) (cacheKey : String) : Prop :=
  l.callers c = .cancelled ∨ l.callers c = .released ∧ l.inProgress.lookup cacheKey = none

namespace Limiter

variable {l l' : Limiter} {c : CallerId} {cacheKey : String}

theorem asked_setCaller {c' : CallerId} {state : Caller} (h : (l.callers c).Asked cacheKey)
    (hstate : c' = c → state.Asked cacheKey) :
    ((l.setCaller c' state).callers c).Asked cacheKey := by
  by_cases heq : c = c'
  · subst heq
    rw [callers_setCaller_self]
    exact hstate rfl
  · rw [callers_setCaller_of_ne heq]
    exact h

theorem asked_step {action : LimiterAction} (h : (l.callers c).Asked cacheKey)
    (hstep : step action l = some l') : (l'.callers c).Asked cacheKey := by
  cases action with
  | acquireLimiter c' key =>
    obtain ⟨hidle, rfl⟩ := acquireLimiter_spec hstep
    refine asked_setCaller h ?_
    rintro rfl
    rw [hidle] at h
    exact h.elim
  | tryAcquire c' =>
    obtain ⟨key, htrying, ⟨rateLimiter, -, rfl⟩ | ⟨-, rfl⟩⟩ := tryAcquire_spec hstep
    · refine asked_setCaller h ?_
      rintro rfl
      rw [htrying] at h
      exact h
    · refine asked_setCaller (l := l) h ?_
      rintro rfl
      rw [htrying] at h
      exact h
  | receive c' =>
    obtain ⟨key, rateLimiter, hwaiting, -, rfl⟩ := receive_spec hstep
    refine asked_setCaller h ?_
    rintro rfl
    rw [hwaiting] at h
    exact h
  | cancel c' =>
    obtain ⟨key, rateLimiter, -, rfl⟩ := cancel_spec hstep
    exact asked_setCaller h fun _ => trivial
  | releaseLimiter c' =>
    obtain ⟨key, rateLimiter, -, rfl⟩ := releaseLimiter_spec hstep
    exact asked_setCaller (l := l) h fun _ => trivial

theorem asked_run {turns : List LimiterAction} (h : (l.callers c).Asked cacheKey)
    (hrun : Machine.run step l turns = some l') : (l'.callers c).Asked cacheKey := by
  refine @Machine.run_invariant _ _ step l l' turns (fun l => (l.callers c).Asked cacheKey) h ?_
    hrun
  intro action _ l l' hasked hstep
  exact asked_step hasked hstep

end Limiter

/-- The limiter is free after a fetch, which is what it is without a limiter or was cancelled. -/
theorem Service.withLimiter_spec {Result : Type} {d d' : Service Bytes Tree} {c : CallerId}
    {cacheKey : String} {turns : List LimiterAction}
    {fetch : Shelf Bytes Tree → Shelf Bytes Tree × Except FetchError Result}
    {result : Except FetchError Result}
    (h : d.withLimiter c cacheKey turns fetch = some (d', result)) :
    d'.limiter.callers c = .cancelled ∧ d'.shelf = d.shelf ∧ (∃ err, result = .error err) ∨
      d'.limiter.callers c = .released ∧ d'.limiter.inProgress.lookup cacheKey = none ∧
        (d'.shelf, result) = fetch d.shelf := by
  obtain ⟨limiter, hrun, hresult⟩ := bind_eq_some_iff.mp h
  obtain ⟨next, hnext, hturns⟩ := bind_eq_some_iff.mp hrun
  obtain ⟨-, rfl⟩ := Limiter.acquireLimiter_spec hnext
  have hasked : (limiter.callers c).Asked cacheKey := by
    refine Limiter.asked_run ?_ hturns
    rw [Limiter.callers_setCaller_self]
    rfl
  split at hresult
  · rename_i hcancelled
    cases hresult
    exact Or.inl ⟨hcancelled, rfl, _, rfl⟩
  · rename_i key rateLimiter hacquired
    rw [hacquired] at hasked
    obtain rfl : key = cacheKey := hasked
    obtain ⟨released, hreleased, hpair⟩ := map_eq_some_iff.mp hresult
    cases hpair
    obtain ⟨key', rateLimiter', hacquired', rfl⟩ := Limiter.releaseLimiter_spec hreleased
    rw [hacquired] at hacquired'
    cases hacquired'
    exact Or.inr ⟨Limiter.callers_setCaller_self, AList.lookup_erase _ _, rfl⟩
  · cases hresult

/-! ## References -/

/-- **When a fetch holds a reference exactly when it returns one**: for a file if and only if it was
cancelled or drops what it does not return, for a directory always.  The limiter is free in any
case. -/
theorem fetch_reference_iff {archiver : Archiver Bytes Tree} {d : Service Bytes Tree}
    (h : d.shelf.WellFormed) (populate : CachingInfo → Populated Bytes) (c : CallerId)
    (turns : List LimiterAction) (cacheKey : String) (outcomes : FetchOutcomes Bytes Tree) :
    (∀ d' result,
      d.fetchCachedFile archiver populate c turns cacheKey outcomes = some (d', result) →
        (FileReference cacheKey d.shelf.stored d'.shelf.stored result ↔
          d'.limiter.callers c = .cancelled ∨ d.shelf.Drops archiver populate cacheKey outcomes) ∧
        d'.limiter.Free c cacheKey) ∧
    ∀ d' result,
      d.fetchCachedDirectory archiver populate c turns cacheKey outcomes = some (d', result) →
        DirectoryReference cacheKey d.shelf.stored d'.shelf.stored result ∧
          d'.limiter.Free c cacheKey := by
  constructor
  · intro d' result hfetch
    rcases Service.withLimiter_spec hfetch with
      ⟨hcancelled, hshelf, err, rfl⟩ | ⟨hreleased, hfree, hresult⟩
    · rw [hshelf]
      exact ⟨iff_of_true h.counted.currentCounts (Or.inl hcancelled), Or.inl hcancelled⟩
    · refine ⟨?_, Or.inr ⟨hreleased, hfree⟩⟩
      have hreference : FileReference cacheKey d.shelf.stored _ _ ↔ _ :=
        Shelf.fileReference_iff h archiver populate outcomes
      rw [← hresult] at hreference
      rw [hreference, hreleased]
      exact ⟨Or.inr, fun hdrops => hdrops.resolve_left nofun⟩
  · intro d' result hfetch
    rcases Service.withLimiter_spec hfetch with
      ⟨hcancelled, hshelf, err, rfl⟩ | ⟨hreleased, hfree, hresult⟩
    · rw [hshelf]
      exact ⟨h.counted.currentCounts, Or.inl hcancelled⟩
    · refine ⟨?_, Or.inr ⟨hreleased, hfree⟩⟩
      have hreference : DirectoryReference cacheKey d.shelf.stored _ _ :=
        Shelf.directoryReference_fetchCachedDirectory h
          (fun ref hlookup => h.good cacheKey ref hlookup) archiver populate outcomes
      rwa [← hresult] at hreference

/-- A cache with one entry, whose directory nobody uses. -/
def oneEntry : Option (Service (List Nat) Nat) :=
  (Machine.run (History.step .single) (History.new 100 0) directoryUsed).map fun history =>
    ⟨newLimiter, history.shelf⟩

theorem wellFormed_oneEntry {d : Service (List Nat) Nat} (h : oneEntry = some d) :
    d.shelf.WellFormed := by
  obtain ⟨history, hrun, rfl⟩ := map_eq_some_iff.mp h
  have hmeets : Machine.Meets (History.step .single) (fun _ _ => True) (History.new 100 0)
      directoryUsed := by decide
  exact wellFormed_of_reaches (Machine.reaches_of_run hmeets hrun)

theorem fetch_reference_failed :
    ∃ d d', oneEntry = some d ∧
      d.fetchCachedFile .single (fun _ => .error .system) 0 [.tryAcquire 0] "droplet"
        (.both .idle) = some (d', .error (.download .system)) ∧
      FileReference "droplet" d.shelf.stored d'.shelf.stored (.error (.download .system)) ∧
      d'.limiter.Free 0 "droplet" := by
  obtain ⟨d, d', hd, hfetch⟩ : ∃ d d', oneEntry = some d ∧
      d.fetchCachedFile .single (fun _ => .error .system) 0 [.tryAcquire 0] "droplet"
        (.both .idle) = some (d', .error (.download .system)) := ⟨_, _, rfl, rfl⟩
  have hreference := (fetch_reference_iff (wellFormed_oneEntry hd) (fun _ => .error .system) 0
    [.tryAcquire 0] "droplet" (.both .idle)).1 d' _ hfetch
  exact ⟨d, d', hd, hfetch, hreference.1.mpr (Or.inr fun _ => rfl), hreference.2⟩

def Outcomes.seekFails : Outcomes (List Nat) Nat :=
  { Outcomes.idle with reading := ⟨true, true, [], none, true, false⟩ }

/-- A file is counted for a `Get` whose `Seek` fails, and the fetch returns an error. -/
theorem fetch_leaks_reference :
    ∃ d d', oneEntry = some d ∧
      d.fetchCachedFile .single (fun _ => .error .system) 0 [.tryAcquire 0] "droplet"
          { FetchOutcomes.both .idle with get := .seekFails } =
        some (d', .error (.download .system)) ∧
      d.shelf.stored.cache.entries.lookup "droplet" = some 1 ∧
      d'.shelf.stored.cache.entries.lookup "droplet" = some 1 ∧
      (d.shelf.stored.cache.heap 1).fileInUseCount = 0 ∧
      (d'.shelf.stored.cache.heap 1).fileInUseCount = 1 :=
  ⟨_, _, rfl, rfl, by decide, by decide, by decide, by decide⟩

end Diego.CachedDownloader
