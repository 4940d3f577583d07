import Diego.CachedDownloader.Served

/-! # What was added last

A run of calls on a cache whose file system operations may fail, together with the content of the
last successful `Add` or `AddDirectory` for each key. -/

namespace Diego.CachedDownloader

variable {Bytes Tree : Type}

/-- The cache and its users, with the content of the last successful `Add` or `AddDirectory` for
each key. -/
structure History (Bytes Tree : Type) where
  shelf : Shelf Bytes Tree
  added : String → Option Bytes

def History.new (maxSizeInBytes minimumPartitionFreeBytes : Int) : History Bytes Tree where
  shelf := Shelf.new maxSizeInBytes minimumPartitionFreeBytes
  added _ := none

inductive Call (Bytes Tree : Type)
  | add (env : Outcomes Bytes Tree) (cacheKey : String) (content : Bytes) (size : Int)
      (cachingInfo : CachingInfo)
  | addDirectory (env : Outcomes Bytes Tree) (cacheKey : String) (content : Bytes) (size : Int)
      (cachingInfo : CachingInfo)
  | get (env : Outcomes Bytes Tree) (cacheKey : String)
  | getDirectory (env : Outcomes Bytes Tree) (cacheKey : String)
  | remove (cacheKey : String) (outcome : Retirement Tree)
  | makeRoom (env : Outcomes Bytes Tree)
  | closeDirectory (cacheKey : String) (dirPath : Path) (removal : Removal Tree)
      (outcome : Retirement Tree)
  | closeFile (ref : EntryRef) (removal : Removal Tree)

namespace History

variable (archiver : Archiver Bytes Tree)

/-- What was added last, after a call that may have failed. -/
def noteAdded (w : History Bytes Tree) (cacheKey : String) (content : Bytes) (succeeded : Bool) :
    String → Option Bytes :=
  if succeeded then Function.update w.added cacheKey (some content) else w.added

/-- One call.  A file is closed once. -/
def step : Call Bytes Tree → History Bytes Tree → Option (History Bytes Tree)
  | .add env cacheKey content size cachingInfo, w =>
    let result := w.shelf.add archiver env cacheKey content size cachingInfo
    some ⟨result.1, w.noteAdded cacheKey content result.2.isSome⟩
  | .addDirectory env cacheKey content size cachingInfo, w =>
    let result := w.shelf.addDirectory archiver env cacheKey content size cachingInfo
    some ⟨result.1, w.noteAdded cacheKey content result.2.isSome⟩
  | .get env cacheKey, w => some { w with shelf := (w.shelf.get archiver env cacheKey).1 }
  | .getDirectory env cacheKey, w =>
    some { w with shelf := (w.shelf.getDirectory archiver env cacheKey).1 }
  | .remove cacheKey outcome, w => some { w with shelf := w.shelf.remove cacheKey outcome }
  | .makeRoom env, w => some { w with shelf := w.shelf.makeRoom env }
  | .closeDirectory cacheKey dirPath removal outcome, w =>
    some { w with shelf := (w.shelf.closeDirectory cacheKey dirPath removal outcome).1 }
  | .closeFile ref removal, w =>
    if 0 < w.shelf.openFiles ref then some { w with shelf := w.shelf.closeFile ref removal }
    else none

/-- The calls after which the cache has what was added last: no `Get` fails between writing a
tarball and removing the directory that nobody uses, and after `os.Rename` an `Add` can open its
file and an `AddDirectory` extract it. -/
def Clean : Call Bytes Tree → History Bytes Tree → Prop
  | .add env _ _ _ _, _ =>
    env.rename = true → env.reading.openFile = true ∧ env.reading.seek = true
  | .addDirectory env _ content _ _, _ =>
    env.rename = true → env.expansion.extract = true ∧ (archiver.extract content).isSome = true
  | .get env cacheKey, w =>
    ∀ ref ∈ w.shelf.stored.cache.entries.lookup cacheKey,
      (w.shelf.stored.cache.heap ref).ReadsClean w.shelf.stored.items env.reading
  | _, _ => True

instance decidableClean : (call : Call Bytes Tree) → (w : History Bytes Tree) →
    Decidable (Clean archiver call w)
  | .add _ _ _ _ _, _ => inferInstanceAs (Decidable (_ → _))
  | .addDirectory _ _ _ _ _, _ => inferInstanceAs (Decidable (_ → _))
  | .get _ _, _ => inferInstanceAs (Decidable (∀ ref ∈ _, _))
  | .getDirectory _ _, _ => inferInstanceAs (Decidable True)
  | .remove _ _, _ => inferInstanceAs (Decidable True)
  | .makeRoom _, _ => inferInstanceAs (Decidable True)
  | .closeDirectory _ _ _ _, _ => inferInstanceAs (Decidable True)
  | .closeFile _ _, _ => inferInstanceAs (Decidable True)

/-- Whatever `Get` and `GetDirectory` return next is what was added last. -/
structure ServesAdded (w : History Bytes Tree) : Prop where
  get : ∀ env cacheKey found, (w.shelf.get archiver env cacheKey).2 = some found →
    ∃ content, w.added cacheKey = some content ∧ archiver.SameContent content found.2.1
  getDirectory : ∀ env cacheKey found,
    (w.shelf.getDirectory archiver env cacheKey).2 = some found →
    ∃ content, w.added cacheKey = some content ∧ archiver.extract content = some found.2.1

/-- The current entries are those that were added last. -/
def Current (w : History Bytes Tree) : Prop :=
  w.shelf.Faithful archiver fun key ref => w.added key = w.shelf.original ref

end History

section Runs

variable {archiver : Archiver Bytes Tree} {w : History Bytes Tree} {env : Outcomes Bytes Tree}
  {key : String}

theorem History.Current.servesAdded (h : w.Current archiver) : w.ServesAdded archiver where
  get := by
    intro env cacheKey found hresult
    obtain ⟨hlookup, content, horiginal, hsame⟩ := h.get_content hresult
    obtain ⟨hadded, -⟩ := h.keeps.good cacheKey found.1 hlookup
    exact ⟨content, hadded.trans horiginal, hsame⟩
  getDirectory := by
    intro env cacheKey found hresult
    obtain ⟨ref, content, hlookup, horiginal, htree⟩ := h.getDirectory_content hresult
    obtain ⟨hadded, -⟩ := h.keeps.good cacheKey ref hlookup
    exact ⟨content, hadded.trans horiginal, htree⟩

theorem History.Current.addDirectory_isSome (h : w.Current archiver) {content : Bytes} {size : Int}
    {cachingInfo : CachingInfo} (hrename : env.rename = true)
    (hextract : env.expansion.extract = true ∧ (archiver.extract content).isSome = true) :
    (w.shelf.addDirectory archiver env key content size cachingInfo).2.isSome = true := by
  have hreplaced : (w.shelf.stored.replace env key content size cachingInfo).2 = true :=
    Stored.replace_snd.trans hrename
  obtain ⟨hheap, hfile⟩ := h.keeps.replaced_new hreplaced
  obtain ⟨tree, htree⟩ := Option.isSome_iff_exists.mp hextract.2
  unfold Shelf.addDirectory
  rw [Stored.addDirectory_eq, if_pos hreplaced]
  simp [FileCacheEntry.expand, FileCacheEntry.extractTar, FileCacheEntry.dirDoesNotExist, hheap,
    newFileCacheEntry, hfile, hextract.1, htree]

/-- A new entry that its caller got is the one added last, and without one nothing is new. -/
theorem History.Current.added {shelf : Shelf Bytes Tree} {content : Bytes}
    {renamed succeeded : Bool}
    (hadds : w.shelf.Adds archiver (fun key ref => w.added key = w.shelf.original ref) key content
      renamed shelf)
    (hlookup : succeeded = true →
      shelf.stored.cache.entries.lookup key = some (w.shelf.stored.cache.seq + 1))
    (hsucceeded : renamed = true → succeeded = true) :
    History.Current archiver ⟨shelf, w.noteAdded key content succeeded⟩ := by
  unfold History.noteAdded
  refine hadds.mono ?_ ?_
  · intro key' ref hcurrent hle horiginal hadded
    rw [horiginal, ← hadded]
    split
    · rename_i hsome
      refine Function.update_of_ne ?_ _ _
      rintro rfl
      obtain rfl := Option.some.inj (hcurrent.symm.trans (hlookup hsome))
      exact Nat.not_succ_le_self _ hle
    · rfl
  · intro hrenamed horiginal
    rw [if_pos (hsucceeded hrenamed), horiginal]
    exact Function.update_self _ _ _

theorem History.Current.step {call : Call Bytes Tree} {w' : History Bytes Tree}
    (h : w.Current archiver) (hclean : History.Clean archiver call w)
    (hstep : History.step archiver call w = some w') : w'.Current archiver := by
  cases call with
  | add env key content size cachingInfo =>
    cases hstep
    exact History.Current.added (h.add env key content size cachingInfo)
      (w.shelf.stored.lookup_add archiver env key content size cachingInfo)
      fun hrename => h.keeps.isSome_add.trans (by simp [hrename, hclean hrename])
  | addDirectory env key content size cachingInfo =>
    cases hstep
    exact History.Current.added (h.addDirectory env key content size cachingInfo)
      (w.shelf.stored.lookup_addDirectory archiver env key content size cachingInfo)
      fun hrename => h.addDirectory_isSome hrename (hclean hrename)
  | get env key =>
    cases hstep
    exact h.get hclean
  | getDirectory env key =>
    cases hstep
    exact h.getDirectory
  | remove key outcome =>
    cases hstep
    exact h.remove
  | makeRoom env =>
    cases hstep
    exact h.makeRoom
  | closeDirectory key dirPath removal outcome =>
    cases hstep
    exact h.closeDirectory
  | closeFile ref removal =>
    rw [History.step, Option.ite_none_right_eq_some] at hstep
    obtain ⟨hopen, hstep⟩ := hstep
    cases hstep
    exact h.closeFile hopen

/-- Where no call leaves something half made behind, `Get` and `GetDirectory` return the content
of the last successful `Add` or `AddDirectory`. -/
theorem servesAdded_of_reaches {maxSizeInBytes minimumPartitionFreeBytes : Int}
    (h : Machine.Reaches (History.step archiver) (History.Clean archiver)
      (History.new maxSizeInBytes minimumPartitionFreeBytes) w) : w.ServesAdded archiver := by
  have hcurrent : w.Current archiver := by
    have hnew : (History.new maxSizeInBytes minimumPartitionFreeBytes : History Bytes Tree).Current
        archiver := Shelf.faithful_new
    refine h.invariant hnew ?_
    intro call w w' hcurrent hclean hstep
    exact hcurrent.step hclean hstep
  exact hcurrent.servesAdded

end Runs

/-- Tarballs of one file, which is a number. -/
def Archiver.single : Archiver (List Nat) Nat where
  extract
    | [file] => some file
    | _ => none
  writeTar file := [file]
  extract_writeTar _ := rfl

/-- Nothing fails, and the partition has room. -/
def Outcomes.idle : Outcomes (List Nat) Nat where
  toEnvironment := .idle
  rename := true
  evictions _ := ⟨none, none⟩
  retirement := ⟨none, none⟩
  reading := ⟨true, true, [], none, true, true⟩
  expansion := ⟨true, none, none, none⟩

/-- The first directory of a key is used and closed. -/
def directoryUsed : List (Call (List Nat) Nat) :=
  [.addDirectory .idle "droplet" [7] 10 default,
    .closeDirectory "droplet" (firstDirectory "droplet") none ⟨none, none⟩]

/-- `WriteTar` fails, and has written nothing. -/
def Outcomes.tarFails : Outcomes (List Nat) Nat :=
  { Outcomes.idle with reading := ⟨true, false, [], none, true, true⟩ }

/-- `os.RemoveAll` fails, and has left an empty directory. -/
def Outcomes.removalFails : Outcomes (List Nat) Nat :=
  { Outcomes.idle with reading := ⟨true, true, [], some 0, true, true⟩ }

/-- The extractor fails, and has made no directory. -/
def Outcomes.extractionFails : Outcomes (List Nat) Nat :=
  { Outcomes.idle with expansion := ⟨false, none, none, none⟩ }

def Outcomes.renameFails : Outcomes (List Nat) Nat :=
  { Outcomes.idle with rename := false }

/-- A directory is used, an `Add` fails, and the directory is read as a tarball. -/
def failedReplacement : List (Call (List Nat) Nat) :=
  directoryUsed ++ [.add .renameFails "droplet" [8] 10 default, .get .idle "droplet"]

theorem servesAdded_after_failure :
    ∃ w, Machine.run (History.step .single) (History.new 100 0) failedReplacement = some w ∧
      w.ServesAdded .single ∧
      ((w.shelf.get .single .idle "droplet").2.map fun found => found.2.1) = some [7] := by
  have hclean : Machine.Meets (History.step .single) (History.Clean .single) (History.new 100 0)
      failedReplacement := by decide
  exact ⟨_, rfl, servesAdded_of_reaches (Machine.reaches_of_run hclean rfl), by decide⟩

/-- A `Get` whose `WriteTar` fails leaves a tarball that the next `Get` returns; a `Get` that
fails to remove the directory leaves one that the next `GetDirectory` returns; and an
`AddDirectory` whose extraction fails has replaced the entry all the same. -/
theorem serves_incomplete :
    (∃ w, Machine.run (History.step .single) (History.new 100 0)
        (directoryUsed ++ [.get .tarFails "droplet"]) = some w ∧
      w.added "droplet" = some [7] ∧
      ((w.shelf.get .single .idle "droplet").2.map fun found => found.2.1) = some []) ∧
    (∃ w, Machine.run (History.step .single) (History.new 100 0)
        (directoryUsed ++ [.get .removalFails "droplet"]) = some w ∧
      w.added "droplet" = some [7] ∧
      ((w.shelf.getDirectory .single .idle "droplet").2.map fun found => found.2.1) = some 0) ∧
    ∃ w, Machine.run (History.step .single) (History.new 100 0)
        [.add .idle "droplet" [7] 10 default,
          .addDirectory .extractionFails "droplet" [8] 10 default] = some w ∧
      w.added "droplet" = some [7] ∧
      ((w.shelf.get .single .idle "droplet").2.map fun found => found.2.1) = some [8] :=
  ⟨⟨_, rfl, by decide, by decide⟩, ⟨_, rfl, by decide, by decide⟩, ⟨_, rfl, by decide, by decide⟩⟩

end Diego.CachedDownloader
