import Diego.Fallible
import Diego.CachedDownloader.Downloader
import Diego.CachedDownloader.UseCounts

/-!
# Checksums of what is served

The digest of a body is compared with the checksum of the request that downloads it.  What is in the
cache is returned without another comparison when the server answers that nothing was modified, so
a request may be served a body that was downloaded for a request with another checksum, or with
none.  `Tenants.servedMatch_of_reaches` says when this does not happen.
-/

namespace Diego.CachedDownloader

open Diego.Executor (GoString bytes)
open Fallible Option

variable {Bytes Tree : Type}

/-! ## Downloads -/

/-- The request has a checksum. -/
def ChecksumInfo.Given (checksum : ChecksumInfo) : Prop :=
  checksum.algorithm ≠ [] ∨ checksum.value ≠ []

instance (checksum : ChecksumInfo) : Decidable checksum.Given :=
  inferInstanceAs (Decidable (_ ∨ _))

/-- The digest of a body under the algorithm of the checksum is the value of the checksum. -/
def ChecksumInfo.Matches (checksum : ChecksumInfo) (format : Format Bytes Tree) (body : Bytes) :
    Prop :=
  ∃ algorithm, newHashValidator checksum.algorithm = .ok algorithm ∧
    hexDecode (trimQuotes checksum.value) = some (format.digest algorithm body)

theorem HashAlgorithm.validate_ok {algorithm : HashAlgorithm} {sum checksumValue : GoString}
    (h : algorithm.validate sum checksumValue = .ok ()) :
    hexDecode (trimQuotes checksumValue) = some sum := by
  unfold validate convertToChecksum at h
  grind

section Downloads

variable {format : Format Bytes Tree} {checksum : ChecksumInfo} {body : Bytes}
  {cachingInfo : CachingInfo}

variable {attempt : Attempt Bytes} {transformer : Transformer Bytes}

theorem copyToDestinationFile_ok {resp : Response Bytes}
    (h : copyToDestinationFile format attempt resp checksum = .ok (body, cachingInfo)) :
    checksum.Given → checksum.Matches format body := by
  obtain ⟨_, -, h⟩ := bind_eq_ok_iff.mp h
  obtain ⟨_, -, h⟩ := bind_eq_ok_iff.mp h
  obtain ⟨checksumValidator, hvalidator, h⟩ := bind_eq_ok_iff.mp h
  obtain ⟨_, -, h⟩ := bind_eq_ok_iff.mp h
  intro hgiven
  have hgiven : checksum.algorithm ≠ [] ∨ checksum.value ≠ [] := hgiven
  unfold ChecksumInfo.validator at hvalidator
  rw [if_pos hgiven] at hvalidator
  obtain ⟨algorithm, halgorithm, rfl⟩ := map_eq_ok_iff.mp hvalidator
  obtain ⟨_, hvalidate, h⟩ := bind_eq_ok_iff.mp h
  cases h
  exact ⟨algorithm, halgorithm, HashAlgorithm.validate_ok hvalidate⟩

theorem fetchToFile_ok (h : fetchToFile format attempt checksum = .ok (some (body, cachingInfo))) :
    checksum.Given → checksum.Matches format body := by
  obtain ⟨_, -, h⟩ := bind_eq_ok_iff.mp h
  obtain ⟨_, -, h⟩ := bind_eq_ok_iff.mp h
  dsimp only at h
  split at h
  · cases h
  · split at h
    · cases h
    · obtain ⟨_, -, h⟩ := bind_eq_ok_iff.mp h
      obtain ⟨copied, hcopy, hcopied⟩ := map_eq_ok_iff.mp h
      rw [some.inj hcopied] at hcopy
      exact copyToDestinationFile_ok hcopy

theorem downloadLoop_ok {server : Nat → Attempt Bytes} {left attempt : Nat}
    {last : Downloaded Bytes}
    (hlast : last = .ok (some (body, cachingInfo)) → checksum.Given → checksum.Matches format body)
    (h : downloadLoop format server checksum left attempt last = .ok (some (body, cachingInfo))) :
    checksum.Given → checksum.Matches format body := by
  induction left generalizing attempt last with
  | zero => exact hlast h
  | succ left ih =>
    unfold downloadLoop at h
    split at h
    · rename_i result hfetch
      cases h
      exact fetchToFile_ok hfetch
    · split at h
      · refine ih ?_ h
        intro herror
        cases herror
      · cases h

variable {server : Server Bytes}

theorem download_ok {cachingInfoIn : CachingInfo}
    (h : download format server cachingInfoIn checksum = .ok (some (body, cachingInfo))) :
    checksum.Given → checksum.Matches format body := by
  unfold download at h
  split at h
  · cases h
  · refine downloadLoop_ok ?_ h
    intro hnone
    cases hnone

theorem populateCache_none
    (h : populateCache format server cachingInfo checksum transformer = .ok none) :
    download format server cachingInfo checksum = .ok none := by
  obtain ⟨result, hdownload, h⟩ := bind_eq_ok_iff.mp h
  cases result with
  | none => exact hdownload
  | some found =>
    obtain ⟨_, -, h⟩ := bind_eq_ok_iff.mp h
    obtain ⟨_, -, h⟩ := bind_eq_ok_iff.mp h
    obtain ⟨_, -, h⟩ := bind_eq_ok_iff.mp h
    split at h <;> cases h

theorem populateCache_some {found : Download Bytes} {size : Int}
    (h : populateCache format server cachingInfo checksum transformer = .ok (some (found, size))) :
    ∃ body, download format server cachingInfo checksum = .ok (some (body, found.cachingInfo)) ∧
      transformer body = some (found.content, found.size) := by
  obtain ⟨result, hdownload, h⟩ := bind_eq_ok_iff.mp h
  cases result with
  | none => cases h
  | some downloaded =>
    obtain ⟨_, -, h⟩ := bind_eq_ok_iff.mp h
    obtain ⟨_, -, h⟩ := bind_eq_ok_iff.mp h
    obtain ⟨_, -, h⟩ := bind_eq_ok_iff.mp h
    split at h
    · cases h
    · rename_i content cachedSize htransform
      cases h
      refine ⟨downloaded.1, hdownload, ?_⟩
      split at htransform
      · exact htransform
      · cases htransform

end Downloads

/-! ## What a fetch does -/

/-- What a fetch returns: the content of a file, or the tree of a directory. -/
abbrev Given (Bytes Tree : Type) := Bytes ⊕ Tree

/-- The content of an entry is handed out as a file or as a directory. -/
def Archiver.Gives (archiver : Archiver Bytes Tree) (content : Bytes) : Given Bytes Tree → Prop
  | .inl file => archiver.SameContent content file
  | .inr tree => archiver.extract content = some tree

def Fetched.content : Fetched Bytes → Bytes
  | .cached _ content | .temporary content => content

def Shelf.NoNewEntry (w w' : Shelf Bytes Tree) : Prop :=
  w'.original = w.original ∧ w'.stored.cache.seq = w.stored.cache.seq

/-- All that a fetch can do to a cache whose entries serve what they were made with. -/
inductive FetchSpec (archiver : Archiver Bytes Tree) (Extra : EntryRel) (cacheKey : String)
    (populated : Populated Bytes) (w w' : Shelf Bytes Tree) :
    Except FetchError (Given Bytes Tree) → Prop
  | failed (err : FetchError) (hw : w'.Faithful archiver Extra) (hsame : w.NoNewEntry w') :
      FetchSpec archiver Extra cacheKey populated w w' (.error err)
  /-- Nothing was modified, and what the cache has is returned. -/
  | warm (hpopulated : populated = .ok none) {ref : EntryRef} {content : Bytes}
      {given : Given Bytes Tree} (hlookup : w.stored.cache.entries.lookup cacheKey = some ref)
      (horiginal : w.original ref = some content) (hgiven : archiver.Gives content given)
      (hw : w'.Faithful archiver Extra) (hsame : w.NoNewEntry w') :
      FetchSpec archiver Extra cacheKey populated w w' (.ok given)
  /-- What was downloaded cannot be cached. -/
  | temporary {found : Download Bytes} {size : Int}
      (hpopulated : populated = .ok (some (found, size))) (hw : w'.Faithful archiver Extra)
      (hsame : w.NoNewEntry w') :
      FetchSpec archiver Extra cacheKey populated w w' (.ok (.inl found.content))
  /-- What was downloaded is put into the cache. -/
  | added {found : Download Bytes} {size : Int} {result : Except FetchError (Given Bytes Tree)}
      {renamed : Bool} (hpopulated : populated = .ok (some (found, size)))
      (hresult : ∀ given, result = .ok given → archiver.Gives found.content given)
      (hadds : w.Adds archiver Extra cacheKey found.content renamed w') :
      FetchSpec archiver Extra cacheKey populated w w' result

section Fetches

variable {archiver : Archiver Bytes Tree} {Extra : EntryRel} {w : Shelf Bytes Tree}
  {cacheKey : String} {outcomes : FetchOutcomes Bytes Tree} {env : Outcomes Bytes Tree}
  {populate : CachingInfo → Populated Bytes}

/-- The file that `Get` has opened can be closed. -/
theorem Shelf.Faithful.disregard (h : w.Faithful archiver Extra)
    (hclean : ∀ ref ∈ w.stored.cache.entries.lookup cacheKey,
      (w.stored.cache.heap ref).ReadsClean w.stored.items outcomes.get.reading) :
    let lookup := w.get archiver outcomes.get cacheKey
    (lookup.1.disregard lookup.2 outcomes).Faithful archiver Extra ∧
      w.NoNewEntry (lookup.1.disregard lookup.2 outcomes) := by
  intro lookup
  have hget : lookup.1.Faithful archiver Extra := h.get hclean
  have hsame : w.NoNewEntry lookup.1 := ⟨rfl, h.keeps.seq_get⟩
  unfold Shelf.disregard
  split
  · exact ⟨hget, hsame⟩
  · rename_i found hresult
    split
    · refine ⟨hget.closeFile ?_, hsame⟩
      have hopen : lookup.1.openFiles found.1 = w.openFiles found.1 + 1 := by
        have hresult : (w.stored.get archiver outcomes.get cacheKey).2 = some found := hresult
        unfold lookup Shelf.get
        dsimp only
        rw [hresult]
        exact w.opens_self found.1 true
      rw [hopen]
      exact Nat.succ_pos _
    · exact ⟨hget, hsame⟩

theorem Shelf.Faithful.disregardDirectory (h : w.Faithful archiver Extra) :
    let lookup := w.getDirectory archiver outcomes.get cacheKey
    (lookup.1.disregardDirectory cacheKey lookup.2 outcomes).Faithful archiver Extra ∧
      w.NoNewEntry (lookup.1.disregardDirectory cacheKey lookup.2 outcomes) := by
  intro lookup
  have hget : lookup.1.Faithful archiver Extra := h.getDirectory
  have hsame : w.NoNewEntry lookup.1 := ⟨rfl, h.keeps.seq_getDirectory⟩
  unfold Shelf.disregardDirectory
  split
  · exact ⟨hget, hsame⟩
  · refine ⟨hget.closeDirectory, rfl, ?_⟩
    exact Stored.seq_closeDirectory.trans hsame.2

theorem Shelf.NoNewEntry.remove {w' : Shelf Bytes Tree} (h : w.NoNewEntry w') (cacheKey : String)
    (outcome : Retirement Tree) : w.NoNewEntry (w'.remove cacheKey outcome) :=
  ⟨h.1, w'.stored.seq_remove.trans h.2⟩

theorem Shelf.NoNewEntry.adds {w' w'' : Shelf Bytes Tree} (h : w.NoNewEntry w') {content : Bytes}
    {renamed : Bool} (hadds : w'.Adds archiver Extra cacheKey content renamed w'') :
    w.Adds archiver Extra cacheKey content renamed w'' := by
  obtain ⟨hfaithful, horiginal⟩ := hadds
  rw [h.2] at hfaithful
  rw [h.1, h.2] at horiginal
  exact ⟨hfaithful, horiginal⟩

theorem Shelf.Faithful.fetchCachedFile (h : w.Faithful archiver Extra)
    (hclean : ∀ ref ∈ w.stored.cache.entries.lookup cacheKey,
      (w.stored.cache.heap ref).ReadsClean w.stored.items outcomes.get.reading) :
    FetchSpec archiver Extra cacheKey
      (populate (currentCachingInfo ((w.get archiver outcomes.get cacheKey).2.map Prod.snd))) w
      (w.fetchCachedFile archiver populate cacheKey outcomes).1
      ((w.fetchCachedFile archiver populate cacheKey outcomes).2.map fun result =>
        .inl result.1.content) := by
  have hget : (w.get archiver outcomes.get cacheKey).1.Faithful archiver Extra := h.get hclean
  have hsame : w.NoNewEntry (w.get archiver outcomes.get cacheKey).1 := ⟨rfl, h.keeps.seq_get⟩
  obtain ⟨hdropped, hdroppedSame⟩ := h.disregard hclean
  unfold Shelf.fetchCachedFile
  dsimp only
  split
  · exact .failed _ hdropped hdroppedSame
  · rename_i hpopulated
    split
    · rename_i found hresult
      obtain ⟨hlookup, content, horiginal, hgiven⟩ := h.get_content hresult
      exact .warm hpopulated hlookup horiginal hgiven hget hsame
    · exact .failed _ hget hsame
  · rename_i download size hpopulated
    generalize (w.get archiver outcomes.get cacheKey).1.disregard
      (w.get archiver outcomes.get cacheKey).2 outcomes = w' at hdropped hdroppedSame ⊢
    have hremoved := hdroppedSame.remove cacheKey outcomes.remove
    split
    · have hadds := hdroppedSame.adds (hdropped.add outcomes.add cacheKey download.content
        download.size download.cachingInfo)
      split
      · rename_i content hresult
        refine .added hpopulated ?_ hadds
        rintro given ⟨⟩
        exact hdropped.add_content hresult
      · refine .added hpopulated ?_ hadds
        nofun
    · split
      · exact .temporary hpopulated hdropped.remove hremoved
      · exact .failed _ hdropped.remove hremoved

theorem Shelf.Faithful.fetchCachedDirectory (h : w.Faithful archiver Extra) :
    FetchSpec archiver Extra cacheKey
      (populate (currentCachingInfo
        ((w.getDirectory archiver outcomes.get cacheKey).2.map Prod.snd))) w
      (w.fetchCachedDirectory archiver populate cacheKey outcomes).1
      ((w.fetchCachedDirectory archiver populate cacheKey outcomes).2.map fun result =>
        .inr result.1.2) := by
  have hget : (w.getDirectory archiver outcomes.get cacheKey).1.Faithful archiver Extra :=
    h.getDirectory
  have hsame : w.NoNewEntry (w.getDirectory archiver outcomes.get cacheKey).1 :=
    ⟨rfl, h.keeps.seq_getDirectory⟩
  obtain ⟨hdropped, hdroppedSame⟩ := h.disregardDirectory
  unfold Shelf.fetchCachedDirectory
  dsimp only
  split
  · exact .failed _ hdropped hdroppedSame
  · rename_i hpopulated
    split
    · rename_i found hresult
      obtain ⟨ref, content, hlookup, horiginal, hgiven⟩ := h.getDirectory_content hresult
      exact .warm hpopulated hlookup horiginal hgiven hget hsame
    · exact .failed _ hget hsame
  · rename_i download size hpopulated
    generalize (w.getDirectory archiver outcomes.get cacheKey).1.disregardDirectory cacheKey
      (w.getDirectory archiver outcomes.get cacheKey).2 outcomes = w' at hdropped hdroppedSame ⊢
    split
    · have hadds := hdroppedSame.adds (hdropped.addDirectory outcomes.add cacheKey
        download.content download.size download.cachingInfo)
      split
      · rename_i found hresult
        refine .added hpopulated ?_ hadds
        rintro given ⟨⟩
        exact hdropped.addDirectory_content hresult
      · refine .added hpopulated ?_ hadds
        nofun
    · exact .failed _ hdropped.remove (hdroppedSame.remove cacheKey outcomes.remove)

/-- Without a cache key, nothing but a download is returned. -/
theorem Shelf.Faithful.fetchUncachedFile (h : w.Faithful archiver Extra)
    (populate : CachingInfo → Populated Bytes) (cacheKey : String) :
    ∃ populated, populated ≠ .ok none ∧
      (∀ found, populated = .ok (some found) → populate ⟨"", ""⟩ = .ok (some found)) ∧
      FetchSpec archiver Extra cacheKey populated w w
        ((Shelf.fetchUncachedFile populate outcomes).map fun result => .inl result.1.content) := by
  have hsame : w.NoNewEntry w := ⟨rfl, rfl⟩
  unfold Shelf.fetchUncachedFile
  split
  · exact ⟨.error .system, nofun, nofun, .failed _ h hsame⟩
  · exact ⟨.error .system, nofun, nofun, .failed _ h hsame⟩
  · rename_i download size hpopulated
    refine ⟨.ok (some (download, size)), nofun, ?_, ?_⟩
    · rintro found ⟨⟩
      exact hpopulated
    · split
      · exact .temporary rfl h hsame
      · exact .failed _ h hsame

end Fetches

/-! ## Tenants -/

/-- The cache of a downloader, together with what was downloaded, with what each entry was made of
and for which checksum, and with what the calls returned. -/
structure Tenants (Bytes Tree : Type) where
  shelf : Shelf Bytes Tree
  bodies : List Bytes
  madeOf : EntryRef → Option (Bytes × ChecksumInfo)
  served : List (ChecksumInfo × Given Bytes Tree)

inductive TenantCall (Bytes Tree : Type)
  | fetch (cacheKey : String) (checksum : ChecksumInfo) (server : Server Bytes)
      (outcomes : FetchOutcomes Bytes Tree)
  | fetchAsDirectory (cacheKey : String) (checksum : ChecksumInfo) (server : Server Bytes)
      (outcomes : FetchOutcomes Bytes Tree)
  | makeRoom (env : Outcomes Bytes Tree)
  | closeDirectory (cacheKey : String) (dirPath : Path) (removal : Removal Tree)
      (outcome : Retirement Tree)
  | closeFile (ref : EntryRef) (removal : Removal Tree)

namespace Tenants

def new (maxSizeInBytes minimumPartitionFreeBytes : Int) : Tenants Bytes Tree where
  shelf := Shelf.new maxSizeInBytes minimumPartitionFreeBytes
  bodies := []
  madeOf _ := none
  served := []

/-- A fetch is noted.  The entry that it has made, if any, has a number that is new. -/
def record (w : Tenants Bytes Tree) (checksum : ChecksumInfo) (downloaded : Downloaded Bytes)
    (shelf : Shelf Bytes Tree) (result : Except FetchError (Given Bytes Tree)) :
    Tenants Bytes Tree :=
  let body := downloaded.toOption.bind fun found => found.map Prod.fst
  { shelf := shelf
    bodies := body.toList ++ w.bodies
    madeOf := fun ref => if ref ≤ w.shelf.stored.cache.seq then w.madeOf ref
      else body.map fun body => (body, checksum)
    served := (result.toOption.map fun given => (checksum, given)).toList ++ w.served }

variable (config : Config Bytes Tree)

/-- The answer to a `Fetch`. -/
def fileDownload (w : Tenants Bytes Tree) (cacheKey : String) (checksum : ChecksumInfo)
    (server : Server Bytes) (outcomes : FetchOutcomes Bytes Tree) : Downloaded Bytes :=
  download config.format server
    (if cacheKey = "" then ⟨"", ""⟩ else
      Shelf.currentCachingInfo ((w.shelf.get config.format.toArchiver outcomes.get
        (config.hashKey cacheKey)).2.map Prod.snd)) checksum

/-- The answer to a `FetchAsDirectory` that has a cache key. -/
def directoryDownload (w : Tenants Bytes Tree) (cacheKey : String) (checksum : ChecksumInfo)
    (server : Server Bytes) (outcomes : FetchOutcomes Bytes Tree) : Downloaded Bytes :=
  download config.format server
    (Shelf.currentCachingInfo ((w.shelf.getDirectory config.format.toArchiver outcomes.get
      (config.hashKey cacheKey)).2.map Prod.snd)) checksum

def step : TenantCall Bytes Tree → Tenants Bytes Tree → Option (Tenants Bytes Tree)
  | .fetch cacheKey checksum server outcomes, w =>
    let result := config.fetch w.shelf cacheKey checksum server outcomes
    some (w.record checksum (w.fileDownload config cacheKey checksum server outcomes) result.1
      (result.2.map fun result => .inl result.1.content))
  | .fetchAsDirectory cacheKey checksum server outcomes, w =>
    if cacheKey = "" then some w
    else
      let result := config.fetchAsDirectory w.shelf cacheKey checksum server outcomes
      some (w.record checksum (w.directoryDownload config cacheKey checksum server outcomes)
        result.1 (result.2.map fun result => .inr result.1.2))
  | .makeRoom env, w => some { w with shelf := w.shelf.makeRoom env }
  | .closeDirectory cacheKey dirPath removal outcome, w =>
    some { w with
      shelf := (w.shelf.closeDirectory (config.hashKey cacheKey) dirPath removal outcome).1 }
  | .closeFile ref removal, w =>
    if 0 < w.shelf.openFiles ref then some { w with shelf := w.shelf.closeFile ref removal }
    else none

/-- The entry of the key was made for a request with this checksum, if there is one. -/
def SameChecksum (w : Tenants Bytes Tree) (cacheKey : String) (checksum : ChecksumInfo) : Prop :=
  ∀ ref ∈ w.shelf.stored.cache.entries.lookup cacheKey, (w.madeOf ref).map Prod.snd = some checksum

/-- A request with a checksum that is answered with 304 finds an entry that was made for the same
checksum, and no `Get` fails between writing a tarball and removing the directory. -/
def Trusted : TenantCall Bytes Tree → Tenants Bytes Tree → Prop
  | .fetch cacheKey checksum server outcomes, w =>
    (∀ ref ∈ w.shelf.stored.cache.entries.lookup (config.hashKey cacheKey),
      (w.shelf.stored.cache.heap ref).ReadsClean w.shelf.stored.items outcomes.get.reading) ∧
    (cacheKey ≠ "" → checksum.Given →
      w.fileDownload config cacheKey checksum server outcomes = .ok none →
      w.SameChecksum (config.hashKey cacheKey) checksum)
  | .fetchAsDirectory cacheKey checksum server outcomes, w =>
    checksum.Given → w.directoryDownload config cacheKey checksum server outcomes = .ok none →
      w.SameChecksum (config.hashKey cacheKey) checksum
  | .makeRoom _, _ | .closeDirectory _ _ _ _, _ | .closeFile _ _, _ => True

instance (w : Tenants Bytes Tree) (cacheKey : String) (checksum : ChecksumInfo) :
    Decidable (w.SameChecksum cacheKey checksum) :=
  inferInstanceAs (Decidable (∀ ref ∈ _, _ = _))

instance decidableTrusted [DecidableEq Bytes] : (call : TenantCall Bytes Tree) →
    (w : Tenants Bytes Tree) → Decidable (Trusted config call w)
  | .fetch _ _ _ _, _ => inferInstanceAs (Decidable ((∀ ref ∈ _, _) ∧ (_ → _ → _ → _)))
  | .fetchAsDirectory _ _ _ _, _ => inferInstanceAs (Decidable (_ → _ → _))
  | .makeRoom _, _ => inferInstanceAs (Decidable True)
  | .closeDirectory _ _ _ _, _ => inferInstanceAs (Decidable True)
  | .closeFile _ _, _ => inferInstanceAs (Decidable True)

def Transforms (body content : Bytes) : Prop :=
  ∃ size, config.transformer body = some (content, size) ∨
    config.tarTransform body = some (content, size)

def Obtains (body : Bytes) (given : Given Bytes Tree) : Prop :=
  ∃ content, Transforms config body content ∧ config.format.toArchiver.Gives content given

/-- Whatever was returned to a request with a checksum was obtained from a body that was downloaded
and has this checksum. -/
def ServedMatch (w : Tenants Bytes Tree) : Prop :=
  ∀ answer ∈ w.served, answer.1.Given →
    ∃ body ∈ w.bodies, answer.1.Matches config.format body ∧ Obtains config body answer.2

/-- An entry was made of a body that was downloaded and has the checksum of its request. -/
def MadeOf (w : Tenants Bytes Tree) : EntryRel :=
  fun _ ref => ∃ body checksum content, w.madeOf ref = some (body, checksum) ∧ body ∈ w.bodies ∧
    (checksum.Given → checksum.Matches config.format body) ∧ Transforms config body content ∧
    w.shelf.original ref = some content

structure Checked (w : Tenants Bytes Tree) : Prop where
  faithful : w.shelf.Faithful config.format.toArchiver (w.MadeOf config)
  served : w.ServedMatch config

variable {config} {w : Tenants Bytes Tree}

/-- What is known of a download, as `populateCache` returns it. -/
structure Explains (w : Tenants Bytes Tree) (config : Config Bytes Tree) (cacheKey : String)
    (checksum : ChecksumInfo) (downloaded : Downloaded Bytes) (populated : Populated Bytes) :
    Prop where
  warm : populated = .ok none → checksum.Given → w.SameChecksum cacheKey checksum
  cold : ∀ found size, populated = .ok (some (found, size)) →
    ∃ body cachingInfo, downloaded = .ok (some (body, cachingInfo)) ∧
      (checksum.Given → checksum.Matches config.format body) ∧
      Transforms config body found.content

variable {checksum : ChecksumInfo}

variable {server : Server Bytes} {cachingInfo : CachingInfo} {transformer : Transformer Bytes}

theorem cold_populateCache
    (htransformer : transformer = config.transformer ∨ transformer = config.tarTransform)
    {found : Download Bytes} {size : Int}
    (hpopulated : populateCache config.format server cachingInfo checksum transformer =
      .ok (some (found, size))) :
    ∃ body cachingInfo', download config.format server cachingInfo checksum =
        .ok (some (body, cachingInfo')) ∧
      (checksum.Given → checksum.Matches config.format body) ∧
      Transforms config body found.content := by
  obtain ⟨body, hdownload, htransform⟩ := populateCache_some hpopulated
  refine ⟨body, found.cachingInfo, hdownload, download_ok hdownload, found.size, ?_⟩
  rcases htransformer with rfl | rfl
  · exact Or.inl htransform
  · exact Or.inr htransform

theorem explains_populateCache {cacheKey : String}
    (htransformer : transformer = config.transformer ∨ transformer = config.tarTransform)
    (htrusted : checksum.Given → download config.format server cachingInfo checksum = .ok none →
      w.SameChecksum cacheKey checksum) :
    w.Explains config cacheKey checksum (download config.format server cachingInfo checksum)
      (populateCache config.format server cachingInfo checksum transformer) where
  warm := fun hpopulated hgiven => htrusted hgiven (populateCache_none hpopulated)
  cold := fun _ _ hpopulated => cold_populateCache htransformer hpopulated

/-- An entry stays what it was made of when more is downloaded. -/
theorem MadeOf.record {key : String} {ref : EntryRef} {downloaded : Downloaded Bytes}
    {shelf : Shelf Bytes Tree}
    {result : Except FetchError (Given Bytes Tree)} (h : w.MadeOf config key ref)
    (hle : ref ≤ w.shelf.stored.cache.seq) (horiginal : shelf.original ref = w.shelf.original ref) :
    (w.record checksum downloaded shelf result).MadeOf config key ref := by
  obtain ⟨body, checksum', content, hmade, hmem, hmatches, htransforms, hcontent⟩ := h
  refine ⟨body, checksum', content, ?_, List.mem_append_right _ hmem, hmatches, htransforms,
    horiginal.trans hcontent⟩
  exact (if_pos hle).trans hmade

section Record

variable {checksum : ChecksumInfo} {downloaded : Downloaded Bytes} {shelf : Shelf Bytes Tree}
  {result : Except FetchError (Given Bytes Tree)}

theorem faithful_record (hw : shelf.Faithful config.format.toArchiver (w.MadeOf config))
    (hsame : w.shelf.NoNewEntry shelf) :
    (w.record checksum downloaded shelf result).shelf.Faithful config.format.toArchiver
      ((w.record checksum downloaded shelf result).MadeOf config) := by
  refine Shelf.Faithful.mono hw ?_
  intro key ref hlookup hmade
  refine hmade.record ?_ (congrFun hsame.1 ref)
  rw [← hsame.2]
  exact hw.keeps.le key ref hlookup

theorem servedMatch_record (h : w.ServedMatch config)
    (hresult : ∀ given, result = .ok given → checksum.Given →
      ∃ body ∈ (w.record checksum downloaded shelf result).bodies,
        checksum.Matches config.format body ∧ Obtains config body given) :
    (w.record checksum downloaded shelf result).ServedMatch config := by
  intro answer hmem hgiven
  rcases List.mem_append.mp hmem with hnew | hold
  · cases hok : result with
    | error err =>
      rw [hok] at hnew
      cases hnew
    | ok given =>
      rw [hok] at hnew
      obtain rfl := List.mem_singleton.mp hnew
      exact hok ▸ hresult given hok hgiven
  · obtain ⟨body, hbody, hmatches⟩ := h answer hold hgiven
    exact ⟨body, List.mem_append_right _ hbody, hmatches⟩

theorem mem_bodies_record {body : Bytes}
    (hdownloaded : downloaded = .ok (some (body, cachingInfo))) :
    body ∈ (w.record checksum downloaded shelf result).bodies := by
  rw [hdownloaded]
  exact List.mem_cons_self

theorem Checked.record (h : w.Checked config) {cacheKey : String} {populated : Populated Bytes}
    (hspec : FetchSpec config.format.toArchiver (w.MadeOf config) cacheKey populated w.shelf shelf
      result) (hexplains : w.Explains config cacheKey checksum downloaded populated) :
    (w.record checksum downloaded shelf result).Checked config := by
  cases hspec with
  | failed err hw hsame =>
    exact ⟨faithful_record hw hsame, servedMatch_record h.served nofun⟩
  | warm hpopulated hlookup horiginal hgives hw hsame =>
    refine ⟨faithful_record hw hsame, servedMatch_record h.served ?_⟩
    rintro given ⟨⟩ hgiven
    obtain ⟨⟨body, checksum', content', hmade, hmem, hmatches, htransforms, hcontent⟩, -⟩ :=
      h.faithful.keeps.good cacheKey _ hlookup
    have hchecksum := hexplains.warm hpopulated hgiven _ hlookup
    rw [hmade] at hchecksum
    obtain rfl : checksum' = checksum := some.inj hchecksum
    obtain rfl := some.inj (horiginal.symm.trans hcontent)
    exact ⟨body, List.mem_append_right _ hmem, hmatches hgiven, _, htransforms, hgives⟩
  | temporary hpopulated hw hsame =>
    obtain ⟨body, cachingInfo, hdownloaded, hmatches, htransforms⟩ :=
      hexplains.cold _ _ hpopulated
    refine ⟨faithful_record hw hsame, servedMatch_record h.served ?_⟩
    rintro given ⟨⟩ hgiven
    exact ⟨body, mem_bodies_record hdownloaded, hmatches hgiven, _, htransforms, Or.inl rfl⟩
  | added hpopulated hresult hadds =>
    obtain ⟨body, cachingInfo, hdownloaded, hmatches, htransforms⟩ :=
      hexplains.cold _ _ hpopulated
    refine ⟨hadds.mono ?_ ?_, servedMatch_record h.served ?_⟩
    · intro key ref _ hle horiginal hmade
      exact hmade.record hle horiginal
    · intro _ horiginal
      refine ⟨body, checksum, _, ?_, mem_bodies_record hdownloaded, hmatches, htransforms,
        horiginal⟩
      refine (if_neg (Nat.not_succ_le_self _)).trans ?_
      rw [hdownloaded]
      rfl
    · intro given hgives hgiven
      exact ⟨body, mem_bodies_record hdownloaded, hmatches hgiven, _, htransforms,
        hresult given hgives⟩

end Record

theorem Checked.step {call : TenantCall Bytes Tree} {w' : Tenants Bytes Tree}
    (h : w.Checked config) (htrusted : Trusted config call w)
    (hstep : Tenants.step config call w = some w') : w'.Checked config := by
  cases call with
  | fetch cacheKey checksum server outcomes =>
    cases hstep
    obtain ⟨hclean, htrusted⟩ := htrusted
    unfold Config.fetch Tenants.fileDownload at *
    split
    · obtain ⟨populated, hne, hpopulated, hspec⟩ := h.faithful.fetchUncachedFile
        (fun cachingInfo => populateCache config.format server cachingInfo checksum
          config.transformer) (config.hashKey cacheKey)
      refine h.record hspec ⟨fun hwarm => absurd hwarm hne, ?_⟩
      intro found size hcold
      exact cold_populateCache (Or.inl rfl) (hpopulated _ hcold)
    · rename_i hkey
      rw [if_neg hkey] at htrusted
      exact h.record (h.faithful.fetchCachedFile hclean)
        (explains_populateCache (Or.inl rfl) (htrusted hkey))
  | fetchAsDirectory cacheKey checksum server outcomes =>
    rw [Tenants.step] at hstep
    split at hstep
    · cases hstep
      exact h
    · rename_i hkey
      cases hstep
      unfold Config.fetchAsDirectory Tenants.directoryDownload
      rw [if_neg hkey]
      exact h.record h.faithful.fetchCachedDirectory
        (explains_populateCache (Or.inr rfl) htrusted)
  | makeRoom env =>
    cases hstep
    exact ⟨h.faithful.makeRoom, h.served⟩
  | closeDirectory cacheKey dirPath removal outcome =>
    cases hstep
    exact ⟨h.faithful.closeDirectory, h.served⟩
  | closeFile ref removal =>
    rw [Tenants.step, ite_none_right_eq_some] at hstep
    obtain ⟨hopen, hstep⟩ := hstep
    cases hstep
    exact ⟨h.faithful.closeFile hopen, h.served⟩

/-- **What is returned to a request with a checksum has this checksum**, while the requests with a
checksum that find a key in the cache, and are answered with 304, have the checksum that the entry
was made for. -/
theorem servedMatch_of_reaches {maxSizeInBytes minimumPartitionFreeBytes : Int}
    (h : Machine.Reaches (Tenants.step config) (Trusted config)
      (Tenants.new maxSizeInBytes minimumPartitionFreeBytes) w) : w.ServedMatch config := by
  have hchecked : w.Checked config := by
    have hnew : (Tenants.new maxSizeInBytes minimumPartitionFreeBytes :
        Tenants Bytes Tree).Checked config :=
      ⟨Shelf.faithful_new, nofun⟩
    refine h.invariant hnew ?_
    intro call w w' hchecked htrusted hstep
    exact hchecked.step htrusted hstep
  exact hchecked.served

end Tenants

/-! ## Two tenants of one key -/

/-- Files of numbers; the digest of a file repeats its first number. -/
def Config.numbers : Config (List Nat) Nat where
  format :=
    { Archiver.single with
      length := fun body => body.length
      digest := fun _ body => List.replicate 16 (UInt8.ofNat (body.headD 0)) }
  transformer body := some (body, body.length)
  tarTransform body := some (body, body.length)
  hashKey cacheKey := cacheKey

/-- A server that always gives the same answer. -/
def Server.answering (statusCode : Nat) (body : List Nat) : Server (List Nat) where
  barrier := true
  attempts _ _ := ⟨true, .done, ⟨statusCode, "etag", "", body⟩, true, true, true, .done⟩
  stat := true
  createTemp := true
  closeTemp := true
  transform := true

/-- The checksum of the files that begin with seven. -/
def checksumOfSeven : ChecksumInfo :=
  ⟨bytes "md5", bytes "07070707070707070707070707070707"⟩

/-- Two requests for the same checksum, the second of which is answered with 304. -/
def sameTenant : List (TenantCall (List Nat) Nat) :=
  [.fetch "droplet" checksumOfSeven (.answering 200 [7]) (.both .idle),
    .fetchAsDirectory "droplet" checksumOfSeven (.answering 304 []) (.both .idle)]

theorem servedMatch_sameTenant :
    ∃ w, Machine.run (Tenants.step .numbers) (Tenants.new 100 0) sameTenant = some w ∧
      w.served = [(checksumOfSeven, .inr 7), (checksumOfSeven, .inl [7])] ∧
      w.ServedMatch .numbers := by
  obtain ⟨w, hrun, hserved⟩ : ∃ w,
      Machine.run (Tenants.step .numbers) (Tenants.new 100 0) sameTenant = some w ∧
      w.served = [(checksumOfSeven, .inr 7), (checksumOfSeven, .inl [7])] := ⟨_, rfl, by decide⟩
  have htrusted : Machine.Meets (Tenants.step .numbers) (Tenants.Trusted .numbers)
      (Tenants.new 100 0) sameTenant := by decide
  exact ⟨w, hrun, hserved, Tenants.servedMatch_of_reaches (Machine.reaches_of_run htrusted hrun)⟩

/-- A request without a checksum puts a file into the cache, and a request with a checksum that is
answered with 304 gets it. -/
theorem served_other_checksum :
    ∃ w, Machine.run (Tenants.step .numbers) (Tenants.new 100 0)
        [.fetch "droplet" ⟨[], []⟩ (.answering 200 [8]) (.both .idle),
          .fetch "droplet" checksumOfSeven (.answering 304 []) (.both .idle)] = some w ∧
      w.served = [(checksumOfSeven, .inl [8]), (⟨[], []⟩, .inl [8])] ∧ w.bodies = [[8]] ∧
      ¬ checksumOfSeven.Matches Config.numbers.format [8] := by
  refine ⟨_, rfl, by decide, by decide, ?_⟩
  rintro ⟨algorithm, -, hdigest⟩
  cases hdigest

end Diego.CachedDownloader
