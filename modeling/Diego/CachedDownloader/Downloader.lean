import Diego.Executor.Container
import Diego.CachedDownloader.Limiter
import Diego.CachedDownloader.Served

/-!
# The cached downloader

`cacheddownloader/cached_downloader.go`, `downloader.go` and `hash_validator.go`.  A fetch takes the
limiter of its cache key, looks the key up, asks the server with the caching information of what it
found, and then returns what it found, or what it downloaded after it put this into the cache.  The
digest of a body is compared with the checksum of the request while the body is copied.

Whatever is decided elsewhere is an argument: the answers of the server, the contents and their
digests, which call to the file system fails.
-/

namespace Diego.CachedDownloader

open Diego.Executor (GoString bytes)

variable {Bytes Tree : Type}

/-! ## Checksums -/

structure ChecksumInfo where
  algorithm : GoString
  value : GoString
  deriving DecidableEq

inductive HashAlgorithm
  | md5
  | sha1
  | sha256
  deriving DecidableEq

inductive DownloadError
  /-- `DownloadCancelledError`, with its source. -/
  | cancelled (source : GoString)
  | checksumFailed (msg expected received : GoString)
  /-- `Download failed: Status code %d`. -/
  | statusCode (code : Nat)
  /-- An error of the network or of the file system. -/
  | system
  deriving DecidableEq

def newHashValidator (algorithm : GoString) : Except DownloadError HashAlgorithm :=
  if algorithm = bytes "md5" then .ok .md5
  else if algorithm = bytes "sha1" then .ok .sha1
  else if algorithm = bytes "sha256" then .ok .sha256
  else .error (.checksumFailed (bytes "algorithm invalid") (bytes "[md5, sha1, sha256]") algorithm)

def hexDigit (c : UInt8) : Option UInt8 :=
  if 48 ≤ c ∧ c ≤ 57 then some (c - 48)
  else if 97 ≤ c ∧ c ≤ 102 then some (c - 87)
  else if 65 ≤ c ∧ c ≤ 70 then some (c - 55)
  else none

/-- `hex.DecodeString`. -/
def hexDecode : GoString → Option GoString
  | [] => some []
  | [_] => none
  | high :: low :: rest => do
    let high ← hexDigit high
    let low ← hexDigit low
    let rest ← hexDecode rest
    return (high * 16 + low) :: rest

/-- `"%x"`. -/
def hexEncode (digest : GoString) : GoString :=
  let digit (n : UInt8) : UInt8 := if n < 10 then n + 48 else n + 87
  digest.flatMap fun byte => [digit (byte / 16), digit (byte % 16)]

def quoted (text : GoString) : GoString :=
  bytes "\"" ++ text ++ bytes "\""

/-- `strings.Trim(checksumValue, "\"")`. -/
def trimQuotes (value : GoString) : GoString :=
  ((value.dropWhile (· = 34)).reverse.dropWhile (· = 34)).reverse

namespace HashAlgorithm

def expectedLength : HashAlgorithm → Nat
  | md5 => 32
  | sha1 => 40
  | sha256 => 64

def convertToChecksum (algorithm : HashAlgorithm) (checksumValue : GoString) : Option GoString :=
  let checksumValue := trimQuotes checksumValue
  if checksumValue.length ≠ algorithm.expectedLength then none else hexDecode checksumValue

/-- `Validate`, when the digest of what was copied is `sum`. -/
def validate (algorithm : HashAlgorithm) (sum checksumValue : GoString) :
    Except DownloadError Unit :=
  match algorithm.convertToChecksum checksumValue with
  | none => .error (.checksumFailed (bytes "checksum missing or invalid")
      (bytes "a valid checksum") checksumValue)
  | some byteValue =>
    if byteValue ≠ sum then
      .error (.checksumFailed (bytes "checksum mismatch") checksumValue (quoted (hexEncode sum)))
    else .ok ()

end HashAlgorithm

/-- What the contents are. -/
structure Format (Bytes Tree : Type) extends Archiver Bytes Tree where
  /-- The size of a file. -/
  length : Bytes → Int
  digest : HashAlgorithm → Bytes → GoString

/-! ## Downloads -/

structure Response (Bytes : Type) where
  statusCode : Nat
  eTag : String
  lastModified : String
  body : Bytes

/-- The headers of a request. -/
structure Request where
  ifNoneMatch : Option String
  ifModifiedSince : Option String

/-- The headers that `fetchToFile` adds. -/
def Request.new (cachingInfoIn : CachingInfo) : Request where
  ifNoneMatch := if cachingInfoIn.eTag ≠ "" then some cachingInfoIn.eTag else none
  ifModifiedSince :=
    if cachingInfoIn.lastModified ≠ "" then some cachingInfoIn.lastModified else none

/-- A call that may fail. -/
def check (succeeds : Bool) (err : DownloadError) : Except DownloadError Unit :=
  if succeeds then .ok () else .error err

/-- How something that can be cancelled ends. -/
inductive Completion
  | done
  | failed
  /-- It fails when `cancelChan` is closed. -/
  | cancelled

def Completion.check (completion : Completion) (source : GoString) : Except DownloadError Unit :=
  match completion with
  | .done => .ok ()
  | .failed => .error .system
  | .cancelled => .error (.cancelled source)

/-- What happens to one request. -/
structure Attempt (Bytes : Type) where
  /-- `http.NewRequest` succeeds. -/
  newRequest : Bool
  request : Completion
  response : Response Bytes
  createDestination : Bool
  seek : Bool
  truncate : Bool
  copy : Completion

section Downloads

variable (format : Format Bytes Tree)

/-- The checksum validator, if checksum data is provided. -/
def ChecksumInfo.validator (checksum : ChecksumInfo) :
    Except DownloadError (Option HashAlgorithm) :=
  if checksum.algorithm ≠ [] ∨ checksum.value ≠ [] then
    some <$> newHashValidator checksum.algorithm
  else .ok none

def copyToDestinationFile (attempt : Attempt Bytes) (resp : Response Bytes)
    (checksum : ChecksumInfo) : Except DownloadError (Bytes × CachingInfo) := do
  check attempt.seek .system
  check attempt.truncate .system
  let checksumValidator ← checksum.validator
  attempt.copy.check (bytes "copy-body")
  match checksumValidator with
  | none => .ok (resp.body, ⟨resp.eTag, resp.lastModified⟩)
  | some algorithm => do
    algorithm.validate (format.digest algorithm resp.body) checksum.value
    .ok (resp.body, ⟨resp.eTag, resp.lastModified⟩)

/-- The content of the file that was downloaded; there is none when the server has answered that
nothing was modified. -/
abbrev Downloaded (Bytes : Type) := Except DownloadError (Option (Bytes × CachingInfo))

def fetchToFile (attempt : Attempt Bytes) (checksum : ChecksumInfo) :
    Except DownloadError (Option (Bytes × CachingInfo)) := do
  check attempt.newRequest .system
  attempt.request.check (bytes "fetch-request")
  let resp := attempt.response
  if resp.statusCode = 304 then .ok none
  else if resp.statusCode ≠ 200 then .error (.statusCode resp.statusCode)
  else do
    check attempt.createDestination .system
    some <$> copyToDestinationFile format attempt resp checksum

def maxDownloadAttempts : Nat := 4

/-- The errors after which `Download` tries again. -/
def DownloadError.isRetried : DownloadError → Bool
  | .cancelled _ | .checksumFailed _ _ _ => false
  | .statusCode _ | .system => true

/-- The loop of `Download`, with the number of attempts that are left and the last result. -/
def downloadLoop (server : Nat → Attempt Bytes) (checksum : ChecksumInfo) :
    Nat → Nat → Downloaded Bytes → Downloaded Bytes
  | 0, _, last => last
  | left + 1, attempt, _ =>
    match fetchToFile format (server attempt) checksum with
    | .ok result => .ok result
    | .error err =>
      if err.isRetried then downloadLoop server checksum left (attempt + 1) (.error err)
      else .error err

/-- What happens to one download. -/
structure Server (Bytes : Type) where
  /-- The download passes `concurrentDownloadBarrier` before it is cancelled. -/
  barrier : Bool
  attempts : Request → Nat → Attempt Bytes
  stat : Bool
  createTemp : Bool
  closeTemp : Bool
  /-- The transformer succeeds, if it can. -/
  transform : Bool

def download (server : Server Bytes) (cachingInfoIn : CachingInfo) (checksum : ChecksumInfo) :
    Downloaded Bytes :=
  if !server.barrier then .error (.cancelled (bytes "download-barrier"))
  else downloadLoop format (server.attempts (Request.new cachingInfoIn)) checksum
    maxDownloadAttempts 0 (.ok none)

/-- A `CacheTransformer`: the new content and its size. -/
abbrev Transformer (Bytes : Type) := Bytes → Option (Bytes × Int)

structure Download (Bytes : Type) where
  content : Bytes
  size : Int
  cachingInfo : CachingInfo

/-- A download with the size of what was downloaded.  Without one the cache is warm. -/
abbrev Populated (Bytes : Type) := Except DownloadError (Option (Download Bytes × Int))

def populateCache (server : Server Bytes) (cachingInfo : CachingInfo) (checksum : ChecksumInfo)
    (transformer : Transformer Bytes) : Except DownloadError (Option (Download Bytes × Int)) := do
  match ← download format server cachingInfo checksum with
  | none => .ok none
  | some (body, cachingInfo) => do
    check server.stat .system
    check server.createTemp .system
    check server.closeTemp .system
    match if server.transform then transformer body else none with
    | none => .error .system
    | some (content, cachedSize) =>
      .ok (some (⟨content, cachedSize, cachingInfo⟩, format.length body))

end Downloads

def CachingInfo.isCacheable (c : CachingInfo) : Bool :=
  c.eTag ≠ "" || c.lastModified ≠ ""

/-! ## Fetches -/

inductive FetchError
  | download (err : DownloadError)
  /-- The error of `Get` or `GetDirectory`. -/
  | notFound
  /-- The error of `Add` or `AddDirectory`. -/
  | notAdded
  /-- `os.Open` of a temporary file fails. -/
  | notOpened
  | missingCacheKey
  | missingCacheHeaders
  deriving DecidableEq

/-- A file that is returned: one of an entry, or a temporary one. -/
inductive Fetched (Bytes : Type)
  | cached (ref : EntryRef) (content : Bytes)
  | temporary (content : Bytes)

/-- The calls of a fetch to the cache. -/
structure FetchOutcomes (Bytes Tree : Type) where
  get : Outcomes Bytes Tree
  /-- `Close` of the file that is disregarded succeeds. -/
  close : Bool
  /-- The removal when a use ends. -/
  released : Removal Tree
  discarded : Retirement Tree
  add : Outcomes Bytes Tree
  remove : Retirement Tree
  /-- `os.Open` of the temporary file succeeds. -/
  openTemporary : Bool

/-- Both calls to the cache have these outcomes, and nothing else fails. -/
def FetchOutcomes.both (env : Outcomes Bytes Tree) : FetchOutcomes Bytes Tree where
  get := env
  close := true
  released := none
  discarded := ⟨none, none⟩
  add := env
  remove := ⟨none, none⟩
  openTemporary := true

namespace Shelf

variable (w : Shelf Bytes Tree)

/-- `currentReader.Close()`, if there is one. -/
def disregard (current : Option (EntryRef × Bytes × CachingInfo))
    (outcomes : FetchOutcomes Bytes Tree) : Shelf Bytes Tree :=
  match current with
  | none => w
  | some found => if outcomes.close then w.closeFile found.1 outcomes.released else w

/-- `c.cache.CloseDirectory(logger, cacheKey, currentDirectory)`, if there is one. -/
def disregardDirectory (cacheKey : String) (current : Option (Path × Tree × CachingInfo))
    (outcomes : FetchOutcomes Bytes Tree) : Shelf Bytes Tree :=
  match current with
  | none => w
  | some found =>
    (w.closeDirectory cacheKey found.1 outcomes.released outcomes.discarded).1

/-- What a lookup tells the server. -/
def currentCachingInfo {Found : Type} (current : Option (Found × CachingInfo)) : CachingInfo :=
  match current with
  | none => ⟨"", ""⟩
  | some found => found.2

variable (archiver : Archiver Bytes Tree) (populate : CachingInfo → Populated Bytes)

/-- `fetchCachedFile`, between `acquireLimiter` and `releaseLimiter`. -/
def fetchCachedFile (cacheKey : String) (outcomes : FetchOutcomes Bytes Tree) :
    Shelf Bytes Tree × Except FetchError (Fetched Bytes × Int) :=
  let lookup := w.get archiver outcomes.get cacheKey
  let w := lookup.1
  match populate (currentCachingInfo (lookup.2.map Prod.snd)) with
  | .error err => (w.disregard lookup.2 outcomes, .error (.download err))
  | .ok none =>
    match lookup.2 with
    | some found => (w, .ok (.cached found.1 found.2.1, 0))
    | none => (w, .error .notFound)
  | .ok (some (download, size)) =>
    let w := w.disregard lookup.2 outcomes
    if download.cachingInfo.isCacheable then
      let added := w.add archiver outcomes.add cacheKey download.content download.size
        download.cachingInfo
      match added.2 with
      | some content => (added.1, .ok (.cached added.1.stored.cache.seq content, size))
      | none => (added.1, .error .notAdded)
    else
      let w := w.remove cacheKey outcomes.remove
      if outcomes.openTemporary then (w, .ok (.temporary download.content, size))
      else (w, .error .notOpened)

/-- `fetchCachedDirectory`, between `acquireLimiter` and `releaseLimiter`. -/
def fetchCachedDirectory (cacheKey : String) (outcomes : FetchOutcomes Bytes Tree) :
    Shelf Bytes Tree × Except FetchError ((Path × Tree) × Int) :=
  let lookup := w.getDirectory archiver outcomes.get cacheKey
  let w := lookup.1
  match populate (currentCachingInfo (lookup.2.map Prod.snd)) with
  | .error err => (w.disregardDirectory cacheKey lookup.2 outcomes, .error (.download err))
  | .ok none =>
    match lookup.2 with
    | some found => (w, .ok ((found.1, found.2.1), 0))
    | none => (w, .error .notFound)
  | .ok (some (download, size)) =>
    let w := w.disregardDirectory cacheKey lookup.2 outcomes
    if download.cachingInfo.isCacheable then
      let added := w.addDirectory archiver outcomes.add cacheKey download.content download.size
        download.cachingInfo
      match added.2 with
      | some found => (added.1, .ok (found, size))
      | none => (added.1, .error .notAdded)
    else (w.remove cacheKey outcomes.remove, .error .missingCacheHeaders)

/-- `fetchUncachedFile`.  Without a download it opens the file with the empty name. -/
def fetchUncachedFile (outcomes : FetchOutcomes Bytes Tree) :
    Except FetchError (Fetched Bytes × Int) :=
  match populate ⟨"", ""⟩ with
  | .error err => .error (.download err)
  | .ok none => .error .notOpened
  | .ok (some (download, size)) =>
    if outcomes.openTemporary then .ok (.temporary download.content, size)
    else .error .notOpened

end Shelf

/-- How a downloader was made. -/
structure Config (Bytes Tree : Type) where
  format : Format Bytes Tree
  transformer : Transformer Bytes
  tarTransform : Transformer Bytes
  /-- The digest of a cache key, in hex. -/
  hashKey : String → String

namespace Config

variable (config : Config Bytes Tree) (w : Shelf Bytes Tree)

def fetch (cacheKey : String) (checksum : ChecksumInfo) (server : Server Bytes)
    (outcomes : FetchOutcomes Bytes Tree) :
    Shelf Bytes Tree × Except FetchError (Fetched Bytes × Int) :=
  let populate cachingInfo :=
    populateCache config.format server cachingInfo checksum config.transformer
  if cacheKey = "" then (w, Shelf.fetchUncachedFile populate outcomes)
  else w.fetchCachedFile config.format.toArchiver populate (config.hashKey cacheKey) outcomes

def fetchAsDirectory (cacheKey : String) (checksum : ChecksumInfo) (server : Server Bytes)
    (outcomes : FetchOutcomes Bytes Tree) :
    Shelf Bytes Tree × Except FetchError ((Path × Tree) × Int) :=
  let populate cachingInfo :=
    populateCache config.format server cachingInfo checksum config.tarTransform
  if cacheKey = "" then (w, .error .missingCacheKey)
  else w.fetchCachedDirectory config.format.toArchiver populate (config.hashKey cacheKey) outcomes

end Config

/-! ## The limiter -/

/-- A downloader: its limiter and its cache. -/
structure Service (Bytes Tree : Type) where
  limiter : Limiter
  shelf : Shelf Bytes Tree

/-- A fetch of the caller `c` with its limiter.  The turns are those of the loop of
`acquireLimiter`, and what other callers do to the limiter meanwhile; without a result the caller
still waits. -/
def Service.withLimiter {Result : Type} (d : Service Bytes Tree) (c : CallerId) (cacheKey : String)
    (turns : List LimiterAction)
    (fetch : Shelf Bytes Tree → Shelf Bytes Tree × Except FetchError Result) :
    Option (Service Bytes Tree × Except FetchError Result) :=
  (Machine.run Limiter.step d.limiter (.acquireLimiter c cacheKey :: turns)).bind fun limiter =>
    match limiter.callers c with
    | .cancelled =>
      some ({ d with limiter := limiter },
        .error (.download (.cancelled (bytes "acquire-limiter"))))
    | .acquired _ _ =>
      let result := fetch d.shelf
      (limiter.releaseLimiter c).map fun limiter => (⟨limiter, result.1⟩, result.2)
    | _ => none

section Limited

variable (d : Service Bytes Tree) (archiver : Archiver Bytes Tree)
  (populate : CachingInfo → Populated Bytes) (c : CallerId) (turns : List LimiterAction)
  (cacheKey : String) (outcomes : FetchOutcomes Bytes Tree)

def Service.fetchCachedFile :
    Option (Service Bytes Tree × Except FetchError (Fetched Bytes × Int)) :=
  d.withLimiter c cacheKey turns fun w => w.fetchCachedFile archiver populate cacheKey outcomes

def Service.fetchCachedDirectory :
    Option (Service Bytes Tree × Except FetchError ((Path × Tree) × Int)) :=
  d.withLimiter c cacheKey turns fun w => w.fetchCachedDirectory archiver populate cacheKey outcomes

end Limited

end Diego.CachedDownloader
