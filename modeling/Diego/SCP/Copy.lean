import Diego.SCP.Session

/-!
# Copying files and directories

`diego-ssh/scp/file.go`, `directory.go` and `scp.go`.  The source end walks a tree of files and
directories and sends each of them; the target end reads messages and creates what they name.  The
loops of the target end go on for as long as messages arrive: a model of them takes a number of
rounds, and says nothing about what the process does after them.

The source end is a process over the answers of its own file system (`Source`), failures
included; the target end calls the file system step by step.
-/

namespace Diego.SCP

open Diego.Executor (GoString bytes)
open Process

/-! ## The source end -/

/-- What the source end finds at a path. -/
inductive Source
  /-- `os.Open` or the `Stat` after it fails. -/
  | unopenable (info : FileInfo) (isDir : Bool) (failure : Failure)
  /-- A file with its bytes, and the error of the read after them. -/
  | file (info : FileInfo) (contents : GoString) (ending : Failure)
  /-- A directory with its entries, or the error of `os.ReadDir`. -/
  | directory (info : FileInfo) (unlisted : Option Failure) (entries : List Source)

namespace Source

def info : Source → FileInfo
  | unopenable info _ _ => info
  | file info _ _ => info
  | directory info _ _ => info

def isDir : Source → Bool
  | unopenable _ isDir _ => isDir
  | file _ _ _ => false
  | directory _ _ _ => true

end Source

/-- An action that is taken or left out. -/
def when (condition : Bool) (p : Scp Unit) : Scp Unit :=
  if condition then p else pure ()

def whenSome {α : Type} (x : Option α) (p : α → Scp Unit) : Scp Unit :=
  match x with
  | some a => p a
  | none => pure ()

/-- The first line of a file or directory: `%.4o %d %s` after the message type. -/
def headerText (messageType : UInt8) (mode : Nat) (length : Int) (name : GoString) : GoString :=
  messageType :: (Numeral.format 8 4 (mode &&& 0o7777) ++ bytes " " ++ Numeral.formatInt length ++
    bytes " " ++ name ++ [newline])

/-- `io.CopyN` from a file: as many bytes as its size was, or the error of the read. -/
def copyOut (size : Int64) (contents : GoString) (ending : Failure) : Scp Unit :=
  if size.toInt ≤ contents.length then Proc.writeAll (contents.take size.toInt.toNat)
  else do
    Proc.writeAll contents
    Proc.fail ending

/-- `SendFile` after the times. -/
def sendFileBody (info : FileInfo) (contents : GoString) (ending : Failure) : Scp Unit := do
  Proc.writeAll (headerText 'C'.toUInt8 info.mode info.size.toInt info.name)
  awaitConfirmation
  copyOut info.size contents ending
  sendConfirmation
  awaitConfirmation

def sendFile (session : Session) (info : FileInfo) (contents : GoString) (ending : Failure) :
    Scp Unit := do
  when session.preserveTimesAndMode (newTimeMessage info).send
  sendFileBody info contents ending

/-- `sendDirectory` after the times, with what sends the entries. -/
def sendDirectoryBody (info : FileInfo) (unlisted : Option Failure) (sendEntries : Scp Unit) :
    Scp Unit := do
  Proc.writeAll (headerText 'D'.toUInt8 info.mode 0 info.name)
  awaitConfirmation
  whenSome unlisted Proc.fail
  sendEntries
  Proc.writeAll (bytes "E\n")
  awaitConfirmation

def sendDirectory (session : Session) (info : FileInfo) (unlisted : Option Failure)
    (sendEntries : Scp Unit) : Scp Unit := do
  when session.preserveTimesAndMode (newTimeMessage info).send
  sendDirectoryBody info unlisted sendEntries

mutual

def send (session : Session) : Source → Scp Unit
  | .unopenable _ _ failure => reporting (Proc.fail failure)
  | .file info contents ending => reporting (sendFile session info contents ending)
  | .directory info unlisted entries =>
    reporting (sendDirectory session info unlisted (sendEntries session entries))

/-- The entries of a directory; their errors are ignored. -/
def sendEntries (session : Session) : List Source → Scp Unit
  | [] => pure ()
  | entry :: entries => do
    let _ ← (send session entry).attempt
    sendEntries session entries

end

/-- What the source end finds at the paths that it is given. -/
structure Origin where
  /-- `filepath.Glob`; `none` is an error. -/
  glob : GoString → Option (List GoString)
  /-- `os.Stat`. -/
  find : GoString → Except Failure Source

/-- The paths that match; a pattern that nothing matches is taken as a path. -/
def Origin.expand (origin : Origin) (sourceGlob : GoString) : List GoString :=
  match origin.glob sourceGlob with
  | some (source :: sources) => source :: sources
  | _ => [sourceGlob]

structure Options where
  sourceMode : Bool
  targetMode : Bool
  targetIsDirectory : Bool
  preserveTimesAndMode : Bool
  recursive : Bool
  sources : List GoString
  target : GoString

/-- The options `-f -r` with a source. -/
def sourceOptions (source : GoString) (preserveTimesAndMode : Bool) : Options where
  sourceMode := true
  targetMode := false
  targetIsDirectory := false
  preserveTimesAndMode
  recursive := true
  sources := [source]
  target := []

def targetOptions (target : GoString) (preserveTimesAndMode : Bool) : Options where
  sourceMode := false
  targetMode := true
  targetIsDirectory := false
  preserveTimesAndMode
  recursive := true
  sources := []
  target

/-- One source of the command line. -/
def copySource (session : Session) (recursive : Bool) (origin : Origin) (source : GoString) :
    Scp Unit :=
  match origin.find source with
  | .error failure => reporting (Proc.fail failure)
  | .ok found =>
    if found.isDir && !recursive then
      reporting (Proc.fail (.other (found.info.name ++ bytes ": not a regular file")))
    else send session found

/-- The sources in their order; the last error is returned at the end. -/
def copySources (session : Session) (recursive : Bool) (origin : Origin) :
    List GoString → Option Failure → Scp Unit
  | [], lastErr => whenSome lastErr Proc.fail
  | source :: sources, lastErr =>
    (copySource session recursive origin source).handle fun result =>
      match result with
      | .ok _ => copySources session recursive origin sources lastErr
      | .error failure => copySources session recursive origin sources (some failure)

/-! ## The target end -/

structure Header where
  mode : Nat
  length : Int
  name : GoString

/-- The first line of `ReceiveFile`. -/
def readFileHeader (session : Session) : Scp Header := do
  let messageType ← readByte
  if messageType ≠ 'C'.toUInt8 then Proc.fail (unexpectedMessageType messageType)
  else do
    let fileModeString ← readString space
    let fileMode ← parseUint session fileModeString 8 32
    let lengthString ← readString space
    let length ← parseInt session lengthString
    let fileName ← readString newline
    pure { mode := fileMode, length, name := fileName }

/-- The first line of `ReceiveDirectory`; its length field is ignored. -/
def readDirectoryHeader (session : Session) : Scp Header := do
  let messageType ← readByte
  if messageType ≠ 'D'.toUInt8 then Proc.fail (unexpectedMessageType messageType)
  else do
    let dirModeString ← readString space
    let dirMode ← parseUint session dirModeString 8 32
    let _ ← readString space
    let dirName ← readString newline
    pure { mode := dirMode, length := 0, name := dirName }

/-- Where a file or directory is received: under its name in the path, or at the path. -/
def placeOf (named : Bool) (path name : GoString) : Scp GoString :=
  if named then joinName path name else pure path

/-- `io.CopyN` to the file that was opened. -/
def receiveContents (targetPath : GoString) : Nat → Scp Unit
  | 0 => pure ()
  | n + 1 => do
    let b ← readByte
    perform (.write b) targetPath
    receiveContents targetPath n

/-- `ReceiveFile` after the contents. -/
def finishFile (session : Session) (targetPath : GoString) (timeMessage : Option TimeMessage)
    (header : Header) : Scp Unit := do
  perform .close targetPath
  when session.preserveTimesAndMode (perform (.chmod header.mode) targetPath)
  whenSome timeMessage fun tm =>
    perform (.chtimes tm.accessTime tm.modificationTime) targetPath
  awaitConfirmation
  sendConfirmation

/-- `ReceiveFile` after its first line. -/
def receiveFileBody (session : Session) (targetPath : GoString) (timeMessage : Option TimeMessage)
    (header : Header) : Scp Unit := do
  perform (.openFile header.mode) targetPath
  receiveContents targetPath header.length.toNat
  finishFile session targetPath timeMessage header

def receiveFile (session : Session) (path : GoString) (pathIsDir : Bool)
    (timeMessage : Option TimeMessage) : Scp Unit := do
  let header ← readFileHeader session
  sendConfirmation
  let targetPath ← placeOf pathIsDir path header.name
  receiveFileBody session targetPath timeMessage header

/-- The directory is made unless it is there. -/
def makeDirectory (session : Session) (targetPath : GoString) (header : Header) : Scp Unit := do
  let found ← stat targetPath
  match found with
  | .error .notExist => perform (.mkdir header.mode) targetPath
  | .error errno => Proc.fail (pathError (bytes "stat") targetPath errno)
  | .ok true => pure ()
  | .ok false => Proc.fail (.other (bytes "target exists and is not a directory: " ++
      session.quote header.name))

/-- `ReceiveDirectory` after the entries. -/
def finishDirectory (session : Session) (targetPath : GoString) (timeMessage : Option TimeMessage) :
    Scp Unit := do
  let message ← readString newline
  if message ≠ bytes "E" then Proc.fail (unexpectedMessageType 'D'.toUInt8)
  else do
    whenSome timeMessage fun tm =>
      when session.preserveTimesAndMode
        (perform (.chtimes tm.accessTime tm.modificationTime) targetPath)
    sendConfirmation

/-- `ReceiveDirectory` after its first line. -/
def receiveDirectoryBody (session : Session) (processDirectoryMessages : GoString → Scp Unit)
    (targetPath : GoString) (timeMessage : Option TimeMessage) (header : Header) : Scp Unit := do
  makeDirectory session targetPath header
  processDirectoryMessages targetPath
  finishDirectory session targetPath timeMessage

def receiveDirectory (session : Session) (processDirectoryMessages : GoString → Scp Unit)
    (dir : GoString) (timeMessage : Option TimeMessage) : Scp Unit := do
  let header ← readDirectoryHeader session
  sendConfirmation
  let found ← stat dir
  let targetPath ← placeOf (found ≠ .error .notExist) dir header.name
  receiveDirectoryBody session processDirectoryMessages targetPath timeMessage header

/-- What a message in a directory asks for; `next` is the rest of the loop. -/
def receiveEntry (session : Session) (processDirectoryMessages : GoString → Scp Unit)
    (dirPath : GoString) (messageType : UInt8) (timeMessage : Option TimeMessage)
    (next : Scp Unit) : Scp Unit :=
  if messageType = 'D'.toUInt8 then do
    receiveDirectory session processDirectoryMessages dirPath timeMessage
    next
  else if messageType = 'C'.toUInt8 then do
    receiveFile session dirPath true timeMessage
    next
  else if messageType = 'E'.toUInt8 then
    if timeMessage.isSome then Proc.fail (unexpectedMessageType messageType) else pure ()
  else Proc.fail (unexpectedMessageType messageType)

def processDirectoryMessages (session : Session) : Nat → GoString → Scp Unit
  | 0, _ => .spin
  | rounds + 1, dirPath => do
    let messageType ← peekByte
    if messageType = 'T'.toUInt8 ∧ session.preserveTimesAndMode = true then do
      let timeMessage ← TimeMessage.receive session
      let messageType ← peekByte
      receiveEntry session (processDirectoryMessages session rounds) dirPath messageType
        (some timeMessage) (processDirectoryMessages session rounds dirPath)
    else
      receiveEntry session (processDirectoryMessages session rounds) dirPath messageType none
        (processDirectoryMessages session rounds dirPath)

/-- What a message outside of directories asks for; an error is sent to the other end. -/
def receiveMessage (session : Session) (rounds : Nat) (target : GoString) (targetIsDir : Bool)
    (messageType : UInt8) (timeMessage : Option TimeMessage) : Scp Unit :=
  reporting
    (if messageType = 'C'.toUInt8 then receiveFile session target targetIsDir timeMessage
     else if messageType = 'D'.toUInt8 then
       receiveDirectory session (processDirectoryMessages session rounds) target timeMessage
     else Proc.fail (unexpectedMessageType messageType))

/-- What follows a `peekByte` of the loop: nothing at the end of the stream; any other error
leaves 0 in `messageType`. -/
def afterPeek (peeked : Except Failure UInt8) (next : UInt8 → Scp Unit) : Scp Unit :=
  match peeked with
  | .ok messageType => next messageType
  | .error .eof => pure ()
  | .error (.other _) => next 0

/-- The loop of the target end. -/
def receiveMessages (session : Session) (target : GoString) (targetIsDir : Bool) : Nat → Scp Unit
  | 0 => .spin
  | rounds + 1 => do
    let peeked ← peekByte.attempt
    afterPeek peeked fun messageType =>
      if messageType = 'T'.toUInt8 then do
        let timeMessage ← reporting (TimeMessage.receive session)
        let peeked ← peekByte.attempt
        afterPeek peeked fun messageType => do
          receiveMessage session rounds target targetIsDir messageType (some timeMessage)
          receiveMessages session target targetIsDir rounds
      else do
        receiveMessage session rounds target targetIsDir messageType none
        receiveMessages session target targetIsDir rounds

/-- Whether `os.Stat` of the target finds a directory. -/
def isDirectory : Except Errno Bool → Bool
  | .ok isDir => isDir
  | .error _ => false

def copyTarget (session : Session) (rounds : Nat) (options : Options) : Scp Unit := do
  let found ← stat options.target
  if options.targetIsDirectory && !isDirectory found then
    Proc.fail (.other (bytes "target is not a directory"))
  else do
    sendConfirmation
    receiveMessages session options.target (isDirectory found) rounds

/-! ## Both -/

def copy (quote : GoString → GoString) (origin : Origin) (rounds : Nat) (options : Options) :
    Scp Unit :=
  let session : Session := { preserveTimesAndMode := options.preserveTimesAndMode, quote }
  if options.sourceMode then do
    awaitConfirmation
    copySources session options.recursive origin (options.sources.flatMap origin.expand) none
  else if options.targetMode then copyTarget session rounds options
  else pure ()

end Diego.SCP
