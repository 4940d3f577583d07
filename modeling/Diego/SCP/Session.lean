import Diego.Executor.Container
import Diego.LexicalPath
import Diego.Numeral
import Diego.Process

/-!
# The session of an scp process

`diego-ssh/scp/session.go` and `time.go`: the bytes that the two ends of a copy send each other,
and the calls of a process to the system it runs on.  Streams are buffered, so `peekByte` looks
at the next byte; a read at the end of the stream fails with `io.EOF`.
-/

namespace Diego.SCP

open Diego.Executor (GoString bytes)
open LexicalPath Process

/-! ## Errors -/

inductive Failure
  | eof
  /-- Any other error, with its message. -/
  | other (message : GoString)
  deriving DecidableEq

def Failure.message : Failure → GoString
  | .eof => bytes "EOF"
  | .other message => message

/-- An error of the system. -/
inductive Errno
  | notExist
  | exist
  | permission
  | notDirectory
  | isDirectory
  | other (message : GoString)
  deriving DecidableEq

def Errno.message : Errno → GoString
  | .notExist => bytes "no such file or directory"
  | .exist => bytes "file exists"
  | .permission => bytes "permission denied"
  | .notDirectory => bytes "not a directory"
  | .isDirectory => bytes "is a directory"
  | .other message => message

/-- `PathError.Error`. -/
def pathError (op path : GoString) (errno : Errno) : Failure :=
  .other (op ++ bytes " " ++ path ++ bytes ": " ++ errno.message)

/-- The verb `%c` for a byte: the character with this number, in UTF-8. -/
def formatChar (c : UInt8) : GoString :=
  if c < 128 then [c] else [(192 : UInt8) ||| c >>> 6, (128 : UInt8) ||| c &&& 63]

/-- The verb `%x` for a byte. -/
def formatHex (c : UInt8) : GoString :=
  let digit := fun d : UInt8 => if d < 10 then 48 + d else 87 + d
  if c < 16 then [digit c] else [digit (c / 16), digit (c % 16)]

def unexpectedMessageType (messageType : UInt8) : Failure :=
  .other (bytes "unexpected message type: " ++ formatChar messageType)

/-! ## Calls to the system -/

/-- A time: seconds since the epoch, and nanoseconds. -/
structure Time where
  sec : Int64
  nsec : Nat
  deriving DecidableEq

namespace Time

/-- `time.Unix` of whole seconds. -/
def unix (sec : Int64) : Time :=
  { sec, nsec := 0 }

/-- The start of the year 1. -/
def isZero (t : Time) : Bool :=
  decide (t = unix (-62135596800))

/-- The nanoseconds since the epoch, which wrap. -/
def unixNano (t : Time) : Int64 :=
  t.sec * 1000000000 + Int64.ofNat t.nsec

/-- `syscall.NsecToTimespec`. -/
def ofNano (nanos : Int64) : Time where
  sec := Int64.ofInt (nanos.toInt / 1000000000)
  nsec := (nanos.toInt % 1000000000).toNat

/-- What `os.Chtimes` sets a time to; the zero time leaves it as it is. -/
def set (t old : Time) : Time :=
  if t.isZero then old else ofNano t.unixNano

end Time

/-- What a process does to a file or directory. -/
inductive Change
  | mkdir (mode : Nat)
  /-- `os.OpenFile` with `O_WRONLY`, `O_CREATE` and `O_TRUNC`. -/
  | openFile (mode : Nat)
  /-- A byte is written to the file that was opened. -/
  | write (b : UInt8)
  | close
  | chmod (mode : Nat)
  | chtimes (accessTime modificationTime : Time)
  deriving DecidableEq

def Change.verb : Change → GoString
  | .mkdir _ => bytes "mkdir"
  | .openFile _ => bytes "open"
  | .write _ => bytes "write"
  | .close => bytes "close"
  | .chmod _ => bytes "chmod"
  | .chtimes _ _ => bytes "chtimes"

inductive Op
  | stat (path : GoString)
  | change (change : Change) (path : GoString)
  | print (message : GoString)
  /-- A name from a message is joined to a path; nothing happens. -/
  | join (path name : GoString)
  deriving DecidableEq

/-- The answers; that of `stat` is whether the path is a directory. -/
def Op.Answer : Op → Type
  | .stat _ => Except Errno Bool
  | .change _ _ => Except Errno Unit
  | .print _ => Unit
  | .join _ _ => Unit

abbrev Scp := Proc UInt8 Op.Answer Failure

def stat (path : GoString) : Scp (Except Errno Bool) :=
  .call (.stat path) fun answer => .done (.ok answer)

/-- A change, or its error with the path. -/
def perform (change : Change) (path : GoString) : Scp Unit :=
  .call (.change change path) fun answer =>
    match answer with
    | .ok _ => .done (.ok ())
    | .error errno => .done (.error (pathError change.verb path errno))

def print (message : GoString) : Scp Unit :=
  .call (.print message) fun _ => .done (.ok ())

/-- The path of a file or directory that a message names. -/
def joinName (path name : GoString) : Scp GoString :=
  .call (.join path name) fun _ => .done (.ok (join path name))

/-! ## session.go -/

def newline : UInt8 := 10

def space : UInt8 := 32

structure Session where
  preserveTimesAndMode : Bool
  /-- `strconv.Quote`. -/
  quote : GoString → GoString

def readByte : Scp UInt8 :=
  .read .done

def peekByte : Scp UInt8 :=
  .peek .done

/-- The text up to the delimiter, without it. -/
def readString (delim : UInt8) : Scp GoString :=
  .readUntil delim [] .done

def sendConfirmation : Scp Unit :=
  Proc.writeAll [0]

def sendError (message : GoString) : Scp Unit := do
  Proc.writeAll [1]
  Proc.writeAll (bytes "scp: " ++ message ++ [newline])

def awaitConfirmation : Scp Unit := do
  let ackType ← readByte
  if ackType = 0 then pure ()
  else if ackType = 1 then do
    let message ← readString newline
    print message
  else if ackType = 2 then do
    let message ← readString newline
    Proc.fail (.other message)
  else Proc.fail (.other (bytes "invalid acknowledgement identifier: " ++ formatHex ackType))

/-- An error is sent to the other end, and returned. -/
def report {α : Type} : Except Failure α → Scp α
  | .ok a => .done (.ok a)
  | .error failure => do
    let _ ← (sendError failure.message).attempt
    Proc.fail failure

def reporting {α : Type} (p : Scp α) : Scp α :=
  p.handle report

/-! ## Numbers -/

/-- `NumError.Error`. -/
def numError (session : Session) (function : String) (text : GoString) :
    Numeral.Malformed → Failure
  | .notNumber => .other (bytes "strconv." ++ bytes function ++ bytes ": parsing " ++
      session.quote text ++ bytes ": invalid syntax")
  | .outOfRange => .other (bytes "strconv." ++ bytes function ++ bytes ": parsing " ++
      session.quote text ++ bytes ": value out of range")

/-- `strconv.ParseUint`. -/
def parseUint (session : Session) (text : GoString) (base bitSize : Nat) : Scp Nat :=
  match Numeral.scan base (2 ^ bitSize) text with
  | .ok n => .done (.ok n)
  | .error reason => Proc.fail (numError session "ParseUint" text reason)

/-- `strconv.ParseInt` with base 10 and 64 bits. -/
def parseInt (session : Session) (text : GoString) : Scp Int :=
  match Numeral.scanInt (2 ^ 63) text with
  | .ok n => .done (.ok n)
  | .error reason => Proc.fail (numError session "ParseInt" text reason)

/-! ## time.go -/

structure FileInfo where
  name : GoString
  /-- The bits of `os.FileMode`. -/
  mode : Nat
  size : Int64
  modTime : Time
  /-- `atime.AccessTime`; `none` where the system does not tell it. -/
  accessTime : Option Time

structure TimeMessage where
  modificationTime : Time
  accessTime : Time
  deriving DecidableEq

def newTimeMessage (fileInfo : FileInfo) : TimeMessage :=
  { modificationTime := fileInfo.modTime
    accessTime := fileInfo.accessTime.getD (.unix 0) }

/-- The text `T%d 0 %d 0`. -/
def TimeMessage.text (tm : TimeMessage) : GoString :=
  'T'.toUInt8 :: (Numeral.formatInt tm.modificationTime.sec.toInt ++ bytes " 0 " ++
    Numeral.formatInt tm.accessTime.sec.toInt ++ bytes " 0\n")

def TimeMessage.send (tm : TimeMessage) : Scp Unit := do
  Proc.writeAll tm.text
  awaitConfirmation

/-- `TimeMessage.Receive`, up to the confirmation. -/
def TimeMessage.readText (session : Session) : Scp TimeMessage := do
  let messageType ← readByte
  if messageType ≠ 'T'.toUInt8 then Proc.fail (unexpectedMessageType messageType)
  else do
    let modTimeString ← readString space
    let modTimeSeconds ← parseUint session modTimeString 10 64
    let _ ← readString space
    let accessTimeString ← readString space
    let accessTimeSeconds ← parseUint session accessTimeString 10 64
    let _ ← readString newline
    -- the conversion to `int64` wraps
    pure { modificationTime := .unix (UInt64.ofNat modTimeSeconds).toInt64
           accessTime := .unix (UInt64.ofNat accessTimeSeconds).toInt64 }

def TimeMessage.receive (session : Session) : Scp TimeMessage := do
  let tm ← TimeMessage.readText session
  sendConfirmation
  pure tm

end Diego.SCP
