import Diego.SCP.Copy
import Diego.SCP.Host

/-!
# What the target end writes to

The target end joins names that it receives to the path of the target or of a directory that it is
in.  If every path that is joined so is the target or below it, then so is everything that the
target end creates, opens, writes or changes, whatever the other end sends and whatever the file
system answers.
-/

namespace Diego.SCP

open Diego.Executor (GoString bytes)
open LexicalPath Process

/-- The path is the target or below it, after cleaning. -/
abbrev Inside (target path : GoString) : Prop :=
  Path.Within (Path.clean target) (Path.clean path)

/-- A name that is joined to a path leads to the target or below it. -/
def Op.JoinsInside (target : GoString) : Op → Prop
  | .join path name => Inside target (LexicalPath.join path name)
  | _ => True

/-- A change is made to the target or below it. -/
def Op.ChangesInside (target : GoString) : Op → Prop
  | .change _ path => Inside target path
  | _ => True

/-- The paths that names from messages were joined to, with these names. -/
def joinedNames (ops : List Op) : List (GoString × GoString) :=
  ops.filterMap fun op =>
    match op with
    | .join path name => some (path, name)
    | _ => none

/-- The paths that were created, opened, written to, or whose mode or times were changed. -/
def changedPaths (ops : List Op) : List GoString :=
  ops.filterMap fun op =>
    match op with
    | .change _ path => some path
    | _ => none

/-- The process stays inside if the names that it joins lead there. -/
abbrev Stays {α : Type} (target : GoString) (post : α → Prop) (p : Scp α) : Prop :=
  p.Safe (Op.JoinsInside target) (Op.ChangesInside target) post

variable {target path : GoString} {session : Session}

/-! ## The session -/

variable {α : Type} (message text : GoString) {messages : GoString → Scp Unit} (rounds : Nat)
  (targetIsDir : Bool) {result : Except Failure α} {delim messageType : UInt8} {name : GoString}
  {change : Change} {timeMessage : Option TimeMessage} {pathIsDir : Bool}

theorem stays_done : Stays target (fun _ => True) (.done result : Scp α) := by
  cases result <;> trivial

theorem stays_readByte : Stays target (fun _ => True) readByte :=
  fun _ => stays_done

theorem stays_peekByte : Stays target (fun _ => True) peekByte :=
  fun _ => stays_done

theorem stays_readString : Stays target (fun _ => True) (readString delim) :=
  fun _ => stays_done

theorem stays_sendConfirmation : Stays target (fun _ => True) sendConfirmation :=
  Proc.safe_writeAll

theorem stays_print : Stays target (fun _ => True) (print message) :=
  ⟨trivial, fun _ _ => trivial⟩

theorem stays_stat : Stays target (fun _ => True) (stat path) :=
  ⟨trivial, fun _ _ => trivial⟩

theorem stays_placeOf {named : Bool} (hpath : Inside target path) :
    Stays target (Inside target) (placeOf named path name) := by
  cases named with
  | false => exact hpath
  | true => exact ⟨trivial, fun hname _ => hname⟩

theorem stays_perform (hpath : Inside target path) :
    Stays target (fun _ => True) (perform change path) := by
  refine ⟨hpath, fun _ answer => ?_⟩
  cases answer <;> trivial

theorem stays_sendError : Stays target (fun _ => True) (sendError message) :=
  Proc.safe_writeAll.bind fun _ _ => Proc.safe_writeAll

theorem stays_awaitConfirmation : Stays target (fun _ => True) awaitConfirmation := by
  refine stays_readByte.bind fun ackType _ => ?_
  split
  · trivial
  · split
    · exact stays_readString.bind fun message _ => stays_print message
    · split
      · exact stays_readString.bind fun _ _ => trivial
      · trivial

theorem stays_reporting {post : α → Prop} {p : Scp α} (h : Stays target post p) :
    Stays target post (reporting p) := by
  refine Proc.Safe.handle h (fun a ha => ha) fun failure => ?_
  exact (stays_sendError _).attempt.bind fun _ _ => trivial

theorem stays_when {condition : Bool} {p : Scp Unit} (h : Stays target (fun _ => True) p) :
    Stays target (fun _ => True) (when condition p) := by
  unfold when
  split
  · exact h
  · trivial

theorem stays_whenSome {x : Option α} {p : α → Scp Unit}
    (h : ∀ a, Stays target (fun _ => True) (p a)) :
    Stays target (fun _ => True) (whenSome x p) := by
  cases x with
  | none => trivial
  | some a => exact h a

theorem stays_parseUint {base bitSize : Nat} :
    Stays target (fun _ => True) (parseUint session text base bitSize) := by
  unfold parseUint
  split <;> trivial

theorem stays_parseInt : Stays target (fun _ => True) (parseInt session text) := by
  unfold parseInt
  split <;> trivial

theorem stays_receiveTime : Stays target (fun _ => True) (TimeMessage.receive session) := by
  have hread : Stays target (fun _ => True) (TimeMessage.readText session) := by
    refine stays_readByte.bind fun messageType _ => ?_
    split
    · trivial
    · refine stays_readString.bind fun modTimeString _ => ?_
      refine (stays_parseUint _).bind fun modTimeSeconds _ => ?_
      refine stays_readString.bind fun _ _ => ?_
      refine stays_readString.bind fun accessTimeString _ => ?_
      refine (stays_parseUint _).bind fun accessTimeSeconds _ => ?_
      exact stays_readString.bind fun _ _ => trivial
  exact hread.bind fun tm _ => stays_sendConfirmation.bind fun _ _ => trivial

/-! ## Files and directories -/

theorem stays_readFileHeader : Stays target (fun _ => True) (readFileHeader session) := by
  refine stays_readByte.bind fun messageType _ => ?_
  split
  · trivial
  · refine stays_readString.bind fun fileModeString _ => ?_
    refine (stays_parseUint _).bind fun fileMode _ => ?_
    refine stays_readString.bind fun lengthString _ => ?_
    refine (stays_parseInt _).bind fun length _ => ?_
    exact stays_readString.bind fun fileName _ => trivial

theorem stays_readDirectoryHeader : Stays target (fun _ => True) (readDirectoryHeader session) := by
  refine stays_readByte.bind fun messageType _ => ?_
  split
  · trivial
  · refine stays_readString.bind fun dirModeString _ => ?_
    refine (stays_parseUint _).bind fun dirMode _ => ?_
    refine stays_readString.bind fun _ _ => ?_
    exact stays_readString.bind fun dirName _ => trivial

theorem stays_receiveContents (hpath : Inside target path) {n : Nat} :
    Stays target (fun _ => True) (receiveContents path n) := by
  induction n with
  | zero => trivial
  | succ n ih => exact stays_readByte.bind fun b _ => (stays_perform hpath).bind fun _ _ => ih

theorem stays_receiveFile (hpath : Inside target path) :
    Stays target (fun _ => True) (receiveFile session path pathIsDir timeMessage) := by
  refine stays_readFileHeader.bind fun header _ => ?_
  refine stays_sendConfirmation.bind fun _ _ => ?_
  refine (stays_placeOf hpath).bind fun targetPath htarget => ?_
  refine (stays_perform htarget).bind fun _ _ => ?_
  refine (stays_receiveContents htarget).bind fun _ _ => ?_
  refine (stays_perform htarget).bind fun _ _ => ?_
  refine (stays_when (stays_perform htarget)).bind fun _ _ => ?_
  refine (stays_whenSome fun tm => stays_perform htarget).bind fun _ _ => ?_
  exact stays_awaitConfirmation.bind fun _ _ => stays_sendConfirmation

theorem stays_makeDirectory (hpath : Inside target path) {header : Header} :
    Stays target (fun _ => True) (makeDirectory session path header) := by
  refine stays_stat.bind fun found _ => ?_
  split
  · exact stays_perform hpath
  · trivial
  · trivial
  · trivial

/-- The entries of a directory stay below it if the rest of the messages do. -/
theorem stays_receiveDirectory
    (hmessages : ∀ path, Inside target path → Stays target (fun _ => True) (messages path))
    (hpath : Inside target path) :
    Stays target (fun _ => True) (receiveDirectory session messages path timeMessage) := by
  refine stays_readDirectoryHeader.bind fun header _ => ?_
  refine stays_sendConfirmation.bind fun _ _ => ?_
  refine stays_stat.bind fun found _ => ?_
  refine (stays_placeOf hpath).bind fun targetPath htarget => ?_
  refine (stays_makeDirectory htarget).bind fun _ _ => ?_
  refine (hmessages _ htarget).bind fun _ _ => ?_
  refine stays_readString.bind fun message _ => ?_
  split
  · trivial
  · refine (stays_whenSome fun tm => stays_when (stays_perform htarget)).bind fun _ _ => ?_
    exact stays_sendConfirmation

theorem stays_receiveEntry {next : Scp Unit}
    (hmessages : ∀ path, Inside target path → Stays target (fun _ => True) (messages path))
    (hnext : Stays target (fun _ => True) next) (hpath : Inside target path) :
    Stays target (fun _ => True)
      (receiveEntry session messages path messageType timeMessage next) := by
  unfold receiveEntry
  split
  · exact (stays_receiveDirectory hmessages hpath).bind fun _ _ => hnext
  · split
    · exact (stays_receiveFile hpath).bind fun _ _ => hnext
    · split
      · split <;> trivial
      · trivial

/-- Every directory that is received stays inside, at any depth. -/
theorem stays_processDirectoryMessages (hpath : Inside target path) :
    Stays target (fun _ => True) (processDirectoryMessages session rounds path) := by
  induction rounds generalizing path with
  | zero => trivial
  | succ rounds ih =>
    refine stays_peekByte.bind fun messageType _ => ?_
    split
    · refine stays_receiveTime.bind fun timeMessage _ => ?_
      refine stays_peekByte.bind fun messageType _ => ?_
      exact stays_receiveEntry (fun _ h => ih h) (ih hpath) hpath
    · exact stays_receiveEntry (fun _ h => ih h) (ih hpath) hpath

/-! ## The target end -/

theorem stays_receiveMessage :
    Stays target (fun _ => True)
      (receiveMessage session rounds target targetIsDir messageType timeMessage) := by
  refine stays_reporting ?_
  split
  · exact stays_receiveFile .refl
  · split
    · exact stays_receiveDirectory (fun _ h => stays_processDirectoryMessages rounds h)
        .refl
    · trivial

theorem stays_afterPeek {peeked : Except Failure UInt8} {next : UInt8 → Scp Unit}
    (hnext : ∀ messageType, Stays target (fun _ => True) (next messageType)) :
    Stays target (fun _ => True) (afterPeek peeked next) := by
  unfold afterPeek
  split
  · exact hnext _
  · trivial
  · exact hnext 0

theorem stays_receiveMessages {rounds : Nat} :
    Stays target (fun _ => True) (receiveMessages session target targetIsDir rounds) := by
  induction rounds with
  | zero => trivial
  | succ rounds ih =>
    refine stays_peekByte.attempt.bind fun peeked _ => stays_afterPeek fun messageType => ?_
    split
    · refine (stays_reporting stays_receiveTime).bind fun timeMessage _ => ?_
      refine stays_peekByte.attempt.bind fun peeked _ => stays_afterPeek fun messageType => ?_
      exact (stays_receiveMessage _ _).bind fun _ _ => ih
    · exact (stays_receiveMessage _ _).bind fun _ _ => ih

theorem stays_copyTarget {options : Options} :
    Stays options.target (fun _ => True) (copyTarget session rounds options) := by
  refine stays_stat.bind fun found _ => ?_
  split
  · trivial
  · exact stays_sendConfirmation.bind fun _ _ => stays_receiveMessages _

variable {σ : Type} {ops : List Op}

theorem changedPaths_inside (h : ∀ op ∈ ops, op.ChangesInside target) :
    ∀ path ∈ changedPaths ops, Inside target path := by
  intro path hpath
  obtain ⟨op, hop, heq⟩ := List.mem_filterMap.mp hpath
  cases op with
  | change change path' =>
    cases heq
    exact h _ hop
  | _ => cases heq

theorem joinsInside_of_joinedNames
    (h : ∀ joined ∈ joinedNames ops, Inside target (join joined.1 joined.2)) :
    ∀ op ∈ ops, op.JoinsInside target := by
  intro op hop
  cases op with
  | join path name => exact h (path, name) (List.mem_filterMap.mpr ⟨_, hop, rfl⟩)
  | _ => trivial

/-- **The target end writes only inside its target if the names that it joins lead there**, whatever
bytes it is sent, however its reads and writes end, and whatever the file system answers. -/
theorem copy_within (quote : GoString → GoString) (origin : Origin) (rounds : Nat)
    (options : Options) (hsource : options.sourceMode = false) (htarget : options.targetMode = true)
    (env : Proc.Env UInt8 Op.Answer Failure σ) (ending : Failure) (input : GoString) (world : σ)
    (hnames : ∀ joined ∈
        joinedNames ((copy quote origin rounds options).run env ending input world).ops,
      Inside options.target (join joined.1 joined.2)) :
    ∀ path ∈ changedPaths ((copy quote origin rounds options).run env ending input world).ops,
      Inside options.target path := by
  have hstays : Stays options.target (fun _ => True) (copy quote origin rounds options) := by
    simp only [copy, hsource, htarget]
    exact stays_copyTarget rounds
  exact changedPaths_inside
    (hstays.run env ending input world (joinsInside_of_joinedNames hnames))

/-- A source end that finds nothing. -/
def Origin.nothing : Origin where
  glob _ := none
  find _ := .error .eof

/-- A system with an empty directory `/target`, which is sent these bytes. -/
def receive (input : GoString) : Proc.Outcome Op Failure Unit Host :=
  (copy id .nothing 3 (targetOptions (bytes "/target") false)).run Host.env .eof input
    (Host.initial.change (.mkdir 0o755) (bytes "/target")).2

theorem copy_within_below :
    changedPaths (receive (bytes "C0644 1 ../target/b\nx\x00")).ops ≠ [] ∧
      ∀ path ∈ changedPaths (receive (bytes "C0644 1 ../target/b\nx\x00")).ops,
        Inside (bytes "/target") path :=
  ⟨by decide +kernel, copy_within _ _ _ _ rfl rfl _ _ _ _ (by decide +kernel)⟩

/-- A file with the name `../evil` is written next to the target. -/
theorem copy_outside :
    (receive (bytes "C0644 1 ../evil\nx\x00")).result = some (.ok ()) ∧
      (∃ node, (receive (bytes "C0644 1 ../evil\nx\x00")).world.disk.node [bytes "evil"] =
        some node ∧ node.body = .file (bytes "x")) ∧
      bytes "/evil" ∈ changedPaths (receive (bytes "C0644 1 ../evil\nx\x00")).ops ∧
      ¬ Inside (bytes "/target") (bytes "/evil") := by
  refine ⟨by decide +kernel, ⟨_, rfl, by decide +kernel⟩, by decide +kernel, by decide +kernel⟩

end Diego.SCP
