import Diego.SCP.Messages

/-!
# Sending one file or directory

The two ends of a copy take turns: the source end writes a message and waits, the target end reads
it, does what it asks for and confirms.  `Talks` says that a run leads from one pair of processes to
another with nothing left on its way.  A target end that `Awaits` messages is in one of its two
loops, which treat a time message and what follows it alike.
-/

namespace Diego.SCP

open Diego.Executor (GoString bytes)
open LexicalPath Process Duplex Machine

/-- The ends go from `p` and `q` to `p'` and `q'`; only the system of the target end changes. -/
def Talks (streams : Streams) (sender : Host) (p q : Scp Unit) (host : Host)
    (p' q' : Scp Unit) (host' : Host) : Prop :=
  Leads (Net.step streams.link) ⟨⟨p, sender, []⟩, ⟨q, host, []⟩⟩
    ⟨⟨p', sender, []⟩, ⟨q', host', []⟩⟩

variable {streams : Streams} {sender host host' host'' : Host}
  {p p' p'' q q' q'' : Scp Unit} {session : Session}

theorem Talks.trans (h : Talks streams sender p q host p' q' host')
    (h' : Talks streams sender p' q' host' p'' q'' host'') :
    Talks streams sender p q host p'' q'' host'' :=
  Leads.trans h h'

variable {f g : Except Failure Unit → Scp Unit} {info : FileInfo} {rounds : Nat}
  {contents : GoString} {text : GoString} {next : Unit → Scp Unit}

theorem talks_write (h : Reads streams.link q host text q' host') :
    Talks streams sender ((Proc.writeAll text).handle f) q host (f (.ok ())) q' host' :=
  leads_write h

theorem talks_calls (h : Reads streams.link q host [] q' host') :
    Talks streams sender p q host p q' host' :=
  leads_calls h

/-- The target end confirms, and the source end has waited for it. -/
theorem talks_confirm :
    Talks streams sender (awaitConfirmation.handle f) (sendConfirmation.handle g) host
      (f (.ok ())) (g (.ok ())) host :=
  leads_reply (reads_awaitConfirmation.handle f)

theorem bind_handle {α β γ : Type} (p : Scp α) {f : α → Scp β} {g : Except Failure β → Scp γ} :
    (p >>= f).handle g = p.handle fun r => (Proc.onOk f r).handle g :=
  Proc.handle_handle

theorem talks_write_bind (h : Reads streams.link q host text q' host') :
    Talks streams sender ((Proc.writeAll text >>= next).handle f) q host ((next ()).handle f) q'
      host' := by
  rw [bind_handle]
  exact talks_write h

theorem talks_confirm_bind {next' : Unit → Scp Unit} :
    Talks streams sender ((awaitConfirmation >>= next).handle f)
      ((sendConfirmation >>= next').handle g) host ((next ()).handle f) ((next' ()).handle g)
      host := by
  rw [bind_handle, bind_handle]
  exact talks_confirm

/-! ## Times -/

/-- What sees the byte `b` first goes on as `r`. -/
def Enters (streams : Streams) (b : UInt8) (q r : Scp Unit) : Prop :=
  ∀ host bytes q' host', Reads streams.link r host (b :: bytes) q' host' →
    Reads streams.link q host (b :: bytes) q' host'

/-- The target end waits for a message, and goes on with its type and the times before it. -/
structure Awaits (streams : Streams) (preserve : Bool) (q : Scp Unit)
    (next : UInt8 → Option TimeMessage → Scp Unit) : Prop where
  message : ∀ b, b ≠ 'T'.toUInt8 → Enters streams b q (next b none)
  times : preserve = true → ∀ tm : TimeMessage, tm.InRange →
    ∃ g : Except Failure Unit → Scp Unit,
      (∀ host, Reads streams.link q host tm.text (sendConfirmation.handle g) host) ∧
      ∀ b, Enters streams b (g (.ok ())) (next b (some tm.wholeSeconds))

/-- The times that the target end has when a message arrives. -/
def timesSent (preserve : Bool) (info : FileInfo) : Option TimeMessage :=
  if preserve then some (newTimeMessage info).wholeSeconds else none

theorem talks_times {next : UInt8 → Option TimeMessage → Scp Unit}
    (h : Awaits streams session.preserveTimesAndMode q next)
    (hrange : session.preserveTimesAndMode = true → (newTimeMessage info).InRange) :
    ∃ q', Talks streams sender
        ((when session.preserveTimesAndMode (newTimeMessage info).send).handle f) q host
        (f (.ok ())) q' host ∧
      ∀ b, b ≠ 'T'.toUInt8 → Enters streams b q'
        (next b (timesSent session.preserveTimesAndMode info)) := by
  cases hpreserve : session.preserveTimesAndMode with
  | false => exact ⟨q, Leads.refl, h.message⟩
  | true =>
    obtain ⟨g, hreads, hnext⟩ := h.times hpreserve _ (hrange hpreserve)
    refine ⟨g (.ok ()), ?_, fun b _ => hnext b⟩
    exact (talks_write_bind (hreads host)).trans talks_confirm

theorem awaits_processDirectoryMessages {dirPath : GoString} :
    Awaits streams session.preserveTimesAndMode
      ((processDirectoryMessages session (rounds + 1) dirPath).handle g)
      fun messageType timeMessage =>
        (receiveEntry session (processDirectoryMessages session rounds) dirPath messageType
          timeMessage (processDirectoryMessages session rounds dirPath)).handle g where
  message b hb host bytes q' host' h := by
    refine .peek ?_
    have hother : ¬ (b = 'T'.toUInt8 ∧ session.preserveTimesAndMode = true) :=
      fun hand => hb hand.1
    simpa only [Proc.handle, Proc.onOk_ok, if_neg hother] using h
  times hpreserve tm hrange := by
    refine ⟨fun r => ((Proc.onOk (fun _ => pure tm.wholeSeconds) r).handle
      (Proc.onOk fun timeMessage => do
        let messageType ← peekByte
        receiveEntry session (processDirectoryMessages session rounds) dirPath messageType
          (some timeMessage) (processDirectoryMessages session rounds dirPath))).handle g,
      fun host => ?_, fun b host bytes q' host' h => .peek h⟩
    refine .peek ?_
    simp only [hpreserve]
    rw [← Proc.handle_handle, ← bind_handle]
    exact ((reads_receiveTime hrange).handle _).handle g

theorem awaits_receiveMessages {target : GoString} {targetIsDir : Bool} :
    Awaits streams session.preserveTimesAndMode
      (receiveMessages session target targetIsDir (rounds + 1))
      fun messageType timeMessage => do
        receiveMessage session rounds target targetIsDir messageType timeMessage
        receiveMessages session target targetIsDir rounds where
  message b hb host bytes q' host' h := by
    refine .peek ?_
    simpa only [Proc.handle, Proc.onOk_ok, afterPeek, if_neg hb] using h
  times _ tm hrange := by
    refine ⟨fun r => ((Proc.onOk (fun _ => pure tm.wholeSeconds) r).handle report).handle
      (Proc.onOk fun timeMessage => do
        let peeked ← peekByte.attempt
        afterPeek peeked fun messageType => do
          receiveMessage session rounds target targetIsDir messageType (some timeMessage)
          receiveMessages session target targetIsDir rounds),
      fun host => ?_, fun b host bytes q' host' h => .peek h⟩
    refine .peek ?_
    rw [← Proc.handle_handle, ← bind_handle]
    exact ((reads_receiveTime hrange).handle report).handle _

/-! ## What a copy has in common with its source -/

/-- The times in whole seconds. -/
structure SameTimes (info : FileInfo) (node : Node) : Prop where
  modificationTime : node.modificationTime.sec = info.modTime.sec
  accessTime : ∀ time ∈ info.accessTime, node.accessTime.sec = time.sec

/-! ## Files -/

open Host

variable {path : GoString} {location : Location} {node : Node} {mode : Nat} {preserve : Bool}
  {timeMessage : Option TimeMessage} {entries : Scp Unit} {header : Header}

theorem reads_receiveContents {written : GoString} (hlocate : host.locate path = location)
    (h : Mine host location node) (hbody : node.body = .file written) :
    ∃ host' node',
      Reads streams.link (receiveContents path contents.length) host contents (.done (.ok ()))
        host' ∧
      KeptAt location host host' ∧ Mine host' location node' ∧
      node'.body = .file (written ++ contents) := by
  induction contents generalizing host node written with
  | nil =>
    refine ⟨host, node, .refl _ _, .refl, h, ?_⟩
    rw [hbody, List.append_nil]
  | cons b contents ih =>
    subst hlocate
    let append : GoString → GoString := fun contents => contents ++ [b]
    have hrewrite : node.rewrite host.now append =
        { node with modificationTime := host.now, body := .file (written ++ [b]) } := by
      simp only [Node.rewrite, hbody, append]
    have hmine : Mine (host.rewrite (host.locate path) append) (host.locate path)
        (node.rewrite host.now append) := by
      refine h.modify _ ?_
      rw [hrewrite]
    have hlocate : (host.rewrite (host.locate path) append).locate path = host.locate path := rfl
    obtain ⟨host', node', hreads, hkept, hmine', hbody'⟩ :=
      ih hlocate hmine (congrArg Node.body hrewrite)
    refine ⟨host', node', ?_, ((kept_modify _).keptAt).trans hkept, hmine', ?_⟩
    · exact reads_readByte.bind ((reads_perform rfl).bind hreads)
    · rw [hbody', List.append_assoc]
      rfl

theorem reads_chmod (hreaches : Reaches host path location) (h : Mine host location node)
    (hslash : slashed path = true → node.isDir = true) :
    ∃ host' node',
      Reads streams.link (when preserve (perform (.chmod mode) path)) host [] (.done (.ok ()))
        host' ∧
      KeptAt location host host' ∧ Mine host' location node' ∧ node'.body = node.body ∧
      (preserve = true → node'.perm = mode &&& 0o777) := by
  cases preserve with
  | false => exact ⟨host, node, .refl _ _, .refl, h, rfl, fun h => absurd h (by decide)⟩
  | true =>
    exact ⟨_, _, reads_perform (h.chmod hreaches hslash), (kept_modify _).keptAt, h.modify _ rfl,
      rfl, fun _ => rfl⟩

theorem reads_chtimes (hreaches : Reaches host path location) (h : Mine host location node)
    (hslash : slashed path = true → node.isDir = true)
    (hrange : preserve = true → (newTimeMessage info).InRange) :
    ∃ host' node',
      Reads streams.link
        (whenSome (timesSent preserve info) fun tm =>
          perform (.chtimes tm.accessTime tm.modificationTime) path)
        host [] (.done (.ok ())) host' ∧
      Kept location (· = location) host host' ∧ Mine host' location node' ∧
      node'.body = node.body ∧ node'.perm = node.perm ∧
      (preserve = true → SameTimes info node') := by
  cases preserve with
  | false => exact ⟨host, node, .refl _ _, .refl, h, rfl, rfl, fun h => absurd h (by decide)⟩
  | true =>
    have hmodification := (hrange rfl).modificationTime.set node.modificationTime
    have haccess := (hrange rfl).accessTime.set node.accessTime
    refine ⟨_, _, reads_perform (h.chtimes hreaches hslash), kept_modify _, h.modify _ rfl, rfl,
      rfl, fun _ => ⟨?_, fun time htime => ?_⟩⟩
    · exact (congrArg Time.sec hmodification :)
    · refine (congrArg Time.sec haccess).trans ?_
      simp [newTimeMessage, Option.mem_def.mp htime, Time.unix]

/-- The file that a source end sends as this one. -/
structure CopiedFile (preserve : Bool) (info : FileInfo) (contents : GoString) (node : Node) :
    Prop where
  body : node.body = .file contents
  perm : preserve = true → node.perm = info.mode &&& 0o777
  times : preserve = true → SameTimes info node

/-- After the contents, up to the confirmation. -/
theorem reads_finishFile (hmode : header.mode = info.mode &&& 0o7777)
    (hrange : session.preserveTimesAndMode = true → (newTimeMessage info).InRange)
    (hreaches : Reaches host path location) (hslash : slashed path = false)
    (h : Mine host location node) (hbody : node.body = .file contents) :
    ∃ host' node',
      Reads streams.link
        (finishFile session path (timesSent session.preserveTimesAndMode info) header) host [0]
        sendConfirmation host' ∧
      KeptAt location host host' ∧ host'.disk.node location = some node' ∧
      CopiedFile session.preserveTimesAndMode info contents node' := by
  have hnot : ∀ {p : Prop}, slashed path = true → p :=
    fun hslashed => absurd (hslash.symm.trans hslashed) Bool.false_ne_true
  obtain ⟨allowed, _, hchmod, hkept, hmine, hbody₁, hperm⟩ := reads_chmod hreaches h hnot
  obtain ⟨finished, node', hchtimes, hkept', hmine', hbody₂, hperm', htimes⟩ :=
    reads_chtimes (hreaches.keptAt hkept) hmine hnot hrange
  refine ⟨finished, node', ?_, hkept.trans hkept'.keptAt, hmine'.found, ?_⟩
  · have hclose : Reads streams.link (perform .close path) host [] (.done (.ok ())) host :=
      reads_perform rfl
    exact hclose.bind (hchmod.bind (hchtimes.bind (reads_awaitConfirmation.bind (.refl _ _))))
  · refine ⟨hbody₂.trans (hbody₁.trans hbody), fun hpreserve => ?_, htimes⟩
    rw [hperm', hperm hpreserve, hmode, Nat.and_assoc]
    rfl

/-- After the header, up to the end of the contents. -/
theorem reads_receiveFileBody (hlength : header.length = contents.length)
    (hreaches : Reaches host path location) (hslash : slashed path = false)
    (hvacant : Vacant host location) :
    ∃ host' node,
      Reads streams.link (receiveFileBody session path timeMessage header) host contents
        (finishFile session path timeMessage header) host' ∧
      KeptAt location host host' ∧ Mine host' location node ∧ node.body = .file contents := by
  obtain ⟨created, _, hmake, hkept, hfresh⟩ := hvacant.make (.file [])
  obtain ⟨host', node, hfill, hkept', hmine, hbody⟩ :=
    reads_receiveContents (hreaches.keptAt hkept).locate hfresh.toMine hfresh.body
  refine ⟨host', node, ?_, hkept.trans hkept', hmine, hbody⟩
  have hopen : Reads streams.link (perform (.openFile header.mode) path) host [] (.done (.ok ()))
      created := reads_perform ((hreaches.openFile hvacant hslash).trans hmake)
  have hrest : Reads streams.link
      (receiveContents path header.length.toNat >>= fun _ =>
        finishFile session path timeMessage header)
      created contents (finishFile session path timeMessage header) host' := by
    rw [hlength]
    exact hfill.handle _
  exact hopen.bind hrest

/-- **A file is sent**: what sees the message type `C` receives it at the path. -/
theorem talks_file {ending : Failure} {pathIsDir : Bool} {targetPath : GoString}
    (hname : newline ∉ info.name) (hsize : info.size.toInt = contents.length)
    (hrange : session.preserveTimesAndMode = true → (newTimeMessage info).InRange)
    (hpath : (if pathIsDir then join path info.name else path) = targetPath)
    (hreaches : Reaches host targetPath location) (hslash : slashed targetPath = false)
    (hvacant : Vacant host location)
    (henters : Enters streams 'C'.toUInt8 q
      ((receiveFile session path pathIsDir
        (timesSent session.preserveTimesAndMode info)).handle g)) :
    ∃ host' node,
      Talks streams sender ((sendFileBody info contents ending).handle f) q host (f (.ok ()))
        (g (.ok ())) host' ∧
      KeptAt location host host' ∧ host'.disk.node location = some node ∧
      CopiedFile session.preserveTimesAndMode info contents node := by
  let timeMessage := timesSent session.preserveTimesAndMode info
  let header : Header :=
    { mode := info.mode &&& 0o7777, length := info.size.toInt, name := info.name }
  have hlength : header.length = contents.length := hsize
  have hmode : header.mode = info.mode &&& 0o7777 := rfl
  obtain ⟨filled, _, hfill, hkept, hmine, hbody⟩ :=
    reads_receiveFileBody hlength hreaches hslash hvacant
  obtain ⟨finished, node', hfinish, hkept', hnode, hcopied⟩ :=
    reads_finishFile hmode hrange (hreaches.keptAt hkept) hslash hmine hbody
  refine ⟨finished, node', ?_, hkept.trans hkept', hnode, hcopied⟩
  have hheader : Reads streams.link q host
      (headerText 'C'.toUInt8 info.mode info.size.toInt info.name)
      ((sendConfirmation >>= fun _ => do
        let targetPath ← placeOf pathIsDir path info.name
        receiveFileBody session targetPath timeMessage header).handle g) host := by
    have hread : Reads streams.link (readFileHeader session) host
        (headerText 'C'.toUInt8 info.mode info.size.toInt info.name) (.done (.ok header)) host :=
      reads_fileHeader (hsize ▸ Int.natCast_nonneg _) info.size.toInt_lt hname
    exact henters host _ _ _ ((hread.handle _).handle g)
  have hreceive : Reads streams.link
      (do
        let targetPath ← placeOf pathIsDir path info.name
        receiveFileBody session targetPath timeMessage header)
      host contents (finishFile session targetPath timeMessage header) filled := by
    subst hpath
    exact reads_placeOf.bind hfill
  have hcopyOut : copyOut info.size contents ending = Proc.writeAll contents := by
    rw [copyOut, hsize, if_pos (Int.le_refl _), Int.toNat_natCast, List.take_length]
  rw [sendFileBody, hcopyOut]
  refine (talks_write_bind hheader).trans (talks_confirm_bind.trans ?_)
  refine (talks_write_bind (hreceive.handle g)).trans ?_
  exact (talks_write_bind (hfinish.handle g)).trans talks_confirm

/-! ## Directories -/

/-- The process may look up and create entries in a directory that it has created with this mode. -/
def Host.Welcomes (host : Host) (mode : Nat) : Prop :=
  host.maySearch true (host.masked mode) = true ∧ host.mayCreate true (host.masked mode) = true

theorem masked_and : host.masked (mode &&& 0o7777) = host.masked mode := by
  unfold Host.masked
  rw [Nat.and_assoc mode]
  rfl

theorem Host.Kept.welcomes {dir : Location} {inside : Location → Prop}
    (h : Kept dir inside host host') : host'.Welcomes = host.Welcomes := by
  funext mode
  rw [Host.Welcomes, Host.Welcomes, h.maySearch, h.mayCreate, h.masked]

/-- A new directory of a mode that is welcome can be filled. -/
theorem Host.Fresh.isOpen (h : Fresh host location (host.masked mode) .directory node)
    (hmode : host.Welcomes mode) : Open host location node where
  found := h.found
  isDir := decide_eq_true h.body
  maySearch := by rw [h.owned, h.perm, hmode.1]
  mayCreate := by rw [h.owned, h.perm, hmode.2]

/-- Where the directory that a message names is received. -/
def directoryTarget (host : Host) (path name : GoString) : GoString :=
  if decide (host.stat path ≠ .error .notExist) then join path name else path

/-- After the confirmation of the header, the directory is made. -/
theorem reads_receiveDirectoryBody {messages : GoString → Scp Unit}
    (hreaches : Reaches host path location) (hvacant : Vacant host location) :
    ∃ host' node,
      Reads streams.link (receiveDirectoryBody session messages path timeMessage header) host []
        (messages path >>= fun _ => finishDirectory session path timeMessage) host' ∧
      KeptAt location host host' ∧
      Fresh host' location (host.masked header.mode) .directory node := by
  obtain ⟨host', node, hmake, hkept, hfresh⟩ := hvacant.make .directory
  refine ⟨host', node, ?_, hkept, hfresh⟩
  have hstat : host.stat path = .error .notExist := hreaches.stat_absent hvacant.absent
  have hmkdir : Reads streams.link (makeDirectory session path header) host [] (.done (.ok ()))
      host' := by
    refine reads_stat.bind ?_
    rw [hstat]
    exact reads_perform ((hreaches.mkdir hvacant).trans hmake)
  exact hmkdir.handle _

/-- The end of the entries, up to the confirmation. -/
theorem reads_finishDirectory
    (hrange : session.preserveTimesAndMode = true → (newTimeMessage info).InRange)
    (hreaches : Reaches host path location) (h : Mine host location node)
    (hdir : node.body = .directory) :
    ∃ host' node',
      Reads streams.link
        (processDirectoryMessages session (rounds + 1) path >>= fun _ =>
          finishDirectory session path (timesSent session.preserveTimesAndMode info))
        host (bytes "E\n") sendConfirmation host' ∧
      Kept location (· = location) host host' ∧ host'.disk.node location = some node' ∧
      node'.body = node.body ∧
      (session.preserveTimesAndMode = true → SameTimes info node') := by
  obtain ⟨host', node', hchtimes, hkept, hmine, hbody, -, htimes⟩ :=
    reads_chtimes hreaches h (fun _ => decide_eq_true hdir) hrange
  refine ⟨host', node', ?_, hkept, hmine.found, hbody, htimes⟩
  have hguard : (whenSome (timesSent session.preserveTimesAndMode info) fun tm =>
      when session.preserveTimesAndMode
        (perform (.chtimes tm.accessTime tm.modificationTime) path)) =
      whenSome (timesSent session.preserveTimesAndMode info) fun tm =>
        perform (.chtimes tm.accessTime tm.modificationTime) path := by
    cases session.preserveTimesAndMode <;> rfl
  have hfinish : Reads streams.link
      (finishDirectory session path (timesSent session.preserveTimesAndMode info)) host
      ('E'.toUInt8 :: [newline]) sendConfirmation host' := by
    have hline : Reads streams.link (readString newline) host (['E'.toUInt8] ++ [newline])
        (.done (.ok ['E'.toUInt8])) host := reads_readString (by decide)
    refine hline.bind ?_
    rw [hguard]
    exact hchtimes.handle _
  refine awaits_processDirectoryMessages.message _ (by decide) host _ _ _ ?_
  exact hfinish

/-- The directory that a source end sends as this one. -/
structure CopiedDirectory (preserve : Bool) (info : FileInfo) (node : Node) : Prop where
  body : node.body = .directory
  times : preserve = true → SameTimes info node

/-- **A directory is sent**, if its entries can be: what sees the message type `D` receives it at
the path.  `Filled` is what the entries come to, whatever the times of the directory are. -/
theorem talks_directory {targetPath : GoString} {Filled : Host → Prop} (hname : newline ∉ info.name)
    (hrange : session.preserveTimesAndMode = true → (newTimeMessage info).InRange)
    (hwelcome : host.Welcomes info.mode) (hpath : directoryTarget host path info.name = targetPath)
    (hreaches : Reaches host targetPath location) (hvacant : Vacant host location)
    (henters : Enters streams 'D'.toUInt8 q
      ((receiveDirectory session (processDirectoryMessages session rounds) path
        (timesSent session.preserveTimesAndMode info)).handle g))
    (hfilled : ∀ filled host', Kept location (· = location) filled host' → Filled filled →
      Filled host')
    (hentries : ∀ opened node, KeptAt location host opened → Open opened location node →
      node.owned = true → node.body = .directory →
      (∀ rest, rest ≠ [] → opened.disk.node (location ++ rest) = none) →
      ∀ f g : Except Failure Unit → Scp Unit, ∃ filled node' rounds',
        Talks streams sender (entries.handle f)
          ((processDirectoryMessages session rounds targetPath).handle g) opened (f (.ok ()))
          ((processDirectoryMessages session (rounds' + 1) targetPath).handle g) filled ∧
        KeptAt location opened filled ∧ Mine filled location node' ∧ node'.body = .directory ∧
        Filled filled) :
    ∃ host' node,
      Talks streams sender ((sendDirectoryBody info none entries).handle f) q host (f (.ok ()))
        (g (.ok ())) host' ∧
      KeptAt location host host' ∧ host'.disk.node location = some node ∧
      CopiedDirectory session.preserveTimesAndMode info node ∧ Filled host' := by
  let timeMessage := timesSent session.preserveTimesAndMode info
  let messages := processDirectoryMessages session rounds
  let header : Header := { mode := info.mode &&& 0o7777, length := 0, name := info.name }
  obtain ⟨opened, made, hmake, hkept, hfresh⟩ := reads_receiveDirectoryBody hreaches hvacant
  have hopen : Open opened location made := by
    have hperm : host.masked header.mode = opened.masked info.mode :=
      masked_and.trans hkept.masked.symm
    exact Fresh.isOpen (hperm ▸ hfresh) (hkept.welcomes ▸ hwelcome)
  obtain ⟨filled, _, rounds', htalks, hkept₁, hmine, hbody, hgood⟩ := hentries opened made hkept
    hopen hfresh.owned hfresh.body hfresh.below
    (fun r => (Proc.onOk (fun _ => do
      Proc.writeAll (bytes "E\n")
      awaitConfirmation) r).handle f)
    (fun r => (Proc.onOk (fun _ => finishDirectory session targetPath timeMessage) r).handle g)
  obtain ⟨host', node, hfinish, hkept₂, hnode, hbody₂, htimes⟩ :=
    reads_finishDirectory hrange ((hreaches.keptAt hkept).keptAt hkept₁) hmine hbody
  refine ⟨host', node, ?_, hkept.trans (hkept₁.trans hkept₂.keptAt), hnode,
    ⟨hbody₂.trans hbody, htimes⟩, hfilled _ _ hkept₂ hgood⟩
  have hheader : Reads streams.link q host (headerText 'D'.toUInt8 info.mode 0 info.name)
      ((sendConfirmation >>= fun _ => do
        let found ← stat path
        let targetPath ← placeOf (found ≠ .error .notExist) path info.name
        receiveDirectoryBody session messages targetPath timeMessage header).handle g) host := by
    have hread : Reads streams.link (readDirectoryHeader session) host
        (headerText 'D'.toUInt8 info.mode 0 info.name) (.done (.ok header)) host :=
      reads_directoryHeader hname
    exact henters host _ _ _ ((hread.handle _).handle g)
  have hmade : Reads streams.link
      (do
        let found ← stat path
        let targetPath ← placeOf (found ≠ .error .notExist) path info.name
        receiveDirectoryBody session messages targetPath timeMessage header)
      host [] (messages targetPath >>= fun _ => finishDirectory session targetPath timeMessage)
      opened := by
    subst hpath
    exact reads_stat.bind (reads_placeOf.bind hmake)
  refine (talks_write_bind hheader).trans (talks_confirm_bind.trans ?_)
  refine (talks_calls (hmade.handle g)).trans ?_
  have htalks' : Talks streams sender
      ((entries >>= fun _ => do
        Proc.writeAll (bytes "E\n")
        awaitConfirmation).handle f)
      ((messages targetPath >>= fun _ => finishDirectory session targetPath timeMessage).handle g)
      opened
      ((do
        Proc.writeAll (bytes "E\n")
        awaitConfirmation : Scp Unit).handle f)
      ((processDirectoryMessages session (rounds' + 1) targetPath >>= fun _ =>
        finishDirectory session targetPath timeMessage).handle g) filled := by
    rw [bind_handle entries, bind_handle (messages targetPath),
      bind_handle (processDirectoryMessages session (rounds' + 1) targetPath)]
    exact htalks
  exact htalks'.trans ((talks_write_bind (hfinish.handle g)).trans talks_confirm)

end Diego.SCP
