import Diego.SCP.Exchange

/-!
# Copying a tree

A source end in recursive mode sends a tree of files and directories to a target end.  The proof
follows the tree: a file or directory is sent by the exchanges of `Exchange`, and the entries of a
directory one after the other, each of which leaves the others alone.  The target is then a tree
with the same names and contents, and with `-p` the same permission bits of files and the same
times.  Since the moves of two ends commute, what one run leads to is what every run comes to.
-/

namespace Diego.SCP

open Diego.Executor (GoString bytes)
open LexicalPath Process Duplex Machine Host List

/-! ## Trees -/

/-- A name that fits into a line, and times that can be set if they are to be preserved. -/
structure FileInfo.Plain (preserve : Bool) (info : FileInfo) : Prop where
  name : newline ∉ info.name
  modTime : preserve = true → info.modTime.InRange
  accessTime : preserve = true → ∀ time ∈ info.accessTime, time.InRange

mutual

/-- A tree of readable files and directories with different names in each directory, in which
every directory has a mode that is welcome. -/
def Source.Copyable (preserve : Bool) (welcome : Nat → Prop) : Source → Prop
  | .unopenable _ _ _ => False
  | .file info contents _ => info.Plain preserve ∧ info.size.toInt = contents.length
  | .directory info unlisted entries =>
    info.Plain preserve ∧ unlisted = none ∧ welcome info.mode ∧
      (entries.map fun entry => entry.info.name).Nodup ∧ CopyableEntries preserve welcome entries

def CopyableEntries (preserve : Bool) (welcome : Nat → Prop) : List Source → Prop
  | [] => True
  | entry :: entries =>
    IsName entry.info.name ∧ entry.Copyable preserve welcome ∧
      CopyableEntries preserve welcome entries

end

mutual

/-- The number of files and directories. -/
def Source.weight : Source → Nat
  | .unopenable _ _ _ => 1
  | .file _ _ _ => 1
  | .directory _ _ entries => entriesWeight entries + 1

def entriesWeight : List Source → Nat
  | [] => 0
  | entry :: entries => entry.weight + entriesWeight entries

end

mutual

/-- What is at the location is a copy of the tree. -/
def Source.CopiedTo (preserve : Bool) (disk : Disk) : Source → Location → Prop
  | .unopenable _ _ _, _ => False
  | .file info contents _, location =>
    ∃ node, disk.node location = some node ∧ CopiedFile preserve info contents node
  | .directory info _ entries, location =>
    (∃ node, disk.node location = some node ∧ CopiedDirectory preserve info node) ∧
      (∀ name, (disk.node (location ++ [name])).isSome = true ↔
        name ∈ entries.map fun entry => entry.info.name) ∧
      EntriesCopiedTo preserve disk entries location

def EntriesCopiedTo (preserve : Bool) (disk : Disk) : List Source → Location → Prop
  | [], _ => True
  | entry :: entries, location =>
    entry.CopiedTo preserve disk (location ++ [entry.info.name]) ∧
      EntriesCopiedTo preserve disk entries location

end

variable {streams : Streams} {sender host host' : Host} {q : Scp Unit} {session : Session}
  {path : GoString} {location : Location} {preserve : Bool} {disk disk' : Disk}

variable {name : GoString} {l : Location} {rounds : Nat} {entries : List Source} {origin : Origin}
  {file : GoString} {tree : Source}

/-- Two entries of one directory have nothing in common. -/
theorem eq_of_below {name' : GoString} (h : location ++ [name] <+: l)
    (h' : location ++ [name'] <+: l) : name = name' := by
  have hlength : (location ++ [name]).length = (location ++ [name']).length := by simp
  have heq : location ++ [name] = location ++ [name'] :=
    (prefix_of_prefix_length_le h h' (Nat.le_of_eq hlength)).eq_of_length hlength
  exact singleton_injective (append_cancel_left heq)

theorem not_prefix_self : ¬ location ++ [name] <+: location := by
  intro h
  have hlength := h.length_le
  rw [length_append, length_singleton] at hlength
  omega

theorem FileInfo.Plain.inRange {info : FileInfo} (h : info.Plain preserve)
    (hpreserve : preserve = true) : (newTimeMessage info).InRange := by
  refine ⟨h.modTime hpreserve, ?_⟩
  cases htime : info.accessTime with
  | none =>
    rw [newTimeMessage, htime]
    show (Time.unix 0).InRange
    exact ⟨by decide, by decide⟩
  | some time => simpa [newTimeMessage, htime] using h.accessTime hpreserve time htime

theorem Source.weight_pos (source : Source) : 0 < source.weight := by
  cases source <;> simp [Source.weight]

mutual

/-- A copy depends only on what is at the location and below it. -/
theorem Source.CopiedTo.congr : ∀ {source : Source} {location : Location},
    source.CopiedTo preserve disk location →
    (∀ l, location <+: l → disk'.node l = disk.node l) → source.CopiedTo preserve disk' location
  | .file info contents ending, location, ⟨node, hnode, hcopied⟩, hsame =>
    ⟨node, (hsame location prefix_rfl).trans hnode, hcopied⟩
  | .directory info unlisted entries, location, ⟨⟨node, hnode, hcopied⟩, hnames, hentries⟩,
      hsame => by
      refine ⟨⟨node, (hsame location prefix_rfl).trans hnode, hcopied⟩, ?_, ?_⟩
      · intro name
        rw [hsame _ (prefix_append _ _), hnames]
      · exact EntriesCopiedTo.congr hentries fun l hl _ => hsame l hl

theorem EntriesCopiedTo.congr : ∀ {entries : List Source} {location : Location},
    EntriesCopiedTo preserve disk entries location →
    (∀ l, location <+: l → l ≠ location → disk'.node l = disk.node l) →
    EntriesCopiedTo preserve disk' entries location
  | [], _, _, _ => trivial
  | entry :: entries, location, ⟨hentry, hentries⟩, hsame => by
    refine ⟨hentry.congr fun l hl => ?_, hentries.congr hsame⟩
    refine hsame l ((prefix_append _ _).trans hl) ?_
    rintro rfl
    exact not_prefix_self hl

end

theorem Source.CopiedTo.isSome {source : Source} (h : source.CopiedTo preserve disk location) :
    (disk.node location).isSome = true := by
  cases source with
  | unopenable info isDir failure => exact h.elim
  | file info contents ending =>
    obtain ⟨node, hnode, -⟩ := h
    rw [hnode]
    rfl
  | directory info unlisted entries =>
    obtain ⟨⟨node, hnode, -⟩, -⟩ := h
    rw [hnode]
    rfl

/-! ## Places -/

/-- Where a file or directory with the name is received. -/
structure Lands (host : Host) (path : GoString) (pathIsDir : Bool) (name targetPath : GoString) :
    Prop where
  file : (if pathIsDir then join path name else path) = targetPath
  directory : directoryTarget host path name = targetPath

theorem Host.Open.lands {node : Node} (h : Open host location node)
    (hreaches : Reaches host path location) : Lands host path true name (join path name) where
  file := rfl
  directory := by
    rw [directoryTarget, hreaches.stat_directory h.found h.isDir]
    rfl

/-! ## The loops of the target end -/

/-- The target end waits for a file or directory, receives it at the path, and goes on with the
result. -/
def Receives (streams : Streams) (session : Session) (rounds : Nat) (path : GoString)
    (pathIsDir : Bool) (q : Scp Unit) (g : Except Failure Unit → Scp Unit) : Prop :=
  ∃ next, Awaits streams session.preserveTimesAndMode q next ∧
    (∀ timeMessage, next 'C'.toUInt8 timeMessage =
      (receiveFile session path pathIsDir timeMessage).handle g) ∧
    ∀ timeMessage, next 'D'.toUInt8 timeMessage =
      (receiveDirectory session (processDirectoryMessages session rounds) path timeMessage).handle g

theorem receives_processDirectoryMessages {g : Except Failure Unit → Scp Unit} :
    Receives streams session rounds path true
      ((processDirectoryMessages session (rounds + 1) path).handle g) fun r =>
        (Proc.onOk (fun _ => processDirectoryMessages session rounds path) r).handle g :=
  ⟨_, awaits_processDirectoryMessages, fun _ => bind_handle _, fun _ => bind_handle _⟩

theorem receives_receiveMessages {targetIsDir : Bool} :
    Receives streams session rounds path targetIsDir
      (receiveMessages session path targetIsDir (rounds + 1)) fun r =>
        (report r).handle
          (Proc.onOk fun _ => receiveMessages session path targetIsDir rounds) :=
  ⟨_, awaits_receiveMessages, fun _ => Proc.handle_handle, fun _ => Proc.handle_handle⟩

/-! ## Sending a tree -/

theorem EntriesCopiedTo.of_mem : ∀ {entries : List Source},
    EntriesCopiedTo preserve disk entries location → ∀ entry ∈ entries,
      entry.CopiedTo preserve disk (location ++ [entry.info.name])
  | [], _, _, hmem => absurd hmem not_mem_nil
  | _ :: _, ⟨hentry, hentries⟩, entry, hmem => by
    rcases mem_cons.mp hmem with rfl | hmem
    · exact hentry
    · exact hentries.of_mem entry hmem

/-- The locations of the entries and what is below them. -/
def InEntries (entries : List Source) (location l : Location) : Prop :=
  ∃ entry ∈ entries, location ++ [entry.info.name] <+: l

theorem InEntries.below (h : InEntries entries location l) : location <+: l := by
  obtain ⟨entry, -, hentry⟩ := h
  exact (prefix_append _ _).trans hentry

theorem InEntries.mem (h : InEntries entries location l) (hl : location ++ [name] <+: l) :
    name ∈ entries.map fun entry => entry.info.name := by
  obtain ⟨entry, hmem, hentry⟩ := h
  exact mem_map.mpr ⟨entry, hmem, eq_of_below hentry hl⟩

/-- An empty directory into which entries are copied holds these entries and no others. -/
theorem EntriesCopiedTo.isSome_iff {opened filled : Host}
    (h : EntriesCopiedTo preserve filled.disk entries location)
    (hkept : Kept location (InEntries entries location) opened filled)
    (habsent : opened.disk.node (location ++ [name]) = none) :
    (filled.disk.node (location ++ [name])).isSome = true ↔
      name ∈ entries.map fun entry => entry.info.name := by
  constructor
  · intro hsome
    by_contra hname
    have hsame : filled.disk.node (location ++ [name]) = none := by
      rw [hkept.node _ (fun hin => hname (hin.mem prefix_rfl)) (by simp), habsent]
    rw [hsame] at hsome
    exact Bool.false_ne_true hsome
  · intro hname
    obtain ⟨entry, hmem, rfl⟩ := mem_map.mp hname
    exact (h.of_mem entry hmem).isSome

mutual

theorem talks_send (streams : Streams) (sender : Host) (session : Session) :
    ∀ (source : Source) {host : Host} {rounds : Nat} {path targetPath : GoString} {pathIsDir : Bool}
      {location : Location} {q : Scp Unit} {f g : Except Failure Unit → Scp Unit},
      source.Copyable session.preserveTimesAndMode host.Welcomes → source.weight ≤ rounds →
      Receives streams session rounds path pathIsDir q g →
      Lands host path pathIsDir source.info.name targetPath →
      (source.isDir = false → slashed targetPath = false) →
      Reaches host targetPath location → Vacant host location →
      ∃ host', Talks streams sender ((send session source).handle f) q host (f (.ok ()))
          (g (.ok ())) host' ∧
        KeptAt location host host' ∧
        source.CopiedTo session.preserveTimesAndMode host'.disk location
  | .file info contents ending, host, rounds, path, targetPath, pathIsDir, location, q, f, g,
      ⟨hplain, hsize⟩, _, ⟨next, hawaits, hfile, _⟩, hlands, hslash, hreaches, hvacant => by
      obtain ⟨q', htimes, henters⟩ := talks_times hawaits hplain.inRange
      obtain ⟨host', node, htalks, hkept, hnode, hcopied⟩ := talks_file hplain.name hsize
        hplain.inRange hlands.file hreaches (hslash rfl) hvacant (hfile _ ▸ henters _ (by decide))
      refine ⟨host', ?_, hkept, node, hnode, hcopied⟩
      rw [send, reporting, Proc.handle_handle, sendFile, bind_handle]
      exact htimes.trans htalks
  | .directory info unlisted entries, host, rounds, path, targetPath, pathIsDir, location, q, f, g,
      ⟨hplain, hlisted, hwelcome, hnodup, hentries⟩, hrounds, ⟨next, hawaits, _, hdirectory⟩,
      hlands, _, hreaches, hvacant => by
      subst hlisted
      rw [Source.weight, Nat.add_one_le_iff] at hrounds
      let Filled : Host → Prop := fun filled =>
        (∀ name, (filled.disk.node (location ++ [name])).isSome = true ↔
          name ∈ entries.map fun entry => entry.info.name) ∧
        EntriesCopiedTo session.preserveTimesAndMode filled.disk entries location
      have hfilled : ∀ filled host', Kept location (· = location) filled host' → Filled filled →
          Filled host' := by
        intro filled host' hkept ⟨hnames, hcopied⟩
        refine ⟨fun name => ?_, hcopied.congr fun l _ hne => hkept.node l hne hne⟩
        rw [hkept.node (location ++ [name]) (by simp) (by simp), hnames]
      obtain ⟨q', htimes, henters⟩ := talks_times hawaits hplain.inRange
      obtain ⟨host', node, htalks, hkept, hnode, hcopied, hgood⟩ := talks_directory hplain.name
        hplain.inRange hwelcome hlands.directory hreaches hvacant
        (hdirectory _ ▸ henters _ (by decide)) hfilled (by
          intro opened made hkept hopen howned hbody hbelow f g
          obtain ⟨filled, node', rounds', htalks, hkept', hopen', howned', hbody', hcopied⟩ :=
            talks_sendEntries streams sender session entries (hkept.welcomes ▸ hentries) hnodup
              hrounds (hreaches.keptAt hkept) hopen
              (fun entry _ => hbelow [entry.info.name] (cons_ne_nil _ _))
          refine ⟨filled, node', rounds', htalks, hkept'.above fun l hl => hl.below,
            ⟨hopen'.found, howned'.trans howned⟩, hbody'.trans hbody, ?_, hcopied⟩
          intro name
          exact hcopied.isSome_iff hkept' (hbelow [name] (cons_ne_nil _ _)))
      refine ⟨host', ?_, hkept, ⟨node, hnode, hcopied⟩, hgood⟩
      rw [send, reporting, Proc.handle_handle, sendDirectory, bind_handle]
      exact htimes.trans htalks

theorem talks_sendEntries (streams : Streams) (sender : Host) (session : Session) :
    ∀ (entries : List Source) {host : Host} {node : Node} {rounds : Nat} {path : GoString}
      {location : Location} {f g : Except Failure Unit → Scp Unit},
      CopyableEntries session.preserveTimesAndMode host.Welcomes entries →
      (entries.map fun entry => entry.info.name).Nodup → entriesWeight entries < rounds →
      Reaches host path location → Open host location node →
      (∀ entry ∈ entries, host.disk.node (location ++ [entry.info.name]) = none) →
      ∃ host' node' rounds', Talks streams sender ((sendEntries session entries).handle f)
          ((processDirectoryMessages session rounds path).handle g) host (f (.ok ()))
          ((processDirectoryMessages session (rounds' + 1) path).handle g) host' ∧
        Kept location (InEntries entries location) host host' ∧
        Open host' location node' ∧ node'.owned = node.owned ∧ node'.body = node.body ∧
        EntriesCopiedTo session.preserveTimesAndMode host'.disk entries location
  | [], host, node, rounds, path, location, f, g, _, _, hrounds, _, hopen, _ => by
    obtain ⟨rounds', rfl⟩ := Nat.exists_eq_add_one_of_ne_zero (Nat.ne_of_gt hrounds)
    exact ⟨host, node, rounds', Leads.refl, Kept.refl, hopen, rfl, rfl, trivial⟩
  | entry :: entries, host, node, rounds, path, location, f, g,
      ⟨hname, hentry, hcopyable⟩, hnodup, hrounds, hreaches, hopen, habsent => by
      rw [entriesWeight] at hrounds
      rw [map_cons, nodup_cons] at hnodup
      obtain ⟨hnotin, hnodup⟩ := hnodup
      obtain ⟨rounds, rfl⟩ := Nat.exists_eq_add_one_of_ne_zero (Nat.ne_zero_of_lt hrounds)
      have hweight : entry.weight ≤ rounds := by omega
      have hrest : entriesWeight entries < rounds := by
        have hpos := entry.weight_pos
        omega
      have hnothing := habsent entry mem_cons_self
      obtain ⟨host₁, htalks, hkept, hcopied⟩ := talks_send streams sender session entry hentry
        hweight receives_processDirectoryMessages (hopen.lands hreaches)
        (fun _ => slashed_join hreaches.ne_nil hname) (hreaches.join hname hopen.refuses hnothing)
        (hopen.vacant hnothing)
      rw [KeptAt, dropLast_concat] at hkept
      obtain ⟨node₁, hopen₁, howned₁, hbody₁⟩ :=
        hopen.of_kept hkept not_prefix_self
      -- The other entries are still absent, since their names differ.
      have habsent₁ : ∀ other ∈ entries,
          host₁.disk.node (location ++ [other.info.name]) = none := by
        intro other hother
        rw [hkept.node _ ?_ (by simp), habsent other (mem_cons_of_mem _ hother)]
        intro hsame
        rw [eq_of_below hsame prefix_rfl] at hnotin
        exact hnotin (mem_map_of_mem hother)
      obtain ⟨host₂, node₂, rounds', htalks₂, hkept₂, hopen₂, howned₂, hbody₂, hcopied₂⟩ :=
        talks_sendEntries streams sender session entries (hkept.welcomes ▸ hcopyable) hnodup hrest
          (hreaches.kept hkept fun l hl => (prefix_append _ _).trans hl) hopen₁ habsent₁
      refine ⟨host₂, node₂, rounds', ?_, ?_, hopen₂, howned₂.trans howned₁, hbody₂.trans hbody₁,
        ?_, hcopied₂⟩
      · rw [sendEntries, bind_handle, Proc.attempt, Proc.handle_handle]
        exact htalks.trans htalks₂
      · refine (hkept.mono fun l hl => ?_).trans (hkept₂.mono fun l hl => ?_)
        · exact ⟨entry, mem_cons_self, hl⟩
        · obtain ⟨other, hother, hl⟩ := hl
          exact ⟨other, mem_cons_of_mem _ hother, hl⟩
      · -- The entries sent later leave the first one alone.
        refine hcopied.congr fun l hl => hkept₂.node l (fun hin => hnotin (hin.mem hl)) ?_
        rintro rfl
        exact not_prefix_self hl

end

/-! ## A whole copy -/

theorem copySource_of_find (hfind : origin.find file = .ok tree) :
    copySource session true origin file = send session tree := by
  rw [copySource, hfind]
  simp

/-- The target does not exist: it is looked up, and the source end may start. -/
theorem talks_copyTarget {options : Options} {f : Except Failure Unit → Scp Unit}
    (hdir : options.targetIsDirectory = false)
    (habsent : host.stat options.target = .error .notExist) :
    Talks streams sender (awaitConfirmation.handle f) (copyTarget session rounds options) host
      (f (.ok ())) (receiveMessages session options.target false rounds) host := by
  have hstat : Reads streams.link (copyTarget session rounds options) host []
      (sendConfirmation.handle
        (Proc.onOk fun _ => receiveMessages session options.target false rounds)) host := by
    have hread : Reads streams.link (stat options.target) host [] (.done (.ok (.error .notExist)))
        host := habsent ▸ reads_stat
    rw [copyTarget, hdir]
    exact hread.handle _
  exact (talks_calls hstat).trans talks_confirm

/-- The source end sends the tree, and at the end of the stream the target end is done, too. -/
theorem talks_copySources (hfind : origin.find file = .ok tree)
    (hslash : tree.isDir = false → slashed path = false) (hreaches : Reaches host path location)
    (hvacant : Vacant host location)
    (hcopyable : tree.Copyable session.preserveTimesAndMode host.Welcomes)
    (hrounds : tree.weight ≤ rounds) :
    ∃ host', Talks streams sender (copySources session true origin [file] none)
        (receiveMessages session path false (rounds + 1)) host (.done (.ok ())) (.done (.ok ()))
        host' ∧
      KeptAt location host host' ∧
      tree.CopiedTo session.preserveTimesAndMode host'.disk location := by
  have hlands : Lands host path false tree.info.name path := by
    refine ⟨rfl, ?_⟩
    rw [directoryTarget, hreaches.stat_absent hvacant.absent]
    rfl
  obtain ⟨f, hsend, hdone⟩ : ∃ f,
      copySources session true origin [file] none = (send session tree).handle f ∧
      f (.ok ()) = .done (.ok ()) :=
    ⟨_, congrArg (Proc.handle · _) (copySource_of_find hfind), rfl⟩
  obtain ⟨host', htalks, hkept, hcopied⟩ := talks_send (f := f) streams sender session tree
    hcopyable hrounds receives_receiveMessages hlands hslash hreaches hvacant
  have hpos : rounds ≠ 0 := Nat.ne_of_gt (Nat.lt_of_lt_of_le tree.weight_pos hrounds)
  obtain ⟨rounds, rfl⟩ := Nat.exists_eq_add_one_of_ne_zero hpos
  refine ⟨host', ?_, hkept, hcopied⟩
  rw [hsend]
  rw [hdone] at htalks
  exact htalks.trans leads_eof

/-- **A copy reproduces the tree.** -/
theorem copy_reproduces (streams : Streams) (quote : GoString → GoString)
    (origin origin' : Origin) (source target : Options) {pattern file : GoString} {tree : Source}
    (hsource : source.sourceMode = true) (hrecursive : source.recursive = true)
    (hsources : source.sources = [pattern]) (hexpand : origin.expand pattern = [file])
    (hfind : origin.find file = .ok tree)
    (htarget : target.sourceMode = false ∧ target.targetMode = true)
    (hdir : target.targetIsDirectory = false)
    (hpreserve : target.preserveTimesAndMode = source.preserveTimesAndMode)
    (hslash : tree.isDir = false → slashed target.target = false) (sender : Host) {host : Host}
    (hfound : host.refusal target.target = none)
    (hvacant : Vacant host (host.locate target.target))
    (hcopyable : tree.Copyable source.preserveTimesAndMode host.Welcomes) (rounds' rounds : Nat)
    (hrounds : tree.weight < rounds) :
    ∃ last, Completes streams.link
        ⟨⟨copy quote origin rounds' source, sender, []⟩,
          ⟨copy quote origin' rounds target, host, []⟩⟩ last ∧
      last.left.proc = .done (.ok ()) ∧ last.right.proc = .done (.ok ()) ∧
      KeptAt (host.locate target.target) host last.right.world ∧
      tree.CopiedTo source.preserveTimesAndMode last.right.world.disk
        (host.locate target.target) := by
  obtain ⟨rounds, rfl⟩ := Nat.exists_eq_add_one_of_ne_zero (Nat.ne_zero_of_lt hrounds)
  let session : Session := { preserveTimesAndMode := source.preserveTimesAndMode, quote }
  have hreaches := reaches_absent hfound hvacant.absent
  have hstart : Talks streams sender (copy quote origin rounds' source)
      (copy quote origin' (rounds + 1) target) host (copySources session true origin [file] none)
      (receiveMessages session target.target false (rounds + 1)) host := by
    rw [copy, copy, htarget.1, htarget.2, hsource, hrecursive, hsources, hpreserve,
      List.flatMap_singleton, hexpand]
    exact talks_copyTarget hdir (hreaches.stat_absent hvacant.absent)
  have hcopyable' : tree.Copyable session.preserveTimesAndMode host.Welcomes := hcopyable
  obtain ⟨host', htalks, hkept, hcopied⟩ := talks_copySources hfind hslash hreaches hvacant
    hcopyable' (Nat.le_of_lt_succ hrounds)
  exact ⟨_, completes_of_leads (hstart.trans htalks) rfl rfl, rfl, rfl, hkept, hcopied⟩

/-- A source end that finds one tree. -/
def Origin.only (tree : Source) : Origin where
  glob _ := none
  find _ := .ok tree

def FileInfo.sample (name : String) (mode : Nat) (size : Int64) : FileInfo where
  name := bytes name
  mode
  size
  modTime := { sec := 1700000000, nsec := 5 }
  accessTime := some { sec := 1600000000, nsec := 7 }

/-- A directory with a file and an empty directory. -/
def Source.sample : Source :=
  .directory (.sample "app" 0o755 4096) none
    [.file (.sample "run.sh" 0o751 2) (bytes "ok") .eof,
      .directory (.sample "tmp" 0o700 4096) none []]

theorem FileInfo.sample_plain {name : String} {mode : Nat} {size : Int64}
    (h : newline ∉ bytes name) : (FileInfo.sample name mode size).Plain true where
  name := h
  modTime _ := by
    show Time.InRange { sec := 1700000000, nsec := 5 }
    exact ⟨by decide, by decide⟩
  accessTime _ time htime := by
    cases htime
    exact ⟨by decide, by decide⟩

theorem copy_reproduces_sample :
    ∃ last, Completes (Streams.link ⟨1, Nat.one_pos⟩)
        ⟨⟨copy id (.only .sample) 0 (sourceOptions (bytes "app") true), .initial, []⟩,
          ⟨copy id (.only .sample) 5 (targetOptions (bytes "/copy/") true), .initial, []⟩⟩ last ∧
      last.left.proc = .done (.ok ()) ∧ last.right.proc = .done (.ok ()) ∧
      KeptAt [bytes "copy"] .initial last.right.world ∧
      Source.sample.CopiedTo true last.right.world.disk [bytes "copy"] := by
  have hvacant : Vacant .initial [bytes "copy"] :=
    ⟨rfl, ⟨_, rfl, rfl, rfl⟩⟩
  have hlocate : Host.initial.locate (bytes "/copy/") = [bytes "copy"] := by
    decide +kernel
  have hcopyable : Source.sample.Copyable true Host.initial.Welcomes := by
    refine ⟨FileInfo.sample_plain (by decide), rfl, ⟨rfl, rfl⟩, by decide, ?_⟩
    refine ⟨by decide, ⟨FileInfo.sample_plain (by decide), by decide⟩, by decide, ?_, trivial⟩
    exact ⟨FileInfo.sample_plain (by decide), rfl, ⟨rfl, rfl⟩, by decide, trivial⟩
  have h := copy_reproduces ⟨1, Nat.one_pos⟩ id (.only .sample) (.only .sample)
    (sourceOptions (bytes "app") true) (targetOptions (bytes "/copy/") true) rfl rfl
    rfl rfl rfl ⟨rfl, rfl⟩ rfl rfl nofun .initial (by decide +kernel)
    (hlocate ▸ hvacant) hcopyable 0 5 (by decide)
  exact hlocate ▸ h

/-- One end sends a file with this time, and the other one receives it at the path. -/
def sendsFile (modTime : Time) (path : String) : Net UInt8 Op.Answer Failure Unit Host :=
  let file := .file { FileInfo.sample "f" 0o644 1 with modTime } (bytes "x") .eof
  ⟨⟨copy id (.only file) 0 (sourceOptions (bytes "f") true), .initial, []⟩,
    ⟨copy id (.only file) 2 (targetOptions (bytes path) true), .initial, []⟩⟩

/-- A time in 2262 comes to be one in 1677, and a file is not received at a path with a slash at its
end. -/
theorem copy_differs :
    (∃ last, Completes (Streams.link ⟨64, by decide⟩) (sendsFile (.unix 9223372037) "/copy") last ∧
      (last.right.world.disk.node [bytes "copy"]).map (fun node => node.modificationTime.sec) =
        some (-9223372037)) ∧
    ∃ last, Completes (Streams.link ⟨64, by decide⟩) (sendsFile (.unix 0) "/copy/") last ∧
      last.right.world.disk.node [bytes "copy"] = none := by
  refine ⟨⟨_, completes_of_leads (leads_drive (n := 200)) ?_ ?_, ?_⟩,
    ⟨_, completes_of_leads (leads_drive (n := 200)) ?_ ?_, ?_⟩⟩
  all_goals decide +kernel

end Diego.SCP
