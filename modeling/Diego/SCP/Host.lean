import Diego.FileTree
import Diego.SCP.Session

/-!
# The system that a process runs on

A file system without links, as the calls of `package os` see it: paths are looked up element by
element from the root or the working directory, and one that ends with a slash has to be a
directory.  A new entry gets the permission bits that the umask leaves, and an entry that is created
or written to gets the time of that moment, as does the directory that it is created in.
-/

namespace Diego.SCP

open Diego.Executor (GoString bytes)
open LexicalPath Process FileTree List Option

inductive Body
  | file (contents : GoString)
  | directory
  deriving DecidableEq

structure Node where
  /-- The permission bits. -/
  perm : Nat
  /-- Whether the entry belongs to the user of the process. -/
  owned : Bool
  accessTime : Time
  modificationTime : Time
  body : Body
  deriving DecidableEq

def Node.isDir (node : Node) : Bool :=
  decide (node.body = .directory)

/-- Replace the contents of a file. -/
def Node.rewrite (now : Time) (f : GoString → GoString) (node : Node) : Node :=
  match node.body with
  | .file contents => { node with modificationTime := now, body := .file (f contents) }
  | .directory => node

/-- The time of a directory in which an entry was created. -/
def Node.touch (now : Time) (node : Node) : Node :=
  { node with modificationTime := now }

def Node.setPerm (mode : Nat) (node : Node) : Node :=
  { node with perm := mode &&& 0o777 }

def Node.setTimes (accessTime modificationTime : Time) (node : Node) : Node :=
  { node with accessTime, modificationTime }

/-- `os.Chtimes`. -/
def Node.chtimes (accessTime modificationTime : Time) (node : Node) : Node :=
  node.setTimes (accessTime.set node.accessTime) (modificationTime.set node.modificationTime)

/-- An entry without its times. -/
def Node.untimed (node : Node) : Node :=
  node.setTimes (.unix 0) (.unix 0)

namespace Node

variable (node : Node) {accessTime modificationTime : Time}

theorem isDir_rewrite {now : Time} {f : GoString → GoString} :
    (node.rewrite now f).isDir = node.isDir := by
  obtain ⟨perm, owned, accessTime, modificationTime, body⟩ := node
  cases body <;> rfl

theorem isDir_touch {now : Time} : (node.touch now).isDir = node.isDir := rfl

theorem isDir_setPerm {mode : Nat} : (node.setPerm mode).isDir = node.isDir := rfl

theorem isDir_chtimes : (node.chtimes accessTime modificationTime).isDir = node.isDir := rfl

end Node

/-- The names that lead from the root to an entry. -/
abbrev Location := List GoString

abbrev Disk := Tree GoString Node Node.isDir

structure Host where
  disk : Disk
  /-- The working directory. -/
  cwd : Location
  umask : Nat
  /-- Whether the process may look up names in a directory that is its own or not, and has these
  permission bits. -/
  maySearch : Bool → Nat → Bool
  mayCreate : Bool → Nat → Bool
  mayWrite : Bool → Nat → Bool
  /-- The times that the system reads from its clock. -/
  clock : Nat → Time
  ticks : Nat
  stderr : List GoString

namespace Host

def locate (host : Host) (path : GoString) : Location :=
  LexicalPath.locate host.cwd path

/-- Why names cannot be looked up in what is at the location. -/
def refuses (host : Host) (location : Location) : Option Errno :=
  match host.disk.node location with
  | none => some .notExist
  | some node =>
    if node.isDir = false then some .notDirectory
    else if host.maySearch node.owned node.perm then none
    else some .permission

/-- Why a path cannot be looked up; an empty one leads nowhere. -/
def refusal (host : Host) (path : GoString) : Option Errno :=
  if path = [] then some .notExist
  else (visited host.cwd path).findSome? host.refuses

def now (host : Host) : Time :=
  host.clock host.ticks

/-- The bits that a new entry gets. -/
def masked (host : Host) (mode : Nat) : Nat :=
  (mode &&& 0o777) &&& (0o777 ^^^ host.umask)

def stat (host : Host) (path : GoString) : Except Errno Bool :=
  match host.refusal path, host.disk.node (host.locate path) with
  | some errno, _ => .error errno
  | none, none => .error .notExist
  | none, some node =>
    if slashed path && !node.isDir then .error .notDirectory else .ok node.isDir

/-- Change an entry at this moment. -/
def modify (host : Host) (location : Location) (f : Node → Node)
    (hf : ∀ node, (f node).isDir = node.isDir) : Host :=
  { host with disk := host.disk.update location f hf, ticks := host.ticks + 1 }

def rewrite (host : Host) (location : Location) (f : GoString → GoString) : Host :=
  host.modify location (Node.rewrite host.now f) (Node.isDir_rewrite ·)

def newNode (host : Host) (mode : Nat) (body : Body) : Node where
  perm := host.masked mode
  owned := true
  accessTime := host.now
  modificationTime := host.now
  body

/-- The system with a new entry. -/
def made (host : Host) (location : Location) (node : Node)
    (hparent : (host.disk.node location.dropLast).any Node.isDir = true)
    (habsent : host.disk.node location = none) : Host :=
  Host.modify { host with disk := host.disk.create location node hparent habsent }
    location.dropLast (Node.touch host.now) (Node.isDir_touch ·)

/-- Create an entry where none is. -/
def make (host : Host) (location : Location) (mode : Nat) (body : Body) :
    Except Errno Unit × Host :=
  if h : (host.disk.node location.dropLast).any Node.isDir = true ∧
      host.disk.node location = none then
    if (host.disk.node location.dropLast).any fun parent =>
        host.mayCreate parent.owned parent.perm then
      (.ok (), host.made location (host.newNode mode body) h.1 h.2)
    else (.error .permission, host)
  else (.error .notDirectory, host)

/-- A change of the entry at the location. -/
def changeAt (host : Host) (location : Location) : Change → Except Errno Unit × Host
  | .mkdir mode =>
    match host.disk.node location with
    | some _ => (.error .exist, host)
    | none => host.make location mode .directory
  | .openFile mode =>
    match host.disk.node location with
    | some node =>
      if node.isDir then (.error .isDirectory, host)
      else if host.mayWrite node.owned node.perm then
        (.ok (), host.rewrite location fun _ => [])
      else (.error .permission, host)
    | none => host.make location mode (.file [])
  | .write b => (.ok (), host.rewrite location fun contents => contents ++ [b])
  | .close => (.ok (), host)
  | .chmod mode =>
    match host.disk.node location with
    | some node =>
      if node.owned then
        (.ok (), host.modify location (Node.setPerm mode) (Node.isDir_setPerm ·))
      else (.error .permission, host)
    | none => (.error .notExist, host)
  | .chtimes accessTime modificationTime =>
    match host.disk.node location with
    | some node =>
      if node.owned then
        (.ok (), host.modify location (Node.chtimes accessTime modificationTime)
          (Node.isDir_chtimes ·))
      else (.error .permission, host)
    | none => (.error .notExist, host)

/-- Changes of a file that is open do not look up its path again. -/
def isOpen : Change → Bool
  | .write _ => true
  | .close => true
  | _ => false

/-- Why a change is refused at a path that ends with a slash: such a path is that of a directory,
and the system does not open one to write. -/
def refusesSlash (host : Host) (location : Location) : Change → Option Errno
  | .mkdir _ => none
  | .openFile _ => some .isDirectory
  | _ => if (host.disk.node location).all Node.isDir then none else some .notDirectory

def change (host : Host) (change : Change) (path : GoString) : Except Errno Unit × Host :=
  if isOpen change then host.changeAt (host.locate path) change
  else
    match host.refusal path,
      if slashed path then host.refusesSlash (host.locate path) change else none with
    | some errno, _ => (.error errno, host)
    | none, some errno => (.error errno, host)
    | none, none => host.changeAt (host.locate path) change

def call : (op : Op) → Host → op.Answer × Host
  | .stat path, host => (host.stat path, host)
  | .change change path, host => host.change change path
  | .print message, host => ((), { host with stderr := host.stderr ++ [message] })
  | .join _ _, host => ((), host)

/-- A host whose output is read. -/
def env : Proc.Env UInt8 Op.Answer Failure Host where
  write _ host := (.ok (), host)
  call := call

/-! ## Looking up names -/

section Lookup

variable {host host' : Host} {l : Location}

/-- Times do not decide whether names can be looked up. -/
theorem refuses_congr (hsearch : host'.maySearch = host.maySearch)
    (h : (host'.disk.node l).map Node.untimed = (host.disk.node l).map Node.untimed) :
    host'.refuses l = host.refuses l := by
  unfold refuses
  rw [hsearch]
  cases hnode : host.disk.node l with
  | none =>
    rw [hnode, map_none, map_eq_none_iff] at h
    rw [h]
  | some node =>
    rw [hnode, map_some, map_eq_some_iff] at h
    obtain ⟨node', hnode', huntimed⟩ := h
    have hfields : node'.perm = node.perm ∧ node'.owned = node.owned ∧ node'.body = node.body := by
      simpa [Node.untimed, Node.setTimes] using huntimed
    obtain ⟨hperm, howned, hbody⟩ := hfields
    have hdir : node'.isDir = node.isDir :=
      congrArg (fun body => decide (body = Body.directory)) hbody
    rw [hnode']
    simp only [hperm, howned, hdir]

end Lookup

/-! ## Changes in one place -/

section Changes

variable {host host' host'' : Host} {location l : Location}

/-- Only what is `inside` has changed, and the times of the directory. -/
structure Kept (dir : Location) (inside : Location → Prop) (host host' : Host) : Prop where
  cwd : host'.cwd = host.cwd
  umask : host'.umask = host.umask
  maySearch : host'.maySearch = host.maySearch
  mayCreate : host'.mayCreate = host.mayCreate
  untimed : ∀ l, ¬ inside l →
    (host'.disk.node l).map Node.untimed = (host.disk.node l).map Node.untimed
  node : ∀ l, ¬ inside l → l ≠ dir → host'.disk.node l = host.disk.node l

/-- Only what is at the location and below it has changed, and the times of the directory that it
is in. -/
abbrev KeptAt (location : Location) : Host → Host → Prop :=
  Kept location.dropLast (location <+: ·)

variable {dir : Location} {inside inside' : Location → Prop} {path : GoString} {mode : Nat}
  {node : Node}

theorem Kept.refl : Kept dir inside host host where
  cwd := rfl
  umask := rfl
  maySearch := rfl
  mayCreate := rfl
  untimed _ _ := rfl
  node _ _ _ := rfl

theorem Kept.trans (h : Kept dir inside host host') (h' : Kept dir inside host' host'') :
    Kept dir inside host host'' where
  cwd := h'.cwd.trans h.cwd
  umask := h'.umask.trans h.umask
  maySearch := h'.maySearch.trans h.maySearch
  mayCreate := h'.mayCreate.trans h.mayCreate
  untimed l hl := (h'.untimed l hl).trans (h.untimed l hl)
  node l hl hne := (h'.node l hl hne).trans (h.node l hl hne)

theorem Kept.mono (h : Kept dir inside host host') (hinside : ∀ l, inside l → inside' l) :
    Kept dir inside' host host' where
  cwd := h.cwd
  umask := h.umask
  maySearch := h.maySearch
  mayCreate := h.mayCreate
  untimed l hl := h.untimed l fun hinside' => hl (hinside l hinside')
  node l hl := h.node l fun hinside' => hl (hinside l hinside')

/-- What is below the location is part of it. -/
theorem Kept.above (h : Kept location inside host host')
    (hinside : ∀ l, inside l → location <+: l) : KeptAt location host host' := by
  have hnode : ∀ l, ¬ location <+: l → host'.disk.node l = host.disk.node l := by
    intro l hl
    refine h.node l (fun hl' => hl (hinside l hl')) ?_
    rintro rfl
    exact hl prefix_rfl
  exact
    { cwd := h.cwd
      umask := h.umask
      maySearch := h.maySearch
      mayCreate := h.mayCreate
      untimed := fun l hl => congrArg (Option.map _) (hnode l hl)
      node := fun l hl _ => hnode l hl }

theorem Kept.refuses (h : Kept dir inside host host') (hl : ¬ inside l) :
    host'.refuses l = host.refuses l :=
  refuses_congr h.maySearch (h.untimed l hl)

theorem Kept.masked (h : Kept dir inside host host') : host'.masked mode = host.masked mode := by
  rw [Host.masked, Host.masked, h.umask]

theorem kept_modify {f : Node → Node} (hf : ∀ node, (f node).isDir = node.isDir) :
    Kept location (· = location) host (host.modify location f hf) where
  cwd := rfl
  umask := rfl
  maySearch := rfl
  mayCreate := rfl
  untimed _ hl := congrArg (Option.map _) (Tree.node_update_of_ne hf hl)
  node _ hl _ := Tree.node_update_of_ne hf hl

theorem Kept.keptAt (h : Kept location (· = location) host host') : KeptAt location host host' :=
  h.above fun _ hl => hl ▸ prefix_rfl

/-- The path leads to the location, and the names in it can be looked up, whatever is changed at
the location and below it. -/
structure Reaches (host : Host) (path : GoString) (location : Location) : Prop where
  locate : host.locate path = location
  ne_nil : path ≠ []
  searched : ∀ l ∈ visited host.cwd path, host.refuses l = none
  apart : ∀ l ∈ visited host.cwd path, ¬ location <+: l

theorem Reaches.refusal (h : Reaches host path location) : host.refusal path = none := by
  rw [Host.refusal, if_neg h.ne_nil, findSome?_eq_none_iff.mpr h.searched]

theorem Reaches.kept (h : Reaches host path location) (hkept : Kept dir inside host host')
    (hinside : ∀ l, inside l → location <+: l) : Reaches host' path location where
  locate := by rw [Host.locate, hkept.cwd, ← h.locate, Host.locate]
  ne_nil := h.ne_nil
  searched l hl := by
    rw [hkept.cwd] at hl
    rw [hkept.refuses fun hin => h.apart l hl (hinside l hin), h.searched l hl]
  apart l hl := h.apart l (hkept.cwd ▸ hl)

theorem Reaches.keptAt (h : Reaches host path location) (hkept : KeptAt location host host') :
    Reaches host' path location :=
  h.kept hkept fun _ hl => hl

/-- A directory in which names can be looked up is not below a place where nothing is. -/
theorem not_below_absent (h : host.refuses l = none) (habsent : host.disk.node location = none) :
    ¬ location <+: l := by
  rintro ⟨rest, rfl⟩
  rw [Host.refuses, host.disk.absent_below habsent] at h
  cases h

theorem reaches_absent (h : host.refusal path = none)
    (habsent : host.disk.node (host.locate path) = none) :
    Reaches host path (host.locate path) := by
  have hne : path ≠ [] := by
    rintro rfl
    cases h
  rw [Host.refusal, if_neg hne, findSome?_eq_none_iff] at h
  exact ⟨rfl, hne, h, fun l hl => not_below_absent (h l hl) habsent⟩

/-- A name that is looked up in a directory, where nothing has it. -/
theorem Reaches.join {name : GoString} (h : Reaches host path location) (hname : IsName name)
    (hdir : host.refuses location = none) (habsent : host.disk.node (location ++ [name]) = none) :
    Reaches host (LexicalPath.join path name) (location ++ [name]) := by
  have hsearched : ∀ l ∈ visited host.cwd (LexicalPath.join path name), host.refuses l = none := by
    intro l hl
    rcases mem_append.mp (visited_join h.ne_nil hname hl) with hl | hl
    · exact h.searched l hl
    · rw [mem_singleton.mp hl, ← hdir, ← h.locate, Host.locate]
  refine ⟨?_, join_ne_nil h.ne_nil hname, hsearched,
    fun l hl => not_below_absent (hsearched l hl) habsent⟩
  rw [Host.locate, locate_join h.ne_nil hname, ← h.locate, Host.locate]

/-- An entry that belongs to the process. -/
structure Mine (host : Host) (location : Location) (node : Node) : Prop where
  found : host.disk.node location = some node
  owned : node.owned = true

theorem Mine.modify (h : Mine host location node) {f : Node → Node}
    (hf : ∀ node, (f node).isDir = node.isDir) (howned : (f node).owned = node.owned) :
    Mine (host.modify location f hf) location (f node) where
  found := (Tree.node_update_self hf).trans (congrArg (Option.map f) h.found)
  owned := howned.trans h.owned

/-- A directory that the process may create entries in. -/
structure Open (host : Host) (location : Location) (node : Node) : Prop where
  found : host.disk.node location = some node
  isDir : node.isDir = true
  maySearch : host.maySearch node.owned node.perm = true
  mayCreate : host.mayCreate node.owned node.perm = true

/-- A place where the process may create an entry. -/
structure Vacant (host : Host) (location : Location) : Prop where
  absent : host.disk.node location = none
  parent : ∃ node, host.disk.node location.dropLast = some node ∧ node.isDir = true ∧
    host.mayCreate node.owned node.perm = true

theorem Open.refuses (h : Open host location node) : host.refuses location = none := by
  simp [Host.refuses, h.found, h.isDir, h.maySearch]

/-- The directory stays open when entries in it change. -/
theorem Open.of_kept (h : Open host location node) (hkept : Kept location inside host host')
    (hinside : ¬ inside location) :
    ∃ node', Open host' location node' ∧ node'.owned = node.owned ∧ node'.body = node.body := by
  have huntimed := hkept.untimed location hinside
  rw [h.found, map_some, map_eq_some_iff] at huntimed
  obtain ⟨node', hnode', heq⟩ := huntimed
  have hfields : node'.perm = node.perm ∧ node'.owned = node.owned ∧ node'.body = node.body := by
    simpa [Node.untimed, Node.setTimes] using heq
  obtain ⟨hperm, howned, hbody⟩ := hfields
  refine ⟨node', ⟨hnode', ?_, ?_, ?_⟩, howned, hbody⟩
  · exact (congrArg (fun body => decide (body = Body.directory)) hbody).trans h.isDir
  · rw [hkept.maySearch, howned, hperm, h.maySearch]
  · rw [hkept.mayCreate, howned, hperm, h.mayCreate]

theorem Open.vacant (h : Open host location node) {name : GoString}
    (habsent : host.disk.node (location ++ [name]) = none) : Vacant host (location ++ [name]) where
  absent := habsent
  parent := ⟨node, by rw [dropLast_concat, h.found], h.isDir, h.mayCreate⟩

/-- An entry that the process has just created. -/
structure Fresh (host : Host) (location : Location) (perm : Nat) (body : Body) (node : Node) :
    Prop extends Mine host location node where
  perm : node.perm = perm
  body : node.body = body
  below : ∀ rest, rest ≠ [] → host.disk.node (location ++ rest) = none

section Made

variable {node : Node} (hparent : (host.disk.node location.dropLast).any Node.isDir = true)
  (habsent : host.disk.node location = none)

include hparent habsent

theorem ne_dropLast : location ≠ location.dropLast := by
  intro heq
  rw [← heq, habsent] at hparent
  cases hparent

theorem node_made_self : (host.made location node hparent habsent).disk.node location = some node :=
  (Tree.node_update_of_ne (Node.isDir_touch ·) (ne_dropLast hparent habsent)).trans
    (Tree.node_create_self hparent habsent)

theorem node_made_parent :
    (host.made location node hparent habsent).disk.node location.dropLast =
      (host.disk.node location.dropLast).map (Node.touch host.now) :=
  (Tree.node_update_self (Node.isDir_touch ·)).trans
    (congrArg _ (Tree.node_create_of_ne hparent habsent (ne_dropLast hparent habsent).symm))

theorem node_made_of_ne (hne : l ≠ location) (hne' : l ≠ location.dropLast) :
    (host.made location node hparent habsent).disk.node l = host.disk.node l :=
  (Tree.node_update_of_ne (Node.isDir_touch ·) hne').trans
    (Tree.node_create_of_ne hparent habsent hne)

theorem keptAt_made : KeptAt location host (host.made location node hparent habsent) := by
  have hother : ∀ l, ¬ location <+: l → l ≠ location.dropLast →
      (host.made location node hparent habsent).disk.node l = host.disk.node l := by
    intro l hl hne
    refine node_made_of_ne hparent habsent ?_ hne
    rintro rfl
    exact hl prefix_rfl
  refine ⟨rfl, rfl, rfl, rfl, fun l hl => ?_, hother⟩
  by_cases hne : l = location.dropLast
  · rw [hne, node_made_parent, Option.map_map]
    rfl
  · rw [hother l hl hne]

theorem node_made_below {rest : Location} (hrest : rest ≠ []) :
    (host.made location node hparent habsent).disk.node (location ++ rest) = none := by
  have hlonger : location ++ rest ≠ location.dropLast := by
    intro heq
    have hlength := congrArg length heq
    rw [length_append, length_dropLast] at hlength
    have hpos := length_pos_iff.mpr hrest
    omega
  have hbelow : location ++ rest ≠ location :=
    fun heq => hrest (append_right_eq_self.mp heq)
  rw [node_made_of_ne hparent habsent hbelow hlonger, host.disk.absent_below habsent]

end Made

theorem Vacant.make (h : Vacant host location) (body : Body) :
    ∃ host' node, host.make location mode body = (.ok (), host') ∧ KeptAt location host host' ∧
      Fresh host' location (host.masked mode) body node := by
  obtain ⟨parent, hparent, hdir, hcreate⟩ := h.parent
  have hany : (host.disk.node location.dropLast).any Node.isDir = true := by
    rw [hparent]
    exact hdir
  have hallowed : (host.disk.node location.dropLast).any
      (fun parent => host.mayCreate parent.owned parent.perm) = true := by
    rw [hparent]
    exact hcreate
  have hkept : KeptAt location host (host.made location (host.newNode mode body) hany h.absent) :=
    keptAt_made hany h.absent
  refine ⟨_, host.newNode mode body, ?_, hkept, ?_⟩
  · rw [Host.make, dif_pos ⟨hany, h.absent⟩, if_pos hallowed]
  · exact
      { found := node_made_self hany h.absent
        owned := rfl
        perm := rfl
        body := rfl
        below := fun rest hrest => node_made_below hany h.absent hrest }

variable {path : GoString} {node : Node} {accessTime modificationTime : Time}

theorem Reaches.stat_absent (h : Reaches host path location)
    (habsent : host.disk.node location = none) : host.stat path = .error .notExist := by
  rw [Host.stat, h.refusal, h.locate, habsent]

theorem Reaches.stat_directory (h : Reaches host path location)
    (hfound : host.disk.node location = some node) (hdir : node.isDir = true) :
    host.stat path = .ok true := by
  simp [Host.stat, h.refusal, h.locate, hfound, hdir]

/-- A change is made where the path leads to, if a slash at its end is no reason against it. -/
theorem Reaches.change (h : Reaches host path location) {c : Change} (hclosed : isOpen c = false)
    (hslash : slashed path = true → host.refusesSlash location c = none) :
    host.change c path = host.changeAt location c := by
  rw [Host.change, hclosed, if_neg Bool.false_ne_true, h.refusal, h.locate]
  cases hslashed : slashed path with
  | false => rfl
  | true => simp only [if_true, hslash hslashed]

theorem Reaches.mkdir (h : Reaches host path location) (hvacant : Vacant host location) :
    host.change (.mkdir mode) path = host.make location mode .directory := by
  rw [h.change rfl fun _ => rfl, changeAt, hvacant.absent]

theorem Reaches.openFile (h : Reaches host path location) (hvacant : Vacant host location)
    (hslash : slashed path = false) :
    host.change (.openFile mode) path = host.make location mode (.file []) := by
  rw [h.change rfl fun hslashed => absurd (hslash.symm.trans hslashed) Bool.false_ne_true,
    changeAt, hvacant.absent]

theorem Mine.chmod (h : Mine host location node) (hreaches : Reaches host path location)
    (hslash : slashed path = true → node.isDir = true) :
    host.change (.chmod mode) path =
      (.ok (), host.modify location (Node.setPerm mode) (Node.isDir_setPerm ·)) := by
  have hallowed : slashed path = true → host.refusesSlash location (.chmod mode) = none :=
    fun hslashed => by simp [Host.refusesSlash, h.found, hslash hslashed]
  rw [hreaches.change rfl hallowed, changeAt, h.found]
  exact if_pos h.owned

theorem Mine.chtimes (h : Mine host location node) (hreaches : Reaches host path location)
    (hslash : slashed path = true → node.isDir = true) :
    host.change (.chtimes accessTime modificationTime) path =
      (.ok (), host.modify location (Node.chtimes accessTime modificationTime)
        (Node.isDir_chtimes ·)) := by
  have hallowed : slashed path = true →
      host.refusesSlash location (.chtimes accessTime modificationTime) = none :=
    fun hslashed => by simp [Host.refusesSlash, h.found, hslash hslashed]
  rw [hreaches.change rfl hallowed, changeAt, h.found]
  exact if_pos h.owned

end Changes

/-- A new system, with nothing but its root, on which everything is allowed. -/
def initial : Host where
  disk :=
    { node := fun location =>
        if location = [] then
          some { perm := 0o755, owned := true, accessTime := .unix 0,
                 modificationTime := .unix 0, body := .directory }
        else none
      closed := fun location name hsome => by
        rw [if_neg (List.append_ne_nil_of_right_ne_nil location (List.cons_ne_nil name []))]
          at hsome
        cases hsome }
  cwd := []
  umask := 0o022
  maySearch _ _ := true
  mayCreate _ _ := true
  mayWrite _ _ := true
  clock n := .unix (Int64.ofNat n)
  ticks := 0
  stderr := []

end Host

end Diego.SCP
