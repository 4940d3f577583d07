import Diego.GoMap
import Diego.Machine

/-!
# The local volume driver

`localdriver/local_driver.go`.  The first mount of a volume links its directory into the
directory of mounts, later mounts only count, and the last unmount removes the link.

`volumePath` stands for the source's function of that name, with or without unique volume
ids.  Calls of the operating system fail only where the disk is in their way: a link is not
made over what exists, and what does not exist is not removed.

A link exists exactly while its volume is mounted, as long as no volume is removed that is
mounted more than once: `Remove` unmounts once and forgets the volume with its count.
-/

namespace Diego.LocalDriver

/-! ## The disk -/

/-- The path is the directory or lies below it. -/
def under (dir path : String) : Bool :=
  (dir ++ "/").toList.isPrefixOf (path ++ "/").toList

/-- The directories, and the links with their targets. -/
structure Disk where
  dirs : String → Bool
  links : String → Option String

namespace Disk

variable (disk : Disk)

def mkdirAll (path : String) : Disk :=
  { disk with dirs := fun dir => under dir path || disk.dirs dir }

def removeAll (path : String) : Disk where
  dirs dir := !under path dir && disk.dirs dir
  links link := if under path link then none else disk.links link

/-- `os.Stat` follows a link. -/
def stat (path : String) : Bool :=
  disk.dirs path || (disk.links path).any disk.dirs

def symlink (oldname newname : String) : Except String Disk :=
  if disk.dirs newname || (disk.links newname).isSome then
    .error s!"symlink {oldname} {newname}: file exists"
  else .ok { disk with links := Function.update disk.links newname (some oldname) }

def remove (path : String) : Except String Disk :=
  if disk.dirs path || (disk.links path).isSome then
    .ok ⟨Function.update disk.dirs path false, Function.update disk.links path none⟩
  else .error s!"remove {path}: no such file or directory"

end Disk

/-! ## The driver -/

/-- Where the driver keeps volumes and links. -/
structure Paths where
  volumesPathRoot : String
  mountsPathRoot : String
  volumePath : String → String

def Paths.mountPath (paths : Paths) (volumeId : String) : String :=
  paths.mountsPathRoot ++ "/" ++ volumeId

structure VolumeInfo where
  name : String
  mountpoint : String := ""
  mountCount : Int := 0
  deriving DecidableEq

/-- The text in `Err`, or the `Mountpoint`, which only `Mount` sets. -/
abbrev Response := Except String String

/-- What a request answers, and what it makes of its volume and of the disk. -/
abbrev Answer := Response × Option VolumeInfo × Disk

inductive Request
  | create (name : String)
  | mount (name : String)
  | unmount (name : String)
  | remove (name : String)

def Request.name : Request → String
  | create name | mount name | unmount name | remove name => name

section

variable (paths : Paths) (name : String)

/-! Each request reads and writes the entry of its volume in the driver's map. -/

def create (disk : Disk) : Option VolumeInfo → Answer
  | none => (.ok "", some { name },
      (disk.mkdirAll paths.volumesPathRoot).mkdirAll (paths.volumePath name))
  | some existingVolume =>
    if existingVolume.name ≠ name then
      (.error s!"Volume '{name}' already exists with a different volume ID", existingVolume, disk)
    else (.ok "", existingVolume, disk)

def mount (disk : Disk) : Option VolumeInfo → Answer
  | none => (.error s!"Volume '{name}' must be created before being mounted", none, disk)
  | some vol =>
    let disk := disk.mkdirAll paths.volumesPathRoot
    let volumePath := paths.volumePath vol.name
    if disk.stat volumePath then
      let disk := disk.mkdirAll paths.mountsPathRoot
      let mountPath := paths.mountPath vol.name
      if vol.mountCount < 1 then
        match disk.symlink volumePath mountPath with
        | .error err => (.error s!"Error mounting volume: {err}", vol, disk)
        | .ok disk => (.ok mountPath, some ⟨vol.name, mountPath, vol.mountCount + 1⟩, disk)
      else (.ok vol.mountpoint, some { vol with mountCount := vol.mountCount + 1 }, disk)
    else (.error s!"Volume '{name}' is missing", vol, disk)

/-- The source's `unmount`, which `Unmount` and `Remove` call with the volume's mountpoint. -/
def unmountVolume (disk : Disk) (vol : VolumeInfo) : Answer :=
  if disk.stat vol.mountpoint then
    let vol' : VolumeInfo := { vol with mountCount := vol.mountCount - 1 }
    if vol'.mountCount > 0 then (.ok "", vol', disk)
    else match disk.remove vol.mountpoint with
      | .error err => (.error s!"Error unmounting volume: {err}", vol', disk)
      | .ok disk => (.ok "", some { vol' with mountpoint := "" }, disk)
  else
    (.error s!"Volume {name} does not exist (path: {vol.mountpoint}), nothing to do!", vol, disk)

def unmount (disk : Disk) : Option VolumeInfo → Answer
  | none => (.error s!"Volume '{name}' not found", none, disk)
  | some vol =>
    if vol.mountpoint = "" then (.error "Volume not previously mounted", vol, disk)
    else unmountVolume name disk vol

def remove (disk : Disk) : Option VolumeInfo → Answer
  | none => (.error s!"Volume '{name}' not found", none, disk)
  | some vol =>
    match if vol.mountpoint = "" then (.ok "", some vol, disk) else unmountVolume name disk vol with
    | (.error err, vol, disk) => (.error err, vol, disk)
    | (.ok _, _, disk) => (.ok "", none,
        (disk.mkdirAll paths.volumesPathRoot).removeAll (paths.volumePath vol.name))

end

/-- Every request is refused without a name. -/
def serve (paths : Paths) (request : Request) (vol : Option VolumeInfo) (disk : Disk) : Answer :=
  if request.name = "" then (.error "Missing mandatory 'volume_name'", vol, disk)
  else match request with
    | .create name => create paths name disk vol
    | .mount name => mount paths name disk vol
    | .unmount name => unmount name disk vol
    | .remove name => remove paths name disk vol

/-! ## Runs -/

/-- The driver with its disk and what it answered, the last answer first. -/
structure Driver where
  volumes : GoMap String VolumeInfo := ∅
  disk : Disk
  answers : List (Request × Response) := []

def Driver.answer (d : Driver) (request : Request)
    (answer : Answer) : Driver where
  volumes := answer.2.1.elim (d.volumes.erase request.name) (d.volumes.insert request.name)
  disk := answer.2.2
  answers := (request, answer.1) :: d.answers

def Driver.step (paths : Paths) (request : Request) (d : Driver) : Option Driver :=
  some (d.answer request (serve paths request (d.volumes.lookup request.name) d.disk))

/-- What an answer makes of the number of mounts that were not yet unmounted. -/
def tally (count : Int) : Request × Response → Int
  | (.mount _, .ok _) => count + 1
  | (.unmount _, .ok _) => count - 1
  | (.remove _, .ok _) => 0
  | _ => count

/-- Successful mounts minus successful unmounts of a volume since it was last removed, which
is since it was created: an unknown volume is neither mounted nor unmounted. -/
def balance (name : String) : List (Request × Response) → Int
  | [] => 0
  | answer :: answers =>
    if answer.1.name = name then tally (balance name answers) answer else balance name answers

/-- A removed volume is mounted at most once, and no link lies in its directory. -/
def Careful (paths : Paths) : Request → Driver → Prop
  | .remove name, d =>
    (∀ vol, d.volumes.lookup name = some vol → vol.mountCount ≤ 1) ∧
      ∀ name', under (paths.volumePath name) (paths.mountPath name') = false
  | _, _ => True

/-- A volume mounted `count` times and its link.  A volume that is not known is as one that is
not mounted. -/
structure Matched (paths : Paths) (name : String) (count : Int) (vol : Option VolumeInfo)
    (disk : Disk) : Prop where
  nonneg : 0 ≤ count
  vol_eq : vol.getD { name } = ⟨name, if count = 0 then "" else paths.mountPath name, count⟩
  link_iff : disk.links (paths.mountPath name) = none ↔ count = 0

def Driver.AllMatched (paths : Paths) (d : Driver) : Prop :=
  ∀ name, Matched paths name (balance name d.answers) (d.volumes.lookup name) d.disk

variable {paths : Paths} {name name' : String} {count : Int} {vol : Option VolumeInfo} {disk : Disk}
  {request : Request}

theorem mountPath_inj : paths.mountPath name = paths.mountPath name' ↔ name = name' := by
  simp [Paths.mountPath]

theorem mountPath_ne (paths : Paths) (name : String) : paths.mountPath name ≠ "" := by
  simp [Paths.mountPath]

/-- An answer leaves the volume matched and every other link alone. -/
def Keeps (paths : Paths) (request : Request) (count : Int) (disk : Disk)
    (answer : Answer) : Prop :=
  Matched paths request.name (tally count (request, answer.1)) answer.2.1 answer.2.2 ∧
    ∀ name ≠ request.name,
      answer.2.2.links (paths.mountPath name) = disk.links (paths.mountPath name)

theorem Matched.refuse {disk' : Disk} {err : String}
    (h : Matched paths request.name count vol disk) (hlinks : disk'.links = disk.links) :
    Keeps paths request count disk (.error err, vol, disk') := by
  have htally : tally count (request, .error err) = count := by cases request <;> rfl
  refine ⟨⟨?_, ?_, ?_⟩, fun _ _ => by rw [hlinks]⟩ <;> rw [htally]
  · exact h.nonneg
  · exact h.vol_eq
  · rw [hlinks]
    exact h.link_iff

theorem Matched.create (h : Matched paths name count vol disk) :
    Keeps paths (.create name) count disk (create paths name disk vol) := by
  cases vol with
  | none => exact ⟨⟨h.nonneg, h.vol_eq, h.link_iff⟩, fun _ _ => rfl⟩
  | some vol =>
    rw [LocalDriver.create]
    split
    · exact h.refuse rfl
    · exact ⟨h, fun _ _ => rfl⟩

/-- A mounted volume has its link. -/
theorem matched_of_pos (hpos : 0 < count) (hlink : disk.links (paths.mountPath name) ≠ none) :
    Matched paths name count (some ⟨name, paths.mountPath name, count⟩) disk where
  nonneg := by omega
  vol_eq := by rw [Option.getD_some, if_neg (by omega)]
  link_iff := iff_of_false hlink (by omega)

theorem Matched.mount (h : Matched paths name count vol disk) :
    Keeps paths (.mount name) count disk (mount paths name disk vol) := by
  cases vol with
  | none => exact h.refuse rfl
  | some vol =>
    obtain ⟨hnonneg, rfl, hlink⟩ := id h
    unfold LocalDriver.mount Disk.symlink
    dsimp only
    split
    · split
      · obtain rfl : count = 0 := by omega
        split
        · exact h.refuse rfl
        · rename_i disk' hsymlink
          split at hsymlink
          · cases hsymlink
          · cases hsymlink
            refine ⟨⟨Int.one_nonneg, rfl, ?_⟩,
              fun _ hne => Function.update_of_ne (mt mountPath_inj.mp hne) ..⟩
            simp [tally, Request.name]
      · have hcount : count ≠ 0 := by omega
        rw [if_neg hcount]
        exact ⟨matched_of_pos (by dsimp only [tally]; omega) (mt hlink.mp hcount), fun _ _ => rfl⟩
    · exact h.refuse rfl

theorem Matched.unmountVolume {vol : VolumeInfo} (h : Matched paths name count (some vol) disk)
    (hmounted : vol.mountpoint ≠ "") :
    Keeps paths (.unmount name) count disk (unmountVolume name disk vol) := by
  obtain ⟨hnonneg, rfl, hlink⟩ := id h
  have hcount : count ≠ 0 := fun hzero => hmounted (if_pos hzero)
  have hsome : (disk.links (paths.mountPath name)).isSome :=
    Option.isSome_iff_ne_none.mpr (mt hlink.mp hcount)
  simp only [LocalDriver.unmountVolume, if_neg hcount, Disk.remove, hsome, Bool.or_true]
  split
  · split
    · exact ⟨matched_of_pos (by dsimp only [tally]; omega) (mt hlink.mp hcount), fun _ _ => rfl⟩
    · obtain rfl : count = 1 := by omega
      refine ⟨⟨Int.le_refl 0, rfl, ?_⟩,
        fun _ hne => Function.update_of_ne (mt mountPath_inj.mp hne) ..⟩
      simp [tally, Request.name]
  · rw [if_neg hcount] at h
    exact h.refuse rfl

theorem Matched.unmount (h : Matched paths name count vol disk) :
    Keeps paths (.unmount name) count disk (unmount name disk vol) := by
  cases vol with
  | none => exact h.refuse rfl
  | some vol =>
    rw [LocalDriver.unmount]
    split
    · exact h.refuse rfl
    · rename_i hmounted
      exact h.unmountVolume hmounted

/-- The end of `Remove`: the link is gone, and the directory holds no other. -/
theorem keeps_removeAll {disk' : Disk} (dir : String)
    (hapart : ∀ name', under (paths.volumePath name) (paths.mountPath name') = false)
    (hlinks : ∀ name' ≠ name,
      disk'.links (paths.mountPath name') = disk.links (paths.mountPath name'))
    (hgone : disk'.links (paths.mountPath name) = none) :
    Keeps paths (.remove name) count disk
      (.ok "", none, (disk'.mkdirAll dir).removeAll (paths.volumePath name)) := by
  refine ⟨⟨Int.le_refl 0, rfl, ?_⟩, fun name' hne => ?_⟩
  · simp [tally, Request.name, Disk.removeAll, Disk.mkdirAll, hgone]
  · simpa [Disk.removeAll, Disk.mkdirAll, hapart] using hlinks name' hne

theorem Matched.remove (h : Matched paths name count vol disk)
    (honce : ∀ info, vol = some info → info.mountCount ≤ 1)
    (hapart : ∀ name', under (paths.volumePath name) (paths.mountPath name') = false) :
    Keeps paths (.remove name) count disk (remove paths name disk vol) := by
  cases vol with
  | none => exact h.refuse rfl
  | some vol =>
    have honce := honce vol rfl
    rw [LocalDriver.remove]
    by_cases hmounted : vol.mountpoint = ""
    · rw [if_pos hmounted]
      obtain ⟨-, rfl, hlink⟩ := h
      refine keeps_removeAll _ hapart (fun _ _ => rfl) (hlink.mpr ?_)
      by_contra hcount
      exact mountPath_ne paths name ((if_neg hcount).symm.trans hmounted)
    · rw [if_neg hmounted]
      have hkeeps := h.unmountVolume hmounted
      obtain ⟨-, rfl, -⟩ := h
      generalize LocalDriver.unmountVolume name disk _ = answer at hkeeps ⊢
      obtain ⟨response, vol', disk'⟩ := answer
      cases response with
      | error err => exact hkeeps
      | ok =>
        obtain ⟨⟨hnonneg', -, hlink'⟩, hlinks⟩ := hkeeps
        refine keeps_removeAll _ hapart hlinks (hlink'.mpr ?_)
        dsimp only [tally] at honce hnonneg' ⊢
        omega

/-- Whatever a request does to its own volume, the others stay matched. -/
theorem Driver.AllMatched.answer {d : Driver} {answer : Answer}
    (h : d.AllMatched paths)
    (hkeeps : Keeps paths request (balance request.name d.answers) d.disk answer) :
    (d.answer request answer).AllMatched paths := by
  intro name
  obtain ⟨hmatched, hlinks⟩ := hkeeps
  have hlookup : (d.answer request answer).volumes.lookup name =
      if name = request.name then answer.2.1 else d.volumes.lookup name := by
    unfold Driver.answer
    cases answer.2.1
    · exact GoMap.lookup_erase_ite ..
    · exact GoMap.lookup_insert_ite ..
  rw [hlookup, Driver.answer, balance]
  by_cases hname : name = request.name
  · subst hname
    simpa using hmatched
  · obtain ⟨hnonneg, hvol, hlink⟩ := h name
    rw [if_neg hname, if_neg (Ne.symm hname)]
    exact ⟨hnonneg, hvol, by rw [hlinks name hname, hlink]⟩

theorem Driver.AllMatched.step {d next : Driver} (h : d.AllMatched paths)
    (hcareful : Careful paths request d) (hstep : d.step paths request = some next) :
    next.AllMatched paths := by
  obtain rfl := Option.some.inj hstep
  refine h.answer ?_
  unfold serve
  split
  · exact (h request.name).refuse rfl
  · cases request with
    | create name => exact (h name).create
    | mount name => exact (h name).mount
    | unmount name => exact (h name).unmount
    | remove name => exact (h name).remove hcareful.1 hcareful.2

/-- **Links match counts.**  After every run that removes no volume mounted more than once, a
link exists exactly while its volume is mounted, and the count is the balance of mounts. -/
theorem links_match_counts {d : Driver} (dirs : String → Bool)
    (h : Machine.Reaches (Driver.step paths) (Careful paths) { disk := ⟨dirs, fun _ => none⟩ } d)
    (name : String) :
    ((d.disk.links (paths.mountPath name)).isSome ↔
        ∃ vol, d.volumes.lookup name = some vol ∧ 1 ≤ vol.mountCount) ∧
      ∀ vol, d.volumes.lookup name = some vol →
        vol.mountpoint = (if 1 ≤ vol.mountCount then paths.mountPath name else "") ∧
          vol.mountCount = balance name d.answers ∧ 0 ≤ vol.mountCount := by
  have hmatched : d.AllMatched paths := by
    refine h.invariant ?_ fun _ _ _ h hcareful hstep => h.step hcareful hstep
    exact fun _ => ⟨Int.le_refl 0, rfl, by simp [balance]⟩
  obtain ⟨hnonneg, hvol, hlink⟩ := hmatched name
  rw [Option.isSome_iff_ne_none]
  cases hlookup : d.volumes.lookup name with
  | none =>
    have hcount : balance name d.answers = 0 := by grind
    simp [hlink, hcount]
  | some vol =>
    grind

/-- Volumes and links side by side. -/
def samplePaths : Paths :=
  ⟨"/v/_volumes", "/v/_mounts", ("/v/_volumes/" ++ ·)⟩

def sampleRun (requests : List Request) : Option Driver :=
  Machine.run (Driver.step samplePaths) { disk := ⟨fun _ => false, fun _ => none⟩ } requests

/-- A volume that is mounted once is removed. -/
theorem links_match_counts_removed :
    ∃ d, sampleRun [.create "a", .mount "a", .remove "a"] = some d ∧
      ((d.disk.links (samplePaths.mountPath "a")).isSome ↔
        ∃ vol, d.volumes.lookup "a" = some vol ∧ 1 ≤ vol.mountCount) := by
  obtain ⟨d, hrun⟩ := Option.isSome_iff_exists.mp
    (show (sampleRun [.create "a", .mount "a", .remove "a"]).isSome by decide)
  refine ⟨d, hrun, (links_match_counts _ (Machine.reaches_of_run ?_ hrun) "a").1⟩
  refine ⟨trivial, fun _ h => ⟨trivial, fun _ h' => ⟨⟨?_, fun name => ?_⟩, fun _ _ => trivial⟩⟩⟩
  · cases h
    cases h'
    decide
  · simp [under, Paths.mountPath]
    rfl

/-- A volume mounted twice is removed, and its link stays. -/
theorem remove_leaves_link :
    (sampleRun [.create "a", .mount "a", .mount "a", .remove "a"]).any (fun d =>
      (d.volumes.lookup "a").isNone &&
        (d.disk.links (samplePaths.mountPath "a")).isSome) = true := by
  decide

end Diego.LocalDriver
