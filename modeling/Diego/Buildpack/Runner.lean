import Diego.Buildpack.Launch
import Diego.Executor.Container
import Diego.Fallible
import Diego.Numeral
import Mathlib.Data.Nat.Log

/-!
# Staging an app

`buildpackapplifecycle/buildpackrunner/runner.go` and `builder_config.go`.  With `skipDetect` all
buildpacks but the last run `bin/supply`, and the last one is the final buildpack; otherwise the
final buildpack is the one that detects the app.  Each of them is given a directory of its own
for its dependencies, and may write a `launch.yml` with processes there.  `build` puts together
the processes of all buildpacks and those of the `Procfile`, and gives them to
`WriteStartCommands`.

The directories are named by `DepsIndex`, which pads the number of the buildpack with zeros, and
are read under the number without the zeros.  And without `skipDetect` the final buildpack is
given the directory 0, but its processes are read from the directory of the last buildpack.  So
what a buildpack writes is lost unless the two names are the same.  The staged processes are the
merge of what is read, hence the merge of what was written if and only if the two agree
(`staged_processes_overlay_iff`).
-/

namespace Diego.Buildpack

open Diego.Executor (GoString bytes)
open Process Function List

/-! ## The configuration -/

structure LifecycleBuilderConfig where
  buildpackOrderFlag : GoString
  skipDetect : Bool

def newLifecycleBuilderConfig (buildpacks : List GoString) (skipDetect : Bool) :
    LifecycleBuilderConfig :=
  ⟨(bytes ",").intercalate buildpacks, skipDetect⟩

/-- `strconv.Itoa`. -/
def itoa (i : Nat) : GoString :=
  Numeral.format 10 1 i

namespace LifecycleBuilderConfig

variable (s : LifecycleBuilderConfig)

def buildpackOrder : List GoString :=
  s.buildpackOrderFlag.splitOn 44

def supplyBuildpacks : List GoString :=
  let numBuildpacks := s.buildpackOrder.length
  if !s.skipDetect ∨ numBuildpacks = 0 then [] else s.buildpackOrder.take (numBuildpacks - 1)

/-- `DepsIndex`; `log10` is the integer part of `math.Log10`. -/
def depsIndex (log10 : Nat → Nat) (i : Nat) : GoString :=
  let numBuildpacks := s.supplyBuildpacks.length + 1
  let padDigits := log10 numBuildpacks + 1
  Numeral.format 10 padDigits i

end LifecycleBuilderConfig

/-! ## Buildpacks -/

/-- A `launch.yml`: what `yaml.Unmarshal` makes of it. -/
abbrev LaunchYML := Except GoString LaunchData

/-- The directories of the buildpacks, each with its `launch.yml` if there is one. -/
abbrev DepsDir := GoMap GoString (Option LaunchYML)

/-- How a script that is given a directory ends: with an error, or with the `launch.yml` that it
has written there or not. -/
abbrev Script := Except GoString (Option LaunchYML)

structure FinalBuildpack where
  hasFinalize : Except GoString Bool
  hasSupply : Except GoString Bool
  supply : Script
  finalize : Script
  /-- The error of `bin/compile`, which is given no directory. -/
  compile : Option GoString
  /-- The default process types that `bin/release` prints. -/
  release : Except GoString (GoMap String String)

inductive Procfile
  | missing
  | unreadable (err : GoString)
  | invalid
  | valid (processes : GoMap String String)

/-- What the runner finds and what the scripts do. -/
structure StagingWorld where
  /-- The error of `validateSupplyBuildpacks` for a buildpack. -/
  validate : Nat → Option GoString
  supply : Nat → Script
  /-- The last buildpack or, without `skipDetect`, the one that `detect` finds. -/
  final : Except GoString FinalBuildpack
  procfile : Procfile

/-! ## The runner -/

def compileFailMsg : GoString := bytes "Failed to compile droplet"
def releaseFailMsg : GoString := bytes "Failed to build droplet release"
def supplyFailMsg : GoString := bytes "Failed to run all supply scripts"
def finalizeFailMsg : GoString := bytes "Failed to run finalize script"
def procfileFailMsg : GoString := bytes "Failed to read command from Procfile"

/-- `newDescriptiveError`, for an error that is not nil. -/
def describe {α : Type} (message : GoString) (result : Except GoString α) : Except GoString α :=
  result.mapError fun err => message ++ bytes ": " ++ err

/-- `run` of a script that is given the directory. -/
def runScript (deps : DepsDir) (depsIdx : GoString) : Script → Except GoString DepsDir
  | .error err => .error err
  | .ok none => .ok deps
  | .ok (some launchYML) => .ok (deps.insert depsIdx (some launchYML))

def readProcfile : Procfile → Except GoString (GoMap String String)
  | .missing => .ok ∅
  | .unreadable err => .error err
  | .invalid => .error (bytes "invalid YAML")
  | .valid processes => .ok processes

/-- The file that `launchYMLExists` looks for. -/
def DepsDir.launchYML (deps : DepsDir) (index : Nat) : Option LaunchYML :=
  (deps.lookup (itoa index)).join

section Runner

variable (log10 : Nat → Nat) (moves : List Process → Bool) (config : LifecycleBuilderConfig)
  (world : StagingWorld)

/-- `makeDirectories`, as far as the directories of the buildpacks go. -/
def makeDirectories : DepsDir :=
  (List.range (config.supplyBuildpacks.length + 1)).foldl
    (fun deps i => deps.insertNew (config.depsIndex log10 i) none) ∅

def validateSupplyBuildpacks : Except GoString Unit :=
  (List.range config.supplyBuildpacks.length).forM fun i =>
    match world.validate i with
    | none => .ok ()
    | some err => .error err

def supplyLoop (deps : DepsDir) : Except GoString DepsDir :=
  (List.range config.supplyBuildpacks.length).foldlM (fun deps i =>
    describe supplyFailMsg (runScript deps (config.depsIndex log10 i) (world.supply i))) deps

def runSupplyBuildpacks (deps : DepsDir) : Except GoString (DepsDir × FinalBuildpack) := do
  validateSupplyBuildpacks config world
  let deps ← supplyLoop log10 config world deps
  let finalBuildpack ← world.final
  return (deps, finalBuildpack)

def runFinalize (buildpack : FinalBuildpack) (deps : DepsDir) : Except GoString DepsDir := do
  let depsIdx := config.depsIndex log10 config.supplyBuildpacks.length
  if ← describe finalizeFailMsg buildpack.hasFinalize then
    let hasSupply ← describe supplyFailMsg buildpack.hasSupply
    let deps ← if hasSupply then describe supplyFailMsg (runScript deps depsIdx buildpack.supply)
      else pure deps
    describe finalizeFailMsg (runScript deps depsIdx buildpack.finalize)
  else
    match buildpack.compile with
    | some err => describe compileFailMsg (.error err)
    -- the directory is not used and has been removed
    | none => return deps.erase depsIdx

def mergeLaunchYML (deps : DepsDir) (buildpackIndex : Nat) (procMap : LaunchData) :
    Except GoString LaunchData :=
  match deps.launchYML buildpackIndex with
  | none => .ok procMap
  | some launchYML => do
    let buildPackLaunchYML ← launchYML
    return ⟨mergeProcesses moves procMap.processes buildPackLaunchYML.processes⟩

def processYML (deps : DepsDir) (selectedBuildpacks : List GoString) : Except GoString LaunchData :=
  (List.range selectedBuildpacks.length).foldlM
    (fun launchYML index => mergeLaunchYML moves deps index launchYML) ⟨[]⟩

def processFinalBuildpack (buildpack : FinalBuildpack) (deps : DepsDir) (procMap : LaunchData) :
    Except GoString LaunchData := do
  let buildpackIndex := config.buildpackOrder.length - 1
  let procMap ← if (deps.launchYML buildpackIndex).isSome then
      mergeLaunchYML moves deps buildpackIndex procMap
    else do
      let releaseInfo ← describe releaseFailMsg buildpack.release
      pure ⟨mergeProcesses moves procMap.processes (procDataToProcesses releaseInfo)⟩
  let startCommands ← describe procfileFailMsg (readProcfile world.procfile)
  return ⟨mergeProcesses moves procMap.processes (procDataToProcesses startCommands)⟩

/-- The part of `build` up to `WriteStartCommands`, with what is given to it. -/
def build (buildpack : FinalBuildpack) (deps : DepsDir) : Except GoString LaunchData := do
  let deps ← describe compileFailMsg (runFinalize log10 config buildpack deps)
  let procMap ← processYML moves deps config.supplyBuildpacks
  processFinalBuildpack moves config world buildpack deps procMap

/-- `GoLikeLightning` after `makeDirectories`, up to `WriteStartCommands`. -/
def goLikeLightning : Except GoString LaunchData :=
  let deps := makeDirectories log10 config
  if config.skipDetect then do
    let (deps, buildpack) ← runSupplyBuildpacks log10 config world deps
    build log10 moves config world buildpack deps
  else do
    let buildpack ← world.final
    build log10 moves config world buildpack deps

end Runner

/-! ## What the buildpacks write -/

/-- The final buildpack succeeds and has written this `launch.yml` to its directory, or none. -/
inductive FinalBuildpack.Leaves (buildpack : FinalBuildpack) : Option LaunchData → Prop
  | finalized {launch : Option LaunchData} (hfinalize : buildpack.hasFinalize = .ok true)
      (hsupply : buildpack.hasSupply = .ok false)
      (hlaunch : buildpack.finalize = .ok (launch.map .ok)) : Leaves buildpack launch
  /-- What `bin/finalize` writes replaces what `bin/supply` has written. -/
  | supplied {supply launch : Option LaunchData} (hfinalize : buildpack.hasFinalize = .ok true)
      (hsupply : buildpack.hasSupply = .ok true) (hfirst : buildpack.supply = .ok (supply.map .ok))
      (hlaunch : buildpack.finalize = .ok (launch.map .ok)) : Leaves buildpack (launch.or supply)
  | compiled (hfinalize : buildpack.hasFinalize = .ok false) (hcompile : buildpack.compile = none) :
      Leaves buildpack none

/-- All scripts succeed; `supplied` is what the supply buildpacks write, and `launch` is what the
final buildpack leaves. -/
structure Stages (config : LifecycleBuilderConfig) (world : StagingWorld)
    (buildpack : FinalBuildpack) (supplied : Nat → Option LaunchData) (launch : Option LaunchData) :
    Prop where
  validate : ∀ i < config.supplyBuildpacks.length, world.validate i = none
  supply : ∀ i < config.supplyBuildpacks.length, world.supply i = .ok ((supplied i).map .ok)
  final : world.final = .ok buildpack
  leaves : buildpack.Leaves launch

/-- What is read of a `launch.yml` of the buildpack with this number. -/
def readable (log10 : Nat → Nat) (config : LifecycleBuilderConfig) (i : Nat)
    (launch : Option LaunchData) : Option LaunchData :=
  if config.depsIndex log10 i = itoa i then launch else none

def readSupplied (log10 : Nat → Nat) (config : LifecycleBuilderConfig)
    (supplied : Nat → Option LaunchData) (i : Nat) : Option LaunchData :=
  readable log10 config i (supplied i)

/-- What is read of the `launch.yml` of the final buildpack. -/
def readLaunch (log10 : Nat → Nat) (config : LifecycleBuilderConfig) (launch : Option LaunchData) :
    Option LaunchData :=
  if config.depsIndex log10 config.supplyBuildpacks.length =
      itoa (config.buildpackOrder.length - 1) then launch else none

def processesOf : Option LaunchData → List Process
  | none => []
  | some launch => launch.processes

/-- The processes of the final buildpack: those of its `launch.yml` or else of its release. -/
def finalProcesses (launch : Option LaunchData) (release : GoMap String String) : List Process :=
  match launch with
  | none => procDataToProcesses release
  | some launch => launch.processes

/-- The sources of processes: the supply buildpacks, the final buildpack and the `Procfile`. -/
def sources (config : LifecycleBuilderConfig) (supplied : Nat → Option LaunchData)
    (launch : Option LaunchData) (release procfile : GoMap String String) : List (List Process) :=
  (List.range config.supplyBuildpacks.length).map (fun i => processesOf (supplied i)) ++
    [finalProcesses launch release] ++ [procDataToProcesses procfile]

/-! ## Names of directories -/

theorem parse_depsIndex (log10 : Nat → Nat) (config : LifecycleBuilderConfig) (i : Nat) :
    Numeral.parse 10 (config.depsIndex log10 i) = some i :=
  Numeral.parse_format (by decide) (by decide) (Nat.succ_pos _)

theorem parse_itoa (i : Nat) : Numeral.parse 10 (itoa i) = some i :=
  Numeral.parse_format (by decide) (by decide) Nat.one_pos

variable {log10 : Nat → Nat} {config : LifecycleBuilderConfig} {j : Nat} {i : Nat}

/-- A directory can only be read by the buildpack of its number. -/
theorem eq_of_itoa_eq_depsIndex (h : itoa j = config.depsIndex log10 i) : j = i := by
  have hparse := congrArg (Numeral.parse 10) h
  rw [parse_itoa, parse_depsIndex] at hparse
  exact Option.some.inj hparse

/-! ## What is read back -/

/-- The directories have these files. -/
def DepsDir.Holds (deps : DepsDir) (written : Nat → Option LaunchData) : Prop :=
  ∀ index, deps.launchYML index = (written index).map .ok

section Holds

variable {log10 : Nat → Nat} {config : LifecycleBuilderConfig} {deps : DepsDir}
  {written : Nat → Option LaunchData}

/-- A new directory has no file. -/
theorem join_lookup_insertNew (h : ∀ dir, (deps.lookup dir).join = none) {depsIdx : GoString}
    (dir : GoString) : ((deps.insertNew depsIdx none).lookup dir).join = none := by
  rw [GoMap.lookup_insertNew]
  split
  · have hold := h depsIdx
    cases hlookup : deps.lookup depsIdx with
    | none => rfl
    | some launchYML =>
      rw [hlookup] at hold
      exact hold
  · exact h dir

theorem makeDirectories_holds (log10 : Nat → Nat) (config : LifecycleBuilderConfig) :
    (makeDirectories log10 config).Holds fun _ => none := by
  have hnone : ∀ (indices : List Nat) (deps : DepsDir), (∀ dir, (deps.lookup dir).join = none) →
      ∀ dir, ((indices.foldl (fun deps i => deps.insertNew (config.depsIndex log10 i) none)
        deps).lookup dir).join = none := by
    intro indices
    induction indices with
    | nil => exact fun deps h => h
    | cons i indices ih => exact fun deps h => ih _ (join_lookup_insertNew h)
  exact fun index => hnone _ ∅ (fun dir => rfl) (itoa index)

variable {launch : Option LaunchData} (supplied : Nat → Option LaunchData)

theorem readable_or {first second : Option LaunchData} :
    (readable log10 config i first).or (readable log10 config i second) =
      readable log10 config i (first.or second) := by
  unfold readable
  split <;> rfl

/-- A script writes to its directory, which may be read under its number. -/
theorem DepsDir.Holds.runScript (h : deps.Holds written) (i : Nat) (launch : Option LaunchData) :
    ∃ deps', Buildpack.runScript deps (config.depsIndex log10 i) (.ok (launch.map .ok)) =
        .ok deps' ∧
      deps'.Holds (update written i ((readable log10 config i launch).or (written i))) := by
  cases launch with
  | none =>
    refine ⟨deps, rfl, ?_⟩
    simpa [readable] using h
  | some launch =>
    refine ⟨_, rfl, fun index => ?_⟩
    unfold DepsDir.launchYML readable
    rw [GoMap.lookup_insert_ite]
    by_cases heq : index = i
    · subst heq
      rw [update_self]
      by_cases hname : config.depsIndex log10 index = itoa index
      · simp [hname]
      · rw [if_neg (Ne.symm hname), if_neg hname, Option.none_or]
        exact h index
    · rw [if_neg fun hname => heq (eq_of_itoa_eq_depsIndex hname), update_of_ne heq]
      exact h index

/-- The supply buildpacks before the `n`-th have written. -/
def writtenBelow (supplied : Nat → Option LaunchData) (n : Nat) (i : Nat) : Option LaunchData :=
  if i < n then supplied i else none

theorem writtenBelow_succ {n : Nat} :
    writtenBelow supplied (n + 1) = update (writtenBelow supplied n) n
      ((supplied n).or (writtenBelow supplied n n)) := by
  funext i
  unfold writtenBelow
  by_cases heq : i = n
  · subst heq
    simp
  · rw [update_of_ne heq]
    simp only [show i < n + 1 ↔ i < n by omega]

theorem supplyLoop_holds {world : StagingWorld} {supplied : Nat → Option LaunchData}
    (hsupply : ∀ i < config.supplyBuildpacks.length, world.supply i = .ok ((supplied i).map .ok))
    (h : deps.Holds fun _ => none) :
    ∃ deps', supplyLoop log10 config world deps = .ok deps' ∧
      deps'.Holds
        (writtenBelow (readSupplied log10 config supplied) config.supplyBuildpacks.length) := by
  refine Fallible.foldlM_range_ok (P := fun n deps => DepsDir.Holds deps
    (writtenBelow (readSupplied log10 config supplied) n)) h fun n hn deps hholds => ?_
  obtain ⟨deps', hdeps', hholds⟩ := hholds.runScript n (supplied n)
  refine ⟨deps', ?_, writtenBelow_succ _ ▸ hholds⟩
  rw [hsupply n hn, hdeps']
  rfl

theorem writtenBelow_of_le {n i : Nat} (h : n ≤ i) : writtenBelow supplied n i = none :=
  if_neg (Nat.not_lt.mpr h)

theorem length_supplyBuildpacks_le (config : LifecycleBuilderConfig) :
    config.supplyBuildpacks.length ≤ config.buildpackOrder.length - 1 := by
  unfold LifecycleBuilderConfig.supplyBuildpacks
  grind

/-- What the final buildpack leaves may be read under the number that comes after those of the
supply buildpacks. -/
theorem runFinalize_holds {buildpack : FinalBuildpack} {supplied : Nat → Option LaunchData}
    (hleaves : buildpack.Leaves launch)
    (h : deps.Holds (writtenBelow supplied config.supplyBuildpacks.length)) :
    ∃ deps', runFinalize log10 config buildpack deps = .ok deps' ∧
      deps'.Holds (update (writtenBelow supplied config.supplyBuildpacks.length)
        config.supplyBuildpacks.length
        (readable log10 config config.supplyBuildpacks.length launch)) := by
  have hfree := writtenBelow_of_le supplied (Nat.le_refl config.supplyBuildpacks.length)
  cases hleaves with
  | finalized hfinalize hsupply hlaunch =>
    obtain ⟨deps', hdeps', hholds⟩ := h.runScript config.supplyBuildpacks.length launch
    refine ⟨deps', ?_, ?_⟩
    · unfold runFinalize
      rw [hfinalize, hsupply, hlaunch]
      exact congrArg (describe finalizeFailMsg) hdeps'
    · rwa [hfree, Option.or_none] at hholds
  | @supplied supply launch hfinalize hsupply hfirst hlaunch =>
    obtain ⟨deps', hdeps', hholds⟩ := h.runScript config.supplyBuildpacks.length supply
    obtain ⟨deps'', hdeps'', hholds⟩ := hholds.runScript config.supplyBuildpacks.length launch
    refine ⟨deps'', ?_, ?_⟩
    · unfold runFinalize
      rw [hfinalize, hsupply, hfirst, hlaunch]
      change (describe supplyFailMsg (runScript deps _ (.ok (supply.map .ok))) >>=
        fun deps => describe finalizeFailMsg (runScript deps _ (.ok (launch.map .ok)))) = _
      rw [hdeps']
      exact congrArg (describe finalizeFailMsg) hdeps''
    · rwa [hfree, Option.or_none, update_self, update_idem, readable_or] at hholds
  | compiled hfinalize hcompile =>
    refine ⟨deps.erase (config.depsIndex log10 config.supplyBuildpacks.length), ?_, ?_⟩
    · unfold runFinalize
      rw [hfinalize, hcompile]
      rfl
    · have hnone : readable log10 config config.supplyBuildpacks.length none = none := ite_self none
      rw [hnone, update_eq_self_iff.mpr hfree.symm]
      intro index
      unfold DepsDir.launchYML
      rw [GoMap.lookup_erase_ite]
      split
      · rename_i heq
        obtain rfl := eq_of_itoa_eq_depsIndex heq
        rw [writtenBelow_of_le supplied (Nat.le_refl _)]
        rfl
      · exact h index

end Holds

/-! ## The list of processes -/

section Processes

variable (moves : List Process → Bool) {config : LifecycleBuilderConfig} {world : StagingWorld}
  {deps : DepsDir} {written : Nat → Option LaunchData} {procData : GoMap String String}

theorem procDataToProcesses_nodup : ((procDataToProcesses procData).map type).Nodup := by
  have hkeys : (procDataToProcesses procData).map type = procData.entries.keys := by
    simp [procDataToProcesses, keys]
  rw [hkeys]
  exact procData.nodupKeys

variable {procMap : LaunchData}

theorem mergeLaunchYML_overlays (h : deps.Holds written) {sources : List (List Process)}
    (hprocMap : Overlays type sources procMap.processes) {index : Nat}
    (hdistinct : ∀ launch, written index = some launch → (launch.processes.map type).Nodup) :
    ∃ procMap', mergeLaunchYML moves deps index procMap = .ok procMap' ∧
      Overlays type (sources ++ [processesOf (written index)]) procMap'.processes := by
  have hindex := h index
  unfold mergeLaunchYML
  rw [hindex]
  cases hwritten : written index with
  | none => exact ⟨procMap, rfl, hprocMap.append_nil⟩
  | some launch =>
    exact ⟨_, rfl, overlays_mergeProcesses moves hprocMap (hdistinct launch hwritten)⟩

theorem processYML_overlays (h : deps.Holds written) {selectedBuildpacks : List GoString}
    (hdistinct : ∀ i < selectedBuildpacks.length, ∀ launch, written i = some launch →
      (launch.processes.map type).Nodup) :
    ∃ procMap, processYML moves deps selectedBuildpacks = .ok procMap ∧
      Overlays type
        ((range selectedBuildpacks.length).map fun i => processesOf (written i))
        procMap.processes := by
  refine Fallible.foldlM_range_ok (P := fun n (procMap : LaunchData) =>
    Overlays type ((range n).map fun i => processesOf (written i)) procMap.processes)
    overlays_nil fun n hn procMap hoverlays => ?_
  rw [range_succ, map_append]
  exact mergeLaunchYML_overlays moves h hoverlays (hdistinct n hn)

theorem processFinalBuildpack_overlays (h : deps.Holds written) {buildpack : FinalBuildpack}
    {sources : List (List Process)} (hprocMap : Overlays type sources procMap.processes)
    {release procfile : GoMap String String}
    (hrelease : written (config.buildpackOrder.length - 1) = none → buildpack.release = .ok release)
    (hprocfile : readProcfile world.procfile = .ok procfile)
    (hdistinct : ∀ launch, written (config.buildpackOrder.length - 1) = some launch →
      (launch.processes.map type).Nodup) :
    ∃ procMap', processFinalBuildpack moves config world buildpack deps procMap = .ok procMap' ∧
      Overlays type (sources ++
        [finalProcesses (written (config.buildpackOrder.length - 1)) release] ++
        [procDataToProcesses procfile]) procMap'.processes := by
  have hindex := h (config.buildpackOrder.length - 1)
  unfold processFinalBuildpack
  rw [hprocfile]
  cases hwritten : written (config.buildpackOrder.length - 1) with
  | none =>
    rw [hwritten] at hindex
    simp only [hindex, hrelease hwritten]
    refine ⟨_, rfl, overlays_mergeProcesses moves ?_ procDataToProcesses_nodup⟩
    exact overlays_mergeProcesses moves hprocMap procDataToProcesses_nodup
  | some launch =>
    obtain ⟨procMap', hprocMap', hoverlays⟩ := mergeLaunchYML_overlays moves h hprocMap hdistinct
    rw [hwritten] at hindex hoverlays
    simp only [hindex, hprocMap']
    exact ⟨_, rfl, overlays_mergeProcesses moves hoverlays procDataToProcesses_nodup⟩

end Processes

section Staging

variable {log10 : Nat → Nat} {config : LifecycleBuilderConfig} {world : StagingWorld}
  {buildpack : FinalBuildpack} {supplied : Nat → Option LaunchData} {launch : Option LaunchData}
  {release procfile : GoMap String String}

/-- Pairwise distinct process types in every `launch.yml`. -/
structure Distinct (config : LifecycleBuilderConfig) (supplied : Nat → Option LaunchData)
    (launch : Option LaunchData) : Prop where
  supply : ∀ i < config.supplyBuildpacks.length, ∀ data, supplied i = some data →
    (data.processes.map Process.type).Nodup
  final : ∀ data, launch = some data → (data.processes.map Process.type).Nodup

/-- What is read under each number. -/
def read (log10 : Nat → Nat) (config : LifecycleBuilderConfig) (supplied : Nat → Option LaunchData)
    (launch : Option LaunchData) : Nat → Option LaunchData :=
  update (writtenBelow (readSupplied log10 config supplied) config.supplyBuildpacks.length)
    config.supplyBuildpacks.length (readable log10 config config.supplyBuildpacks.length launch)

theorem read_supply {i : Nat} (hi : i < config.supplyBuildpacks.length) :
    read log10 config supplied launch i = readSupplied log10 config supplied i := by
  rw [read, update_of_ne (Nat.ne_of_lt hi), writtenBelow, if_pos hi]

theorem read_final :
    read log10 config supplied launch (config.buildpackOrder.length - 1) =
      readLaunch log10 config launch := by
  unfold readLaunch
  by_cases heq : config.buildpackOrder.length - 1 = config.supplyBuildpacks.length
  · rw [heq, read, update_self, readable]
  · rw [read, update_of_ne heq, writtenBelow_of_le _ (length_supplyBuildpacks_le config),
      if_neg fun hname => heq (eq_of_itoa_eq_depsIndex hname.symm)]

variable (moves : List Process → Bool)

theorem build_eq {deps : DepsDir}
    (hdeps : deps.Holds
      (writtenBelow (readSupplied log10 config supplied) config.supplyBuildpacks.length))
    (hleaves : buildpack.Leaves launch) (hdistinct : Distinct config supplied launch) :
    ∃ deps' procMap, build log10 moves config world buildpack deps =
        processFinalBuildpack moves config world buildpack deps' procMap ∧
      deps'.Holds (read log10 config supplied launch) ∧
      Overlays type ((range config.supplyBuildpacks.length).map fun i =>
        processesOf (readSupplied log10 config supplied i)) procMap.processes := by
  obtain ⟨deps', hdeps', hholds⟩ := runFinalize_holds hleaves hdeps
  have hnodup : ∀ i < config.supplyBuildpacks.length, ∀ data,
      read log10 config supplied launch i = some data → (data.processes.map type).Nodup := by
    intro i hi data hdata
    rw [read_supply hi, readSupplied, readable, Option.ite_none_right_eq_some] at hdata
    exact hdistinct.supply i hi data hdata.2
  obtain ⟨procMap, hprocMap, hoverlays⟩ := processYML_overlays moves hholds hnodup
  refine ⟨deps', procMap, ?_, hholds, ?_⟩
  · unfold build
    rw [hdeps']
    change (processYML moves deps' config.supplyBuildpacks >>= fun procMap =>
      processFinalBuildpack moves config world buildpack deps' procMap) = _
    rw [hprocMap]
    rfl
  · rwa [map_congr_left fun i hi => by rw [← read, read_supply (mem_range.mp hi)]] at hoverlays

theorem validateSupplyBuildpacks_ok
    (h : ∀ i < config.supplyBuildpacks.length, world.validate i = none) :
    validateSupplyBuildpacks config world = .ok () := by
  have hloop : ∀ indices : List Nat, (∀ i ∈ indices, world.validate i = none) →
      (indices.forM fun i => match world.validate i with
        | none => (.ok () : Except GoString Unit)
        | some err => .error err) = .ok () := by
    intro indices
    induction indices with
    | nil => exact fun _ => rfl
    | cons i indices ih =>
      intro hindices
      rw [List.forM, hindices i List.mem_cons_self]
      exact ih fun j hj => hindices j (List.mem_cons_of_mem _ hj)
  exact hloop _ fun i hi => h i (List.mem_range.mp hi)

section

variable (hstages : Stages config world buildpack supplied launch)
  (hdistinct : Distinct config supplied launch)
include hstages hdistinct

theorem goLikeLightning_eq :
    ∃ deps procMap, goLikeLightning log10 moves config world =
        processFinalBuildpack moves config world buildpack deps procMap ∧
      deps.Holds (read log10 config supplied launch) ∧
      Overlays type ((range config.supplyBuildpacks.length).map fun i =>
        processesOf (readSupplied log10 config supplied i)) procMap.processes := by
  have hnew := makeDirectories_holds log10 config
  unfold goLikeLightning
  cases hskip : config.skipDetect with
  | true =>
    obtain ⟨deps, hdeps, hholds⟩ := supplyLoop_holds hstages.supply hnew
    have hrun : runSupplyBuildpacks log10 config world (makeDirectories log10 config) =
        .ok (deps, buildpack) := by
      unfold runSupplyBuildpacks
      rw [validateSupplyBuildpacks_ok hstages.validate, hdeps, hstages.final]
      rfl
    dsimp only
    rw [hrun]
    exact build_eq moves hholds hstages.leaves hdistinct
  | false =>
    have hlength : config.supplyBuildpacks.length = 0 := by
      simp [LifecycleBuilderConfig.supplyBuildpacks, hskip]
    have hholds : (makeDirectories log10 config).Holds
        (writtenBelow (readSupplied log10 config supplied) config.supplyBuildpacks.length) := by
      rw [hlength]
      exact hnew
    rw [hstages.final]
    exact build_eq moves hholds hstages.leaves hdistinct

/-- The staged processes are the merge of what is read. -/
theorem goLikeLightning_overlays
    (hrelease : readLaunch log10 config launch = none → buildpack.release = .ok release)
    (hprocfile : readProcfile world.procfile = .ok procfile) :
    ∃ procMap, goLikeLightning log10 moves config world = .ok procMap ∧
      Overlays type (sources config (readSupplied log10 config supplied)
        (readLaunch log10 config launch) release procfile) procMap.processes := by
  obtain ⟨deps, procMap, heq, hholds, hoverlays⟩ := goLikeLightning_eq moves hstages hdistinct
  obtain ⟨procMap', hprocMap', hoverlays'⟩ := processFinalBuildpack_overlays moves hholds hoverlays
    (fun hnone => hrelease (read_final.symm.trans hnone)) hprocfile fun data hdata => by
      rw [read_final, readLaunch, Option.ite_none_right_eq_some] at hdata
      exact hdistinct.final data hdata.2
  rw [read_final] at hoverlays'
  exact ⟨procMap', heq.trans hprocMap', hoverlays'⟩

/-- Where no `launch.yml` of the final buildpack is read, its release has to succeed. -/
theorem release_of_goLikeLightning {procMap : LaunchData}
    (hok : goLikeLightning log10 moves config world = .ok procMap)
    (hnone : readLaunch log10 config launch = none) :
    ∃ release, buildpack.release = .ok release := by
  obtain ⟨deps, procMap', heq, hholds, -⟩ := goLikeLightning_eq moves hstages hdistinct
  have hindex := hholds (config.buildpackOrder.length - 1)
  rw [read_final, hnone] at hindex
  cases hrelease : buildpack.release with
  | ok release => exact ⟨release, rfl⟩
  | error err =>
    rw [heq, processFinalBuildpack] at hok
    simp only [hindex, hrelease] at hok
    cases hok

end

/-- The merge of what is read is the merge of what was written. -/
def ReadsAgree (log10 : Nat → Nat) (config : LifecycleBuilderConfig) (buildpack : FinalBuildpack)
    (supplied : Nat → Option LaunchData) (launch : Option LaunchData)
    (release procfile : GoMap String String) : Prop :=
  ∃ release', (readLaunch log10 config launch = none → buildpack.release = .ok release') ∧
    ∀ p, Visible type (sources config (readSupplied log10 config supplied)
        (readLaunch log10 config launch) release' procfile) p ↔
      Visible type (sources config supplied launch release procfile) p

end Staging

theorem buildpackOrder_new {buildpacks : List GoString} (hne : buildpacks ≠ [])
    (hcommas : ∀ buildpack ∈ buildpacks, 44 ∉ buildpack) {skipDetect : Bool} :
    (newLifecycleBuilderConfig buildpacks skipDetect).buildpackOrder = buildpacks :=
  splitOn_intercalate 44 hcommas hne

/-- **When the staged processes are the merge of all sources**, each process type of a source once,
from the last source that has it: if and only if what is not read where it was written makes no
difference. -/
theorem staged_processes_overlay_iff (log10 : Nat → Nat) (moves : List Process → Bool)
    (buildpacks : List GoString) (hne : buildpacks ≠ [])
    (hcommas : ∀ buildpack ∈ buildpacks, 44 ∉ buildpack) (skipDetect : Bool)
    (world : StagingWorld) (buildpack : FinalBuildpack) (supplied : Nat → Option LaunchData)
    (launch : Option LaunchData) (release procfile : GoMap String String)
    (hstages : Stages (newLifecycleBuilderConfig buildpacks skipDetect) world buildpack supplied
      launch)
    (hdistinct : Distinct (newLifecycleBuilderConfig buildpacks skipDetect) supplied launch)
    (hprocfile : readProcfile world.procfile = .ok procfile) :
    (newLifecycleBuilderConfig buildpacks skipDetect).buildpackOrder = buildpacks ∧
      ((∃ procMap, goLikeLightning log10 moves (newLifecycleBuilderConfig buildpacks skipDetect)
          world = .ok procMap ∧
        Overlays Process.type (sources (newLifecycleBuilderConfig buildpacks skipDetect) supplied
          launch release procfile) procMap.processes) ↔
      ReadsAgree log10 (newLifecycleBuilderConfig buildpacks skipDetect) buildpack supplied launch
        release procfile) := by
  refine ⟨buildpackOrder_new hne hcommas, ?_⟩
  generalize newLifecycleBuilderConfig buildpacks skipDetect = config at hstages hdistinct ⊢
  constructor
  · rintro ⟨procMap, hok, hoverlays⟩
    obtain ⟨release', hrelease⟩ : ∃ release', readLaunch log10 config launch = none →
        buildpack.release = .ok release' := by
      by_cases hnone : readLaunch log10 config launch = none
      · obtain ⟨release', hrelease⟩ := release_of_goLikeLightning moves hstages hdistinct hok hnone
        exact ⟨release', fun _ => hrelease⟩
      · exact ⟨∅, fun h => absurd h hnone⟩
    refine ⟨release', hrelease, fun p => ?_⟩
    obtain ⟨procMap', hok', hread⟩ :=
      goLikeLightning_overlays moves hstages hdistinct hrelease hprocfile
    obtain rfl := Except.ok.inj (hok'.symm.trans hok)
    rw [← hread.mem_iff, hoverlays.mem_iff]
  · rintro ⟨release', hrelease, hagree⟩
    obtain ⟨procMap, hok, hread⟩ :=
      goLikeLightning_overlays moves hstages hdistinct hrelease hprocfile
    exact ⟨procMap, hok, hread.nodup, fun p => (hread.mem_iff p).trans (hagree p)⟩

/-- All buildpacks are executed, and their number has one digit. -/
theorem readsAgree_of_one_digit (hdigit : log10 (config.supplyBuildpacks.length + 1) = 0)
    (hall : config.supplyBuildpacks.length = config.buildpackOrder.length - 1)
    {buildpack : FinalBuildpack} {supplied : Nat → Option LaunchData} {launch : Option LaunchData}
    {release procfile : GoMap String String}
    (hrelease : launch = none → buildpack.release = .ok release) :
    ReadsAgree log10 config buildpack supplied launch release procfile := by
  have hindex : ∀ i, config.depsIndex log10 i = itoa i := by
    intro i
    unfold LifecycleBuilderConfig.depsIndex
    dsimp only
    rw [hdigit]
    rfl
  have hlaunch : readLaunch log10 config launch = launch := if_pos (by rw [hindex, hall])
  have hsupplied : (readSupplied log10 config supplied) = supplied :=
    funext fun i => if_pos (hindex i)
  unfold ReadsAgree
  rw [hlaunch, hsupplied]
  exact ⟨release, hrelease, fun p => Iff.rfl⟩

def webProcess (command : String) : Process :=
  ⟨"web", command, [], 0⟩

def workerProcess : Process :=
  ⟨"worker", "work", [], 0⟩

/-- The supply buildpacks write nothing but the first one, which writes a worker. -/
def workerSupplied : Nat → Option LaunchData
  | 0 => some ⟨[workerProcess]⟩
  | _ => none

def finalizing (launch : Option LaunchData) : FinalBuildpack :=
  ⟨.ok true, .ok false, .ok none, .ok (launch.map .ok), none,
    .ok (GoMap.ofPairs [("web", "release")])⟩

def stagingWorld (launch : Option LaunchData) : StagingWorld :=
  ⟨fun _ => none, fun i => .ok ((workerSupplied i).map .ok), .ok (finalizing launch), .missing⟩

def webLaunch : Option LaunchData := some ⟨[webProcess "launch"]⟩

def twoBuildpacks : List GoString := [bytes "go", bytes "java"]

theorem staged_processes_overlay_sample :
    ∃ procMap, goLikeLightning (Nat.log 10) (fun _ => true)
        (newLifecycleBuilderConfig twoBuildpacks true) (stagingWorld webLaunch) = .ok procMap ∧
      Overlays Process.type [[workerProcess], [webProcess "launch"], []] procMap.processes := by
  have hstaged := staged_processes_overlay_iff (Nat.log 10) (fun _ => true) twoBuildpacks
    (by decide) (by decide) true (stagingWorld webLaunch) (finalizing webLaunch) workerSupplied
    webLaunch ∅ ∅ ⟨fun _ _ => rfl, fun _ _ => rfl, rfl, .finalized rfl rfl rfl⟩
    ⟨by decide, by decide⟩ rfl
  exact hstaged.2.mpr (readsAgree_of_one_digit rfl rfl (by decide))

def tenBuildpacks : LifecycleBuilderConfig :=
  newLifecycleBuilderConfig (List.replicate 10 (bytes "go")) true

/-- With ten buildpacks what the first one writes to `00` is not read from `0`; and without
`skipDetect` what the final one of two buildpacks writes to `0` is not read from `1`, so that its
release is taken instead. -/
theorem launch_yml_is_lost :
    (Stages tenBuildpacks (stagingWorld none) (finalizing none) workerSupplied none ∧
      goLikeLightning (Nat.log 10) (fun _ => true) tenBuildpacks (stagingWorld none) =
        .ok ⟨[webProcess "release"]⟩ ∧
      ¬ Overlays Process.type (sources tenBuildpacks workerSupplied none
        (GoMap.ofPairs [("web", "release")]) ∅) [webProcess "release"]) ∧
    Stages (newLifecycleBuilderConfig twoBuildpacks false) (stagingWorld webLaunch)
        (finalizing webLaunch) workerSupplied webLaunch ∧
      goLikeLightning (Nat.log 10) (fun _ => true) (newLifecycleBuilderConfig twoBuildpacks false)
        (stagingWorld webLaunch) = .ok ⟨[webProcess "release"]⟩ ∧
      ¬ Overlays Process.type (sources (newLifecycleBuilderConfig twoBuildpacks false)
        workerSupplied webLaunch ∅ ∅) [webProcess "release"] := by
  refine ⟨⟨⟨fun _ _ => rfl, fun _ _ => rfl, rfl, .finalized rfl rfl rfl⟩, rfl, fun h => ?_⟩,
    ⟨fun _ _ => rfl, fun _ _ => rfl, rfl, .finalized rfl rfl rfl⟩, rfl, fun h => ?_⟩
  · have hworker := (h.mem_iff workerProcess).mpr
      ⟨[], [workerProcess], List.replicate 8 [] ++ [[webProcess "release"], []], rfl, by decide,
        by decide⟩
    exact absurd hworker (by decide)
  · have hweb := (h.mem_iff (webProcess "launch")).mpr
      ⟨[], [webProcess "launch"], [[]], rfl, by decide, by decide⟩
    exact absurd hweb (by decide)

end Diego.Buildpack
