import Diego.Executor.Container

/-!
# One container of the store

`executor/depot/containerstore/storenode.go` and `dependencymanager.go`.  A `storeNode` is
the record of one container.  Its methods are called from many goroutines at once; `opLock`
is held by a method from its start to its end, `infoLock` only around the accesses to `info`.

The methods are cut into steps at the points where another goroutine can come in between:
each acquisition of a lock, each channel operation and each atomic operation starts a step.
`Call` says where a running call is, and the runs of these steps are all the interleavings.

Whatever other components answer is part of a step: the downloads and the order in which they
finish, the results of the volume manager, of garden and of the process.  `History` is what
the node has asked of these components so far.  Logging, metrics and events are left out.
-/

namespace Diego.Executor

/-! ## Texts -/

def downloadCachedDependenciesFailed : GoString := bytes "failed to download cached artifacts"
def containerCreationFailedMessage : GoString := bytes "failed to create container"
def containerExpirationMessage : GoString := bytes "expired container"
def containerMissingMessage : GoString := bytes "missing garden container"
def volmanMountFailed : GoString := bytes "failed to mount volume"
def bindMountCleanupFailed : GoString := bytes "failed to cleanup bindmount artifacts"
def credDirFailed : GoString := bytes "failed to create credentials directory"
def volumeMountedFileFailed : GoString := bytes "failed to create volume mounted files"

/-! ## Cached dependencies -/

structure BindMountCacheKey where
  cacheKey : String
  dir : String
  deriving DecidableEq

/-- How the download of one dependency ends. -/
inductive Fetch
  /-- The URL cannot be parsed or `FetchAsDirectory` fails. -/
  | failed (message : GoString)
  | fetched (dir : String)
  deriving DecidableEq

/-- The downloads in the order in which the loop of `DownloadCachedDependencies` takes their
results from the two channels. -/
abbrev Downloads := List (CachedDependency × Fetch)

/-- The references that the downloads acquire. -/
def fetchedKeys : Downloads → List BindMountCacheKey
  | [] => []
  | (_, .failed _) :: downloads => fetchedKeys downloads
  | (dependency, .fetched dir) :: downloads => ⟨dependency.cacheKey, dir⟩ :: fetchedKeys downloads

/-- The loop that empties `mountChan` after all goroutines have ended. -/
def drainMounts : Downloads → List BindMountCacheKey → List BindMountCacheKey
  | [], keys => keys
  | (_, .failed _) :: downloads, keys => drainMounts downloads keys
  | (dependency, .fetched dir) :: downloads, keys =>
    drainMounts downloads (keys ++ [⟨dependency.cacheKey, dir⟩])

/-- The loop of `DownloadCachedDependencies`.  After the first error it waits for the other
downloads and collects those that succeeded. -/
def downloadCachedDependencies :
    Downloads → List BindMountCacheKey → List BindMountCacheKey × Option Error
  | [], keys => (keys, none)
  | (dependency, .fetched dir) :: downloads, keys =>
    downloadCachedDependencies downloads (keys ++ [⟨dependency.cacheKey, dir⟩])
  | (_, .failed message) :: downloads, keys =>
    (drainMounts downloads keys, some (.other message))

/-- What `CloseDirectory` returns. -/
inductive CloseResult
  | closed
  | alreadyClosed
  | entryNotFound
  | failed
  deriving DecidableEq

/-- The result of `ReleaseCachedDependencies`, which goes on after an error. -/
def releaseCachedDependencies (close : Nat → CloseResult) (keys : List BindMountCacheKey) : Bool :=
  (List.range keys.length).any fun i => close i = .failed

/-! ## The process of a container -/

/-- An error of an ifrit process: a `grouper.ErrorTrace` or any other. -/
inductive ExitError
  | other (message : GoString)
  | trace (events : List (String × Option ExitError))

/-- The arguments of `complete`. -/
structure Completion where
  failed : Bool
  failureReason : GoString
  retryable : Bool
  deriving DecidableEq

def completionOfMessage (message : GoString) : Completion :=
  if message ≠ [] then ⟨true, message, false⟩ else ⟨false, [], false⟩

/-- The calls of `complete` that `completeWithError` makes for the events of a trace: one for
each error up to the first nested trace, whose own errors end the loop. -/
def completionsOfTrace : List (String × Option ExitError) → List Completion
  | [] => []
  | (_, none) :: events => completionsOfTrace events
  | (member, some (.other message)) :: events =>
    completionOfMessage (if member = "runner" then message
      else bytes member ++ bytes " exited: " ++ message) :: completionsOfTrace events
  -- completeWithError of the nested trace, and then the return inside the loop
  | (_, some (.trace nested)) :: _ => completionsOfTrace nested

/-- The calls of `complete` that `completeWithError` makes. -/
def completeWithError : Option ExitError → List Completion
  | none => [completionOfMessage []]
  | some (.other message) => [completionOfMessage message]
  | some (.trace events) => completionsOfTrace events

/-- Where the goroutine `run` is. -/
inductive Goroutine
  | starting
  /-- Waits for the process to become ready or to exit. -/
  | waiting (process : Nat)
  /-- The process is ready, and `info` is next. -/
  | healthy
  /-- Waits for the process to exit, and for messages about readiness. -/
  | running (process : Nat)
  /-- Has these calls of `complete` to make, and then returns. -/
  | completing (completions : List Completion)

/-- A process that `Run` started, with its goroutine.  `readinessCh` says that the runner
has a channel for readiness. -/
structure Execution where
  readinessCh : Bool
  ready : Bool
  exited : Option (Option ExitError)
  goroutine : Goroutine

/-! ## Calls -/

abbrev CallId := Nat

/-- The two methods that call `stop`. -/
inductive Stopper
  | stop
  | destroy
  deriving DecidableEq

inductive Call
  | idle
  /-- `Create` has `opLock`. -/
  | create
  /-- `Create` has a copy of `info` and prepares the container. -/
  | creating (info : Container)
  /-- `Update` has `opLock`. -/
  | update (req : UpdateRequest)
  /-- `Update` is about to send on `regenerateCertsCh`. -/
  | sending (req : UpdateRequest)
  /-- The flag of the method is set, and `opLock` is next. -/
  | locking (who : Stopper)
  /-- `stop` with `opLock`, before it marks the container as stopped. -/
  | stopping (who : Stopper)
  /-- `stop` found no process and the container not completed. -/
  | completing (who : Stopper)
  /-- `Destroy` after `stop`. -/
  | awaiting
  /-- `Destroy` once the process has exited. -/
  | copying
  /-- `Destroy` has a copy of `info` and waits for garden. -/
  | destroying (info : Container)
  /-- `opLock` is released, and the flag is next. -/
  | clearing (who : Stopper) (err : Option Error)
  /-- `Destroy` has returned. -/
  | destroyed (err : Option Error)
  /-- Another method has returned. -/
  | returned (err : Option Error)

def Stopper.returned (err : Option Error) : Stopper → Call
  | .stop => .returned err
  | .destroy => .destroyed err

def Call.holdsOpLock : Call → Bool
  | .create | .creating _ | .update _ | .sending _ | .stopping _ | .completing _ | .awaiting
  | .copying | .destroying _ => true
  | .idle | .locking _ | .clearing _ _ | .destroyed _ | .returned _ => false

/-! ## The node -/

inductive CredManager
  /-- `noopManager`, whose runner waits for a signal. -/
  | noop
  /-- `credManager`, whose runner receives from `regenerateCertsCh`. -/
  | issuing
  deriving DecidableEq

structure ContainerConfig where
  credManager : CredManager
  reservedExpirationTime : Int

/-- What a node has asked of other components. -/
structure History where
  /-- The references that `FetchAsDirectory` returned. -/
  fetched : List BindMountCacheKey
  /-- The references passed to `CloseDirectory`. -/
  closed : List BindMountCacheKey
  /-- The volumes that `Mount` mounted. -/
  mounted : List VolumeMount
  unmounted : List VolumeMount
  /-- `Destroy` of garden returned to `Destroy` of the node, and the container is gone. -/
  gardenDestroyed : Bool

structure StoreNode where
  config : ContainerConfig
  info : Container
  bindMountCacheKeys : List BindMountCacheKey
  gardenContainer : Bool
  opLock : Option CallId
  destroying : Bool
  stopping : Bool
  /-- The channel has room for one request, and this says whether it is taken. -/
  regenerateCertsCh : Bool
  /-- The number of processes that were started; `process` is the last of them. -/
  runs : Nat
  executions : Nat → Execution
  calls : CallId → Call
  history : History

def newStoreNode (config : ContainerConfig) (container : Container) : StoreNode where
  config := config
  info := container
  bindMountCacheKeys := []
  gardenContainer := false
  opLock := none
  destroying := false
  stopping := false
  regenerateCertsCh := false
  runs := 0
  executions _ := ⟨false, false, none, .starting⟩
  calls _ := .idle
  history := ⟨[], [], [], [], false⟩

namespace StoreNode

variable (n : StoreNode) (call : CallId)

/-! ## Access to the fields -/

def setCall (state : Call) : StoreNode :=
  { n with calls := Function.update n.calls call state }

def acquireOpLock (state : Call) : StoreNode :=
  { n.setCall call state with opLock := some call }

def releaseOpLock (state : Call) : StoreNode :=
  { n.setCall call state with opLock := none }

def setExecution (execution : Nat) (state : Execution) : StoreNode :=
  { n with executions := Function.update n.executions execution state }

def setGoroutine (execution : Nat) (goroutine : Goroutine) : StoreNode :=
  n.setExecution execution { n.executions execution with goroutine := goroutine }

def complete (completion : Completion) : StoreNode :=
  { n with
    info := n.info.transitionToComplete completion.failed completion.failureReason
      completion.retryable }

/-- The flag of a method that calls `stop`. -/
def flag : Stopper → Bool
  | .stop => n.stopping
  | .destroy => n.destroying

def setFlag (value : Bool) : Stopper → StoreNode
  | .stop => { n with stopping := value }
  | .destroy => { n with destroying := value }

/-! ## Initialize, Expire and Reap -/

def nodeInitialize (req : RunRequest) : StoreNode × Option Error :=
  match n.info.transitionToInitialize req with
  | .ok info => ({ n with info := info }, none)
  | .error err => (n, some err)

def expire (now : Int) : StoreNode × Bool :=
  if n.info.state ≠ .reserved then (n, false)
  else if now - n.info.allocatedAt ≥ n.config.reservedExpirationTime then
    (n.complete ⟨true, containerExpirationMessage, false⟩, true)
  else (n, false)

def reap : StoreNode × Bool :=
  if n.info.isCreated then (n.complete ⟨true, containerMissingMessage, false⟩, true)
  else (n, false)

/-! ## Create -/

/-- An error of the volume manager; the text of a `SafeError` may be shown. -/
structure MountError where
  safe : Bool
  message : GoString

def MountError.failMsg (err : MountError) : GoString :=
  if err.safe then volmanMountFailed ++ bytes ", errors: " ++ err.message else volmanMountFailed

/-- The results of the steps of `createContainer`; `garden` is that of
`createGardenContainer`. -/
structure CreateEnvironment where
  downloads : Downloads
  mount : Nat → Option MountError
  credDir : Option Error
  volumeMountedFiles : Option Error
  garden : Option Error

/-- `mountVolumes`: the volumes that were mounted, up to the first that fails. -/
def mountVolumes (mount : Nat → Option MountError) :
    Nat → List VolumeMount → List VolumeMount × Option MountError
  | _, [] => ([], none)
  | i, volume :: volumes =>
    match mount i with
    | some err => ([], some err)
    | none =>
      let rest := mountVolumes mount (i + 1) volumes
      (volume :: rest.1, rest.2)

/-- `ReleaseCachedDependencies` passes the keys to `CloseDirectory`. -/
def closeDirectories (keys : List BindMountCacheKey) : StoreNode :=
  { n with history := { n.history with closed := n.history.closed ++ keys } }

/-- The closure `createContainer` of `Create`, with the copy of `info` it works on. -/
def createContainer (info : Container) (env : CreateEnvironment) : StoreNode × Option Error :=
  let mounts := downloadCachedDependencies env.downloads []
  let n := { n with
    history := { n.history with fetched := n.history.fetched ++ fetchedKeys env.downloads } }
  -- the only failure after which the cached directories are released
  match mounts.2 with
  | some err =>
    ((n.closeDirectories mounts.1).complete ⟨true, downloadCachedDependenciesFailed, true⟩,
      some err)
  | none =>
    let volumeMounts := mountVolumes env.mount 0 info.runInfo.volumeMounts
    let n := { n with
      history := { n.history with mounted := n.history.mounted ++ volumeMounts.1 } }
    match volumeMounts.2 with
    | some err => (n.complete ⟨true, err.failMsg, true⟩, some (.other err.message))
    | none =>
      match env.credDir with
      | some err => (n.complete ⟨true, credDirFailed, true⟩, some err)
      | none =>
        match if info.runInfo.volumeMountedFiles.length > 0 then env.volumeMountedFiles
          else none with
        | some err => (n.complete ⟨true, volumeMountedFileFailed, true⟩, some err)
        | none =>
          match env.garden with
          | some err =>
            (n.complete ⟨true, containerCreationFailedMessage ++ bytes ": " ++
              err.message, true⟩, some err)
          | none =>
            let created := { n with
              gardenContainer := true, bindMountCacheKeys := mounts.1 }
            match info.transitionToCreate with
            | .ok info => ({ created with info := info }, none)
            -- the container in garden stays, although the transition failed
            | .error err => ({ created with info := info }, some err)

def create : Option StoreNode :=
  match n.calls call, n.opLock with
  | .idle, none => some (n.acquireOpLock call .create)
  | _, _ => none

/-- `Create` copies `info` and validates the transition. -/
def createCopy : Option StoreNode :=
  match n.calls call with
  | .create =>
    if n.info.state.validateTransitionTo .created then
      some (n.setCall call (.creating n.info))
    else some (n.releaseOpLock call (.returned (some .invalidTransition)))
  | _ => none

/-- `Create` to its end.  Every dependency of the container is downloaded once. -/
def createFinish (env : CreateEnvironment) : Option StoreNode :=
  match n.calls call with
  | .creating info =>
    if (env.downloads.map Prod.fst).Perm info.runInfo.cachedDependencies then
      let result := n.createContainer info env
      some (result.1.releaseOpLock call (.returned result.2))
    else none
  | _ => none

/-! ## Run -/

/-- `ifrit.Background` and `go n.run`. -/
def background (readinessCh : Bool) : StoreNode :=
  { n.setExecution n.runs ⟨readinessCh, false, none, .starting⟩ with runs := n.runs + 1 }

/-- `Run`, which takes no other lock and so is one step.  `stepsRunner` is the error of
`StepsRunner`. -/
def run (stepsRunner : Option Error) (readinessCh : Bool) : Option StoreNode :=
  match n.calls call, n.opLock with
  | .idle, none =>
    if n.info.state ≠ .created then
      some (n.setCall call (.returned (some .invalidTransition)))
    else
      match stepsRunner with
      | some err => some (n.setCall call (.returned (some err)))
      | none => some ((n.background readinessCh).setCall call (.returned none))
  | _, _ => none

/-- The process becomes ready. -/
def ready (execution : Nat) : Option StoreNode :=
  if execution < n.runs ∧ (n.executions execution).exited.isNone then
    some (n.setExecution execution { n.executions execution with ready := true })
  else none

/-- The process exits. -/
def exit (execution : Nat) (err : Option ExitError) : Option StoreNode :=
  if execution < n.runs ∧ (n.executions execution).exited.isNone then
    some (n.setExecution execution { n.executions execution with exited := some err })
  else none

/-- The goroutine `run` reads `process`. -/
def watch (execution : Nat) : Option StoreNode :=
  match (n.executions execution).goroutine with
  -- another Run may have set process since, so this is the last one and not its own
  | .starting =>
    if execution < n.runs then some (n.setGoroutine execution (.waiting (n.runs - 1)))
    else none
  | _ => none

def receiveReady (execution : Nat) : Option StoreNode :=
  match (n.executions execution).goroutine with
  | .waiting process =>
    if (n.executions process).ready then some (n.setGoroutine execution .healthy) else none
  | _ => none

def markRunning (execution : Nat) : Option StoreNode :=
  match (n.executions execution).goroutine with
  | .healthy =>
    some { n.setGoroutine execution (.running (n.runs - 1)) with
      info := { n.info with
        state := .running
        routable := !(n.executions execution).readinessCh } }
  | _ => none

/-- The goroutine receives a message about readiness. -/
def receiveReadiness (execution : Nat) (isReady : Bool) : Option StoreNode :=
  match (n.executions execution).goroutine with
  | .running _ =>
    if (n.executions execution).readinessCh then
      some { n.setGoroutine execution (.running (n.runs - 1)) with
        info := { n.info with routable := isReady } }
    else none
  | _ => none

/-- The goroutine receives from `process.Wait()`. -/
def receiveExit (execution : Nat) : Option StoreNode :=
  match (n.executions execution).goroutine with
  | .waiting process | .running process =>
    match (n.executions process).exited with
    | some err => some (n.setGoroutine execution (.completing (completeWithError err)))
    | none => none
  | _ => none

/-- The goroutine makes its next call of `complete`. -/
def completeNext (execution : Nat) : Option StoreNode :=
  match (n.executions execution).goroutine with
  | .completing (completion :: completions) =>
    some ((n.setGoroutine execution (.completing completions)).complete completion)
  | _ => none

/-! ## Update -/

def update (req : UpdateRequest) : Option StoreNode :=
  match n.calls call, n.opLock with
  | .idle, none => some (n.acquireOpLock call (.update req))
  | _, _ => none

def updateRunInfo (runInfo : RunInfo) (req : UpdateRequest) : RunInfo :=
  { runInfo with
    internalRoutes := req.internalRoutes.getD runInfo.internalRoutes
    logConfigTags := req.metricTags.getD runInfo.logConfigTags
    metricsConfigTags := req.metricTags.getD runInfo.metricsConfigTags }

/-- The result of the part of `Update` that sets the property of the garden container. -/
def updateResult (req : UpdateRequest) (setProperty : Option Error) : Option Error :=
  if req.metricTags.isSome ∧ n.gardenContainer then setProperty else none

/-- `Update` with `infoLock`.  `marshal` is the error of the JSON marshaller. -/
def updateInfo (marshal setProperty : Option Error) : Option StoreNode :=
  match n.calls call with
  | .update req =>
    let n := { n with
      info := { n.info with runInfo := updateRunInfo n.info.runInfo req } }
    -- the tags are set before they are marshalled, and stay when that fails
    match if req.metricTags.isSome then marshal else none with
    | some err => some (n.releaseOpLock call (.returned (some err)))
    | none =>
      if req.internalRoutes.isSome then some (n.setCall call (.sending req))
      else some (n.releaseOpLock call (.returned (n.updateResult req setProperty)))
  | _ => none

/-- `Update` sends on `regenerateCertsCh`, which blocks while the channel is full. -/
def send (setProperty : Option Error) : Option StoreNode :=
  match n.calls call, n.regenerateCertsCh with
  | .sending req, false =>
    some { n.releaseOpLock call (.returned (n.updateResult req setProperty)) with
      regenerateCertsCh := true }
  | _, _ => none

/-- The credential runner of a process that has not exited. -/
def Receiving (execution : Nat) : Prop :=
  n.config.credManager = .issuing ∧ execution < n.runs ∧ (n.executions execution).exited = none

instance (execution : Nat) : Decidable (n.Receiving execution) :=
  match hexited : (n.executions execution).exited with
  | some _ => isFalse fun h => by simp [h.2.2] at hexited
  | none =>
    decidable_of_iff (n.config.credManager = .issuing ∧ execution < n.runs)
      (by simp [Receiving, hexited])

def receive (execution : Nat) : Option StoreNode :=
  if n.Receiving execution ∧ n.regenerateCertsCh then some { n with regenerateCertsCh := false }
  else none

/-! ## Stop and Destroy -/

/-- The flag is swapped from zero to one, or the method returns. -/
def signal (who : Stopper) : Option StoreNode :=
  match n.calls call with
  | .idle =>
    if n.flag who then some (n.setCall call (who.returned none))
    else some ((n.setFlag true who).setCall call (.locking who))
  | _ => none

def lock : Option StoreNode :=
  match n.calls call, n.opLock with
  | .locking who, none => some (n.acquireOpLock call (.stopping who))
  | _, _ => none

def stopReturn : Stopper → StoreNode
  | .stop => n.releaseOpLock call (.clearing .stop none)
  | .destroy => n.setCall call .awaiting

/-- `stop` marks the container as stopped, signals the process if there is one, and looks at
the state if not. -/
def stop : Option StoreNode :=
  match n.calls call with
  | .stopping who =>
    let n := { n with
      info := { n.info with runResult := { n.info.runResult with stopped := true } } }
    -- the state is read without infoLock, which complete takes only later
    if n.runs = 0 ∧ n.info.state ≠ .completed then some (n.setCall call (.completing who))
    else some (n.stopReturn call who)
  | _ => none

def stopComplete : Option StoreNode :=
  match n.calls call with
  | .completing who =>
    some ((n.complete ⟨true, bytes "stopped-before-running", false⟩).stopReturn call who)
  | _ => none

/-- `Destroy` receives from `process.Wait()`, if there is a process. -/
def await : Option StoreNode :=
  match n.calls call with
  | .awaiting =>
    if n.runs = 0 ∨ (n.executions (n.runs - 1)).exited.isSome then
      some (n.setCall call .copying)
    else none
  | _ => none

def destroyCopy : Option StoreNode :=
  match n.calls call with
  | .copying => some (n.setCall call (.destroying n.info))
  | _ => none

inductive GardenDestroy
  | destroyed
  | containerNotFound
  | concurrentDestroy
  | failed (message : GoString)

/-- The answers to `Destroy`; errors of `Unmount` are only logged. -/
structure DestroyEnvironment where
  garden : GardenDestroy
  close : Nat → CloseResult

def destroyContainer : GardenDestroy → Option Error
  | .destroyed | .containerNotFound | .concurrentDestroy => none
  | .failed message => some (.other message)

def umountVolumeMounts (info : Container) : StoreNode :=
  { n with
    history := { n.history with
      unmounted := n.history.unmounted ++ info.runInfo.volumeMounts } }

/-- `Destroy` from the call of garden on, with its deferred calls. -/
def destroyInGarden (info : Container) (env : DestroyEnvironment) : StoreNode × Option Error :=
  match destroyContainer env.garden with
  -- the volumes are unmounted in a deferred call, so also when garden fails
  | some err => (n.umountVolumeMounts info, some err)
  | none =>
    let n := { n with history := { n.history with gardenDestroyed := true } }
    ((n.closeDirectories n.bindMountCacheKeys).umountVolumeMounts info,
      if releaseCachedDependencies env.close n.bindMountCacheKeys then
        some (.other bindMountCleanupFailed)
      else none)

def destroyFinish (env : DestroyEnvironment) : Option StoreNode :=
  match n.calls call with
  | .destroying info =>
    let result := n.destroyInGarden info env
    some (result.1.releaseOpLock call (.clearing .destroy result.2))
  | _ => none

/-- The deferred store of zero into the flag, after which the method returns. -/
def clear : Option StoreNode :=
  match n.calls call with
  | .clearing who err => some ((n.setFlag false who).setCall call (who.returned err))
  | _ => none

end StoreNode

/-! ## Runs -/

inductive NodeAction
  | nodeInitialize (req : RunRequest)
  | expire (now : Int)
  | reap
  | create (call : CallId)
  | createCopy (call : CallId)
  | createFinish (call : CallId) (env : StoreNode.CreateEnvironment)
  | run (call : CallId) (stepsRunner : Option Error) (readinessCh : Bool)
  | ready (execution : Nat)
  | exit (execution : Nat) (err : Option ExitError)
  | watch (execution : Nat)
  | receiveReady (execution : Nat)
  | markRunning (execution : Nat)
  | receiveReadiness (execution : Nat) (isReady : Bool)
  | receiveExit (execution : Nat)
  | completeNext (execution : Nat)
  | update (call : CallId) (req : UpdateRequest)
  | updateInfo (call : CallId) (marshal setProperty : Option Error)
  | send (call : CallId) (setProperty : Option Error)
  | receive (execution : Nat)
  | signal (call : CallId) (who : Stopper)
  | lock (call : CallId)
  | stop (call : CallId)
  | stopComplete (call : CallId)
  | await (call : CallId)
  | destroyCopy (call : CallId)
  | destroyFinish (call : CallId) (env : StoreNode.DestroyEnvironment)
  | clear (call : CallId)

/-- One step of a node, if it is possible. -/
def StoreNode.step : NodeAction → StoreNode → Option StoreNode
  | .nodeInitialize req, n => some (n.nodeInitialize req).1
  | .expire now, n => some (n.expire now).1
  | .reap, n => some n.reap.1
  | .create call, n => n.create call
  | .createCopy call, n => n.createCopy call
  | .createFinish call env, n => n.createFinish call env
  | .run call stepsRunner readinessCh, n => n.run call stepsRunner readinessCh
  | .ready execution, n => n.ready execution
  | .exit execution err, n => n.exit execution err
  | .watch execution, n => n.watch execution
  | .receiveReady execution, n => n.receiveReady execution
  | .markRunning execution, n => n.markRunning execution
  | .receiveReadiness execution isReady, n => n.receiveReadiness execution isReady
  | .receiveExit execution, n => n.receiveExit execution
  | .completeNext execution, n => n.completeNext execution
  | .update call req, n => n.update call req
  | .updateInfo call marshal setProperty, n => n.updateInfo call marshal setProperty
  | .send call setProperty, n => n.send call setProperty
  | .receive execution, n => n.receive execution
  | .signal call who, n => n.signal call who
  | .lock call, n => n.lock call
  | .stop call, n => n.stop call
  | .stopComplete call, n => n.stopComplete call
  | .await call, n => n.await call
  | .destroyCopy call, n => n.destroyCopy call
  | .destroyFinish call env, n => n.destroyFinish call env
  | .clear call, n => n.clear call

end Diego.Executor
