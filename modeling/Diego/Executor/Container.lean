import Diego.GoMap

/-!
# Containers of the executor

`executor/resources.go` and the requests of `executor/client.go`: the record the executor
keeps for a container, its states, and the resources of a cell.
-/

namespace Diego.Executor

/-- A Go string is its bytes: `truncateString` cuts between any two of them. -/
abbrev GoString := List UInt8

def bytes (text : String) : GoString :=
  text.toUTF8.data.toList

abbrev Tags := GoMap String String

def Tags.add (tags other : Tags) : Tags :=
  other.entries.foldl (fun tags entry => tags.insert entry.1 entry.2) tags

/-! ## Errors -/

inductive Error
  | containerGuidNotAvailable
  | insufficientResourcesAvailable
  | containerNotFound
  | guidNotSpecified
  | invalidTransition
  /-- An error of another component, or one made of a text. -/
  | other (message : GoString)
  deriving DecidableEq

def Error.message : Error → GoString
  | .containerGuidNotAvailable => bytes "container guid not available"
  | .insufficientResourcesAvailable => bytes "insufficient resources available"
  | .containerNotFound => bytes "container not found"
  | .guidNotSpecified => bytes "container guid not specified"
  | .invalidTransition => bytes "container cannot transition to given state"
  | .other message => message

/-! ## Resources -/

structure Resource where
  memoryMB : Int
  diskMB : Int
  maxPids : Int
  deriving DecidableEq

structure ExecutorResources where
  memoryMB : Int
  diskMB : Int
  containers : Int
  deriving DecidableEq

namespace ExecutorResources

def canSubtract (r : ExecutorResources) (res : Resource) : Bool :=
  r.memoryMB ≥ res.memoryMB && r.diskMB ≥ res.diskMB && r.containers > 0

/-- `Subtract`, with the resources it leaves behind. -/
def subtract (r : ExecutorResources) (res : Resource) : ExecutorResources × Bool :=
  if !r.canSubtract res then (r, false)
  else (⟨r.memoryMB - res.memoryMB, r.diskMB - res.diskMB, r.containers - 1⟩, true)

def add (r : ExecutorResources) (res : Resource) : ExecutorResources :=
  ⟨r.memoryMB + res.memoryMB, r.diskMB + res.diskMB, r.containers + 1⟩

end ExecutorResources

/-! ## Requests -/

structure AllocationRequest where
  guid : String
  generateLogMetrics : Bool
  resource : Resource
  tags : Tags
  deriving DecidableEq

def AllocationRequest.validate (req : AllocationRequest) : Option Error :=
  if req.guid = "" then some .guidNotSpecified else none

structure AllocationFailure where
  request : AllocationRequest
  errorMsg : GoString
  deriving DecidableEq

structure CachedDependency where
  cacheKey : String
  deriving DecidableEq

structure VolumeMount where
  driver : String
  volumeId : String
  deriving DecidableEq

structure VolumeMountedFiles where
  path : String
  content : String
  deriving DecidableEq

/-- The parts of `RunInfo` that the container store itself reads or writes. -/
structure RunInfo where
  internalRoutes : List String
  logConfigTags : Tags
  metricsConfigTags : Tags
  cachedDependencies : List CachedDependency
  volumeMounts : List VolumeMount
  volumeMountedFiles : List VolumeMountedFiles
  deriving DecidableEq

/-- The zero value of a `RunInfo`. -/
instance : Inhabited RunInfo :=
  ⟨⟨[], ∅, ∅, [], [], []⟩⟩

structure RunRequest where
  runInfo : RunInfo
  tags : Tags
  deriving DecidableEq

structure UpdateRequest where
  internalRoutes : Option (List String)
  metricTags : Option Tags
  deriving DecidableEq

/-! ## Containers -/

inductive State
  | invalid
  | reserved
  | initializing
  | created
  | running
  | completed
  deriving DecidableEq

structure ContainerRunResult where
  failed : Bool
  failureReason : GoString
  retryable : Bool
  stopped : Bool
  deriving DecidableEq

structure Container where
  guid : String
  resource : Resource
  runInfo : RunInfo
  tags : Tags
  state : State
  routable : Bool
  allocatedAt : Int
  runResult : ContainerRunResult
  deriving DecidableEq

def newReservedContainerFromAllocationRequest (req : AllocationRequest) (allocatedAt : Int) :
    Container where
  guid := req.guid
  resource := req.resource
  runInfo := default
  tags := req.tags
  state := .reserved
  routable := false
  allocatedAt := allocatedAt
  runResult := ⟨false, [], false, false⟩

def truncateString (s : GoString) (length : Nat) : GoString :=
  if s.length ≤ length then s
  else
    let delimeter := bytes "\n... (truncated)\n"
    let last := s.length - length / 2 + delimeter.length / 2
    s.take (length / 2 - 1 - delimeter.length / 2) ++ delimeter ++ s.drop last

/-- `ValidateTransitionTo`, on the state of the container. -/
def State.validateTransitionTo : State → State → Bool
  | _, .completed => true
  | .reserved, newState => newState = .initializing
  | .initializing, newState => newState = .created
  | .created, newState => newState = .running
  | _, _ => false

namespace Container

def transitionToInitialize (c : Container) (req : RunRequest) : Except Error Container :=
  if c.state.validateTransitionTo .initializing then
    .ok { c with state := .initializing, runInfo := req.runInfo, tags := c.tags.add req.tags }
  else .error .invalidTransition

def transitionToCreate (c : Container) : Except Error Container :=
  if c.state.validateTransitionTo .created then .ok { c with state := .created }
  else .error .invalidTransition

def transitionToComplete (c : Container) (failed : Bool) (failureReason : GoString)
    (retryable : Bool) : Container :=
  { c with
    runResult := { c.runResult with
      failed := failed
      failureReason := truncateString failureReason 10000
      retryable := retryable }
    state := .completed }

def isCreated (c : Container) : Bool :=
  c.state ≠ .reserved && c.state ≠ .initializing && c.state ≠ .completed

end Container

end Diego.Executor
