import Diego.GoMap

/-!
# The BBS models the route emitter reads

The parts of `bbs/models` that reach the routing table: modification tags,
actual and desired LRPs, their routing information, and the LRP events of the
BBS event stream.  Fields nothing below reads (crash counts, placement errors,
resource limits, trace ids, ...) are left out.

A desired LRP carries its routing information as one JSON document per router.
`CFRoutesFromRoutingInfo`, `TCPRoutesFromRoutingInfo` and
`InternalRoutesFromRoutingInfo` decode the three documents; `Routes` holds what
they decode to, so every statement about a desired LRP is a statement about
every JSON document.  The BBS fills in the modification tag of every LRP it
hands out, so the tag of an LRP is never nil here; the tag of a routing table
entry may be.
-/

namespace Diego.Models

/-! ## Modification tags -/

structure ModificationTag where
  epoch : String
  index : Nat
  deriving DecidableEq, Inhabited

/-- `SucceededBy`.  The receiver may be nil: an entry that was never tagged is
succeeded by everything. -/
def succeededBy (tag : Option ModificationTag) (other : ModificationTag) : Bool :=
  match tag with
  | none => true
  | some tag =>
    if tag.epoch = "" ∨ other.epoch = "" then true
    else tag.epoch ≠ other.epoch || tag.index < other.index

/-- `Equal`, against a tag that is not nil. -/
def tagEqual (tag : Option ModificationTag) (other : ModificationTag) : Bool :=
  tag = some other

/-! ## Actual LRPs -/

inductive ActualLRPState
  | unclaimed
  | claimed
  | running
  | crashed
  deriving DecidableEq, Inhabited

inductive Presence
  | ordinary
  | evacuating
  | suspect
  deriving DecidableEq, Inhabited

inductive PreferredAddress
  | unknown
  | instanceAddress
  | hostAddress
  deriving DecidableEq, Inhabited

structure PortMapping where
  containerPort : Nat
  hostPort : Nat
  containerTlsProxyPort : Nat := 0
  hostTlsProxyPort : Nat := 0
  deriving DecidableEq, Inhabited

structure ActualLRPKey where
  processGuid : String
  index : Int
  domain : String
  deriving DecidableEq, Inhabited

structure ActualLRPInstanceKey where
  instanceGuid : String
  cellId : String
  deriving DecidableEq, Inhabited

structure ActualLRPNetInfo where
  address : String
  /-- `[]*PortMapping`: an element may be nil. -/
  ports : List (Option PortMapping)
  instanceAddress : String
  preferredAddress : PreferredAddress
  instanceIpv6Address : String
  deriving DecidableEq, Inhabited

/-- What changes over the life of an LRP instance. -/
structure ActualLRPInfo extends ActualLRPNetInfo where
  state : ActualLRPState
  since : Int
  modificationTag : ModificationTag
  presence : Presence
  optionalRoutable : Option Bool
  availabilityZone : String
  deriving DecidableEq, Inhabited

structure ActualLRP extends ActualLRPKey, ActualLRPInstanceKey, ActualLRPInfo
  deriving DecidableEq, Inhabited

def ActualLRP.routableExists (lrp : ActualLRP) : Bool :=
  lrp.optionalRoutable.isSome

/-- `GetRoutable`: false when the field is missing. -/
def ActualLRP.getRoutable (lrp : ActualLRP) : Bool :=
  lrp.optionalRoutable.getD false

def ActualLRPInfo.toActualLRP (info : ActualLRPInfo) (lrpKey : ActualLRPKey)
    (lrpInstanceKey : ActualLRPInstanceKey) : ActualLRP where
  toActualLRPKey := lrpKey
  toActualLRPInstanceKey := lrpInstanceKey
  toActualLRPInfo := info

/-! ## Desired LRPs -/

/-- `MetricTagValue`, with the dynamic value it stands for if it is not static. -/
inductive MetricTagValue
  | static (value : String)
  | index
  | instanceGuid
  deriving DecidableEq

structure CFRoute where
  hostnames : List String
  port : Nat
  routeServiceUrl : String := ""
  isolationSegment : String := ""
  protocol : String := ""
  options : String := ""
  deriving DecidableEq, Inhabited

structure TCPRoute where
  routerGroupGuid : String
  externalPort : Nat
  containerPort : Nat
  sniHostname : Option String := none
  terminateFrontendTLS : Bool := false
  enableBackendMTLS : Bool := false
  deriving DecidableEq, Inhabited

/-- The routing information of a desired LRP, decoded. -/
structure Routes where
  cfRouter : List CFRoute := []
  tcpRouter : List TCPRoute := []
  internalRouter : List String := []
  deriving DecidableEq, Inhabited

structure DesiredLRP where
  processGuid : String
  domain : String
  instances : Int
  routes : Option Routes
  logGuid : String
  metricTags : List (String × MetricTagValue) := []
  modificationTag : ModificationTag
  deriving DecidableEq, Inhabited

/-! ## Domains -/

/-- `DomainSet`: the domains the BBS considers fresh. -/
abbrev DomainSet := List String

def DomainSet.contains (domains : DomainSet) (domain : String) : Bool :=
  domains.elem domain

@[simp] theorem DomainSet.contains_iff {domains : DomainSet} {domain : String} :
    DomainSet.contains domains domain = true ↔ domain ∈ domains := by
  simp [DomainSet.contains]

/-! ## Events -/

/-- The LRP events of the BBS stream.  Every LRP in them is a pointer and may be
nil. -/
inductive Event
  | desiredLRPCreated (desiredLRP : Option DesiredLRP)
  | desiredLRPChanged (before after : Option DesiredLRP)
  | desiredLRPRemoved (desiredLRP : Option DesiredLRP)
  | actualLRPInstanceCreated (actualLRP : Option ActualLRP)
  | actualLRPInstanceChanged (key : ActualLRPKey) (instanceKey : ActualLRPInstanceKey)
      (before after : Option ActualLRPInfo)
  | actualLRPInstanceRemoved (actualLRP : Option ActualLRP)
  | actualLRPCrashed (key : ActualLRPKey) (instanceKey : ActualLRPInstanceKey)
  deriving DecidableEq

/-- `GetProcessGuid`, which is safe on a nil LRP. -/
def getProcessGuid (desiredLRP : Option DesiredLRP) : String :=
  (desiredLRP.map DesiredLRP.processGuid).getD ""

def getInstanceGuid (actualLRP : Option ActualLRP) : String :=
  (actualLRP.map fun lrp => lrp.instanceGuid).getD ""

/-- `Key`, under which the watcher caches the event. -/
def Event.key : Event → String
  | .desiredLRPCreated desiredLRP => getProcessGuid desiredLRP
  | .desiredLRPChanged before _ => getProcessGuid before
  | .desiredLRPRemoved desiredLRP => getProcessGuid desiredLRP
  | .actualLRPInstanceCreated actualLRP => getInstanceGuid actualLRP
  | .actualLRPInstanceChanged _ instanceKey _ _ => instanceKey.instanceGuid
  | .actualLRPInstanceRemoved actualLRP => getInstanceGuid actualLRP
  | .actualLRPCrashed _ instanceKey => instanceKey.instanceGuid

/-! ## Tag order -/

variable {tag other : ModificationTag}

theorem succeededBy_of_lt (hindex : tag.index < other.index) :
    succeededBy (some tag) other = true := by
  simp [succeededBy, hindex]

/-- Within one epoch a tag is stale exactly when its index is smaller. -/
theorem tagEqual_or_succeededBy (hepoch : tag.epoch = other.epoch)
    (hindex : tag.index ≤ other.index) :
    (tagEqual (some tag) other || succeededBy (some tag) other) = true := by
  rcases Nat.lt_or_eq_of_le hindex with hlt | heq
  · rw [succeededBy_of_lt hlt, Bool.or_true]
  · have htag : tag = other := by
      cases tag
      simp_all
    simp [tagEqual, htag]

end Diego.Models
