import Diego.Executor.Container
import Diego.Models.LRP

/-!
# The permissions of an SSH connection

`diego-ssh/authenticators/permissions_builder.go`.  The builder looks up the one instance with
a process guid and an index in the BBS and puts its address into the configuration with which
the proxy connects to it.

The two critical options of `ssh.Permissions` are JSON documents of a `TargetConfig` and a
`LogMessage`; here they are the records themselves.  The BBS client decodes the port mappings of
an LRP, so none of them is nil.
-/

namespace Diego.SSH

open Diego.Models

/-! ## Records -/

inductive Error
  | authenticationFailed
  | fetchAppFailed
  | invalidCCResponse
  | invalidCredentials
  | invalidRequest
  | routeNotFound
  | multipleMatching (processGuid : String) (index : Int32)
  | noMatching (processGuid : String) (index : Int32)
  /-- An error of a client or of the JSON package. -/
  | other (message : String)
  deriving DecidableEq

structure SSHRoute where
  containerPort : Nat
  hostFingerprint : String
  host256Fingerprint : String
  user : String
  password : String
  privateKey : String
  deriving DecidableEq

structure TargetConfig where
  address : String
  tlsAddress : String
  serverCertDomainSAN : String
  hostFingerprint : String
  user : String
  password : String
  privateKey : String
  deriving DecidableEq

structure LogMessage where
  message : String
  tags : GoMap String String

structure CriticalOptions where
  proxyTargetConfig : TargetConfig
  logMessage : LogMessage

/-- `ssh.Permissions`. -/
structure Permissions where
  criticalOptions : Option CriticalOptions

structure ActualLRPFilter where
  processGuid : String
  index : Int32
  deriving DecidableEq

/-- A desired LRP with the document its routes have for `routes.DIEGO_SSH`, if there is one, and
what it unmarshals to. -/
structure RoutedLRP extends DesiredLRP where
  diegoSSH : Option (Except Error SSHRoute)

/-- The calls of the BBS client. -/
structure BBSClient where
  actualLRPs : ActualLRPFilter → Except Error (List ActualLRP)
  desiredLRPByProcessGuid : String → Except Error RoutedLRP

/-- The filter selects an LRP.  An empty process guid selects all of them. -/
def ActualLRPFilter.Matches (filter : ActualLRPFilter) (lrp : ActualLRP) : Prop :=
  (filter.processGuid = "" ∨ lrp.processGuid = filter.processGuid) ∧ lrp.index = filter.index.toInt

def BBSClient.Filters (bbsClient : BBSClient) : Prop :=
  ∀ filter lrps, bbsClient.actualLRPs filter = .ok lrps → ∀ lrp ∈ lrps, filter.Matches lrp

/-! ## The builder -/

structure PermissionsBuilder where
  bbsClient : BBSClient
  useDirectInstanceAddr : Bool

/-- What `Build` looks up and returns. -/
structure Built where
  lookup : ActualLRPFilter
  result : Except Error Permissions

def convertMetricTags (metricTags : List (String × MetricTagValue)) (actual : ActualLRP) :
    GoMap String String :=
  GoMap.ofPairs (metricTags.map fun (name, value) =>
    (name, match value with
      | .static value => value
      | .index => toString actual.index
      | .instanceGuid => actual.instanceGuid))

/-- A tag that is set unless the desired LRP has it. -/
def defaultTag (name : String) (value : MetricTagValue)
    (metricTags : List (String × MetricTagValue)) : List (String × MetricTagValue) :=
  if metricTags.any fun tag => tag.1 = name then metricTags else metricTags ++ [(name, value)]

def getRoutingInfo (desired : RoutedLRP) : Except Error SSHRoute :=
  match desired.diegoSSH with
  | none => .error .routeNotFound
  | some sshRoute => sshRoute

namespace PermissionsBuilder

variable (pb : PermissionsBuilder)

def useInstanceAddr (actual : ActualLRP) : Bool :=
  match actual.preferredAddress with
  | .instanceAddress => true
  | .hostAddress => false
  | .unknown => pb.useDirectInstanceAddr

def mappingConfig (sshRoute : SSHRoute) (actual : ActualLRP) (mapping : PortMapping) :
    TargetConfig :=
  let useInstanceAddr := pb.useInstanceAddr actual
  let tlsAddress := if mapping.hostTlsProxyPort > 0
    then actual.address ++ ":" ++ toString mapping.hostTlsProxyPort else ""
  { address := if useInstanceAddr
      then actual.instanceAddress ++ ":" ++ toString mapping.containerPort
      else actual.address ++ ":" ++ toString mapping.hostPort
    tlsAddress := if useInstanceAddr ∧ mapping.containerTlsProxyPort > 0
      then actual.instanceAddress ++ ":" ++ toString mapping.containerTlsProxyPort
      else tlsAddress
    serverCertDomainSAN := actual.instanceGuid
    hostFingerprint := if sshRoute.host256Fingerprint = "" then sshRoute.hostFingerprint
      else sshRoute.host256Fingerprint
    user := sshRoute.user
    password := sshRoute.password
    privateKey := sshRoute.privateKey }

/-- The loop over the port mappings, which ends at the first one for the port of the route. -/
def targetConfig (sshRoute : SSHRoute) (actual : ActualLRP) : Option TargetConfig :=
  (actual.ports.reduceOption.find? fun mapping =>
    mapping.containerPort = sshRoute.containerPort).map (pb.mappingConfig sshRoute actual)

def createPermissions (sshRoute : SSHRoute) (actual : ActualLRP) (desired : RoutedLRP)
    (logMessage : String) : Permissions :=
  match pb.targetConfig sshRoute actual with
  | none => ⟨none⟩
  | some targetConfig =>
    let metricTags := defaultTag "instance_id" .index
      (defaultTag "source_id" (.static desired.logGuid) desired.metricTags)
    ⟨some ⟨targetConfig, ⟨logMessage, convertMetricTags metricTags actual⟩⟩⟩

/-- `Build` after the lookup. -/
def buildFor (filter : ActualLRPFilter) (remoteAddr : String) :
    Except Error (List ActualLRP) → Except Error Permissions
  | .error err => .error err
  | .ok [] => .error (.noMatching filter.processGuid filter.index)
  | .ok (_ :: _ :: _) => .error (.multipleMatching filter.processGuid filter.index)
  | .ok [actual] =>
    match pb.bbsClient.desiredLRPByProcessGuid filter.processGuid with
    | .error err => .error err
    | .ok desired =>
      match getRoutingInfo desired with
      | .error err => .error err
      | .ok sshRoute => .ok (pb.createPermissions sshRoute actual desired
          ("Successful remote access by " ++ remoteAddr))

def build (processGuid : String) (index : Int) (remoteAddr : String) : Built :=
  -- the conversion to int32, which drops the upper half of the index
  let filter : ActualLRPFilter := ⟨processGuid, Int32.ofInt index⟩
  ⟨filter, pb.buildFor filter remoteAddr (pb.bbsClient.actualLRPs filter)⟩

end PermissionsBuilder

/-! ## Where the address comes from -/

variable {pb : PermissionsBuilder} {options : CriticalOptions}

/-- The LRP was found by the filter, and the target is that of the LRP. -/
structure PermissionsBuilder.FoundBy (pb : PermissionsBuilder) (filter : ActualLRPFilter)
    (lrp : ActualLRP) (config : TargetConfig) : Prop where
  found : pb.bbsClient.actualLRPs filter = .ok [lrp]
  target : ∃ sshRoute, pb.targetConfig sshRoute lrp = some config

theorem PermissionsBuilder.target_of_createPermissions {sshRoute : SSHRoute} {actual : ActualLRP}
    {desired : RoutedLRP} {logMessage : String}
    (h : pb.createPermissions sshRoute actual desired logMessage = ⟨some options⟩) :
    pb.targetConfig sshRoute actual = some options.proxyTargetConfig := by
  unfold createPermissions at h
  grind

theorem PermissionsBuilder.foundBy_of_build {processGuid remoteAddr : String} {index : Int}
    (h : (pb.build processGuid index remoteAddr).result = .ok ⟨some options⟩) :
    ∃ lrp, pb.FoundBy (pb.build processGuid index remoteAddr).lookup lrp
      options.proxyTargetConfig := by
  dsimp only [build] at h ⊢
  unfold buildFor at h
  split at h
  · exact nomatch h
  · exact nomatch h
  · exact nomatch h
  · rename_i actual hfound
    refine ⟨actual, hfound, ?_⟩
    split at h
    · exact nomatch h
    · split at h
      · exact nomatch h
      · rename_i sshRoute _
        exact ⟨sshRoute, target_of_createPermissions (Except.ok.inj h)⟩

end Diego.SSH
