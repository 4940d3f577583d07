import Diego.GoMap
import Mathlib.Data.List.Flatten
import Mathlib.Data.List.Nodup
import Mathlib.Data.List.Perm.Subperm

/-!
# Container ports

`createGardenContainer` of `depot/containerstore/storenode.go` numbers the ports of a
container: the app ports without duplicates, a proxy port for each of them
(`ProxyPorts` of `proxy_config_handler.go`), one more for the default HTTP port, and then
builds the port mappings from what garden has mapped (`portMappingFromContainerInfo`).  The
proxy itself listens on a port that `GetAvailablePort` of `envoyconfig/config.go` finds in
the same range.

Both searches go through the range in order, so that the proxy ports are the first free
ports (`proxyPorts_eq`), as many as there are app ports.
-/

namespace Diego.Executor

open List

/-! ## The model -/

structure PortMapping where
  containerPort : UInt16
  hostPort : UInt16 := 0
  containerTLSProxyPort : UInt16 := 0
  hostTLSProxyPort : UInt16 := 0
  deriving DecidableEq

structure ProxyPortMapping where
  appPort : UInt16
  proxyPort : UInt16
  deriving DecidableEq

/-- `garden.PortMapping`. -/
structure MappedPort where
  hostPort : UInt32
  containerPort : UInt32
  deriving DecidableEq

def startProxyPort : Nat := 61001

def endProxyPort : Nat := 65534

def defaultHTTPPort : UInt16 := 8080

def c2cTLSPort : UInt16 := 61443

inductive PortError
  | c2cTLSPortIsReserved
  /-- `ErrNoPortsAvailable`. -/
  | noPortsAvailable
  /-- A panic in the loop of `ProxyPorts`. -/
  | indexOutOfRange
  deriving DecidableEq

/-- The loops `for port := uint16(StartProxyPort); port < EndProxyPort; port++`. -/
def proxyPortRange : List UInt16 :=
  (List.range' startProxyPort (endProxyPort - startProxyPort)).map UInt16.ofNat

def dedupLoop : GoMap UInt16 Bool → List PortMapping → List PortMapping
  | _, [] => []
  | seen, port :: ports =>
    if seen.read port.containerPort then dedupLoop seen ports
    else port :: dedupLoop (seen.insert port.containerPort true) ports

def dedupPorts (ports : List PortMapping) : List PortMapping :=
  dedupLoop ∅ ports

/-- What the loop of `ProxyPorts` has done. -/
structure ProxyPortsState where
  portCount : Nat := 0
  proxyPortMapping : List ProxyPortMapping := []
  extraPorts : List UInt16 := []

def proxyPortsLoop (existingPorts : GoMap UInt16 Unit) (containerPorts : List UInt16) :
    List UInt16 → ProxyPortsState → Except PortError ProxyPortsState
  | [], state => .ok state
  | port :: ports, state =>
    if state.portCount = existingPorts.entries.length then .ok state
    else if port ∈ existingPorts then proxyPortsLoop existingPorts containerPorts ports state
    else if port = c2cTLSPort then proxyPortsLoop existingPorts containerPorts ports state
    else
      match containerPorts[state.portCount]? with
      | none => .error .indexOutOfRange
      | some appPort =>
        let state : ProxyPortsState :=
          { state with
            extraPorts := state.extraPorts ++ [port]
            proxyPortMapping := state.proxyPortMapping ++ [⟨appPort, port⟩] }
        let state : ProxyPortsState :=
          if appPort = defaultHTTPPort then
            { state with
              proxyPortMapping := state.proxyPortMapping ++ [⟨appPort, c2cTLSPort⟩]
              extraPorts := state.extraPorts ++ [c2cTLSPort] }
          else state
        proxyPortsLoop existingPorts containerPorts ports
          { state with portCount := state.portCount + 1 }

def proxyPorts (enableContainerProxy : Bool) (ports : List PortMapping) :
    Except PortError (List ProxyPortMapping × List UInt16) :=
  if !enableContainerProxy then .ok ([], [])
  else if ports.any fun port => port.containerPort = c2cTLSPort then .error .c2cTLSPortIsReserved
  else
    let existingPorts := GoMap.ofPairs (ports.map fun port => (port.containerPort, ()))
    let containerPorts := ports.map PortMapping.containerPort
    (proxyPortsLoop existingPorts containerPorts proxyPortRange {}).map fun state =>
      (state.proxyPortMapping, state.extraPorts)

/-- `append(m[key], value)`, stored under the key. -/
def appendProxyPort (mappings : GoMap UInt16 (List UInt16)) (mapping : ProxyPortMapping) :
    GoMap UInt16 (List UInt16) :=
  mappings.insert mapping.appPort (mappings.read mapping.appPort ++ [mapping.proxyPort])

def portMappingsOf (proxyPorts : GoMap UInt16 Unit)
    (appToProxyPortMappings : GoMap UInt16 (List UInt16))
    (containerToHostPortMappings : GoMap UInt16 UInt16) (appPort : UInt16) : List PortMapping :=
  if appPort ∈ proxyPorts then []
  else
    let hostPort := containerToHostPortMappings.read appPort
    match appToProxyPortMappings.read appPort with
    | [] => [{ containerPort := appPort, hostPort := hostPort }]
    | proxyContainerPort :: proxyContainerPorts =>
      (proxyContainerPort :: proxyContainerPorts).map fun proxyContainerPort =>
        { containerPort := appPort
          hostPort := hostPort
          containerTLSProxyPort := proxyContainerPort
          hostTLSProxyPort := containerToHostPortMappings.read proxyContainerPort }

def portMappingFromContainerInfo (mappedPorts : List MappedPort) (appPorts : List PortMapping)
    (proxyToAppPort : List ProxyPortMapping) : List PortMapping :=
  let proxyPorts := GoMap.ofPairs (proxyToAppPort.map fun mapping => (mapping.proxyPort, ()))
  let appToProxyPortMappings := proxyToAppPort.foldl appendProxyPort ∅
  let containerToHostPortMappings := GoMap.ofPairs (mappedPorts.map fun mapping =>
    (mapping.containerPort.toUInt16, mapping.hostPort.toUInt16))
  appPorts.flatMap fun port =>
    portMappingsOf proxyPorts appToProxyPortMappings containerToHostPortMappings
      port.containerPort

/-- What `createGardenContainer` does with the ports of a container, when garden has created
it with `mappedPorts`. -/
def createContainerPorts (enableContainerProxy : Bool) (ports : List PortMapping)
    (mappedPorts : List MappedPort) : Except PortError (List PortMapping) := do
  let ports := dedupPorts ports
  let (proxyPortMapping, extraPorts) ← proxyPorts enableContainerProxy ports
  let ports := ports ++ extraPorts.map fun port => { containerPort := port }
  pure (portMappingFromContainerInfo mappedPorts ports proxyPortMapping)

/-- The test of `GetAvailablePort` on the ports in use. -/
def existingPorts (allocatedPorts : List PortMapping) (extraKnownPorts : List UInt16) :
    List UInt16 :=
  allocatedPorts.flatMap (fun port => [port.containerPort, port.containerTLSProxyPort]) ++
    extraKnownPorts

def getAvailablePort (allocatedPorts : List PortMapping) (extraKnownPorts : List UInt16) :
    Except PortError UInt16 :=
  match proxyPortRange.find? fun port => port ∉ existingPorts allocatedPorts extraKnownPorts with
  | some port => .ok port
  | none => .error .noPortsAvailable

/-! ## The range -/

variable {port : UInt16} (seen : GoMap UInt16 Bool) (ports : List PortMapping)
  {mapping : ProxyPortMapping}

theorem mem_proxyPortRange : port ∈ proxyPortRange ↔ 61001 ≤ port ∧ port ≤ 65533 := by
  simp only [proxyPortRange, startProxyPort, endProxyPort, mem_map, mem_range'_1,
    UInt16.le_iff_toNat_le, UInt16.reduceToNat]
  constructor
  · rintro ⟨number, hrange, rfl⟩
    rw [UInt16.toNat_ofNat_of_lt' (by simp only [UInt16.size]; omega)]
    omega
  · intro hrange
    exact ⟨port.toNat, by omega, UInt16.ofNat_toNat⟩

theorem nodup_proxyPortRange : proxyPortRange.Nodup := by
  refine (nodup_range' ..).map_on ?_
  intro a ha b hb heq
  simp only [endProxyPort, mem_range'_1] at ha hb
  have hnat := congrArg UInt16.toNat heq
  rwa [UInt16.toNat_ofNat_of_lt' (by simp only [UInt16.size]; omega),
    UInt16.toNat_ofNat_of_lt' (by simp only [UInt16.size]; omega)] at hnat

theorem length_proxyPortRange : proxyPortRange.length = 4533 := by
  rw [proxyPortRange, length_map, length_range']
  rfl

/-- A list of ports leaves as many free as it is shorter than the range. -/
theorem length_le_free (used : List UInt16) :
    4533 ≤ (proxyPortRange.filter fun port => port ∉ used).length + used.length := by
  have hsplit := @List.length_eq_length_filter_add _ proxyPortRange
    fun port => decide (port ∉ used)
  have hused : (proxyPortRange.filter fun port => !decide (port ∉ used)).length ≤ used.length := by
    refine ((nodup_proxyPortRange.filter _).subperm ?_).length_le
    intro port hport
    simpa using (mem_filter.mp hport).2
  rw [length_proxyPortRange] at hsplit
  omega

/-! ## App ports -/

theorem read_insert_true (port' : UInt16) :
    GoMap.read (seen.insert port true) port' = (decide (port' = port) || seen.read port') := by
  rw [GoMap.read, GoMap.lookup_insert_ite, GoMap.read]
  by_cases heq : port' = port <;> simp [heq]

/-- The ports that are kept are the ones not seen before, each once. -/
theorem dedupLoop_spec :
    ((dedupLoop seen ports).map PortMapping.containerPort).Nodup ∧
      ∀ port, port ∈ (dedupLoop seen ports).map PortMapping.containerPort ↔
        port ∈ ports.map PortMapping.containerPort ∧ seen.read port = false := by
  induction ports generalizing seen with
  | nil => simp [dedupLoop]
  | cons first ports ih =>
    unfold dedupLoop
    cases hseen : seen.read first.containerPort with
    | true =>
      obtain ⟨hnodup, hmem⟩ := ih seen
      refine ⟨hnodup, fun port => ?_⟩
      rw [if_pos rfl, hmem, map_cons, mem_cons]
      constructor
      · exact fun h => ⟨Or.inr h.1, h.2⟩
      · rintro ⟨rfl | hport, hnew⟩
        · rw [hseen] at hnew
          simp at hnew
        · exact ⟨hport, hnew⟩
    | false =>
      obtain ⟨hnodup, hmem⟩ := ih (seen.insert first.containerPort true)
      rw [if_neg (by simp), map_cons]
      refine ⟨nodup_cons.mpr ⟨?_, hnodup⟩, fun port => ?_⟩
      · rw [hmem, read_insert_true]
        simp
      · rw [mem_cons, hmem, read_insert_true]
        by_cases heq : port = first.containerPort
        · simp [heq, hseen]
        · simp [heq]

theorem dedupPorts_spec :
    ((dedupPorts ports).map PortMapping.containerPort).Nodup ∧
      ∀ port, port ∈ (dedupPorts ports).map PortMapping.containerPort ↔
        port ∈ ports.map PortMapping.containerPort := by
  obtain ⟨hnodup, hmem⟩ := dedupLoop_spec ∅ ports
  refine ⟨hnodup, fun port => ?_⟩
  rw [dedupPorts, hmem]
  simp [GoMap.read]

/-! ## Proxy ports -/

/-- The mappings that `ProxyPorts` makes for an app port and its proxy port. -/
def mappingsFor (pair : UInt16 × UInt16) : List ProxyPortMapping :=
  ⟨pair.1, pair.2⟩ :: if pair.1 = defaultHTTPPort then [⟨pair.1, c2cTLSPort⟩] else []

/-- The ports of a range that `ProxyPorts` may hand out. -/
def freePorts (existingPorts : GoMap UInt16 Unit) (range : List UInt16) : List UInt16 :=
  range.filter fun port => port ∉ existingPorts ∧ port ≠ c2cTLSPort

/-- The loop of `ProxyPorts` gives the app ports the free ports, one by one. -/
theorem proxyPortsLoop_eq {existingPorts : GoMap UInt16 Unit} {containerPorts : List UInt16}
    (hlength : existingPorts.entries.length = containerPorts.length) (range : List UInt16)
    {state : ProxyPortsState} (hcount : state.portCount ≤ containerPorts.length) :
    ∃ portCount, proxyPortsLoop existingPorts containerPorts range state =
      .ok ⟨portCount,
        state.proxyPortMapping ++
          ((containerPorts.drop state.portCount).zip (freePorts existingPorts range)).flatMap
            mappingsFor, state.extraPorts ++
          (((containerPorts.drop state.portCount).zip (freePorts existingPorts range)).flatMap
            mappingsFor).map ProxyPortMapping.proxyPort⟩ := by
  induction range generalizing state with
  | nil => exact ⟨state.portCount, by simp [proxyPortsLoop, freePorts]⟩
  | cons port range ih =>
    unfold proxyPortsLoop
    by_cases hdone : state.portCount = existingPorts.entries.length
    · have hnone : containerPorts.drop state.portCount = [] :=
        drop_eq_nil_of_le (by omega)
      exact ⟨state.portCount, by rw [if_pos hdone, hnone]; simp⟩
    · rw [if_neg hdone]
      by_cases hexisting : port ∈ existingPorts
      · have hfree : freePorts existingPorts (port :: range) = freePorts existingPorts range :=
          filter_cons_of_neg (by simp [hexisting])
        rw [if_pos hexisting, hfree]
        exact ih hcount
      · by_cases hreserved : port = c2cTLSPort
        · have hfree : freePorts existingPorts (port :: range) = freePorts existingPorts range :=
            filter_cons_of_neg (by simp [hreserved])
          rw [if_neg hexisting, if_pos hreserved, hfree]
          exact ih hcount
        · have hfree : freePorts existingPorts (port :: range) =
              port :: freePorts existingPorts range :=
            filter_cons_of_pos (by simp [hexisting, hreserved])
          have hlt : state.portCount < containerPorts.length := by omega
          rw [if_neg hexisting, if_neg hreserved, getElem?_eq_getElem hlt, hfree,
            drop_eq_getElem_cons hlt, zip_cons_cons, flatMap_cons, mappingsFor]
          by_cases hdefault : containerPorts[state.portCount] = defaultHTTPPort
          · simp only [if_pos hdefault]
            obtain ⟨portCount, hloop⟩ := @ih
              ⟨state.portCount + 1, _, _⟩ hlt
            exact ⟨portCount, hloop.trans (by simp)⟩
          · simp only [if_neg hdefault]
            obtain ⟨portCount, hloop⟩ := @ih
              ⟨state.portCount + 1, _, _⟩ hlt
            exact ⟨portCount, hloop.trans (by simp)⟩

variable {pair : UInt16 × UInt16} (mappedPorts : List MappedPort)

theorem mappingsFor_appPort (hmem : mapping ∈ mappingsFor pair) : mapping.appPort = pair.1 := by
  rcases mem_cons.mp hmem with rfl | hmem
  · rfl
  · split at hmem
    · rw [mem_singleton.mp hmem]
    · exact absurd hmem not_mem_nil

theorem mappingsFor_proxyPort (hmem : mapping ∈ mappingsFor pair) :
    mapping.proxyPort = pair.2 ∨ mapping.proxyPort = c2cTLSPort := by
  rcases mem_cons.mp hmem with rfl | hmem
  · exact Or.inl rfl
  · split at hmem
    · rw [mem_singleton.mp hmem]
      exact Or.inr rfl
    · exact absurd hmem not_mem_nil

theorem mem_ofPairs_unit {ports : List UInt16} :
    port ∈ GoMap.ofPairs (ports.map fun port => (port, ())) ↔ port ∈ ports := by
  rw [GoMap.mem_ofPairs]
  simp

/-- **`ProxyPorts` gives the app ports the first free ports of the range.** -/
theorem proxyPorts_eq {ports : List PortMapping}
    (hnodup : (ports.map PortMapping.containerPort).Nodup)
    (hreserved : ∀ port ∈ ports, port.containerPort ≠ c2cTLSPort) :
    proxyPorts true ports =
      .ok (((ports.map PortMapping.containerPort).zip (proxyPortRange.filter fun port =>
          port ∉ ports.map PortMapping.containerPort ∧ port ≠ c2cTLSPort)).flatMap mappingsFor,
        (((ports.map PortMapping.containerPort).zip (proxyPortRange.filter fun port =>
          port ∉ ports.map PortMapping.containerPort ∧ port ≠ c2cTLSPort)).flatMap
            mappingsFor).map ProxyPortMapping.proxyPort) := by
  have hpairs : (ports.map fun port => (port.containerPort, ())) =
      (ports.map PortMapping.containerPort).map fun port => (port, ()) := by simp
  have hlength : (GoMap.ofPairs (ports.map fun port => (port.containerPort, ()))).entries.length =
      (ports.map PortMapping.containerPort).length := by
    have hkeys : ((ports.map fun port => (port.containerPort, ())).map Prod.fst).Nodup := by
      rw [map_map]
      exact hnodup
    have hvalues := (GoMap.values_perm_of_same_ofPairs hkeys fun _ => rfl).length_eq
    simpa [GoMap.values] using hvalues
  have hfree : freePorts (GoMap.ofPairs (ports.map fun port => (port.containerPort, ())))
      proxyPortRange = proxyPortRange.filter fun port =>
        port ∉ ports.map PortMapping.containerPort ∧ port ≠ c2cTLSPort := by
    unfold freePorts
    simp only [hpairs, mem_ofPairs_unit]
  have hany : (ports.any fun port => decide (port.containerPort = c2cTLSPort)) = false := by
    rw [any_eq_false]
    intro port hport
    simpa using hreserved port hport
  obtain ⟨portCount, hloop⟩ := @proxyPortsLoop_eq _ _ hlength proxyPortRange {} (Nat.zero_le _)
  rw [hfree] at hloop
  unfold proxyPorts
  rw [if_neg (by simp), if_neg (by simp [hany])]
  dsimp only
  rw [hloop]
  simp [Except.map]

/-! ## Port mappings -/

theorem read_foldl_appendProxyPort (mappings : List ProxyPortMapping)
    (m : GoMap UInt16 (List UInt16)) (appPort : UInt16) :
    (mappings.foldl appendProxyPort m).read appPort =
      m.read appPort ++ (mappings.filter fun mapping => mapping.appPort = appPort).map
        ProxyPortMapping.proxyPort := by
  induction mappings generalizing m with
  | nil => simp
  | cons mapping mappings ih =>
    rw [foldl_cons, ih, appendProxyPort]
    by_cases heq : mapping.appPort = appPort
    · subst heq
      simp [GoMap.read]
    · simp [heq, Ne.symm heq, GoMap.read]

/-- Of the mappings for pairs with distinct app ports, those for one app port. -/
theorem filter_flatMap_mappingsFor {pairs : List (UInt16 × UInt16)}
    (hnodup : (pairs.map Prod.fst).Nodup) (hmem : pair ∈ pairs) :
    (pairs.flatMap mappingsFor).filter (fun mapping => mapping.appPort = pair.1) =
      mappingsFor pair := by
  have hone : ∀ other, (mappingsFor other).filter (fun mapping => mapping.appPort = pair.1) =
      if other.1 = pair.1 then mappingsFor other else [] := by
    intro other
    split
    · rename_i heq
      refine filter_eq_self.mpr fun mapping hmapping => ?_
      simpa [mappingsFor_appPort hmapping] using heq
    · rename_i hne
      refine filter_eq_nil_iff.mpr fun mapping hmapping => ?_
      simpa [mappingsFor_appPort hmapping] using hne
  induction pairs with
  | nil => exact absurd hmem not_mem_nil
  | cons first pairs ih =>
    rw [map_cons, nodup_cons] at hnodup
    rw [flatMap_cons, filter_append, hone]
    rcases mem_cons.mp hmem with rfl | htail
    · rw [if_pos rfl]
      have hnil : (pairs.flatMap mappingsFor).filter
          (fun mapping => decide (mapping.appPort = pair.1)) = [] := by
        refine filter_eq_nil_iff.mpr fun mapping hmapping => ?_
        obtain ⟨other, hother, hmapping⟩ := mem_flatMap.mp hmapping
        have hne : other.1 ≠ pair.1 := fun heq =>
          hnodup.1 (mem_map.mpr ⟨other, hother, heq⟩)
        simpa [mappingsFor_appPort hmapping] using hne
      rw [hnil, append_nil]
    · have hne : first.1 ≠ pair.1 := fun heq =>
        hnodup.1 (mem_map.mpr ⟨pair, htail, heq.symm⟩)
      rw [if_neg hne]
      exact ih hnodup.2 htail

/-- The host port that garden has mapped a container port to; of several the last counts, and
0 stands for none. -/
def gardenHostPort (mappedPorts : List MappedPort) (port : UInt16) : UInt16 :=
  ((mappedPorts.reverse.find? fun mapping => mapping.containerPort.toUInt16 = port).map
    fun mapping => mapping.hostPort.toUInt16).getD 0

theorem read_mappedPorts :
    (GoMap.ofPairs (mappedPorts.map fun mapping =>
      (mapping.containerPort.toUInt16, mapping.hostPort.toUInt16))).read port =
      gardenHostPort mappedPorts port := by
  induction mappedPorts using reverseRecOn with
  | nil => rfl
  | append_singleton mappedPorts last ih =>
    rw [map_append, map_singleton, GoMap.read, GoMap.lookup_ofPairs_concat,
      gardenHostPort, reverse_append, reverse_singleton, singleton_append, find?_cons]
    by_cases heq : last.containerPort.toUInt16 = port
    · simp [heq]
    · simp only [Ne.symm heq, heq]
      exact ih

def entryFor (mappedPorts : List MappedPort) (appPort proxyPort : UInt16) : PortMapping where
  containerPort := appPort
  hostPort := gardenHostPort mappedPorts appPort
  containerTLSProxyPort := proxyPort
  hostTLSProxyPort := gardenHostPort mappedPorts proxyPort

section Create

variable {ports : List PortMapping} {pairs : List (UInt16 × UInt16)}

/-- `portMappingFromContainerInfo` on app ports with their proxy ports: the ports that were
added for the proxy are skipped, and every app port has its entries. -/
theorem portMappingFromContainerInfo_eq (mappedPorts : List MappedPort)
    (hports : ports.map PortMapping.containerPort = pairs.map Prod.fst)
    (hnodup : (pairs.map Prod.fst).Nodup) (hproxy : ∀ pair ∈ pairs, pair.2 ∉ pairs.map Prod.fst)
    (hreserved : c2cTLSPort ∉ pairs.map Prod.fst) :
    portMappingFromContainerInfo mappedPorts
        (ports ++ ((pairs.flatMap mappingsFor).map ProxyPortMapping.proxyPort).map
          fun port => { containerPort := port })
        (pairs.flatMap mappingsFor) =
      pairs.flatMap fun pair => (mappingsFor pair).map fun mapping =>
        entryFor mappedPorts mapping.appPort mapping.proxyPort := by
  have hmem : ∀ port, port ∈ GoMap.ofPairs ((pairs.flatMap mappingsFor).map
      fun mapping => (mapping.proxyPort, ())) ↔
      port ∈ (pairs.flatMap mappingsFor).map ProxyPortMapping.proxyPort := by
    intro port
    rw [← mem_ofPairs_unit, map_map]
    rfl
  unfold portMappingFromContainerInfo
  rw [flatMap_append]
  have hextra : (((pairs.flatMap mappingsFor).map ProxyPortMapping.proxyPort).map
      fun port => ({ containerPort := port } : PortMapping)).flatMap (fun port => portMappingsOf
        (GoMap.ofPairs ((pairs.flatMap mappingsFor).map fun mapping => (mapping.proxyPort, ())))
        ((pairs.flatMap mappingsFor).foldl appendProxyPort ∅)
        (GoMap.ofPairs (mappedPorts.map fun mapping =>
          (mapping.containerPort.toUInt16, mapping.hostPort.toUInt16)))
        port.containerPort) = [] := by
    rw [flatMap_eq_nil_iff]
    intro port hport
    obtain ⟨number, hnumber, rfl⟩ := mem_map.mp hport
    exact if_pos ((hmem number).mpr hnumber)
  rw [hextra, append_nil, ← flatMap_map, hports, flatMap_map]
  refine flatMap_congr fun pair hpair => ?_
  have hnot : pair.1 ∉ GoMap.ofPairs ((pairs.flatMap mappingsFor).map
      fun mapping => (mapping.proxyPort, ())) := by
    rw [hmem]
    intro hport
    obtain ⟨mapping, hmapping, heq⟩ := mem_map.mp hport
    obtain ⟨other, hother, hmapping⟩ := mem_flatMap.mp hmapping
    have happ : pair.1 ∈ pairs.map Prod.fst := mem_map.mpr ⟨pair, hpair, rfl⟩
    rcases mappingsFor_proxyPort hmapping with hport | hport
    · exact hproxy other hother (by rw [← hport, heq]; exact happ)
    · exact hreserved (by rw [← hport, heq]; exact happ)
  have hread : ((pairs.flatMap mappingsFor).foldl appendProxyPort ∅).read pair.1 =
      (mappingsFor pair).map ProxyPortMapping.proxyPort := by
    rw [read_foldl_appendProxyPort, filter_flatMap_mappingsFor hnodup hpair]
    rfl
  unfold portMappingsOf
  rw [if_neg hnot, hread]
  simp only [read_mappedPorts, entryFor]
  unfold mappingsFor
  by_cases hdefault : pair.1 = defaultHTTPPort <;> simp [hdefault]

end Create

def appPorts (ports : List PortMapping) : List UInt16 :=
  (dedupPorts ports).map PortMapping.containerPort

/-- The entries of an app port with its proxy port. -/
def entriesFor (mappedPorts : List MappedPort) (pair : UInt16 × UInt16) : List PortMapping :=
  entryFor mappedPorts pair.1 pair.2 ::
    if pair.1 = defaultHTTPPort then [entryFor mappedPorts pair.1 c2cTLSPort] else []

theorem map_mappingsFor :
    ((mappingsFor pair).map fun mapping =>
      entryFor mappedPorts mapping.appPort mapping.proxyPort) = entriesFor mappedPorts pair := by
  unfold mappingsFor entriesFor
  by_cases hdefault : pair.1 = defaultHTTPPort <;> simp [hdefault]

section Available

variable {apps proxies : List UInt16}

/-- The ports in use, as `GetAvailablePort` sees them. -/
theorem mem_existingPorts {mappedPorts : List MappedPort} (hlength : proxies.length = apps.length) :
    port ∈ existingPorts ((apps.zip proxies).flatMap (entriesFor mappedPorts)) [] ↔
      port ∈ apps ++ (proxies ++ if defaultHTTPPort ∈ apps then [c2cTLSPort] else []) := by
  have happs : (apps.zip proxies).map Prod.fst = apps := map_fst_zip (by omega)
  have hproxies : (apps.zip proxies).map Prod.snd = proxies := map_snd_zip (by omega)
  have hentries : ∀ pair : UInt16 × UInt16,
      (∃ entry ∈ entriesFor mappedPorts pair,
        port ∈ [entry.containerPort, entry.containerTLSProxyPort]) ↔
      port = pair.1 ∨ port = pair.2 ∨ pair.1 = defaultHTTPPort ∧ port = c2cTLSPort := by
    intro pair
    unfold entriesFor
    by_cases hdefault : pair.1 = defaultHTTPPort
    · simp only [if_pos hdefault, mem_cons, exists_eq_or_imp]
      tauto
    · simp [hdefault, entryFor]
  have hmem : port ∈ existingPorts ((apps.zip proxies).flatMap (entriesFor mappedPorts)) [] ↔
      ∃ pair ∈ apps.zip proxies,
        port = pair.1 ∨ port = pair.2 ∨ pair.1 = defaultHTTPPort ∧ port = c2cTLSPort := by
    simp only [existingPorts, append_nil, flatMap_assoc, mem_flatMap, hentries]
  have hdefault : (port ∈ if defaultHTTPPort ∈ apps then [c2cTLSPort] else []) ↔
      defaultHTTPPort ∈ apps ∧ port = c2cTLSPort := by
    split
    · rename_i hin
      simp [hin]
    · rename_i hout
      simp [hout]
  rw [hmem, mem_append, mem_append, hdefault]
  constructor
  · rintro ⟨pair, hpair, rfl | rfl | ⟨hpair', rfl⟩⟩
    · exact Or.inl (happs ▸ mem_map_of_mem hpair)
    · exact Or.inr (Or.inl (hproxies ▸ mem_map_of_mem hpair))
    · exact Or.inr (Or.inr ⟨hpair' ▸ happs ▸ mem_map_of_mem hpair, rfl⟩)
  · rintro (happ | hproxy | ⟨hin, rfl⟩)
    · rw [← happs] at happ
      obtain ⟨pair, hpair, rfl⟩ := mem_map.mp happ
      exact ⟨pair, hpair, Or.inl rfl⟩
    · rw [← hproxies] at hproxy
      obtain ⟨pair, hpair, rfl⟩ := mem_map.mp hproxy
      exact ⟨pair, hpair, Or.inr (Or.inl rfl)⟩
    · rw [← happs] at hin
      obtain ⟨pair, hpair, heq⟩ := mem_map.mp hin
      exact ⟨pair, hpair, Or.inr (Or.inr ⟨heq, rfl⟩)⟩

/-- There is a port for the proxy itself, and it is none of those in use. -/
theorem getAvailablePort_spec {allocatedPorts : List PortMapping} {used : List UInt16}
    (hused : ∀ port, port ∈ existingPorts allocatedPorts [] ↔ port ∈ used)
    (hroom : used.length < 4533) :
    ∃ admin, getAvailablePort allocatedPorts [] = .ok admin ∧ admin ∉ used := by
  have hfree := length_le_free used
  obtain ⟨port, hport⟩ := exists_mem_of_length_pos
    (show 0 < (proxyPortRange.filter fun port => port ∉ used).length by omega)
  obtain ⟨hrange, hnot⟩ := mem_filter.mp hport
  have hsome :
      (proxyPortRange.find? fun port => port ∉ existingPorts allocatedPorts []).isSome := by
    rw [find?_isSome]
    exact ⟨port, hrange, by simpa [hused] using hnot⟩
  obtain ⟨admin, hadmin⟩ := Option.isSome_iff_exists.mp hsome
  refine ⟨admin, ?_, ?_⟩
  · rw [getAvailablePort, hadmin]
  · have hfound := find?_some hadmin
    simpa [hused] using hfound

end Available

/-- Proxy ports for app ports: the first free ports of the range, as many as app ports. -/
structure ProxiesFor (apps proxies : List UInt16) : Prop where
  length : proxies.length = apps.length
  range : ∀ port ∈ proxies, 61001 ≤ port ∧ port ≤ 65533 ∧ port ≠ c2cTLSPort
  nodup : proxies.Nodup
  fresh : ∀ port ∈ proxies, port ∉ apps
  zip : apps.zip (proxyPortRange.filter fun port => port ∉ apps ∧ port ≠ c2cTLSPort) =
    apps.zip proxies

theorem exists_proxiesFor {apps : List UInt16} (hroom : 2 * apps.length + 1 ≤ 4532) :
    ∃ proxies, ProxiesFor apps proxies := by
  obtain ⟨free, hfree⟩ : ∃ free, free = proxyPortRange.filter fun port =>
      port ∉ apps ∧ port ≠ c2cTLSPort := ⟨_, rfl⟩
  have hcount : apps.length ≤ free.length := by
    have hle := length_le_free (c2cTLSPort :: apps)
    have heq : (proxyPortRange.filter fun port => port ∉ c2cTLSPort :: apps) = free := by
      rw [hfree]
      simp [and_comm]
    rw [heq, length_cons] at hle
    omega
  have hspec : ∀ port ∈ free.take apps.length,
      (61001 ≤ port ∧ port ≤ 65533 ∧ port ≠ c2cTLSPort) ∧ port ∉ apps := by
    intro port hport
    have hin := mem_of_mem_take hport
    rw [hfree, mem_filter, mem_proxyPortRange] at hin
    have hboth := of_decide_eq_true hin.2
    exact ⟨⟨hin.1.1, hin.1.2, hboth.2⟩, hboth.1⟩
  refine ⟨free.take apps.length, ?_, fun port hport => (hspec port hport).1, ?_,
    fun port hport => (hspec port hport).2, ?_⟩
  · rw [length_take]
    omega
  · rw [hfree]
    exact (nodup_proxyPortRange.filter _).sublist (take_sublist _ _)
  · rw [← hfree, zip_eq_zip_take_min, Nat.min_eq_left hcount, take_length]

/-- What `createGardenContainer` makes of the ports. -/
theorem createContainerPorts_eq {ports : List PortMapping} {proxies : List UInt16}
    (hproxies : ProxiesFor (appPorts ports) proxies) (hreserved : c2cTLSPort ∉ appPorts ports) :
    createContainerPorts true ports mappedPorts =
      .ok (((appPorts ports).zip proxies).flatMap (entriesFor mappedPorts)) := by
  have hnodup : (appPorts ports).Nodup := (dedupPorts_spec ports).1
  have hfst : ((appPorts ports).zip proxies).map Prod.fst = appPorts ports :=
    map_fst_zip (Nat.le_of_eq hproxies.length.symm)
  have hfresh : ∀ pair ∈ (appPorts ports).zip proxies,
      pair.2 ∉ ((appPorts ports).zip proxies).map Prod.fst := by
    intro pair hpair
    rw [hfst]
    exact hproxies.fresh pair.2 (of_mem_zip hpair).2
  have hkeys : (((appPorts ports).zip proxies).map Prod.fst).Nodup := by rwa [hfst]
  have hkeys' : c2cTLSPort ∉ ((appPorts ports).zip proxies).map Prod.fst := by rwa [hfst]
  have hmappings := portMappingFromContainerInfo_eq mappedPorts hfst.symm hkeys hfresh hkeys'
  have hproxyPorts := proxyPorts_eq hnodup fun port hport heq =>
    hreserved (mem_map.mpr ⟨port, hport, heq⟩)
  rw [← appPorts, hproxies.zip] at hproxyPorts
  unfold createContainerPorts
  simp only [hproxyPorts, map_mappingsFor] at hmappings ⊢
  exact congrArg Except.ok hmappings

/-- **Container ports never collide and every app port has its proxy port.**  For app ports
without the reserved one and few enough of them, every app port has exactly one entry with a
proxy port of its own, the default HTTP port has one more with the reserved port, there are
no other entries, and all ports, with the one that is then available for the proxy itself,
are distinct.  The host ports of an entry are those garden has mapped its ports to. -/
theorem container_ports_never_collide (ports : List PortMapping) (mappedPorts : List MappedPort)
    (hreserved : ∀ port ∈ ports, port.containerPort ≠ c2cTLSPort)
    (hroom : 2 * (appPorts ports).length + 1 ≤ 4532) :
    ∃ proxies result admin,
      createContainerPorts true ports mappedPorts = .ok result ∧
      getAvailablePort result [] = .ok admin ∧
      (∀ port, port ∈ appPorts ports ↔ port ∈ ports.map PortMapping.containerPort) ∧
      proxies.length = (appPorts ports).length ∧
      (∀ port ∈ proxies, 61001 ≤ port ∧ port ≤ 65533 ∧ port ≠ c2cTLSPort) ∧
      result = ((appPorts ports).zip proxies).flatMap (entriesFor mappedPorts) ∧
      (admin :: (appPorts ports ++ (proxies ++
        if defaultHTTPPort ∈ appPorts ports then [c2cTLSPort] else []))).Nodup := by
  obtain ⟨hnodup, hmem⟩ := dedupPorts_spec ports
  have hnot : c2cTLSPort ∉ appPorts ports := by
    intro hin
    obtain ⟨port, hport, heq⟩ := List.mem_map.mp ((hmem c2cTLSPort).mp hin)
    exact hreserved port hport heq
  obtain ⟨proxies, hproxies⟩ := exists_proxiesFor hroom
  have hextra : (if defaultHTTPPort ∈ appPorts ports then [c2cTLSPort] else []).length ≤ 1 := by
    split <;> simp
  have hused : (appPorts ports ++ (proxies ++
      if defaultHTTPPort ∈ appPorts ports then [c2cTLSPort] else [])).length < 4533 := by
    rw [List.length_append, List.length_append, hproxies.length]
    omega
  obtain ⟨admin, hadmin, hfree⟩ := getAvailablePort_spec
    (fun port => mem_existingPorts hproxies.length) hused
  refine ⟨proxies, _, admin, createContainerPorts_eq mappedPorts hproxies hnot, hadmin, hmem,
    hproxies.length, hproxies.range, rfl, List.nodup_cons.mpr ⟨hfree, ?_⟩⟩
  refine List.Nodup.append hnodup (List.Nodup.append hproxies.nodup ?_ ?_) ?_
  · split <;> simp
  · intro port hport hextra
    have heq : port = c2cTLSPort := by
      split at hextra
      · exact List.mem_singleton.mp hextra
      · exact absurd hextra List.not_mem_nil
    exact (hproxies.range port hport).2.2 heq
  · intro port happ hother
    rcases List.mem_append.mp hother with hproxy | hextra
    · exact hproxies.fresh port hproxy happ
    · split at hextra
      · rw [List.mem_singleton.mp hextra] at happ
        exact hnot happ
      · exact absurd hextra List.not_mem_nil

/-- Two app ports, one of them in the range of proxy ports, and a duplicate. -/
def samplePorts : List PortMapping :=
  [{ containerPort := 8080 }, { containerPort := 61001 }, { containerPort := 8080 }]

theorem container_ports_never_collide_sample : ∃ proxies result admin,
    createContainerPorts true samplePorts [⟨60000, 8080⟩] = .ok result ∧
    getAvailablePort result [] = .ok admin ∧
    result = ([8080, 61001].zip proxies).flatMap (entriesFor [⟨60000, 8080⟩]) ∧
    (admin :: [8080, 61001, c2cTLSPort] ++ proxies).Nodup := by
  obtain ⟨proxies, result, admin, hcreate, hadmin, -, -, -, hresult, hnodup⟩ :=
    container_ports_never_collide samplePorts [⟨60000, 8080⟩] (by decide) (by decide)
  have happs : appPorts samplePorts = [8080, 61001] := by decide
  rw [happs] at hresult hnodup
  refine ⟨proxies, result, admin, hcreate, hadmin, hresult, ?_⟩
  refine hnodup.perm ?_
  simp only [List.cons_append, List.nil_append]
  refine List.Perm.cons _ (List.Perm.cons _ (List.Perm.cons _ ?_))
  exact List.perm_append_comm

end Diego.Executor
