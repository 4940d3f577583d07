import Diego.Executor.Ports

/-!
# The second allocator of proxy ports

`AssignProxyPorts` of `envoyconfig/config.go` numbers the proxy ports of a container once
more, for callers outside of the container store.  It walks over the same range as
`ProxyPorts` and hands out the same ports in the same order (`assignProxyPorts_eq`).

The two differ in what they refuse.  `ProxyPorts` refuses an app port 61443 and does not
notice that the range is used up; `AssignProxyPorts` reports a range that is used up and
does not mind 61443.
-/

namespace Diego.Executor

open List

/-! ## The model -/

/-- The loop of `AssignProxyPorts` over the app ports. -/
def uniquePortsLoop : List PortMapping → GoMap UInt16 Unit → List UInt16 →
    GoMap UInt16 Unit × List UInt16
  | [], unique, ordered => (unique, ordered)
  | p :: appPorts, unique, ordered =>
    if p.containerPort ∈ unique then uniquePortsLoop appPorts unique ordered
    else uniquePortsLoop appPorts (unique.insert p.containerPort ())
      (ordered ++ [p.containerPort])

/-- The loop of `AssignProxyPorts` over the range. -/
def assignLoop (unique : GoMap UInt16 Unit) (ordered : List UInt16) :
    List UInt16 → Nat → List PortMapping → Nat × List PortMapping
  | [], portIdx, out => (portIdx, out)
  | port :: ports, portIdx, out =>
    if hidx : portIdx < ordered.length then
      if port = c2cTLSPort then assignLoop unique ordered ports portIdx out
      else if port ∈ unique then assignLoop unique ordered ports portIdx out
      else
        let appPort := ordered[portIdx]
        let out := out ++ [{ containerPort := appPort, containerTLSProxyPort := port }]
        let out :=
          if appPort = defaultHTTPPort then
            out ++ [{ containerPort := appPort, containerTLSProxyPort := c2cTLSPort }]
          else out
        assignLoop unique ordered ports (portIdx + 1) out
    else (portIdx, out)

def assignProxyPorts (appPorts : List PortMapping) : Except PortError (List PortMapping) :=
  let (unique, ordered) := uniquePortsLoop appPorts ∅ []
  let (portIdx, out) := assignLoop unique ordered proxyPortRange 0 []
  if portIdx < ordered.length then .error .noPortsAvailable
  else .ok out

/-! ## The app ports -/

variable {seen : GoMap UInt16 Bool}

/-- The first loop collects the ports that `dedupPorts` keeps. -/
theorem uniquePortsLoop_eq (appPorts : List PortMapping) {unique : GoMap UInt16 Unit}
    (hseen : ∀ port, port ∈ unique ↔ seen.read port = true) (ordered : List UInt16) :
    (uniquePortsLoop appPorts unique ordered).2 =
        ordered ++ (dedupLoop seen appPorts).map PortMapping.containerPort ∧
      ∀ port, port ∈ (uniquePortsLoop appPorts unique ordered).1 ↔
        port ∈ unique ∨ port ∈ appPorts.map PortMapping.containerPort := by
  induction appPorts generalizing unique seen ordered with
  | nil => simp [uniquePortsLoop, dedupLoop]
  | cons p appPorts ih =>
    unfold uniquePortsLoop dedupLoop
    by_cases hold : p.containerPort ∈ unique
    · rw [if_pos hold, if_pos ((hseen _).mp hold)]
      refine ⟨(ih hseen ordered).1, fun port => ?_⟩
      rw [(ih hseen ordered).2, map_cons, mem_cons]
      refine ⟨Or.imp_right Or.inr, ?_⟩
      rintro (h | rfl | h)
      · exact Or.inl h
      · exact Or.inl hold
      · exact Or.inr h
    · have hread : ¬ seen.read p.containerPort = true := fun h => hold ((hseen _).mpr h)
      have hinsert : ∀ port, port ∈ unique.insert p.containerPort () ↔
          GoMap.read (seen.insert p.containerPort true) port = true := by
        intro port
        rw [AList.mem_insert, read_insert_true, hseen]
        simp
      obtain ⟨hordered, hmem⟩ := ih hinsert (ordered ++ [p.containerPort])
      rw [if_neg hold, if_neg hread]
      refine ⟨by rw [hordered]; simp, fun port => ?_⟩
      rw [hmem, AList.mem_insert, map_cons, mem_cons]
      tauto

variable {ports : List PortMapping}

theorem uniquePorts_eq :
    (uniquePortsLoop ports ∅ []).2 = (dedupPorts ports).map PortMapping.containerPort ∧
      ∀ port, port ∈ (uniquePortsLoop ports ∅ []).1 ↔
        port ∈ (dedupPorts ports).map PortMapping.containerPort := by
  have hempty : ∀ port : UInt16, port ∈ (∅ : GoMap UInt16 Unit) ↔
      GoMap.read (∅ : GoMap UInt16 Bool) port = true := by
    simp [GoMap.read]
  obtain ⟨hordered, hmem⟩ := uniquePortsLoop_eq ports hempty []
  refine ⟨hordered, fun port => ?_⟩
  rw [hmem, (dedupPorts_spec ports).2]
  simp

/-! ## The proxy ports -/

/-- An entry with the two ports of a mapping. -/
def ProxyPortMapping.assigned (mapping : ProxyPortMapping) : PortMapping where
  containerPort := mapping.appPort
  containerTLSProxyPort := mapping.proxyPort

/-- The loop over the range gives the app ports the free ports, one by one, and stops at the
end of either. -/
theorem assignLoop_eq (unique : GoMap UInt16 Unit) (ordered range : List UInt16) {portIdx : Nat}
    (hidx : portIdx ≤ ordered.length) (out : List PortMapping) :
    assignLoop unique ordered range portIdx out =
      (portIdx + min (ordered.length - portIdx) (freePorts unique range).length,
        out ++ (((ordered.drop portIdx).zip (freePorts unique range)).flatMap mappingsFor).map
          ProxyPortMapping.assigned) := by
  induction range generalizing portIdx out with
  | nil => simp [assignLoop, freePorts]
  | cons port range ih =>
    unfold assignLoop
    by_cases hlt : portIdx < ordered.length
    · rw [dif_pos hlt]
      by_cases hfree : port ∉ unique ∧ port ≠ c2cTLSPort
      · have hports : freePorts unique (port :: range) = port :: freePorts unique range :=
          filter_cons_of_pos (decide_eq_true hfree)
        have hcount : portIdx + 1 +
            min (ordered.length - (portIdx + 1)) (freePorts unique range).length =
            portIdx + min (ordered.length - portIdx) ((freePorts unique range).length + 1) := by
          omega
        rw [if_neg hfree.2, if_neg hfree.1, ih hlt, hcount, hports, drop_eq_getElem_cons hlt,
          zip_cons_cons, flatMap_cons, mappingsFor]
        by_cases hdefault : ordered[portIdx] = defaultHTTPPort <;>
          simp [hdefault, ProxyPortMapping.assigned]
      · have hports : freePorts unique (port :: range) = freePorts unique range :=
          filter_cons_of_neg (by simpa using hfree)
        rw [hports, ← ih hidx out]
        split
        · rfl
        · rename_i hother
          exact if_pos (not_not.mp fun hnew => hfree ⟨hnew, hother⟩)
    · have hnone : ordered.drop portIdx = [] := drop_eq_nil_of_le (by omega)
      rw [dif_neg hlt, hnone]
      simp
      omega

/-- The ports of the range that a container with these app ports may use for its proxy. -/
def proxyPortsFor (appPorts : List UInt16) : List UInt16 :=
  proxyPortRange.filter fun port => port ∉ appPorts ∧ port ≠ c2cTLSPort

/-- **`AssignProxyPorts` gives the app ports the first free ports of the range**, if there are
enough of them. -/
theorem assignProxyPorts_eq :
    assignProxyPorts ports =
      if (proxyPortsFor (appPorts ports)).length < (appPorts ports).length then
        .error .noPortsAvailable
      else
        .ok ((((appPorts ports).zip (proxyPortsFor (appPorts ports))).flatMap mappingsFor).map
          ProxyPortMapping.assigned) := by
  obtain ⟨hordered, hmem⟩ := uniquePorts_eq
  unfold assignProxyPorts
  generalize uniquePortsLoop ports ∅ [] = collected at hordered hmem ⊢
  obtain ⟨unique, ordered⟩ := collected
  dsimp only at hordered hmem
  have hfree : freePorts unique proxyPortRange = proxyPortsFor ordered := by
    unfold freePorts proxyPortsFor
    simp only [hmem, hordered]
  rw [show appPorts ports = ordered from hordered.symm, ← hfree]
  have hloop := assignLoop_eq unique ordered proxyPortRange (Nat.zero_le _) []
  rw [drop_zero, nil_append, Nat.zero_add, Nat.sub_zero] at hloop
  simp only [hloop]
  by_cases hshort : (freePorts unique proxyPortRange).length < ordered.length
  · rw [if_pos hshort, if_pos (lt_of_le_of_lt (Nat.min_le_right _ _) hshort)]
  · rw [if_neg hshort, Nat.min_eq_left (not_lt.mp hshort), if_neg (lt_irrefl _)]

theorem proxyPorts_dedupPorts :
    proxyPorts true (dedupPorts ports) =
      if c2cTLSPort ∈ appPorts ports then .error .c2cTLSPortIsReserved
      else
        .ok (((appPorts ports).zip (proxyPortsFor (appPorts ports))).flatMap mappingsFor,
          (((appPorts ports).zip (proxyPortsFor (appPorts ports))).flatMap mappingsFor).map
            ProxyPortMapping.proxyPort) := by
  by_cases hreserved : c2cTLSPort ∈ appPorts ports
  · obtain ⟨port, hport, heq⟩ := mem_map.mp hreserved
    rw [if_pos hreserved, proxyPorts, if_neg (by simp), if_pos]
    exact any_eq_true.mpr ⟨port, hport, by simp [heq]⟩
  · rw [if_neg hreserved]
    refine proxyPorts_eq (dedupPorts_spec ports).1 fun port hport heq => hreserved ?_
    exact mem_map.mpr ⟨port, hport, heq⟩

/-! ## Agreement -/

def Covers (ports : List PortMapping) (mappings : List (UInt16 × UInt16)) : Prop :=
  ∀ port ∈ ports, ∃ proxyPort, (port.containerPort, proxyPort) ∈ mappings

/-- The two allocators agree on a list of ports: both return an error, or both assign the same
proxy ports in the same order and leave no app port out. -/
def AllocatorsAgree (ports : List PortMapping) : Prop :=
  match assignProxyPorts ports, proxyPorts true (dedupPorts ports) with
  | .error _, .error _ => True
  | .ok out, .ok (proxyPortMapping, _) =>
    out.map (fun entry => (entry.containerPort, entry.containerTLSProxyPort)) =
        proxyPortMapping.map (fun mapping => (mapping.appPort, mapping.proxyPort)) ∧
      Covers ports (proxyPortMapping.map fun mapping => (mapping.appPort, mapping.proxyPort))
  | _, _ => False

theorem covers_of_length_le {free : List UInt16} (hlength : (appPorts ports).length ≤ free.length) :
    Covers ports ((((appPorts ports).zip free).flatMap mappingsFor).map
      fun mapping => (mapping.appPort, mapping.proxyPort)) := by
  intro port hport
  have happ : port.containerPort ∈ appPorts ports :=
    ((dedupPorts_spec ports).2 _).mpr (mem_map_of_mem hport)
  rw [← map_fst_zip hlength] at happ
  obtain ⟨pair, hpair, heq⟩ := mem_map.mp happ
  refine ⟨pair.2, mem_map.mpr ⟨⟨pair.1, pair.2⟩, ?_, by rw [heq]⟩⟩
  exact mem_flatMap.mpr ⟨pair, hpair, by simp [mappingsFor]⟩

/-- Ports without duplicates are all kept. -/
theorem dedupLoop_eq_self (hnodup : (ports.map PortMapping.containerPort).Nodup)
    (hnew : ∀ port ∈ ports, seen.read port.containerPort = false) :
    dedupLoop seen ports = ports := by
  induction ports generalizing seen with
  | nil => rfl
  | cons first ports ih =>
    obtain ⟨hfirst, hnodup⟩ := nodup_cons.mp hnodup
    have hread := hnew first mem_cons_self
    rw [dedupLoop, if_neg (by simp [hread]), ih hnodup]
    intro port hport
    have hne : port.containerPort ≠ first.containerPort := fun heq =>
      hfirst (mem_map.mpr ⟨port, hport, heq⟩)
    rw [read_insert_true, hnew port (mem_cons_of_mem _ hport)]
    simp [hne]

theorem dedupPorts_eq_self (hnodup : (ports.map PortMapping.containerPort).Nodup) :
    dedupPorts ports = ports :=
  dedupLoop_eq_self hnodup fun _ _ => rfl

/-- **When the two allocators agree**: just when some app port is 61443 if and only if the
range has too few free ports.  It makes no difference whether `AssignProxyPorts` sees the
duplicates. -/
theorem allocatorsAgree_iff (ports : List PortMapping) :
    assignProxyPorts (dedupPorts ports) = assignProxyPorts ports ∧
      (AllocatorsAgree ports ↔
        (c2cTLSPort ∈ appPorts ports ↔
          (proxyPortsFor (appPorts ports)).length < (appPorts ports).length)) := by
  constructor
  · have happs : appPorts (dedupPorts ports) = appPorts ports := by
      rw [appPorts, dedupPorts_eq_self (dedupPorts_spec ports).1, appPorts]
    rw [assignProxyPorts_eq, assignProxyPorts_eq, happs]
  · unfold AllocatorsAgree
    rw [assignProxyPorts_eq, proxyPorts_dedupPorts]
    by_cases hshort : (proxyPortsFor (appPorts ports)).length < (appPorts ports).length
    · by_cases hreserved : c2cTLSPort ∈ appPorts ports
      · rw [if_pos hshort, if_pos hreserved]
        exact iff_of_true trivial (iff_of_true hreserved hshort)
      · rw [if_pos hshort, if_neg hreserved]
        exact iff_of_false id fun h => hreserved (h.mpr hshort)
    · by_cases hreserved : c2cTLSPort ∈ appPorts ports
      · rw [if_neg hshort, if_pos hreserved]
        exact iff_of_false id fun h => hshort (h.mp hreserved)
      · rw [if_neg hshort, if_neg hreserved]
        refine iff_of_true ⟨?_, covers_of_length_le (not_lt.mp hshort)⟩
          (iff_of_false hreserved hshort)
        rw [List.map_map]
        rfl

/-- A container whose app ports are the whole range but 61443. -/
def fullRange : List PortMapping :=
  (proxyPortRange.filter fun port => port ≠ c2cTLSPort).map fun port => { containerPort := port }

theorem appPorts_fullRange :
    appPorts fullRange = proxyPortRange.filter fun port => port ≠ c2cTLSPort := by
  have hports : fullRange.map PortMapping.containerPort =
      proxyPortRange.filter fun port => port ≠ c2cTLSPort := by
    rw [fullRange, map_map]
    exact map_id _
  rw [appPorts, dedupPorts_eq_self (by rw [hports]; exact nodup_proxyPortRange.filter _), hports]

/-- With an app port 61443 only `ProxyPorts` fails.  With the whole range in use only
`AssignProxyPorts` fails, and `ProxyPorts` succeeds without a single proxy port. -/
theorem allocators_differ :
    (proxyPorts true [{ containerPort := 61443 }] = .error .c2cTLSPortIsReserved ∧
        assignProxyPorts [{ containerPort := 61443 }] =
          .ok [{ containerPort := 61443, containerTLSProxyPort := 61001 }]) ∧
      proxyPorts true (dedupPorts fullRange) = .ok ([], []) ∧
        assignProxyPorts fullRange = .error .noPortsAvailable := by
  have hfree : proxyPortsFor (appPorts fullRange) = [] := by
    rw [appPorts_fullRange, proxyPortsFor, List.filter_eq_nil_iff]
    intro port hport
    simp [hport]
  have hsome : (61001 : UInt16) ∈ appPorts fullRange := by
    decide
  have hreserved : c2cTLSPort ∉ appPorts fullRange := by
    rw [appPorts_fullRange]
    simp
  refine ⟨⟨rfl, ?_⟩, ?_, ?_⟩
  · rfl
  · rw [proxyPorts_dedupPorts, if_neg hreserved, hfree]
    simp
  · rw [assignProxyPorts_eq, hfree, if_pos]
    exact List.length_pos_of_mem hsome

end Diego.Executor
