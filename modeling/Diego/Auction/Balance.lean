import Diego.Auction.Placement
import Mathlib.Tactic.Linarith

/-!
# Balance over zones

An LRP goes to a cell of a zone that has the fewest instances of its process, and among the cells
of all such zones to one with the least score: the winner is least in the lexicographic order of
instances in the zone and score (`Bid.Least`), over all cells that meet the placement constraint
and have room.  The scores are exact here.

`filterCells` and `filterZones` keep exactly the cells that suit and the zones that have one, while
a zone keeps the number of instances on all of its cells.  The scan offers the cells zone by zone,
in the order of instances, and goes on as long as the next zone has as many, or nobody was found;
so the zones before the one with a winner have no cell with room.
-/

namespace Diego.Auction

open Models Fallible List

/-! ## Cells that qualify -/

structure Cell.HasRoom (c : Cell) (lrp : SchedulingLRP) : Prop where
  disk : lrp.diskMB.toInt ≤ c.state.availableResources.diskMB.toInt
  memory : lrp.memoryMB.toInt + c.state.proxyMemoryAllocationMB ≤
    c.state.availableResources.memoryMB.toInt
  containers : 1 ≤ c.state.availableResources.containers

/-- The proxy does not take a negative amount of memory, and the sum is an `int32`. -/
structure Cell.ProxyFits (c : Cell) (lrp : SchedulingLRP) : Prop where
  nonneg : 0 ≤ c.state.proxyMemoryAllocationMB
  small : lrp.memoryMB.toInt + c.state.proxyMemoryAllocationMB < 2 ^ 31

variable {c : Cell} {lrp : SchedulingLRP}

theorem Cell.ProxyFits.toInt_proxied (h : c.ProxyFits lrp) :
    (c.proxied lrp).memoryMB.toInt = lrp.memoryMB.toInt + c.state.proxyMemoryAllocationMB := by
  have hlow := lrp.memoryMB.le_toInt
  have hnonneg := h.nonneg
  have hsmall := h.small
  show (lrp.memoryMB + Int32.ofInt c.state.proxyMemoryAllocationMB).toInt = _
  rw [Int32.toInt_add, Int32.toInt_ofInt, Int.add_bmod_bmod]
  have hsize : (Int32.size : Int) = 4294967296 := rfl
  exact Int.bmod_eq_of_le (by omega) (by omega)

theorem Cell.ProxyFits.hasRoom_iff (h : c.ProxyFits lrp) :
    c.state.resourceMatch (c.proxied lrp) = .ok () ↔ c.HasRoom lrp := by
  rw [CellState.resourceMatch_eq_ok_iff, Int32.le_iff_toInt_le, Int32.le_iff_toInt_le,
    h.toInt_proxied]
  exact ⟨fun ⟨hdisk, hmemory, hcontainers⟩ => ⟨hdisk, hmemory, hcontainers⟩,
    fun ⟨hdisk, hmemory, hcontainers⟩ => ⟨hdisk, hmemory, hcontainers⟩⟩

/-- The LRP is reserved without its proxy. -/
theorem Cell.HasRoom.reserveLRP (h : c.HasRoom lrp) (hfits : c.ProxyFits lrp) :
    c.reserveLRP lrp = .ok (c.withLRP lrp) := by
  have hmemory := h.memory
  have hnonneg := hfits.nonneg
  refine Cell.onMatch_eq_ok_iff.mpr ⟨?_, rfl⟩
  rw [CellState.resourceMatch_eq_ok_iff, Int32.le_iff_toInt_le, Int32.le_iff_toInt_le]
  exact ⟨h.disk, by omega, h.containers⟩

/-! ## The least of the cells that were offered -/

namespace Bid

variable {score : CellRef → Except InsufficientResourcesError ℚ} {bid : Bid ℚ}
  {offered rest : List (Nat × CellRef)} {n : Nat}

/-- Of the cells that were offered, each with the number of instances in its zone, the winner is
least by this number and then by its score.  Without a winner none was scored. -/
structure Least (score : CellRef → Except InsufficientResourcesError ℚ)
    (offered : List (Nat × CellRef)) (bid : Bid ℚ) : Prop where
  none : bid.winnerCell = none → bid.winnerScore = 10 ^ 20 ∧
    ∀ n ref points, (n, ref) ∈ offered → score ref ≠ .ok points
  some : ∀ winner, bid.winnerCell = some winner → ∃ n, (n, winner) ∈ offered ∧
    score winner = .ok bid.winnerScore ∧
    ∀ n' ref points, (n', ref) ∈ offered → score ref = .ok points →
      n < n' ∨ n = n' ∧ bid.winnerScore ≤ points

/-- The cells that were scored are all in zones with this number of instances. -/
def InGroup (score : CellRef → Except InsufficientResourcesError ℚ)
    (offered : List (Nat × CellRef)) (n : Nat) : Prop :=
  ∀ n' ref points, (n', ref) ∈ offered → score ref = .ok points → n' = n

theorem least_start : (Bid.start : Bid ℚ).Least score [] where
  none _ := ⟨by norm_num [Bid.start, Float64.ofInt], by simp⟩
  some winner hwinner := absurd hwinner (by simp [Bid.start])

/-- What holds of all cells that were scored, and of the next one if it is scored. -/
theorem forall_scored_concat {P : Nat → CellRef → ℚ → Prop} {next : CellRef}
    (hold : ∀ n' ref points, (n', ref) ∈ offered → score ref = .ok points → P n' ref points)
    (hnext : ∀ points, score next = .ok points → P n next points) :
    ∀ n' ref points, (n', ref) ∈ offered ++ [(n, next)] → score ref = .ok points →
      P n' ref points := by
  intro n' ref points hmem hok
  rcases mem_append.mp hmem with hmem | hmem
  · exact hold n' ref points hmem hok
  · obtain ⟨rfl, rfl⟩ := Prod.mk.inj (mem_singleton.mp hmem)
    exact hnext points hok

theorem InGroup.concat (h : InGroup score offered n) {next : CellRef} :
    InGroup score (offered ++ [(n, next)]) n :=
  forall_scored_concat h fun _ _ => rfl

theorem Least.offer (h : bid.Least score offered) (hgroup : InGroup score offered n)
    {next : CellRef} (hsmall : ∀ points, score next = .ok points → points < 10 ^ 20) :
    (bid.offer score next).Least score (offered ++ [(n, next)]) := by
  unfold Bid.offer
  cases hscore : score next with
  | error err =>
    -- the bid is the same, and the new cell is not scored
    refine ⟨fun hnone => ⟨(h.none hnone).1, forall_scored_concat (h.none hnone).2 ?_⟩,
      fun winner hwinner => ?_⟩
    · exact fun _ hok => nomatch hscore.symm.trans hok
    · obtain ⟨m, hm, hpoints, hleast⟩ := h.some winner hwinner
      refine ⟨m, mem_append_left _ hm, hpoints, forall_scored_concat hleast ?_⟩
      exact fun _ hok => nomatch hscore.symm.trans hok
  | ok points =>
    have hpoints := hsmall points hscore
    dsimp only
    split
    · rename_i hless
      have hless : points < bid.winnerScore := of_decide_eq_true hless
      refine ⟨fun hnone => absurd hnone (Option.some_ne_none _), fun winner hwinner => ?_⟩
      cases hwinner
      refine ⟨n, mem_append_right _ mem_cons_self, hscore, forall_scored_concat ?_ ?_⟩
      · intro n' ref points' hmem hok
        refine Or.inr ⟨(hgroup n' ref points' hmem hok).symm, ?_⟩
        cases hwinner : bid.winnerCell with
        | none => exact absurd hok ((h.none hwinner).2 n' ref points' hmem)
        | some winner =>
          obtain ⟨m, hm, hm', hleast⟩ := h.some winner hwinner
          have hgroup₁ := hgroup m winner _ hm hm'
          have hgroup₂ := hgroup n' ref points' hmem hok
          rcases hleast n' ref points' hmem hok with hlt | ⟨-, hle⟩
          · omega
          · exact (hless.trans_le hle).le
      · intro points' hok
        exact Or.inr ⟨rfl, (Except.ok.inj (hscore.symm.trans hok)).le⟩
    · rename_i hless
      have hless : bid.winnerScore ≤ points := by
        simpa [Float64.lt] using hless
      refine ⟨fun hnone => ?_, fun winner hwinner => ?_⟩
      · have hstart := (h.none hnone).1
        rw [hstart] at hless
        exact absurd hpoints (not_lt.mpr hless)
      · obtain ⟨m, hm, hm', hleast⟩ := h.some winner hwinner
        refine ⟨m, mem_append_left _ hm, hm', forall_scored_concat hleast fun points' hok => ?_⟩
        obtain rfl := Except.ok.inj (hscore.symm.trans hok)
        exact Or.inr ⟨hgroup m winner _ hm hm', hless⟩

theorem Least.offers (h : bid.Least score offered) (hgroup : InGroup score offered n)
    {zone : Zone} (hsmall : ∀ ref ∈ zone, ∀ points, score ref = .ok points → points < 10 ^ 20) :
    (zone.foldl (Bid.offer score) bid).Least score (offered ++ zone.map (n, ·)) ∧
      InGroup score (offered ++ zone.map (n, ·)) n := by
  induction zone generalizing bid offered with
  | nil =>
    rw [map_nil, append_nil]
    exact ⟨h, hgroup⟩
  | cons next zone ih =>
    rw [forall_mem_cons] at hsmall
    have hnext := ih (h.offer hgroup hsmall.1) hgroup.concat hsmall.2
    rw [append_assoc] at hnext
    exact hnext

/-- Zones with more instances do not change the winner. -/
theorem Least.append (h : bid.Least score offered) (hgroup : InGroup score offered n)
    (hwinner : bid.winnerCell.isSome = true) (hrest : ∀ pair ∈ rest, n < pair.1) :
    bid.Least score (offered ++ rest) := by
  refine ⟨fun hnone => ?_, fun winner hwinner' => ?_⟩
  · rw [hnone] at hwinner
    exact absurd hwinner Bool.false_ne_true
  · obtain ⟨m, hm, hm', hleast⟩ := h.some winner hwinner'
    refine ⟨m, mem_append_left _ hm, hm', ?_⟩
    intro n' ref points hmem hok
    rcases mem_append.mp hmem with hmem | hmem
    · exact hleast n' ref points hmem hok
    · have hlt := hrest _ hmem
      have heq := hgroup m winner _ hm hm'
      exact Or.inl (by omega)

end Bid

/-- Where the next zone does not have as many instances, all zones that follow have more. -/
theorem instances_lt_of_head {first : LRPByZone} {sortedZones : List LRPByZone}
    (hfirst : ∀ zone ∈ sortedZones, first.instances ≤ zone.instances)
    (hsorted : sortedZones.Pairwise fun a b => a.instances ≤ b.instances)
    (hnext : ¬ sortedZones.head?.any (fun next => first.instances = next.instances) = true) :
    ∀ zone ∈ sortedZones, first.instances < zone.instances := by
  cases sortedZones with
  | nil => simp
  | cons next sortedZones =>
    have hne : first.instances ≠ next.instances := by simpa using hnext
    have hle := hfirst next mem_cons_self
    intro zone hzone
    rcases mem_cons.mp hzone with rfl | hzone
    · omega
    · have hzone := rel_of_pairwise_cons hsorted hzone
      omega

namespace Bid

variable {score : CellRef → Except InsufficientResourcesError ℚ} {bid : Bid ℚ}
  {offered : List (Nat × CellRef)}

/-- The scan.  What was scored before is in the group of the first zone that follows. -/
theorem Least.zones {sortedZones : List LRPByZone} (h : bid.Least score offered)
    (hsorted : sortedZones.Pairwise fun a b => a.instances ≤ b.instances)
    (hgroup : ∀ first ∈ sortedZones.head?, InGroup score offered first.instances)
    (hsmall : ∀ lrpByZone ∈ sortedZones, ∀ ref ∈ lrpByZone.zone, ∀ points,
      score ref = .ok points → points < 10 ^ 20) :
    (Bid.zones score sortedZones bid).Least score
      (offered ++ sortedZones.flatMap LRPByZone.offers) := by
  induction sortedZones generalizing bid offered with
  | nil =>
    rw [flatMap_nil, append_nil]
    exact h
  | cons first sortedZones ih =>
    rw [forall_mem_cons] at hsmall
    rw [pairwise_cons] at hsorted
    obtain ⟨hleast, hin⟩ := h.offers (hgroup first rfl) hsmall.1
    rw [flatMap_cons, ← append_assoc, Bid.zones]
    split
    · -- the next zone has as many instances
      rename_i hnext
      refine ih hleast hsorted.2 ?_ hsmall.2
      intro next hhead
      rw [Option.mem_def.mp hhead] at hnext
      have heq : first.instances = next.instances := by simpa using hnext
      exact heq ▸ hin
    · rename_i hnext
      split
      · rename_i hwinner
        refine hleast.append hin hwinner ?_
        intro pair hpair
        obtain ⟨zone, hzone, hpair⟩ := mem_flatMap.mp hpair
        obtain ⟨ref, -, rfl⟩ := mem_map.mp hpair
        exact instances_lt_of_head hsorted.1 hsorted.2 hnext zone hzone
      · -- nobody was found so far
        rename_i hwinner
        refine ih hleast hsorted.2 ?_ hsmall.2
        intro next _ n' ref points hmem hok
        have hnone : (first.zone.foldl (Bid.offer score) bid).winnerCell = Option.none := by
          simpa using hwinner
        exact absurd hok ((hleast.none hnone).2 n' ref points hmem)

end Bid

/-! ## The auction -/

namespace Scheduler

variable {s : Scheduler ℚ} {runtime : Runtime} {cells : Heap} {lrpAuction : LRPAuction}
  {ref : CellRef}

/-- The cell meets the placement constraint and has room for the LRP and its proxy. -/
def Qualifies (runtime : Runtime) (cells : Heap) (lrpAuction : LRPAuction) (ref : CellRef) : Prop :=
  (cells ref).suits runtime.parse lrpAuction.toPlacementConstraint = true ∧
    (cells ref).HasRoom lrpAuction.toSchedulingLRP

def scoreLRP (s : Scheduler ℚ) (cells : Heap) (lrpAuction : LRPAuction) (ref : CellRef) :
    Except InsufficientResourcesError ℚ :=
  (cells ref).scoreForLRP lrpAuction.toSchedulingLRP s.startingContainerWeight
    s.binPackFirstFitWeight

theorem exists_scoreLRP_iff (hfits : (cells ref).ProxyFits lrpAuction.toSchedulingLRP) :
    (∃ points, s.scoreLRP cells lrpAuction ref = .ok points) ↔
      (cells ref).HasRoom lrpAuction.toSchedulingLRP := by
  rw [← hfits.hasRoom_iff]
  constructor
  · rintro ⟨points, hscore⟩
    exact (Cell.onMatch_eq_ok_iff.mp hscore).1
  · intro hmatch
    exact ⟨_, Cell.onMatch_eq_ok_iff.mpr ⟨hmatch, rfl⟩⟩

variable {filteredZones : List LRPByZone}

/-- The winner of an auction is least among all cells that suit. -/
theorem least_of_filterZones (hfilter : s.zonesForLRP runtime cells lrpAuction = .ok filteredZones)
    (hsmall : ∀ ref ∈ s.refs, ∀ points, s.scoreLRP cells lrpAuction ref = .ok points →
      points < 10 ^ 20) :
    (Bid.zones (s.scoreLRP cells lrpAuction) (runtime.sortZones.sort filteredZones)
      Bid.start).Least (s.scoreLRP cells lrpAuction) (filteredZones.flatMap LRPByZone.offers) := by
  have hsorted : (runtime.sortZones.sort filteredZones).Pairwise
      fun a b => a.instances ≤ b.instances := by
    refine (runtime.sortZones.sorted filteredZones).imp fun {a b} hless => ?_
    simpa [lessZone] using hless
  have hscan := scan_lrp (congrArg (·.toOption.getD []) hfilter)
  have hstart : (Bid.start : Bid ℚ).Least (s.scoreLRP cells lrpAuction) [] := Bid.least_start
  have hleast := hstart.zones hsorted (fun _ _ _ _ _ hmem => absurd hmem not_mem_nil)
    fun lrpByZone hzone ref href =>
      hsmall ref ((hscan.mem_iff ref).mp (mem_flatMap.mpr ⟨lrpByZone, hzone, href⟩)).1
  have hmem : ∀ pair, pair ∈ (runtime.sortZones.sort filteredZones).flatMap LRPByZone.offers ↔
      pair ∈ filteredZones.flatMap LRPByZone.offers :=
    fun pair => ((runtime.sortZones.perm filteredZones).flatMap_right _).mem_iff
  refine ⟨fun hnone => ⟨(hleast.none hnone).1, fun n ref points hpair => ?_⟩,
    fun winner hwinner => ?_⟩
  · exact (hleast.none hnone).2 n ref points ((hmem _).mpr hpair)
  · obtain ⟨n, hn, hpoints, hall⟩ := hleast.some winner hwinner
    exact ⟨n, (hmem _).mp hn, hpoints, fun n' ref points hpair =>
      hall n' ref points ((hmem _).mpr hpair)⟩

/-- The winner is a cell that qualifies, in a zone with the fewest instances among the zones with
such a cell, and no cell of such a zone that qualifies has a lower score. -/
structure Balanced (s : Scheduler ℚ) (runtime : Runtime) (cells : Heap) (lrpAuction : LRPAuction)
    (zone : Zone) (winner : CellRef) (points : ℚ) : Prop where
  mem_zones : zone ∈ s.zones.values
  mem_zone : winner ∈ zone
  qualifies : Qualifies runtime cells lrpAuction winner
  fewest : IsLeast
    {n | ∃ zone ∈ s.zones.values, zoneInstances cells lrpAuction.processGuid zone = n ∧
      ∃ ref ∈ zone, Qualifies runtime cells lrpAuction ref}
    (zoneInstances cells lrpAuction.processGuid zone)
  score : s.scoreLRP cells lrpAuction winner = .ok points
  least : ∀ zone' ∈ s.zones.values, zoneInstances cells lrpAuction.processGuid zone' =
      zoneInstances cells lrpAuction.processGuid zone →
    ∀ ref ∈ zone', Qualifies runtime cells lrpAuction ref →
      ∃ points', s.scoreLRP cells lrpAuction ref = .ok points' ∧ points ≤ points'

section Winner

variable {filteredZones : List LRPByZone} {bid : Bid ℚ}
  (hoffers : ∀ n ref, (n, ref) ∈ filteredZones.flatMap LRPByZone.offers ↔
    ∃ zone ∈ s.zones.values, zoneInstances cells lrpAuction.processGuid zone = n ∧ ref ∈ zone ∧
      (cells ref).suits runtime.parse lrpAuction.toPlacementConstraint = true)
  (hfits : ∀ ref ∈ s.refs, (cells ref).ProxyFits lrpAuction.toSchedulingLRP)
include hoffers hfits

theorem Qualifies.offered {zone : Zone} (hzone : zone ∈ s.zones.values) (href : ref ∈ zone)
    (h : Qualifies runtime cells lrpAuction ref) :
    (zoneInstances cells lrpAuction.processGuid zone, ref) ∈
        filteredZones.flatMap LRPByZone.offers ∧
      ∃ points, s.scoreLRP cells lrpAuction ref = .ok points := by
  have hmem : ref ∈ s.refs := mem_flatten.mpr ⟨zone, hzone, href⟩
  exact ⟨(hoffers _ ref).mpr ⟨zone, hzone, rfl, href, h.1⟩,
    (exists_scoreLRP_iff (hfits ref hmem)).mpr h.2⟩

theorem balanced_of_least {winner : CellRef}
    (hleast : bid.Least (s.scoreLRP cells lrpAuction) (filteredZones.flatMap LRPByZone.offers))
    (hwinner : bid.winnerCell = some winner) :
    ∃ zone, s.Balanced runtime cells lrpAuction zone winner bid.winnerScore := by
  obtain ⟨m, hm, hpoints, hall⟩ := hleast.some winner hwinner
  obtain ⟨zone, hzone, rfl, hmem, hsuits⟩ := (hoffers m winner).mp hm
  have href : winner ∈ s.refs := mem_flatten.mpr ⟨zone, hzone, hmem⟩
  have hroom := (exists_scoreLRP_iff (hfits winner href)).mp ⟨_, hpoints⟩
  refine ⟨zone, hzone, hmem, ⟨hsuits, hroom⟩, ⟨?_, ?_⟩, hpoints, ?_⟩
  · exact ⟨zone, hzone, rfl, winner, hmem, hsuits, hroom⟩
  · rintro n ⟨zone', hzone', rfl, ref, href', hqualifies⟩
    obtain ⟨hoffered, points, hpoints'⟩ := hqualifies.offered hoffers hfits hzone' href'
    rcases hall _ ref points hoffered hpoints' with hlt | ⟨heq, -⟩
    · exact hlt.le
    · exact heq.le
  · intro zone' hzone' hinstances ref href' hqualifies
    obtain ⟨hoffered, points, hpoints'⟩ := hqualifies.offered hoffers hfits hzone' href'
    refine ⟨points, hpoints', ?_⟩
    rcases hall _ ref points hoffered hpoints' with hlt | ⟨-, hle⟩
    · omega
    · exact hle

end Winner

/-- **An LRP is placed on a cell with the least score in the zones with the fewest instances.**
Without a cell that qualifies the auction fails. -/
theorem scheduleLRPAuction_balances (s : Scheduler ℚ) (runtime : Runtime) (cells : Heap)
    (lrpAuction : LRPAuction)
    (hfits : ∀ ref ∈ s.refs, (cells ref).ProxyFits lrpAuction.toSchedulingLRP)
    (hsmall : ∀ ref ∈ s.refs, ∀ points, s.scoreLRP cells lrpAuction ref = .ok points →
      points < 10 ^ 20) :
    ((∀ ref ∈ s.refs, ¬ Qualifies runtime cells lrpAuction ref) →
      ∃ err, s.scheduleLRPAuction runtime cells lrpAuction = .error err) ∧
    ((∃ ref ∈ s.refs, Qualifies runtime cells lrpAuction ref) →
      ∃ zone winner points, s.Balanced runtime cells lrpAuction zone winner points ∧
        s.scheduleLRPAuction runtime cells lrpAuction =
          .ok ({ lrpAuction.copy with winner := (cells winner).guid },
            Function.update cells winner
              ((cells winner).withLRP lrpAuction.toSchedulingLRP))) := by
  cases hfilter : s.zonesForLRP runtime cells lrpAuction with
  | error err =>
    refine ⟨fun _ => ⟨err, ?_⟩, ?_⟩
    · rw [scheduleLRPAuction_eq, hfilter]
      rfl
    · rintro ⟨ref, href, hsuits, -⟩
      obtain ⟨zone, hzone, href⟩ := List.mem_flatten.mp href
      have hoffered := (mem_offers_iff (by rw [hfilter])).mpr ⟨zone, hzone, rfl, href, hsuits⟩
      exact absurd hoffered List.not_mem_nil
  | ok filteredZones =>
    have hleast : (Bid.zones (s.score cells (.lrp lrpAuction)) _ _).Least _ _ :=
      least_of_filterZones hfilter hsmall
    have hschedule := s.scheduleLRPAuction_eq runtime cells lrpAuction
    simp only [hfilter, bind, Except.bind] at hschedule
    have hoffers : ∀ n ref, (n, ref) ∈ filteredZones.flatMap LRPByZone.offers ↔
        ∃ zone ∈ s.zones.values, zoneInstances cells lrpAuction.processGuid zone = n ∧
          ref ∈ zone ∧ (cells ref).suits runtime.parse lrpAuction.toPlacementConstraint = true :=
      fun n ref => mem_offers_iff (by rw [hfilter]; rfl)
    generalize Bid.zones (s.score cells (.lrp lrpAuction)) (runtime.sortZones.sort filteredZones)
      Bid.start = bid at hleast hschedule
    cases hwinner : bid.winnerCell with
    | none =>
      refine ⟨fun _ => ⟨.insufficientResources bid.problems, ?_⟩, ?_⟩
      · rw [hschedule, Bid.award, hwinner]
      · rintro ⟨ref, href, hqualifies⟩
        obtain ⟨zone, hzone, href⟩ := List.mem_flatten.mp href
        obtain ⟨hoffered, points, hpoints⟩ := hqualifies.offered hoffers hfits hzone href
        exact absurd hpoints ((hleast.none hwinner).2 _ ref points hoffered)
    | some winner =>
      obtain ⟨zone, hbalanced⟩ := balanced_of_least hoffers hfits hleast hwinner
      have href : winner ∈ s.refs :=
        List.mem_flatten.mpr ⟨zone, hbalanced.mem_zones, hbalanced.mem_zone⟩
      refine ⟨fun hno => absurd hbalanced.qualifies (hno winner href), fun _ => ?_⟩
      refine ⟨zone, winner, _, hbalanced, ?_⟩
      rw [hschedule, Bid.award, hwinner]
      simp only [Job.reserve, hbalanced.qualifies.2.reserveLRP (hfits winner href)]
      rfl

theorem scheduleLRPAuction_balances_sample :
    ∃ zone winner points,
      sampleScheduler.Balanced sampleRuntime (sampleCells 100) (sampleLRP 0) zone winner points ∧
      sampleScheduler.scheduleLRPAuction sampleRuntime (sampleCells 100) (sampleLRP 0) =
        .ok ({ (sampleLRP 0).copy with winner := (sampleCells 100 winner).guid },
          Function.update (sampleCells 100) winner
            ((sampleCells 100 winner).withLRP (sampleLRP 0).toSchedulingLRP)) := by
  have hrefs : ∀ ref ∈ sampleScheduler.refs, ref = 0 ∨ ref = 1 := by decide
  refine (scheduleLRPAuction_balances sampleScheduler sampleRuntime (sampleCells 100) (sampleLRP 0)
    ?_ ?_).2 ⟨0, by decide, by decide, by decide, by decide, by decide⟩
  · intro ref href
    rcases hrefs ref href with rfl | rfl
    · exact ⟨by decide, by decide⟩
    · exact ⟨by decide, by decide⟩
  · intro ref href points hpoints
    rw [(Cell.onMatch_eq_ok_iff.mp hpoints).2]
    rcases hrefs ref href with rfl | rfl
    · decide +kernel
    · decide +kernel

end Scheduler

end Diego.Auction
