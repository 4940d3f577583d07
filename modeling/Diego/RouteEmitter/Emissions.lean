import Diego.RouteEmitter.Sender

/-!
# How often an unregistration is sent

For the messages of one identity everything follows from where the sender is when the
handler calls.  If it has no listed message of that identity left to emit, a `Remove` is
final (`Gone`).  If it is not handling one at all, an `Add` is followed by one emission a
tick, `sendCount` in all, whatever happens to other messages in between (`Progress`).

Between the listing and the handling of a message neither holds: the sender emits the
pointer it listed, and removes by hash.
-/

namespace Diego.RouteEmitter

open List

namespace Unregistration

variable {sendCount : Nat} {system next : System} {action : Action}

/-! ## Messages that are gone -/

/-- No message of the identity is in the cache or about to be emitted, and so many have
been. -/
structure Gone (identity : RouterIdentity) (count : Nat) (system : System) : Prop where
  cached : system.messages.lookup identity = none
  unsent : system.pointersOf identity system.phase.unsent = []
  sent : system.sent identity = count

theorem sent_emit {identity : RouterIdentity} {message : Message} {phase : Phase} :
    ({ system with
        emitted := system.emitted ++ [message.registryMessage]
        phase := phase } : System).sent identity =
      system.sent identity + if message.registryMessage.identity = identity then 1 else 0 := by
  simp [System.sent]

section Gone

variable {identity : RouterIdentity} {count : Nat}

theorem Gone.frame (h : Gone identity count system) (hwf : system.WellFormed)
    (hframe : Frame identity system next) : Gone identity count next where
  cached := hframe.lookup.trans h.cached
  unsent := by
    rw [hframe.phase, hframe.pointersOf hwf system.phase.unsent_subset]
    exact h.unsent
  sent := hframe.sent.trans h.sent

theorem Gone.moves (h : Gone identity count system) (hwf : system.WellFormed)
    (hmoves : Moves sendCount system action next) (hadds : action.adds identity = false) :
    Gone identity count next := by
  cases hmoves with
  | add registryMessages => exact h.frame hwf (Frame.add hadds)
  | remove registryMessages =>
    have hcached : (system.remove registryMessages).messages.lookup identity = none := by
      rw [lookup_remove, h.cached]
      exact ite_self _
    rw [remove_eq]
    exact ⟨hcached, h.unsent, h.sent⟩
  | tick hphase hlist =>
    refine ⟨h.cached, ?_, h.sent⟩
    rw [Phase.unsent_next]
    refine (pointersOf_list hwf hlist).trans ?_
    rw [h.cached]
    rfl
  | emit hphase hmessage =>
    have hunsent := h.unsent
    rw [hphase] at hunsent
    obtain ⟨hne, hrest⟩ := pointersOf_cons_eq_nil.mp hunsent
    rw [identityOf_eq_some hmessage] at hne
    refine ⟨h.cached, hrest, ?_⟩
    rw [sent_emit, if_neg fun heq => hne (congrArg some heq)]
    exact h.sent
  | count hphase hmessage =>
    have hunsent := h.unsent
    rw [hphase] at hunsent
    refine ⟨h.cached, ?_, h.sent⟩
    rw [pointersOf_congr fun pointer _ => identityOf_count hmessage pointer]
    unfold System.count
    split
    · exact hunsent
    · rw [Phase.unsent_next]
      exact hunsent
  | removeSent hphase hmessage =>
    have hunsent := h.unsent
    rw [hphase] at hunsent
    refine ⟨?_, ?_, h.sent⟩
    · simp only [System.removeMessage, GoMap.lookup_erase_ite, h.cached, ite_self]
    · rw [Phase.unsent_next]
      exact hunsent
  | signal hphase => exact ⟨h.cached, rfl, h.sent⟩

theorem Gone.run (h : Gone identity count system) (hwf : system.WellFormed)
    {actions : List Action} (hadds : ∀ action ∈ actions, action.adds identity = false)
    (hrun : Machine.run (step sendCount) system actions = some next) :
    Gone identity count next := by
  have hstep : ∀ action ∈ actions, ∀ system next,
      Gone identity count system ∧ system.WellFormed → step sendCount action system = some next →
      Gone identity count next ∧ next.WellFormed := by
    rintro action hmem system next ⟨h, hwf⟩ hstep
    have hmoves := moves_of_step hstep
    exact ⟨h.moves hwf hmoves (hadds action hmem), hwf.moves hmoves⟩
  exact (Machine.run_invariant ⟨h, hwf⟩ hstep hrun).1

end Gone

/-! ## Messages that are on their way -/

/-- Where a message is that was added when `start` messages of its identity had been
emitted: how often it has been counted, and where the current tick is with it.  The
index is the number of ticks since it was added. -/
inductive Progress (sendCount start : Nat) (identity : RouterIdentity) (pointer : Nat)
    (system : System) : Nat → Prop
  /-- It is in the cache, and the sender has nothing to do with it in this tick. -/
  | resting {message : Message} (hcached : system.messages.lookup identity = some pointer)
      (hmessage : system.heap[pointer]? = some message) (hlt : message.sentCount < sendCount)
      (hpointers : system.pointersOf identity system.phase.pointers = [])
      (hsent : system.sent identity = start + message.sentCount) :
      Progress sendCount start identity pointer system message.sentCount
  /-- It is listed, and will be emitted in this tick. -/
  | listed {message : Message} (hcached : system.messages.lookup identity = some pointer)
      (hmessage : system.heap[pointer]? = some message) (hlt : message.sentCount < sendCount)
      (hunsent : system.pointersOf identity system.phase.unsent = [pointer])
      (hpointers : system.pointersOf identity system.phase.pointers = [pointer])
      (hsent : system.sent identity = start + message.sentCount) :
      Progress sendCount start identity pointer system (message.sentCount + 1)
  /-- It has been emitted and is to be counted. -/
  | counting {message : Message} {messages : List Nat}
      (hcached : system.messages.lookup identity = some pointer)
      (hmessage : system.heap[pointer]? = some message) (hlt : message.sentCount < sendCount)
      (hphase : system.phase = .sending .count pointer messages)
      (hrest : system.pointersOf identity messages = [])
      (hsent : system.sent identity = start + (message.sentCount + 1)) :
      Progress sendCount start identity pointer system (message.sentCount + 1)
  /-- It has been counted for the last time and is to be removed. -/
  | removing {messages : List Nat}
      (hcached : system.messages.lookup identity = some pointer)
      (hphase : system.phase = .sending .remove pointer messages)
      (hrest : system.pointersOf identity messages = [])
      (hsent : system.sent identity = start + sendCount) :
      Progress sendCount start identity pointer system sendCount
  | done {count : Nat} (hgone : Gone identity (start + sendCount) system)
      (hcount : sendCount ≤ count) : Progress sendCount start identity pointer system count

section Progress

variable {start pointer elapsed : Nat} {identity : RouterIdentity}

section

variable (h : Progress sendCount start identity pointer system elapsed)
include h

theorem Progress.sent_le : system.sent identity ≤ start + sendCount := by
  cases h with
  | resting hcached hmessage hlt hpointers hsent
  | listed hcached hmessage hlt hunsent hpointers hsent
  | counting hcached hmessage hlt hphase hrest hsent => omega
  | removing hcached hphase hrest hsent => exact hsent.le
  | done hgone hcount => exact hgone.sent.le

/-- Between ticks the message has been sent once a tick, up to `sendCount` times. -/
theorem Progress.sent_of_idle (hidle : system.phase.idle = true) :
    system.sent identity = start + min sendCount elapsed := by
  have hpointers' : system.phase.pointers = [] := of_decide_eq_true hidle
  cases h with
  | resting hcached hmessage hlt hpointers hsent => omega
  | listed hcached hmessage hlt hunsent hpointers hsent =>
    rw [hpointers'] at hpointers
    exact absurd hpointers (by simp [System.pointersOf])
  | counting hcached hmessage hlt hphase hrest hsent =>
    rw [hphase] at hpointers'
    exact absurd hpointers' (cons_ne_nil _ _)
  | removing hcached hphase hrest hsent => rw [hsent, min_self]
  | done hgone hcount => rw [hgone.sent, min_eq_left hcount]

theorem Progress.frame (hwf : system.WellFormed) (hframe : Frame identity system next) :
    Progress sendCount start identity pointer next elapsed := by
  have hphase' := hframe.phase
  cases h with
  | resting hcached hmessage hlt hpointers hsent =>
    refine .resting (hframe.lookup.trans hcached) (hframe.getElem? hmessage) hlt ?_
      (hframe.sent.trans hsent)
    rw [hphase', hframe.pointersOf hwf (List.Subset.refl _), hpointers]
  | listed hcached hmessage hlt hunsent hpointers hsent =>
    refine .listed (hframe.lookup.trans hcached) (hframe.getElem? hmessage) hlt ?_ ?_
      (hframe.sent.trans hsent)
    · rw [hphase', hframe.pointersOf hwf system.phase.unsent_subset, hunsent]
    · rw [hphase', hframe.pointersOf hwf (List.Subset.refl _), hpointers]
  | counting hcached hmessage hlt hphase hrest hsent =>
    refine .counting (hframe.lookup.trans hcached) (hframe.getElem? hmessage) hlt
      (hphase'.trans hphase) ?_ (hframe.sent.trans hsent)
    rw [hframe.pointersOf hwf (by rw [hphase]; exact subset_cons_self _ _), hrest]
  | removing hcached hphase hrest hsent =>
    refine .removing (hframe.lookup.trans hcached) (hphase'.trans hphase) ?_
      (hframe.sent.trans hsent)
    rw [hframe.pointersOf hwf (by rw [hphase]; exact subset_cons_self _ _), hrest]
  | done hgone hcount => exact .done (hgone.frame hwf hframe) hcount

/-- A tick lists the message, if it is still in the cache. -/
theorem Progress.tick (hwf : system.WellFormed) (hwaiting : system.phase = .waiting)
    {list : List Nat} (hlist : list.Perm system.messages.values) :
    Progress sendCount start identity pointer { system with phase := Phase.next list }
      (elapsed + 1) := by
  have hlisted : system.pointersOf identity list = _ := pointersOf_list hwf hlist
  cases h with
  | resting hcached hmessage hlt hpointers hsent =>
    rw [hcached] at hlisted
    refine .listed hcached hmessage hlt ?_ ?_ hsent
    · rw [Phase.unsent_next]
      exact hlisted
    · rw [Phase.pointers_next]
      exact hlisted
  | listed hcached hmessage hlt hunsent hpointers hsent =>
    rw [hwaiting] at hunsent
    exact absurd hunsent (by simp [System.pointersOf, Phase.unsent])
  | counting hcached hmessage hlt hphase hrest hsent | removing hcached hphase hrest hsent =>
    cases hwaiting.symm.trans hphase
  | done hgone hcount =>
    have hmoves : Moves sendCount system (.tick list) _ := .tick hwaiting hlist
    exact .done (hgone.moves hwf hmoves rfl) (by omega)

end

variable {current : Nat} {messages : List Nat} {found : Message}

/-- The sender emits the message it is at: this one, or one of another identity. -/
theorem Progress.emit (h : Progress sendCount start identity pointer system elapsed)
    (hwf : system.WellFormed) (hcurrent : system.phase = .sending .emit current messages)
    (hfound : system.heap[current]? = some found) :
    Progress sendCount start identity pointer
      { system with
        emitted := system.emitted ++ [found.registryMessage]
        phase := .sending .count current messages } elapsed := by
  have hidentity := identityOf_eq_some hfound
  cases h with
  | resting hcached hmessage hlt hpointers hsent =>
    rw [hcurrent] at hpointers
    obtain ⟨hne, -⟩ := pointersOf_cons_eq_nil.mp hpointers
    rw [hidentity] at hne
    refine .resting hcached hmessage hlt hpointers ?_
    rw [sent_emit, if_neg fun heq => hne (congrArg some heq)]
    exact hsent
  | listed hcached hmessage hlt hunsent hpointers hsent =>
    rw [hcurrent] at hunsent hpointers
    by_cases heq : found.registryMessage.identity = identity
    · rw [heq] at hidentity
      rw [Phase.unsent, pointersOf_cons_self hidentity, cons.injEq] at hunsent
      obtain ⟨rfl, hrest⟩ := hunsent
      refine .counting hcached hmessage hlt rfl hrest ?_
      rw [sent_emit, if_pos heq]
      omega
    · have hne : system.identityOf current ≠ some identity := by
        rw [hidentity]
        exact fun h => heq (Option.some.inj h)
      rw [Phase.unsent, pointersOf_cons_ne hne] at hunsent
      refine .listed hcached hmessage hlt hunsent hpointers ?_
      rw [sent_emit, if_neg heq]
      exact hsent
  | counting hcached hmessage hlt hphase hrest hsent | removing hcached hphase hrest hsent =>
    cases hcurrent.symm.trans hphase
  | done hgone hcount =>
    have hmoves : Moves sendCount system .send _ := .emit hcurrent hfound
    exact .done (hgone.moves hwf hmoves rfl) hcount

/-- A message of another identity is none of the listed one's pointers. -/
theorem identityOf_ne_of_listed (hrest : system.pointersOf identity messages = [pointer])
    (hall : system.pointersOf identity (current :: messages) = [pointer]) :
    system.identityOf current ≠ some identity := by
  intro heq
  rw [pointersOf_cons_self heq, hrest] at hall
  simp at hall

section

variable (h : Progress sendCount start identity pointer system elapsed)
include h

theorem Progress.count (hwf : system.WellFormed)
    (hcurrent : system.phase = .sending .count current messages)
    (hfound : system.heap[current]? = some found) :
    Progress sendCount start identity pointer
      (system.count sendCount current found messages) elapsed := by
  have hsame : ∀ pointers, (system.count sendCount current found messages).pointersOf identity
      pointers = system.pointersOf identity pointers :=
    fun pointers => pointersOf_congr fun pointer _ => identityOf_count hfound pointer
  -- another message's count leaves this one as it is
  have hkeep : ∀ message, system.heap[pointer]? = some message →
      system.messages.lookup identity = some pointer →
      system.identityOf current ≠ some identity →
      (system.count sendCount current found messages).heap[pointer]? = some message := by
    intro message hmessage hcached hne
    have hpointer : current ≠ pointer := by
      rintro rfl
      exact hne (hwf.cached identity current hcached)
    rw [← hmessage]
    exact List.getElem?_set_ne hpointer
  cases h with
  | resting hcached hmessage hlt hpointers hsent =>
    rw [hcurrent] at hpointers
    obtain ⟨hne, hrest⟩ := pointersOf_cons_eq_nil.mp hpointers
    refine .resting hcached (hkeep _ hmessage hcached hne) hlt ?_ hsent
    rw [hsame]
    unfold System.count
    split
    · exact hpointers
    · rw [Phase.pointers_next]
      exact hrest
  | listed hcached hmessage hlt hunsent hpointers hsent =>
    rw [hcurrent] at hunsent hpointers
    have hne := identityOf_ne_of_listed hunsent hpointers
    refine .listed hcached (hkeep _ hmessage hcached hne) hlt ?_ ?_ hsent
    · rw [hsame]
      unfold System.count
      split
      · exact hunsent
      · rw [Phase.unsent_next]
        exact hunsent
    · rw [hsame]
      unfold System.count
      split
      · exact hpointers
      · rw [Phase.pointers_next]
        exact hunsent
  | @counting message rest hcached hmessage hlt hphase hrest hsent =>
    rw [hcurrent] at hphase
    obtain ⟨rfl, rfl⟩ : current = pointer ∧ messages = rest := by simpa using hphase
    obtain rfl := Option.some.inj (hfound.symm.trans hmessage)
    have hheap : (system.count sendCount current found messages).heap[current]? =
        some { found with sentCount := found.sentCount + 1 } :=
      List.getElem?_set_self (List.getElem?_eq_some_iff.mp hmessage).1
    by_cases hlast : found.sentCount + 1 = sendCount
    · rw [hlast] at hsent ⊢
      refine .removing hcached ?_ ((hsame messages).trans hrest) hsent
      exact if_pos hlast
    · have hphase' : (system.count sendCount current found messages).phase =
          Phase.next messages := if_neg hlast
      have hlt' : found.sentCount + 1 < sendCount := by omega
      have hcached' : (system.count sendCount current found messages).messages.lookup identity =
          some current := hcached
      refine .resting hcached' hheap hlt' ?_ hsent
      rw [hphase', hsame, Phase.pointers_next]
      exact hrest
  | removing hcached hphase hrest hsent =>
    cases hcurrent.symm.trans hphase
  | done hgone hcount =>
    have hmoves : Moves sendCount system .send _ := .count hcurrent hfound
    exact .done (hgone.moves hwf hmoves rfl) hcount

theorem Progress.removeSent (hwf : system.WellFormed)
    (hcurrent : system.phase = .sending .remove current messages)
    (hfound : system.heap[current]? = some found) :
    Progress sendCount start identity pointer
      { system.removeMessage found.registryMessage with phase := Phase.next messages } elapsed := by
  have hidentity := identityOf_eq_some hfound
  have hkeep : system.messages.lookup identity = some pointer →
      system.identityOf current ≠ some identity →
      (system.messages.erase found.registryMessage.identity).lookup identity = some pointer := by
    intro hcached hne
    rw [GoMap.lookup_erase_ite, if_neg fun heq => hne (hidentity.trans (congrArg some heq.symm))]
    exact hcached
  cases h with
  | resting hcached hmessage hlt hpointers hsent =>
    rw [hcurrent] at hpointers
    obtain ⟨hne, hrest⟩ := pointersOf_cons_eq_nil.mp hpointers
    refine .resting (hkeep hcached hne) hmessage hlt ?_ hsent
    rw [Phase.pointers_next]
    exact hrest
  | listed hcached hmessage hlt hunsent hpointers hsent =>
    rw [hcurrent] at hunsent hpointers
    have hne := identityOf_ne_of_listed hunsent hpointers
    refine .listed (hkeep hcached hne) hmessage hlt ?_ ?_ hsent
    · rw [Phase.unsent_next]
      exact hunsent
    · rw [Phase.pointers_next]
      exact hunsent
  | counting hcached hmessage hlt hphase hrest hsent =>
    cases hcurrent.symm.trans hphase
  | @removing rest hcached hphase hrest hsent =>
    rw [hcurrent] at hphase
    obtain ⟨rfl, rfl⟩ : current = pointer ∧ messages = rest := by simpa using hphase
    rw [hwf.cached identity current hcached] at hidentity
    have heq : identity = found.registryMessage.identity := Option.some.inj hidentity
    refine .done ⟨?_, ?_, hsent⟩ le_rfl
    · simp only [System.removeMessage, GoMap.lookup_erase_ite, if_pos heq]
    · rw [Phase.unsent_next]
      exact hrest
  | done hgone hcount =>
    have hmoves : Moves sendCount system .send _ := .removeSent hcurrent hfound
    exact .done (hgone.moves hwf hmoves rfl) hcount

theorem Progress.signal (hwf : system.WellFormed) (hwaiting : system.phase = .waiting) :
    Progress sendCount start identity pointer { system with phase := .stopped } elapsed := by
  cases h with
  | resting hcached hmessage hlt hpointers hsent => exact .resting hcached hmessage hlt rfl hsent
  | listed hcached hmessage hlt hunsent hpointers hsent =>
    rw [hwaiting] at hunsent
    exact absurd hunsent (by simp [System.pointersOf, Phase.unsent])
  | counting hcached hmessage hlt hphase hrest hsent | removing hcached hphase hrest hsent =>
    cases hwaiting.symm.trans hphase
  | done hgone hcount =>
    have hmoves : Moves sendCount system .signal _ := .signal hwaiting
    exact .done (hgone.moves hwf hmoves rfl) hcount

theorem Progress.moves (hwf : system.WellFormed) (hmoves : Moves sendCount system action next)
    (hadds : action.adds identity = false) (hremoves : action.removes identity = false) :
    Progress sendCount start identity pointer next (elapsed + ticks [action]) := by
  cases hmoves with
  | add registryMessages => exact h.frame hwf (Frame.add hadds)
  | remove registryMessages => exact h.frame hwf (Frame.remove hremoves)
  | tick hphase hlist => exact h.tick hwf hphase hlist
  | emit hphase hmessage => exact h.emit hwf hphase hmessage
  | count hphase hmessage => exact h.count hwf hphase hmessage
  | removeSent hphase hmessage => exact h.removeSent hwf hphase hmessage
  | signal hphase => exact h.signal hwf hphase

end

theorem ticks_cons (actions : List Action) :
    ticks (action :: actions) = ticks [action] + ticks actions := by
  simp only [ticks, countP_cons, countP_nil]
  omega

theorem Progress.run (h : Progress sendCount start identity pointer system elapsed)
    (hwf : system.WellFormed) {actions : List Action}
    (hadds : ∀ action ∈ actions, action.adds identity = false)
    (hremoves : ∀ action ∈ actions, action.removes identity = false)
    (hrun : Machine.run (step sendCount) system actions = some next) :
    Progress sendCount start identity pointer next (elapsed + ticks actions) := by
  induction actions generalizing system elapsed with
  | nil => exact Option.some.inj hrun ▸ h
  | cons action actions ih =>
    obtain ⟨middle, hstep, hrest⟩ := Option.bind_eq_some_iff.mp hrun
    have hmoves := moves_of_step hstep
    rw [ticks_cons, ← Nat.add_assoc]
    exact ih (h.moves hwf hmoves (hadds action mem_cons_self)
        (hremoves action mem_cons_self)) (hwf.moves hmoves)
      (fun action' hmem => hadds action' (mem_cons_of_mem _ hmem))
      (fun action' hmem => hremoves action' (mem_cons_of_mem _ hmem)) hrest

end Progress

/-! ## The handler's calls -/

section Calls

variable {identity : RouterIdentity} {registryMessages : List RegistryMessage}
  {actions : List Action}

/-- An added message is in the cache, with a count of zero. -/
theorem lookup_add (system : System) (hadds : (Action.add registryMessages).adds identity = true) :
    ∃ pointer registryMessage,
      (system.add registryMessages).messages.lookup identity = some pointer ∧
      (system.add registryMessages).heap[pointer]? = some { registryMessage } := by
  induction registryMessages generalizing system with
  | nil => exact absurd hadds (by simp [Action.adds])
  | cons registryMessage registryMessages ih =>
    cases hlater : (Action.add registryMessages).adds identity with
    | true => exact ih (system.addMessage registryMessage) hlater
    | false =>
      simp only [Action.adds, any_cons, Bool.or_eq_true, decide_eq_true_eq] at hadds hlater
      have heq : registryMessage.identity = identity :=
        hadds.resolve_right (by rw [hlater]; exact Bool.false_ne_true)
      -- the messages after it are of other identities
      have hframe : Frame identity (system.addMessage registryMessage)
          ((system.addMessage registryMessage).add registryMessages) := Frame.add hlater
      refine ⟨system.heap.length, registryMessage, hframe.lookup.trans ?_, hframe.getElem? ?_⟩
      · rw [System.addMessage, GoMap.lookup_insert_ite, if_pos heq.symm]
      · simp [System.addMessage]

/-- `Add` leaves the sender's list and the messages on it alone. -/
theorem add_keeps (system : System) (registryMessages : List RegistryMessage) :
    (system.add registryMessages).phase = system.phase ∧
      (system.add registryMessages).emitted = system.emitted ∧
      system.heap <+: (system.add registryMessages).heap := by
  induction registryMessages generalizing system with
  | nil => exact ⟨rfl, rfl, prefix_refl _⟩
  | cons registryMessage registryMessages ih =>
    obtain ⟨hphase, hemitted, hheap⟩ := ih (system.addMessage registryMessage)
    exact ⟨hphase, hemitted, (prefix_append _ _).trans hheap⟩

/-- A message that is added while the sender handles none of its identity starts anew. -/
theorem progress_add (hwf : system.WellFormed) (hcount : 1 ≤ sendCount)
    (hadds : (Action.add registryMessages).adds identity = true)
    (hhandles : ¬ system.Handles identity) :
    ∃ pointer, Progress sendCount (system.sent identity) identity pointer
      (system.add registryMessages) 0 := by
  obtain ⟨pointer, registryMessage, hcached, hmessage⟩ := lookup_add system hadds
  obtain ⟨hphase, hemitted, hheap⟩ := add_keeps system registryMessages
  refine ⟨pointer, .resting hcached hmessage hcount ?_ ?_⟩
  · rw [hphase, ← not_not.mp hhandles]
    refine pointersOf_congr fun listed hlisted => ?_
    obtain ⟨rest, hrest⟩ := hheap
    rw [System.identityOf, ← hrest, getElem?_append_left (hwf.listed listed hlisted),
      System.identityOf]
  · rw [System.sent, hemitted]
    rfl

theorem gone_remove (hremoves : (Action.remove registryMessages).removes identity = true)
    (hemit : ¬ system.WillEmit identity) :
    Gone identity (system.sent identity) (system.remove registryMessages) := by
  have hcached : (system.remove registryMessages).messages.lookup identity = none := by
    rw [lookup_remove, if_pos hremoves]
  rw [remove_eq]
  exact ⟨hcached, not_not.mp hemit, rfl⟩

theorem mem_heap_add {message : Message} (hmem : message ∈ (system.add registryMessages).heap) :
    message ∈ system.heap ∨ message.registryMessage ∈ registryMessages := by
  induction registryMessages generalizing system with
  | nil => exact Or.inl hmem
  | cons registryMessage registryMessages ih =>
    rcases ih hmem with hold | hnew
    · rcases mem_append.mp hold with hold | hnew
      · exact Or.inl hold
      · rw [mem_singleton.mp hnew]
        exact Or.inr mem_cons_self
    · exact Or.inr (mem_cons_of_mem _ hnew)

/-- A step brings no message of an identity into the heap that it does not add. -/
theorem ne_of_moves (hmoves : Moves sendCount system action next)
    (hadds : action.adds identity = false)
    (hheap : ∀ message ∈ system.heap, message.registryMessage.identity ≠ identity) :
    ∀ message ∈ next.heap, message.registryMessage.identity ≠ identity := by
  cases hmoves with
  | add registryMessages =>
    intro message hmem heq
    rcases mem_heap_add hmem with hold | hnew
    · exact hheap message hold heq
    · have hany := any_eq_false.mp hadds message.registryMessage hnew
      exact hany (decide_eq_true heq)
  | remove registryMessages =>
    rw [remove_eq]
    exact hheap
  | tick hphase hlist | emit hphase hmessage | removeSent hphase hmessage | signal hphase =>
    exact hheap
  | count hphase hmessage =>
    intro message hmem
    rcases mem_or_eq_of_mem_set hmem with hold | rfl
    · exact hheap message hold
    · have hne := hheap _ (mem_of_getElem? hmessage)
      exact hne

/-- Messages that were never added are nowhere in the heap. -/
theorem ne_of_not_added
    (hheap : ∀ message ∈ system.heap, message.registryMessage.identity ≠ identity)
    (hadds : ∀ action ∈ actions, action.adds identity = false)
    (hrun : Machine.run (step sendCount) system actions = some next) :
    ∀ message ∈ next.heap, message.registryMessage.identity ≠ identity := by
  have hstep : ∀ action ∈ actions, ∀ system next : System,
      (∀ message ∈ system.heap, message.registryMessage.identity ≠ identity) →
      step sendCount action system = some next →
      ∀ message ∈ next.heap, message.registryMessage.identity ≠ identity := by
    intro action hmem system next hheap hstep
    exact ne_of_moves (moves_of_step hstep) (hadds action hmem) hheap
  exact Machine.run_invariant hheap hstep hrun

theorem not_handles_of_not_added (hadds : ∀ action ∈ actions, action.adds identity = false)
    (hrun : Machine.run (step sendCount) {} actions = some system) : ¬ system.Handles identity := by
  intro hhandles
  obtain ⟨pointer, hpointer⟩ := exists_mem_of_ne_nil _ hhandles
  have hidentity := of_decide_eq_true (mem_filter.mp hpointer).2
  obtain ⟨message, hmessage, heq⟩ := Option.map_eq_some_iff.mp hidentity
  exact ne_of_not_added (fun _ hmem => absurd hmem not_mem_nil) hadds hrun message
    (mem_of_getElem? hmessage) heq

end Calls

/-- **Every unregistration is sent as configured.**  In whatever system a run of the
handler and the sender has reached:

* if the sender is not handling a message of the identity, one that is added now is emitted
  once a tick, `sendCount` times in all, unless the handler calls for the identity again;
* if the sender has none left to emit in this tick, a removal is final until the identity
  is added again;
* the sender never handles messages of an identity that was not added. -/
theorem unregistrations_sent_as_configured (hcount : 1 ≤ sendCount) {before : List Action}
    (hbefore : Machine.run (step sendCount) {} before = some system) (identity : RouterIdentity) :
    (∀ registryMessages actions next,
      (Action.add registryMessages).adds identity = true → ¬ system.Handles identity →
      (∀ action ∈ actions, action.adds identity = false ∧ action.removes identity = false) →
      Machine.run (step sendCount) system (.add registryMessages :: actions) = some next →
        next.sent identity ≤ system.sent identity + sendCount ∧
        (next.phase.idle = true →
          next.sent identity = system.sent identity + min sendCount (ticks actions))) ∧
    (∀ registryMessages actions next,
      (Action.remove registryMessages).removes identity = true → ¬ system.WillEmit identity →
      (∀ action ∈ actions, action.adds identity = false) →
      Machine.run (step sendCount) system (.remove registryMessages :: actions) = some next →
        next.sent identity = system.sent identity) ∧
    ((∀ action ∈ before, action.adds identity = false) → ¬ system.Handles identity) := by
  have hwf : system.WellFormed := System.WellFormed.new.run hbefore
  refine ⟨?_, ?_, fun hadds => not_handles_of_not_added hadds hbefore⟩
  · intro registryMessages actions next hadds hhandles hother hrun
    obtain ⟨pointer, hstart⟩ := progress_add hwf hcount hadds hhandles
    have hprogress := hstart.run hwf.add
      (fun action hmem => (hother action hmem).1) (fun action hmem => (hother action hmem).2) hrun
    rw [Nat.zero_add] at hprogress
    exact ⟨hprogress.sent_le, hprogress.sent_of_idle⟩
  · intro registryMessages actions next hremoves hemit hadds hrun
    have hmoves : Moves sendCount system (.remove registryMessages) _ := .remove registryMessages
    exact ((gone_remove hremoves hemit).run (hwf.moves hmoves) hadds hrun).sent

def sampleUnregistration : RegistryMessage :=
  { (default : RegistryMessage) with host := "1.1.1.1", port := 61000, uris := ["foo.example.com"] }

/-- A message that is added to an empty cache is sent twice, and no more. -/
theorem unregistrations_sent_as_configured_sample : ∃ system : System,
    Machine.run (step 2) {} [.add [sampleUnregistration], .tick [0], .send, .send, .tick [0],
      .send, .send, .send, .tick []] = some system ∧
    system.sent sampleUnregistration.identity = 2 := by
  have hsent := (unregistrations_sent_as_configured (by decide : 1 ≤ 2)
    (rfl : Machine.run (step 2) {} [] = some {}) sampleUnregistration.identity).1
      [sampleUnregistration] [.tick [0], .send, .send, .tick [0], .send, .send, .send, .tick []]
      _ (by decide) (fun h => h rfl) (by decide) rfl
  exact ⟨_, rfl, hsent.2 (by decide)⟩

/-- Listed, removed, emitted: the sender emits a message after its removal has returned.
Listed for the last time, removed, added anew: the sender then removes the new message, which
is emitted once, by the old pointer, and not again. -/
theorem stale_pointer_is_emitted :
    (∃ system next : System,
      Machine.run (step 2) {} [.add [sampleUnregistration], .tick [0]] = some system ∧
      Machine.run (step 2) system [.remove [sampleUnregistration], .send] = some next ∧
      system.sent sampleUnregistration.identity = 0 ∧
      next.sent sampleUnregistration.identity = 1) ∧
    ∃ system next : System,
      Machine.run (step 2) {} [.add [sampleUnregistration], .tick [0], .send, .send, .tick [0],
        .remove [sampleUnregistration]] = some system ∧
      Machine.run (step 2) system [.add [sampleUnregistration], .send, .send, .send, .tick [],
        .tick []] = some next ∧
      next.phase = .waiting ∧ next.messages = ∅ ∧
      next.sent sampleUnregistration.identity = system.sent sampleUnregistration.identity + 1 := by
  exact ⟨⟨_, _, rfl, rfl, rfl, rfl⟩, _, _, rfl, rfl, rfl, rfl, rfl⟩

end Unregistration

end Diego.RouteEmitter
