import Diego.Machine
import Diego.RouteEmitter.Handler

/-!
# The unregistration sender

`unregistration/sender.go` beside `unregistration/cache.go`.  The event handler adds and
removes messages under the cache's mutex.  On every tick the sender lists the cache, and
then emits, counts and, at the last time, removes each listed message, one by one: it
works on the pointers of the list, whatever the handler does to the cache meanwhile.

A pointer is the position of a message in the heap, so that a message that is added anew
has a new one.  Removal is by hash: the sender's removal of an old pointer deletes the
message that is in the cache now.

`Moves` lists what a step can do.  A handler's call for other messages leaves the messages
of an identity alone (`Frame`).
-/

namespace Diego.RouteEmitter

open List

namespace Unregistration

/-! ## The model -/

/-- `unregistration/message.go`. -/
structure Message where
  registryMessage : RegistryMessage
  sentCount : Nat := 0
  deriving DecidableEq

/-- What the sender does next with a message of its list. -/
inductive Stage
  | emit
  | count
  | remove
  deriving DecidableEq

/-- Where `Sender.Run` is. -/
inductive Phase
  | waiting
  | sending (stage : Stage) (message : Nat) (messages : List Nat)
  | stopped
  deriving DecidableEq

structure System where
  /-- Every message that was ever allocated; a pointer is a position here. -/
  heap : List Message := []
  messages : GoMap RouterIdentity Nat := ∅
  phase : Phase := .waiting
  /-- What the sender has handed to the NATS emitter. -/
  emitted : List RegistryMessage := []

/-- A turn of the loop of `cache.Add`. -/
def System.addMessage (system : System) (registryMessage : RegistryMessage) : System :=
  { system with
    heap := system.heap ++ [{ registryMessage }]
    messages := system.messages.insert registryMessage.identity system.heap.length }

def System.add (system : System) (registryMessages : List RegistryMessage) : System :=
  registryMessages.foldl System.addMessage system

/-- A turn of the loop of `cache.Remove`. -/
def System.removeMessage (system : System) (registryMessage : RegistryMessage) : System :=
  { system with messages := system.messages.erase registryMessage.identity }

def System.remove (system : System) (registryMessages : List RegistryMessage) : System :=
  registryMessages.foldl System.removeMessage system

/-- The loop over the listed messages goes on with the next one. -/
def Phase.next : List Nat → Phase
  | [] => .waiting
  | message :: messages => .sending .emit message messages

/-- `message.SentCount++` and the comparison after it. -/
def System.count (system : System) (sendCount : Nat) (pointer : Nat) (message : Message)
    (messages : List Nat) : System :=
  { system with
    heap := system.heap.set pointer { message with sentCount := message.sentCount + 1 }
    phase := if message.sentCount + 1 = sendCount then .sending .remove pointer messages
      else Phase.next messages }

inductive Action
  /-- The handler's calls, each under the mutex. -/
  | add (registryMessages : List RegistryMessage)
  | remove (registryMessages : List RegistryMessage)
  /-- The ticker fires, and `List` returns the pointers in some order. -/
  | tick (list : List Nat)
  /-- The sender's next step with the message it is at. -/
  | send
  /-- A signal ends the sender. -/
  | signal
  deriving DecidableEq

def step (sendCount : Nat) : Action → System → Option System
  | .add registryMessages, system => some (system.add registryMessages)
  | .remove registryMessages, system => some (system.remove registryMessages)
  | .tick list, system =>
    if system.phase = .waiting ∧ list.Perm system.messages.values then
      some { system with phase := Phase.next list }
    else none
  | .send, system =>
    match system.phase with
    | .sending stage pointer messages =>
      (system.heap[pointer]?).map fun message =>
        match stage with
        | .emit =>
          { system with
            emitted := system.emitted ++ [message.registryMessage]
            phase := .sending .count pointer messages }
        | .count => system.count sendCount pointer message messages
        | .remove =>
          { system.removeMessage message.registryMessage with phase := Phase.next messages }
    | _ => none
  | .signal, system =>
    if system.phase = .waiting then some { system with phase := .stopped } else none

/-! ## The messages of one identity -/

/-- Whether the handler's call adds a message of the identity. -/
def Action.adds (identity : RouterIdentity) : Action → Bool
  | .add registryMessages => registryMessages.any fun message => message.identity = identity
  | _ => false

/-- Whether the handler's call removes a message of the identity. -/
def Action.removes (identity : RouterIdentity) : Action → Bool
  | .remove registryMessages => registryMessages.any fun message => message.identity = identity
  | _ => false

/-- The number of ticks of a run. -/
def ticks (actions : List Action) : Nat :=
  actions.countP fun
    | .tick _ => true
    | _ => false

/-- The listed messages that the sender has not emitted yet. -/
def Phase.unsent : Phase → List Nat
  | .sending .emit message messages => message :: messages
  | .sending _ _ messages => messages
  | _ => []

/-- The listed messages that the sender is not done with. -/
def Phase.pointers : Phase → List Nat
  | .sending _ message messages => message :: messages
  | _ => []

/-- No message is being handled. -/
def Phase.idle (phase : Phase) : Bool :=
  phase.pointers = []

namespace System

def identityOf (system : System) (pointer : Nat) : Option RouterIdentity :=
  (system.heap[pointer]?).map fun message => message.registryMessage.identity

def sent (system : System) (identity : RouterIdentity) : Nat :=
  system.emitted.countP fun message => message.identity = identity

def pointersOf (system : System) (identity : RouterIdentity) (pointers : List Nat) : List Nat :=
  pointers.filter fun pointer => system.identityOf pointer = some identity

/-- The sender is going to emit a message of the identity in the tick it is in. -/
def WillEmit (system : System) (identity : RouterIdentity) : Prop :=
  system.pointersOf identity system.phase.unsent ≠ []

/-- The sender is not done with a listed message of the identity. -/
def Handles (system : System) (identity : RouterIdentity) : Prop :=
  system.pointersOf identity system.phase.pointers ≠ []

end System

/-! ## What a step does -/

/-- The cases of `step`. -/
inductive Moves (sendCount : Nat) (system : System) : Action → System → Prop
  | add (registryMessages : List RegistryMessage) :
      Moves sendCount system (.add registryMessages) (system.add registryMessages)
  | remove (registryMessages : List RegistryMessage) :
      Moves sendCount system (.remove registryMessages) (system.remove registryMessages)
  | tick {list : List Nat} (hphase : system.phase = .waiting)
      (hlist : list.Perm system.messages.values) :
      Moves sendCount system (.tick list) { system with phase := Phase.next list }
  | emit {pointer : Nat} {messages : List Nat} {message : Message}
      (hphase : system.phase = .sending .emit pointer messages)
      (hmessage : system.heap[pointer]? = some message) :
      Moves sendCount system .send
        { system with
          emitted := system.emitted ++ [message.registryMessage]
          phase := .sending .count pointer messages }
  | count {pointer : Nat} {messages : List Nat} {message : Message}
      (hphase : system.phase = .sending .count pointer messages)
      (hmessage : system.heap[pointer]? = some message) :
      Moves sendCount system .send (system.count sendCount pointer message messages)
  | removeSent {pointer : Nat} {messages : List Nat} {message : Message}
      (hphase : system.phase = .sending .remove pointer messages)
      (hmessage : system.heap[pointer]? = some message) :
      Moves sendCount system .send
        { system.removeMessage message.registryMessage with phase := Phase.next messages }
  | signal (hphase : system.phase = .waiting) :
      Moves sendCount system .signal { system with phase := .stopped }

variable {sendCount : Nat} {system next : System} {action : Action}

theorem moves_of_step (h : step sendCount action system = some next) :
    Moves sendCount system action next := by
  cases action with
  | add registryMessages => exact Option.some.inj h ▸ .add registryMessages
  | remove registryMessages => exact Option.some.inj h ▸ .remove registryMessages
  | tick list =>
    simp only [step] at h
    split at h
    · rename_i hlist
      exact Option.some.inj h ▸ .tick hlist.1 hlist.2
    · simp at h
  | send =>
    simp only [step] at h
    split at h
    · rename_i stage pointer messages hphase
      obtain ⟨message, hmessage, rfl⟩ := Option.map_eq_some_iff.mp h
      cases stage with
      | emit => exact .emit hphase hmessage
      | count => exact .count hphase hmessage
      | remove => exact .removeSent hphase hmessage
    · simp at h
  | signal =>
    simp only [step] at h
    split at h
    · rename_i hphase
      exact Option.some.inj h ▸ .signal hphase
    · simp at h

variable (list : List Nat) {pointer : Nat} {message : Message} {identity : RouterIdentity}
  {registryMessages : List RegistryMessage}

@[simp] theorem Phase.unsent_next : (Phase.next list).unsent = list := by
  cases list <;> rfl

@[simp] theorem Phase.pointers_next : (Phase.next list).pointers = list := by
  cases list <;> rfl

theorem Phase.unsent_subset (phase : Phase) : phase.unsent ⊆ phase.pointers := by
  cases phase with
  | waiting | stopped => exact List.Subset.refl _
  | sending stage message messages =>
    cases stage with
    | emit => exact List.Subset.refl _
    | count | remove => exact subset_cons_self _ _

/-! ## Pointers -/

/-- The cache files every message under its identity, and the sender's pointers point
into the heap. -/
structure System.WellFormed (system : System) : Prop where
  cached : ∀ identity pointer, system.messages.lookup identity = some pointer →
    system.identityOf pointer = some identity
  listed : ∀ pointer ∈ system.phase.pointers, pointer < system.heap.length

theorem identityOf_eq_some (hmessage : system.heap[pointer]? = some message) :
    system.identityOf pointer = some message.registryMessage.identity := by
  simp [System.identityOf, hmessage]

theorem lt_length_of_identityOf (h : system.identityOf pointer = some identity) :
    pointer < system.heap.length := by
  obtain ⟨message, hmessage, -⟩ := Option.map_eq_some_iff.mp h
  exact (List.getElem?_eq_some_iff.mp hmessage).1

theorem identityOf_count {messages : List Nat} (hmessage : system.heap[pointer]? = some message)
    (pointer' : Nat) :
    (system.count sendCount pointer message messages).identityOf pointer' =
      system.identityOf pointer' := by
  unfold System.identityOf System.count
  grind

section Pointers

variable {identity : RouterIdentity} {pointer : Nat} {pointers : List Nat}

theorem pointersOf_cons_self (h : system.identityOf pointer = some identity) :
    system.pointersOf identity (pointer :: pointers) =
      pointer :: system.pointersOf identity pointers := by
  simp [System.pointersOf, h]

theorem pointersOf_cons_ne (h : system.identityOf pointer ≠ some identity) :
    system.pointersOf identity (pointer :: pointers) = system.pointersOf identity pointers := by
  simp [System.pointersOf, h]

theorem pointersOf_cons_eq_nil :
    system.pointersOf identity (pointer :: pointers) = [] ↔
      system.identityOf pointer ≠ some identity ∧ system.pointersOf identity pointers = [] := by
  by_cases h : system.identityOf pointer = some identity
  · simp [pointersOf_cons_self h, h]
  · simp [pointersOf_cons_ne h, h]

theorem pointersOf_congr
    (h : ∀ pointer ∈ pointers, next.identityOf pointer = system.identityOf pointer) :
    next.pointersOf identity pointers = system.pointersOf identity pointers := by
  refine filter_congr ?_
  intro pointer hmem
  rw [h pointer hmem]

/-- Of the messages a tick lists, one at most is of the identity: the one in the cache. -/
theorem pointersOf_list (h : system.WellFormed) {list : List Nat}
    (hlist : list.Perm system.messages.values) :
    system.pointersOf identity list = (system.messages.lookup identity).toList := by
  have hother : ∀ found, found ∈ GoMap.values (system.messages.erase identity) →
      system.identityOf found ≠ some identity := by
    intro found hfound hidentity
    obtain ⟨key, hkey⟩ := GoMap.mem_values.mp hfound
    obtain ⟨hne, hlookup⟩ := GoMap.lookup_erase_eq_some.mp hkey
    rw [h.cached key found hlookup] at hidentity
    exact hne (Option.some.inj hidentity)
  have hperm : (system.pointersOf identity list).Perm
      (system.pointersOf identity system.messages.values) := hlist.filter _
  cases hlookup : system.messages.lookup identity with
  | none =>
    have herase : system.messages.erase identity = system.messages :=
      AList.ext (kerase_of_notMem_keys (AList.lookup_eq_none.mp hlookup))
    rw [herase] at hother
    have hnil : system.pointersOf identity system.messages.values = [] :=
      filter_eq_nil_iff.mpr fun found hfound => by simpa using hother found hfound
    rw [hnil] at hperm
    exact hperm.eq_nil
  | some pointer =>
    have hcons := ((GoMap.values_erase_perm hlookup).filter
      fun pointer => decide (system.identityOf pointer = some identity))
    have hnil : (GoMap.values (system.messages.erase identity)).filter
        (fun pointer => decide (system.identityOf pointer = some identity)) = [] :=
      filter_eq_nil_iff.mpr fun found hfound => by simpa using hother found hfound
    rw [filter_cons_of_pos (by simpa using h.cached identity pointer hlookup), hnil]
      at hcons
    exact perm_singleton.mp (hperm.trans hcons)

end Pointers

/-! ## Calls for other messages -/

/-- `next` is as good as `system` for the messages of an identity. -/
structure Frame (identity : RouterIdentity) (system next : System) : Prop where
  lookup : next.messages.lookup identity = system.messages.lookup identity
  phase : next.phase = system.phase
  emitted : next.emitted = system.emitted
  heap : system.heap <+: next.heap

namespace Frame

variable {identity : RouterIdentity} {last : System}

theorem refl : Frame identity system system :=
  ⟨rfl, rfl, rfl, prefix_refl _⟩

theorem trans (h : Frame identity system next) (h' : Frame identity next last) :
    Frame identity system last :=
  ⟨h'.lookup.trans h.lookup, h'.phase.trans h.phase, h'.emitted.trans h.emitted,
    h.heap.trans h'.heap⟩

variable {pointer : Nat}

section

variable (h : Frame identity system next)
include h

theorem getElem? (hmessage : system.heap[pointer]? = some message) :
    next.heap[pointer]? = some message := by
  obtain ⟨rest, hrest⟩ := h.heap
  rw [← hrest, List.getElem?_append_left (List.getElem?_eq_some_iff.mp hmessage).1]
  exact hmessage

theorem identityOf (hlt : pointer < system.heap.length) :
    next.identityOf pointer = system.identityOf pointer := by
  have hmessage := getElem?_eq_getElem hlt
  rw [identityOf_eq_some hmessage, identityOf_eq_some (h.getElem? hmessage)]

theorem pointersOf (hwf : system.WellFormed) {pointers : List Nat}
    (hsubset : pointers ⊆ system.phase.pointers) :
    next.pointersOf identity pointers = system.pointersOf identity pointers :=
  pointersOf_congr fun pointer hmem => h.identityOf (hwf.listed pointer (hsubset hmem))

theorem sent : next.sent identity = system.sent identity := by
  rw [System.sent, h.emitted, System.sent]

end

theorem addMessage {registryMessage : RegistryMessage} (hne : registryMessage.identity ≠ identity) :
    Frame identity system (system.addMessage registryMessage) where
  lookup := by
    rw [System.addMessage, GoMap.lookup_insert_ite, if_neg (Ne.symm hne)]
  phase := rfl
  emitted := rfl
  heap := prefix_append _ _

theorem add (hne : (Action.add registryMessages).adds identity = false) :
    Frame identity system (system.add registryMessages) := by
  induction registryMessages generalizing system with
  | nil => exact refl
  | cons registryMessage registryMessages ih =>
    simp only [Action.adds, any_cons, Bool.or_eq_false_iff, decide_eq_false_iff_not] at hne
    exact (addMessage hne.1).trans (ih hne.2)

end Frame

theorem lookup_remove :
    (system.remove registryMessages).messages.lookup identity =
      if (Action.remove registryMessages).removes identity then none
      else system.messages.lookup identity := by
  induction registryMessages generalizing system with
  | nil => rfl
  | cons registryMessage registryMessages ih =>
    rw [System.remove, foldl_cons, ← System.remove, ih, System.removeMessage]
    by_cases heq : registryMessage.identity = identity
    · simp [Action.removes, heq]
    · simp [Action.removes, heq, Ne.symm heq]

theorem remove_eq :
    system.remove registryMessages =
      { system with messages := (system.remove registryMessages).messages } := by
  induction registryMessages generalizing system with
  | nil => rfl
  | cons registryMessage registryMessages ih =>
    rw [System.remove, foldl_cons, ← System.remove, ih]
    rfl

theorem Frame.remove (hne : (Action.remove registryMessages).removes identity = false) :
    Frame identity system (system.remove registryMessages) where
  lookup := by rw [lookup_remove, hne]; rfl
  phase := by rw [remove_eq]
  emitted := by rw [remove_eq]
  heap := ⟨[], by rw [remove_eq, append_nil]⟩

/-! ## Well-formed systems -/

namespace System.WellFormed

theorem new : System.WellFormed {} where
  cached identity pointer hlookup := by simp at hlookup
  listed pointer hmem := absurd hmem not_mem_nil

section

variable (h : system.WellFormed) {registryMessage : RegistryMessage}
  {registryMessages : List RegistryMessage}
include h

theorem addMessage : (system.addMessage registryMessage).WellFormed where
  cached identity pointer hlookup := by
    rw [System.addMessage, GoMap.lookup_insert_ite] at hlookup
    split at hlookup
    · rename_i heq
      cases hlookup
      simp [System.identityOf, System.addMessage, heq]
    · have hidentity := h.cached identity pointer hlookup
      have hlt := lt_length_of_identityOf hidentity
      rw [← hidentity]
      simp [System.identityOf, System.addMessage, getElem?_append_left hlt]
  listed pointer hmem := by
    have hlt := h.listed pointer hmem
    simp only [System.addMessage, length_append]
    omega

theorem add : (system.add registryMessages).WellFormed := by
  induction registryMessages generalizing system with
  | nil => exact h
  | cons registryMessage registryMessages ih => exact ih h.addMessage

/-- Fewer entries and fewer pointers are as well formed. -/
theorem shrink (hidentity : ∀ pointer, next.identityOf pointer = system.identityOf pointer)
    (hlength : next.heap.length = system.heap.length)
    (hlookup : ∀ identity pointer, next.messages.lookup identity = some pointer →
      system.messages.lookup identity = some pointer)
    (hpointers : next.phase.pointers ⊆ system.phase.pointers) : next.WellFormed where
  cached identity pointer hcached := by
    rw [hidentity]
    exact h.cached identity pointer (hlookup identity pointer hcached)
  listed pointer hmem := by
    rw [hlength]
    exact h.listed pointer (hpointers hmem)

theorem moves (hmoves : Moves sendCount system action next) : next.WellFormed := by
  cases hmoves with
  | add registryMessages => exact h.add
  | remove registryMessages =>
    have hlookup : ∀ identity pointer,
        (system.remove registryMessages).messages.lookup identity = some pointer →
          system.messages.lookup identity = some pointer := by
      intro identity pointer hcached
      rw [lookup_remove] at hcached
      split at hcached
      · simp at hcached
      · exact hcached
    rw [remove_eq]
    exact h.shrink (fun _ => rfl) rfl hlookup (List.Subset.refl _)
  | tick hphase hlist =>
    refine ⟨h.cached, ?_⟩
    intro pointer hmem
    rw [Phase.pointers_next] at hmem
    obtain ⟨identity, hlookup⟩ := GoMap.mem_values.mp (hlist.mem_iff.mp hmem)
    exact lt_length_of_identityOf (h.cached identity pointer hlookup)
  | emit hphase hmessage | signal hphase =>
    refine h.shrink (fun _ => rfl) rfl (fun _ _ hlookup => hlookup) ?_
    rw [hphase]
    exact List.Subset.refl _
  | count hphase hmessage =>
    refine h.shrink (identityOf_count hmessage) (length_set ..)
      (fun _ _ hlookup => hlookup) ?_
    rw [hphase]
    unfold System.count
    split
    · exact List.Subset.refl _
    · rw [Phase.pointers_next]
      exact subset_cons_self _ _
  | removeSent hphase hmessage =>
    refine h.shrink (fun _ => rfl) rfl (fun identity pointer hlookup => ?_) ?_
    · exact (GoMap.lookup_erase_eq_some.mp hlookup).2
    · rw [hphase]
      rw [Phase.pointers_next]
      exact subset_cons_self _ _

theorem run {actions : List Action} (hrun : Machine.run (step sendCount) system actions = some next)
    : next.WellFormed := by
  refine Machine.run_invariant h ?_ hrun
  intro action _ system next hwf hstep
  exact hwf.moves (moves_of_step hstep)

end

end System.WellFormed

end Unregistration

end Diego.RouteEmitter
