import Diego.Machine
import Diego.Process

/-!
# Two processes and two streams

Two processes write to each other through streams that hold up to `capacity` symbols; a process
that reads an empty stream waits for the other one, or finds its end if the other one is done.
Who moves next is not determined.  The moves of the two commute (`commutes_step`), so one run in
which both are done stands for all of them (`completes_of_leads`).  Such a run is found by going
back and forth: one process writes a text, and the other one reads it (`leads_write`,
`leads_reply`).
-/

namespace Diego.Duplex

open Process Machine List

variable {Op β ε α γ σ : Type} {Ans : Op → Type}

inductive Side
  | left
  | right
  deriving DecidableEq

/-- What joins the processes, and what they run on. -/
structure Link {Op : Type} (β : Type) (Ans : Op → Type) (ε σ : Type) where
  capacity : Nat
  capacity_pos : 0 < capacity
  /-- The error of a read at the end of a stream. -/
  eof : ε
  call : (op : Op) → σ → Ans op × σ

@[ext]
structure Party {Op : Type} (β : Type) (Ans : Op → Type) (ε α σ : Type) where
  proc : Proc β Ans ε α
  world : σ
  /-- What was written to the process and that it has not read. -/
  inbox : List β

@[ext]
structure Net {Op : Type} (β : Type) (Ans : Op → Type) (ε α σ : Type) where
  left : Party β Ans ε α σ
  right : Party β Ans ε α σ

section Steps

variable [DecidableEq β] (link : Link β Ans ε σ)

/-- A move of a process, with what it writes.  The other stream may be full, and the other process
may be done, which closes the stream that this one reads. -/
def Party.advance (full closed : Bool) (p : Party β Ans ε α σ) :
    Option (Party β Ans ε α σ × List β) :=
  match p.proc, p.inbox with
  | .done _, _ => none
  | .read next, b :: inbox => some ({ p with proc := next (.ok b), inbox }, [])
  | .read next, [] => if closed then some ({ p with proc := next (.error link.eof) }, []) else none
  | .peek next, b :: _ => some ({ p with proc := next (.ok b) }, [])
  | .peek next, [] => if closed then some ({ p with proc := next (.error link.eof) }, []) else none
  | .readUntil delim sofar next, b :: inbox =>
    if b = delim then some ({ p with proc := next (.ok sofar), inbox }, [])
    else some ({ p with proc := .readUntil delim (sofar ++ [b]) next, inbox }, [])
  | .readUntil _ _ next, [] =>
    if closed then some ({ p with proc := next (.error link.eof) }, []) else none
  | .write b next, _ => if full then none else some ({ p with proc := next (.ok ()) }, [b])
  | .call op next, _ =>
    some ({ p with proc := next (link.call op p.world).1, world := (link.call op p.world).2 }, [])
  | .spin, _ => none

/-- A move of one side. -/
def Net.step : Side → Net β Ans ε α σ → Option (Net β Ans ε α σ)
  | .left, net =>
    (net.left.advance link (link.capacity ≤ net.right.inbox.length) net.right.proc.isDone).map
      fun (left, written) =>
        { left, right := { net.right with inbox := net.right.inbox ++ written } }
  | .right, net =>
    (net.right.advance link (link.capacity ≤ net.left.inbox.length) net.left.proc.isDone).map
      fun (right, written) =>
        { right, left := { net.left with inbox := net.left.inbox ++ written } }

/-- However the processes move, both come to be done in `last`: each run has at most `bound` moves,
and as long as it is not in `last` one of them can move. -/
def Completes (start last : Net β Ans ε α σ) : Prop :=
  ∃ bound, ∀ schedule net, run (Net.step link) start schedule = some net →
    ∃ rest, run (Net.step link) net rest = some last ∧ schedule.length + rest.length = bound

end Steps

section Commutation

variable [DecidableEq β] {link : Link β Ans ε σ} {full closed : Bool} {p p' : Party β Ans ε α σ}
  {written : List β} {arrived : List β}

theorem advance_isDone (h : p.proc.isDone = true) : p.advance link full closed = none := by
  obtain ⟨proc, world, inbox⟩ := p
  cases proc with
  | done result => rfl
  | _ => cases h

theorem not_isDone_of_advance (h : p.advance link full closed = some (p', written)) :
    p.proc.isDone = false := by
  cases hdone : p.proc.isDone with
  | false => rfl
  | true =>
    rw [advance_isDone hdone] at h
    cases h

/-- A move reads at most one symbol. -/
theorem length_inbox_advance (h : p.advance link full false = some (p', written)) :
    p'.inbox.length ≤ p.inbox.length := by
  obtain ⟨proc, world, inbox⟩ := p
  cases proc with
  | done result | spin => cases h
  | read next =>
    cases inbox with
    | nil => cases h
    | cons b inbox => cases h; exact Nat.le_succ _
  | peek next =>
    cases inbox with
    | nil => cases h
    | cons b inbox => cases h; exact Nat.le_refl _
  | readUntil delim sofar next =>
    cases inbox with
    | nil => cases h
    | cons b inbox =>
      simp only [Party.advance] at h
      split at h <;> (cases h; exact Nat.le_succ _)
  | write b next =>
    cases full with
    | true => cases h
    | false => cases h; exact Nat.le_refl _
  | call op next => cases h; exact Nat.le_refl _

/-- A move that does not wait is not changed by what arrives, by what the other process reads, or
by its end. -/
theorem advance_append (h : p.advance link full false = some (p', written)) {full' : Bool}
    (hfull : full' = true → full = true) :
    Party.advance link full' closed { p with inbox := p.inbox ++ arrived } =
      some ({ p' with inbox := p'.inbox ++ arrived }, written) := by
  obtain ⟨proc, world, inbox⟩ := p
  cases proc with
  | done result | spin => cases h
  | read next | peek next =>
    cases inbox with
    | nil => cases h
    | cons b inbox => cases h; rfl
  | readUntil delim sofar next =>
    cases inbox with
    | nil => cases h
    | cons b inbox =>
      simp only [Party.advance, cons_append] at h ⊢
      split at h
      · cases h
        rename_i hdelim
        rw [if_pos hdelim]
      · cases h
        rename_i hdelim
        rw [if_neg hdelim]
  | write b next =>
    cases hfull' : full' with
    | true =>
      rw [hfull hfull'] at h
      cases h
    | false =>
      cases full with
      | true => cases h
      | false => cases h; rfl
  | call op next => cases h; rfl

variable {left right : Party β Ans ε α σ} {net : Net β Ans ε α σ}

theorem step_left (h : left.advance link (link.capacity ≤ right.inbox.length) right.proc.isDone =
      some (p', written)) :
    Net.step link .left ⟨left, right⟩ =
      some ⟨p', { right with inbox := right.inbox ++ written }⟩ := by
  rw [Net.step, h]
  rfl

theorem step_right (h : right.advance link (link.capacity ≤ left.inbox.length) left.proc.isDone =
      some (p', written)) :
    Net.step link .right ⟨left, right⟩ =
      some ⟨{ left with inbox := left.inbox ++ written }, p'⟩ := by
  rw [Net.step, h]
  rfl

theorem left_right_commute {next next' : Net β Ans ε α σ} (h : Net.step link .left net = some next)
    (h' : Net.step link .right net = some next') :
    ∃ last, Net.step link .right next = some last ∧ Net.step link .left next' = some last := by
  obtain ⟨⟨left, written⟩, hleft, rfl⟩ := Option.map_eq_some_iff.mp h
  obtain ⟨⟨right, written'⟩, hright, rfl⟩ := Option.map_eq_some_iff.mp h'
  -- neither is done, so neither of them moves because its stream is closed
  rw [not_isDone_of_advance hright] at hleft
  rw [not_isDone_of_advance hleft] at hright
  have hfull : (decide (link.capacity ≤ left.inbox.length)) = true →
      (decide (link.capacity ≤ net.left.inbox.length)) = true := by
    have hle := length_inbox_advance hleft
    simp only [decide_eq_true_eq]
    omega
  have hfull' : (decide (link.capacity ≤ right.inbox.length)) = true →
      (decide (link.capacity ≤ net.right.inbox.length)) = true := by
    have hle := length_inbox_advance hright
    simp only [decide_eq_true_eq]
    omega
  exact ⟨_, step_right (advance_append hright hfull), step_left (advance_append hleft hfull')⟩

/-- **The moves of the two sides commute.** -/
theorem commutes_step : Commutes (Net.step (α := α) link) := by
  intro side side' net next next' hne h h'
  cases side with
  | left =>
    cases side' with
    | left => exact absurd rfl hne
    | right => exact left_right_commute h h'
  | right =>
    cases side' with
    | left =>
      obtain ⟨last, hlast, hlast'⟩ := left_right_commute h' h
      exact ⟨last, hlast', hlast⟩
    | right => exact absurd rfl hne

theorem step_of_isDone (hleft : net.left.proc.isDone = true) (hright : net.right.proc.isDone = true)
    (side : Side) : Net.step link side net = none := by
  cases side with
  | left => rw [Net.step, advance_isDone hleft]; rfl
  | right => rw [Net.step, advance_isDone hright]; rfl

/-- **If the processes can come to be done, they do so however they move.** -/
theorem completes_of_leads {start last : Net β Ans ε α σ}
    (h : Leads (Net.step link) start last) (hleft : last.left.proc.isDone = true)
    (hright : last.right.proc.isDone = true) : Completes link start last := by
  obtain ⟨actions, hrun⟩ := h
  refine ⟨actions.length, ?_⟩
  intro schedule net hnet
  exact run_of_commutes commutes_step (step_of_isDone hleft hright) hrun hnet

/-- Up to `n` moves, of the left side whenever it can move. -/
def Net.drive (link : Link β Ans ε σ) : Nat → Net β Ans ε α σ → Net β Ans ε α σ
  | 0, net => net
  | n + 1, net =>
    match Net.step link .left net, Net.step link .right net with
    | some next, _ => next.drive link n
    | none, some next => next.drive link n
    | none, none => net

theorem leads_drive {n : Nat} : Leads (Net.step link) net (net.drive link n) := by
  induction n generalizing net with
  | zero => exact .refl
  | succ n ih =>
    cases hleft : Net.step link .left net with
    | some next =>
      simp only [Net.drive, hleft]
      exact (Leads.single hleft).trans ih
    | none =>
      cases hright : Net.step link .right net with
      | some next =>
        simp only [Net.drive, hleft, hright]
        exact (Leads.single hright).trans ih
      | none =>
        simp only [Net.drive, hleft, hright]
        exact .refl

end Commutation

/-! ## Going back and forth -/

section Exchange

variable {link : Link β Ans ε σ}

/-- The process reads exactly these symbols, calling what it calls, and writes nothing. -/
inductive Reads (link : Link β Ans ε σ) :
    Proc β Ans ε α → σ → List β → Proc β Ans ε α → σ → Prop
  | refl (p : Proc β Ans ε α) (s : σ) : Reads link p s [] p s
  | read {next : Except ε β → Proc β Ans ε α} {b : β} {bs : List β} {p : Proc β Ans ε α} {s s' : σ}
      (h : Reads link (next (.ok b)) s bs p s') : Reads link (.read next) s (b :: bs) p s'
  | peek {next : Except ε β → Proc β Ans ε α} {b : β} {bs : List β} {p : Proc β Ans ε α} {s s' : σ}
      (h : Reads link (next (.ok b)) s (b :: bs) p s') : Reads link (.peek next) s (b :: bs) p s'
  | delim {delim : β} {sofar : List β} {next : Except ε (List β) → Proc β Ans ε α} {bs : List β}
      {p : Proc β Ans ε α} {s s' : σ} (h : Reads link (next (.ok sofar)) s bs p s') :
      Reads link (.readUntil delim sofar next) s (delim :: bs) p s'
  | more {delim : β} {sofar : List β} {next : Except ε (List β) → Proc β Ans ε α} {b : β}
      {bs : List β} {p : Proc β Ans ε α} {s s' : σ} (hne : b ≠ delim)
      (h : Reads link (.readUntil delim (sofar ++ [b]) next) s bs p s') :
      Reads link (.readUntil delim sofar next) s (b :: bs) p s'
  | call {op : Op} {next : Ans op → Proc β Ans ε α} {bs : List β} {p : Proc β Ans ε α} {s s' : σ}
      (h : Reads link (next (link.call op s).1) (link.call op s).2 bs p s') :
      Reads link (.call op next) s bs p s'

namespace Reads

variable {p q r : Proc β Ans ε α} {s s' s'' : σ} {bs cs : List β}

theorem handle (h : Reads link p s bs q s') (f : Except ε α → Proc β Ans ε γ) :
    Reads link (p.handle f) s bs (q.handle f) s' := by
  induction h with
  | refl => exact .refl _ _
  | read _ ih => exact .read ih
  | peek _ ih => exact .peek ih
  | delim _ ih => exact .delim ih
  | more hne _ ih => exact .more hne ih
  | call _ ih => exact .call ih

theorem trans (h : Reads link p s bs q s') (h' : Reads link q s' cs r s'') :
    Reads link p s (bs ++ cs) r s'' := by
  induction h with
  | refl => exact h'
  | read _ ih => exact .read (ih h')
  | peek _ ih => exact .peek (ih h')
  | delim _ ih => exact .delim (ih h')
  | more hne _ ih => exact .more hne (ih h')
  | call _ ih => exact .call (ih h')

theorem bind {p : Proc β Ans ε γ} {a : γ} {f : γ → Proc β Ans ε α}
    (h : Reads link p s bs (.done (.ok a)) s') (h' : Reads link (f a) s' cs r s'') :
    Reads link (p >>= f) s (bs ++ cs) r s'' :=
  (h.handle (Proc.onOk f)).trans h'

theorem line {delim : β} {sofar line : List β} {next : Except ε (List β) → Proc β Ans ε α}
    (hline : delim ∉ line) (h : Reads link (next (.ok (sofar ++ line))) s bs q s') :
    Reads link (.readUntil delim sofar next) s (line ++ delim :: bs) q s' := by
  induction line generalizing sofar with
  | nil => exact .delim (append_nil sofar ▸ h)
  | cons b line ih =>
    have hb : b ≠ delim := fun heq => hline (heq ▸ mem_cons_self)
    have htail : delim ∉ line := fun hmem => hline (mem_cons_of_mem b hmem)
    refine .more hb (ih htail ?_)
    rw [append_assoc]
    exact h

end Reads

/-- The net in which a side and the other one are these parties. -/
def Net.of : Side → Party β Ans ε α σ → Party β Ans ε α σ → Net β Ans ε α σ
  | .left, p, q => ⟨p, q⟩
  | .right, p, q => ⟨q, p⟩

def Side.other : Side → Side
  | .left => .right
  | .right => .left

variable [DecidableEq β]

variable {side : Side} {p : Party β Ans ε α σ} {q : Proc β Ans ε α} {t : σ} {bs : List β}
  {q' : Proc β Ans ε α} {t' : σ} {f : Except ε Unit → Proc β Ans ε α} {s : σ} {inbox : List β}

variable {written arrived rest : List β}

theorem step_of {p' q : Party β Ans ε α σ}
    (h : p.advance link (link.capacity ≤ q.inbox.length) q.proc.isDone = some (p', written)) :
    Net.step link side (.of side p q) =
      some (.of side p' { q with inbox := q.inbox ++ written }) := by
  cases side with
  | left => exact step_left h
  | right => exact step_right h

theorem step_of_other {q q' : Party β Ans ε α σ}
    (h : q.advance link (link.capacity ≤ p.inbox.length) p.proc.isDone = some (q', written)) :
    Net.step link side.other (.of side p q) =
      some (.of side { p with inbox := p.inbox ++ written } q') := by
  cases side with
  | left => exact step_right h
  | right => exact step_left h

/-- A symbol is written to an empty stream. -/
theorem leads_fill {b : β} :
    Leads (Net.step link) (.of side ⟨(Proc.writeAll (b :: bs)).handle f, s, inbox⟩ ⟨q, t, []⟩)
      (.of side ⟨(Proc.writeAll bs).handle f, s, inbox⟩ ⟨q, t, [b]⟩) := by
  have hroom : decide (link.capacity ≤ ([] : List β).length) = false :=
    decide_eq_false (Nat.not_le.mpr link.capacity_pos)
  have hwrite : Party.advance link false q.isDone
      ⟨(Proc.writeAll (b :: bs)).handle f, s, inbox⟩ =
        some (⟨(Proc.writeAll bs).handle f, s, inbox⟩, [b]) := rfl
  exact .single (step_of (hroom.symm ▸ hwrite))

theorem leads_arrived {b : β} (hbs : arrived ++ rest = b :: bs) (harrived : arrived.length ≤ 1) :
    Leads (Net.step link)
      (.of side ⟨(Proc.writeAll rest).handle f, s, inbox⟩ ⟨q, t, arrived⟩)
      (.of side ⟨(Proc.writeAll bs).handle f, s, inbox⟩ ⟨q, t, [b]⟩) := by
  cases arrived with
  | nil =>
    obtain rfl : rest = b :: bs := hbs
    exact leads_fill
  | cons c arrived =>
    obtain rfl : arrived = [] := eq_nil_of_length_eq_zero (by simpa using harrived)
    obtain ⟨rfl, rfl⟩ := cons.inj hbs
    exact .refl

/-- The other side moves without writing. -/
theorem leads_other (side : Side) {q q' : Party β Ans ε α σ}
    (h : q.advance link (link.capacity ≤ p.inbox.length) p.proc.isDone = some (q', [])) :
    Leads (Net.step link) (.of side p q) (.of side p q') := by
  have hstep : Net.step link side.other (.of side p q) = _ := step_of_other h
  rw [append_nil] at hstep
  exact .single hstep

/-- While one side writes the symbols that the other one reads, one of them can be on its way. -/
theorem leads_reads (side : Side) (h : Reads link q t bs q' t') (hbs : arrived ++ rest = bs)
    (harrived : arrived.length ≤ 1) :
    Leads (Net.step link)
      (.of side ⟨(Proc.writeAll rest).handle f, s, inbox⟩ ⟨q, t, arrived⟩)
      (.of side ⟨f (.ok ()), s, inbox⟩ ⟨q', t', []⟩) := by
  induction h generalizing arrived rest with
  | refl =>
    obtain ⟨rfl, rfl⟩ := append_eq_nil_iff.mp hbs
    exact .refl
  | read _ ih =>
    refine (leads_arrived hbs harrived).trans ((leads_other side rfl).trans ?_)
    exact ih (nil_append _) (Nat.zero_le 1)
  | peek _ ih =>
    refine (leads_arrived hbs harrived).trans ((leads_other side rfl).trans ?_)
    exact ih (singleton_append) (Nat.le_refl 1)
  | delim _ ih =>
    refine (leads_arrived hbs harrived).trans (.trans (leads_other side ?_)
      (ih (nil_append _) (Nat.zero_le 1)))
    exact if_pos rfl
  | more hne _ ih =>
    refine (leads_arrived hbs harrived).trans (.trans (leads_other side ?_)
      (ih (nil_append _) (Nat.zero_le 1)))
    exact if_neg hne
  | call _ ih => exact (leads_other side rfl).trans (ih hbs harrived)

/-- **One side writes what the other one reads.** -/
theorem leads_write (h : Reads link q t bs q' t') :
    Leads (Net.step link) ⟨⟨(Proc.writeAll bs).handle f, s, inbox⟩, ⟨q, t, []⟩⟩
      ⟨⟨f (.ok ()), s, inbox⟩, ⟨q', t', []⟩⟩ :=
  leads_reads .left h (nil_append bs) (Nat.zero_le 1)

theorem leads_reply (h : Reads link q t bs q' t') :
    Leads (Net.step link) ⟨⟨q, t, []⟩, ⟨(Proc.writeAll bs).handle f, s, inbox⟩⟩
      ⟨⟨q', t', []⟩, ⟨f (.ok ()), s, inbox⟩⟩ :=
  leads_reads .right h (nil_append bs) (Nat.zero_le 1)

theorem leads_calls (h : Reads link q t [] q' t') :
    Leads (Net.step link) ⟨p, ⟨q, t, []⟩⟩ ⟨p, ⟨q', t', []⟩⟩ :=
  leads_write (f := fun _ => p.proc) h

/-- The left side is done, and the right side looks for more. -/
theorem leads_eof {result : Except ε α} {next : Except ε β → Proc β Ans ε α} :
    Leads (Net.step link) ⟨⟨.done result, s, inbox⟩, ⟨.peek next, t, []⟩⟩
      ⟨⟨.done result, s, inbox⟩, ⟨next (.error link.eof), t, []⟩⟩ := by
  have heof : Party.advance link (link.capacity ≤ inbox.length) true ⟨.peek next, t, []⟩ =
      some (⟨next (.error link.eof), t, []⟩, []) := rfl
  exact leads_other .left heof

end Exchange

end Diego.Duplex
