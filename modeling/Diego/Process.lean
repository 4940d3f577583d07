import Mathlib.Logic.Basic

/-!
# Processes on streams

A process reads symbols from one stream and writes symbols to another, and calls what it runs on.
`Proc` is the tree of its behaviours: each node is one such action, with what the process does for
every answer.  Processes are sequenced with `do`; an error ends a sequence unless `handle` or
`attempt` looks at it.

`Proc.run` runs a process on a given input.  `Proc.Safe` is a logic of pre- and postconditions for
the calls of a process, whatever it reads and whatever the answers are: as long as its calls so far
are in `rely`, each of its calls is in `guar` (`Proc.Safe.run`).
-/

namespace Diego.Process

/-- A process over symbols `β`.  A read, a write and a call go on with what they return. -/
inductive Proc {Op : Type} (β : Type) (Ans : Op → Type) (ε α : Type) : Type
  | done (result : Except ε α)
  | read (next : Except ε β → Proc β Ans ε α)
  /-- A look at the symbol that the next read returns. -/
  | peek (next : Except ε β → Proc β Ans ε α)
  /-- Reads through the first `delim`; `sofar` is what it has read. -/
  | readUntil (delim : β) (sofar : List β) (next : Except ε (List β) → Proc β Ans ε α)
  | write (b : β) (next : Except ε Unit → Proc β Ans ε α)
  | call (op : Op) (next : Ans op → Proc β Ans ε α)
  /-- The process goes on, in a way that is not described. -/
  | spin

namespace Proc

section Sequences

variable {Op β ε α γ δ : Type} {Ans : Op → Type} {f : Except ε α → Proc β Ans ε γ}

/-- Go on with the result, an error included. -/
def handle (p : Proc β Ans ε α) (f : Except ε α → Proc β Ans ε γ) : Proc β Ans ε γ :=
  match p with
  | done result => f result
  | read next => .read fun r => (next r).handle f
  | peek next => .peek fun r => (next r).handle f
  | readUntil delim sofar next => .readUntil delim sofar fun r => (next r).handle f
  | write b next => .write b fun r => (next r).handle f
  | call op next => .call op fun a => (next a).handle f
  | spin => .spin

/-- Go on with a value only. -/
def onOk (f : α → Proc β Ans ε γ) : Except ε α → Proc β Ans ε γ
  | .ok a => f a
  | .error err => .done (.error err)

instance : Monad (Proc β Ans ε) where
  pure a := .done (.ok a)
  bind p f := p.handle (onOk f)

def fail (err : ε) : Proc β Ans ε α :=
  .done (.error err)

/-- The result as a value. -/
def attempt (p : Proc β Ans ε α) : Proc β Ans ε (Except ε α) :=
  p.handle fun result => .done (.ok result)

def writeAll : List β → Proc β Ans ε Unit
  | [] => .done (.ok ())
  | b :: bs => .write b (onOk fun _ => writeAll bs)

def isDone : Proc β Ans ε α → Bool
  | done _ => true
  | _ => false

@[simp] theorem onOk_ok (f : α → Proc β Ans ε γ) (a : α) : onOk f (.ok a) = f a := rfl

theorem handle_handle {p : Proc β Ans ε α} {g : Except ε γ → Proc β Ans ε δ} :
    (p.handle f).handle g = p.handle fun r => (f r).handle g := by
  induction p with
  | done result | spin => rfl
  | read next ih => exact congrArg Proc.read (funext ih)
  | peek next ih => exact congrArg Proc.peek (funext ih)
  | readUntil delim sofar next ih => exact congrArg (Proc.readUntil delim sofar) (funext ih)
  | write b next ih => exact congrArg (Proc.write b) (funext ih)
  | call op next ih => exact congrArg (Proc.call op) (funext ih)

end Sequences

/-! ## Runs on a given input -/

section Runs

variable {Op β ε α γ σ : Type} {Ans : Op → Type}

/-- What a process runs on: how its writes end, and the answers to its calls. -/
structure Env {Op : Type} (β : Type) (Ans : Op → Type) (ε σ : Type) where
  write : β → σ → Except ε Unit × σ
  call : (op : Op) → σ → Ans op × σ

structure Outcome (Op ε α σ : Type) where
  /-- The calls, the first one first. -/
  ops : List Op
  world : σ
  result : Option (Except ε α)

/-- The text up to the first `delim`, after `sofar`, and what follows it. -/
def lineOf [DecidableEq β] (delim : β) : List β → List β → Option (List β × List β)
  | _, [] => none
  | sofar, b :: rest =>
    if b = delim then some (sofar, rest) else lineOf delim (sofar ++ [b]) rest

/-- The run of a process that is sent `input`; the reads after it end with `ending`. -/
def run [DecidableEq β] (env : Env β Ans ε σ) (ending : ε) :
    Proc β Ans ε α → List β → σ → Outcome Op ε α σ
  | done result, _, world => { ops := [], world, result := some result }
  | read next, [], world => (next (.error ending)).run env ending [] world
  | read next, b :: input, world => (next (.ok b)).run env ending input world
  | peek next, [], world => (next (.error ending)).run env ending [] world
  | peek next, b :: input, world => (next (.ok b)).run env ending (b :: input) world
  | readUntil delim sofar next, input, world =>
    match lineOf delim sofar input with
    | some (line, rest) => (next (.ok line)).run env ending rest world
    | none => (next (.error ending)).run env ending [] world
  | write b next, input, world =>
    (next (env.write b world).1).run env ending input (env.write b world).2
  | call op next, input, world =>
    let outcome := (next (env.call op world).1).run env ending input (env.call op world).2
    { outcome with ops := op :: outcome.ops }
  | spin, _, world => { ops := [], world, result := none }

end Runs

/-! ## What a process may call -/

section Calls

variable {Op β ε α γ σ : Type} {Ans : Op → Type} {rely guar : Op → Prop}

/-- As long as its calls are in `rely`, the process makes only calls in `guar`, and a value that
it returns meets `post`. -/
def Safe (rely guar : Op → Prop) (post : α → Prop) : Proc β Ans ε α → Prop
  | done (.ok a) => post a
  | done (.error _) => True
  | read next => ∀ r, (next r).Safe rely guar post
  | peek next => ∀ r, (next r).Safe rely guar post
  | readUntil _ _ next => ∀ r, (next r).Safe rely guar post
  | write _ next => ∀ r, (next r).Safe rely guar post
  | call op next => guar op ∧ (rely op → ∀ a, (next a).Safe rely guar post)
  | spin => True

variable {post : α → Prop} {p : Proc β Ans ε α} {post' : γ → Prop}

theorem Safe.handle {f : Except ε α → Proc β Ans ε γ} (h : p.Safe rely guar post)
    (hok : ∀ a, post a → (f (.ok a)).Safe rely guar post')
    (herror : ∀ err, (f (.error err)).Safe rely guar post') :
    (p.handle f).Safe rely guar post' := by
  induction p with
  | done result =>
    cases result with
    | ok a => exact hok a h
    | error err => exact herror err
  | read next ih | peek next ih | readUntil delim sofar next ih | write b next ih =>
    exact fun r => ih r (h r)
  | call op next ih => exact ⟨h.1, fun hop a => ih a (h.2 hop a)⟩
  | spin => trivial

theorem Safe.bind {f : α → Proc β Ans ε γ} (h : p.Safe rely guar post)
    (hnext : ∀ a, post a → (f a).Safe rely guar post') : (p >>= f).Safe rely guar post' :=
  h.handle hnext fun _ => trivial

theorem Safe.attempt (h : p.Safe rely guar post) : p.attempt.Safe rely guar fun _ => True :=
  h.handle (fun _ _ => trivial) fun _ => trivial

theorem safe_writeAll {bs : List β} :
    (writeAll bs : Proc β Ans ε Unit).Safe rely guar fun _ => True := by
  induction bs with
  | nil => trivial
  | cons b bs ih =>
    intro r
    cases r with
    | ok _ => exact ih
    | error err => trivial

/-- **The calls of a run of a safe process are in `guar`**, if they are in `rely`. -/
theorem Safe.run [DecidableEq β] (h : p.Safe rely guar post) (env : Env β Ans ε σ) (ending : ε)
    (input : List β) (world : σ) (hrely : ∀ op ∈ (p.run env ending input world).ops, rely op) :
    ∀ op ∈ (p.run env ending input world).ops, guar op := by
  induction p generalizing input world with
  | done result | spin => exact fun op hop => absurd hop List.not_mem_nil
  | read next ih | peek next ih =>
    cases input with
    | nil | cons b input => exact ih _ (h _) _ _ hrely
  | readUntil delim sofar next ih =>
    simp only [Proc.run] at hrely ⊢
    cases hline : lineOf delim sofar input with
    | none | some line =>
      simp only [hline] at hrely ⊢
      exact ih _ (h _) _ _ hrely
  | write b next ih => exact ih _ (h _) _ _ hrely
  | call op next ih =>
    obtain ⟨hop, hrest⟩ := List.forall_mem_cons.mp hrely
    exact List.forall_mem_cons.mpr ⟨h.1, ih _ (h.2 hop _) _ _ hrest⟩

end Calls

end Proc

end Diego.Process
