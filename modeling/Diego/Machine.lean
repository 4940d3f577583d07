import Mathlib.Data.List.Basic

/-!
# Machines and their runs

A machine is a partial step function `step : Action → State → Option State`.  Whatever is
not determined by the state (who moves next, what a call to another system returns, which
case of a `select` is taken) is part of the action, so a list of actions determines a run.

Most properties below hold only along runs whose steps meet a condition.  `Reaches step cond`
are the states that such runs reach, and `Reaches.invariant` is the induction over them.
`Meets step cond` says of one list of actions that every step it takes meets the condition;
where a step that breaks the condition breaks the property at once, `safe_iff_meets` turns
the two into an equivalence for every run, and `holds_iff_meets` does so for the last state
where the property is never restored.  `run_filter` compares a run with the run of some of its
actions alone, and `run_map` with a run of another machine that takes a step for each of them.
Where actions that are possible in one state commute, all runs end as one of them does
(`run_of_commutes`).
-/

namespace Diego.Machine

open Option List

variable {State Action : Type*}

section Runs

variable (step : Action → State → Option State)

/-- The state after a list of actions, if each of them is possible in its turn. -/
def run (state : State) : List Action → Option State
  | [] => some state
  | action :: actions => (step action state).bind fun next => run next actions

/-- The states that runs from `start` reach when all their steps meet `cond`. -/
inductive Reaches (cond : Action → State → Prop) (start : State) : State → Prop
  | refl : Reaches cond start start
  | step {action : Action} {state next : State} (h : Reaches cond start state)
      (hcond : cond action state) (hstep : step action state = some next) :
      Reaches cond start next

/-- Every step that the actions take meets the condition. -/
def Meets (cond : Action → State → Prop) (state : State) : List Action → Prop
  | [] => True
  | action :: actions =>
    cond action state ∧ ∀ next, step action state = some next → Meets cond next actions

instance decidableMeets (cond : Action → State → Prop)
    [∀ action state, Decidable (cond action state)] (state : State) :
    (actions : List Action) → Decidable (Meets step cond state actions)
  | [] => inferInstanceAs (Decidable True)
  | action :: actions =>
    match hstep : step action state with
    | none => decidable_of_iff (cond action state) (by simp [Meets, hstep])
    | some next =>
      haveI := decidableMeets cond next actions
      decidable_of_iff (cond action state ∧ Meets step cond next actions)
        (by simp [Meets, hstep])

/-- Some actions lead from one state to the other. -/
def Leads (start state : State) : Prop :=
  ∃ actions, run step start actions = some state

/-- Two actions that are possible in one state can be taken in either order. -/
def Commutes : Prop :=
  ∀ action action' state next next', action ≠ action' → step action state = some next →
    step action' state = some next' →
    ∃ last, step action' next = some last ∧ step action next' = some last

/-- The states that the actions lead through, the first one included. -/
def Visits (start : State) (actions : List Action) (state : State) : Prop :=
  ∃ before, before <+: actions ∧ run step start before = some state

end Runs

variable {step : Action → State → Option State} {cond : Action → State → Prop}
  {start state : State} {actions : List Action}

variable {Inv : State → Prop} {action : Action} {next : State} {last : State}

/-- What holds at the start and is kept by every step that meets the condition holds in
every state that is reached. -/
theorem Reaches.invariant (hstart : Inv start)
    (hstep : ∀ action state next, Inv state → cond action state →
      step action state = some next → Inv next) (h : Reaches step cond start state) :
    Inv state := by
  induction h with
  | refl => exact hstart
  | step _ hcond hnext ih => exact hstep _ _ _ ih hcond hnext

theorem Reaches.head (hcond : cond action start) (hstep : step action start = some next)
    (h : Reaches step cond next state) : Reaches step cond start state := by
  induction h with
  | refl => exact .step .refl hcond hstep
  | step _ hcond' hstep' ih => exact .step ih hcond' hstep'

/-- A run whose steps all meet the condition reaches its last state. -/
theorem reaches_of_run (hmeets : Meets step cond start actions)
    (hrun : run step start actions = some state) : Reaches step cond start state := by
  induction actions generalizing start with
  | nil =>
    cases hrun
    exact .refl
  | cons action actions ih =>
    obtain ⟨next, hnext, hrest⟩ := bind_eq_some_iff.mp hrun
    exact .head hmeets.1 hnext (ih (hmeets.2 next hnext) hrest)

/-- What holds at the start and is kept by every action of a run holds after it. -/
theorem run_invariant (hstart : Inv start)
    (hstep : ∀ action ∈ actions, ∀ state next, Inv state → step action state = some next → Inv next)
    (hrun : run step start actions = some state) : Inv state := by
  induction actions generalizing start with
  | nil =>
    cases hrun
    exact hstart
  | cons action actions ih =>
    obtain ⟨next, hnext, hrest⟩ := bind_eq_some_iff.mp hrun
    refine ih (hstep action mem_cons_self start next hstart hnext) ?_ hrest
    intro action' hmem
    exact hstep action' (mem_cons_of_mem action hmem)

theorem run_append (before after : List Action) :
    run step start (before ++ after) = (run step start before).bind (run step · after) := by
  induction before generalizing start with
  | nil => rfl
  | cons action before ih =>
    rw [cons_append, run, run, bind_assoc]
    exact bind_congr fun next _ => ih

theorem Leads.refl : Leads step state state :=
  ⟨[], rfl⟩

theorem Leads.single (h : step action start = some next) : Leads step start next :=
  ⟨[action], by rw [run, h]; rfl⟩

theorem Leads.trans (h : Leads step start next) (h' : Leads step next state) :
    Leads step start state := by
  obtain ⟨before, hbefore⟩ := h
  obtain ⟨after, hafter⟩ := h'
  refine ⟨before ++ after, ?_⟩
  rw [run_append, hbefore]
  exact hafter

/-- A run to a last state can begin with any action that is possible. -/
theorem exists_run_of_step (hcommutes : Commutes step) (hlast : ∀ action, step action last = none)
    (hrun : run step start actions = some last) (hstep : step action start = some next) :
    ∃ rest, run step next rest = some last ∧ rest.length + 1 = actions.length := by
  induction actions generalizing start next with
  | nil =>
    cases hrun
    rw [hlast action] at hstep
    cases hstep
  | cons first actions ih =>
    obtain ⟨state, hstate, hrest⟩ := bind_eq_some_iff.mp hrun
    by_cases heq : first = action
    · subst heq
      obtain rfl := some.inj (hstate.symm.trans hstep)
      exact ⟨actions, hrest, rfl⟩
    · obtain ⟨joined, hjoined, hjoined'⟩ := hcommutes first action _ _ _ heq hstate hstep
      obtain ⟨rest, hrun', hlength⟩ := ih hrest hjoined
      refine ⟨first :: rest, bind_eq_some_iff.mpr ⟨joined, hjoined', hrun'⟩, ?_⟩
      rw [length_cons, length_cons, hlength]

/-- **Where actions commute, every run can be completed to the same last state, and all complete
runs have the same length.** -/
theorem run_of_commutes (hcommutes : Commutes step) (hlast : ∀ action, step action last = none)
    {others : List Action} (hrun : run step start actions = some last)
    (hothers : run step start others = some state) :
    ∃ rest, run step state rest = some last ∧ others.length + rest.length = actions.length := by
  induction others generalizing start actions with
  | nil =>
    cases hothers
    exact ⟨actions, hrun, Nat.zero_add _⟩
  | cons action others ih =>
    obtain ⟨next, hnext, hafter⟩ := bind_eq_some_iff.mp hothers
    obtain ⟨actions', hrun', hlength⟩ := exists_run_of_step hcommutes hlast hrun hnext
    obtain ⟨rest, hrest, hsum⟩ := ih hrun' hafter
    refine ⟨rest, hrest, ?_⟩
    rw [length_cons]
    omega

theorem visits_nil : Visits step start [] state ↔ state = start := by
  constructor
  · rintro ⟨before, hbefore, hrun⟩
    rw [prefix_nil] at hbefore
    subst hbefore
    exact (some.inj hrun).symm
  · rintro rfl
    exact ⟨[], prefix_rfl, rfl⟩

theorem visits_cons :
    Visits step start (action :: actions) state ↔
      state = start ∨ ∃ next, step action start = some next ∧ Visits step next actions state := by
  constructor
  · rintro ⟨before, hbefore, hrun⟩
    cases before with
    | nil => exact Or.inl (some.inj hrun).symm
    | cons first before =>
      obtain ⟨rfl, htail⟩ := cons_prefix_cons.mp hbefore
      obtain ⟨next, hnext, hrest⟩ := bind_eq_some_iff.mp hrun
      exact Or.inr ⟨next, hnext, before, htail, hrest⟩
  · rintro (rfl | ⟨next, hnext, before, hbefore, hrest⟩)
    · exact ⟨[], nil_prefix, rfl⟩
    · exact ⟨action :: before, cons_prefix_cons.mpr ⟨rfl, hbefore⟩,
        bind_eq_some_iff.mpr ⟨next, hnext, hrest⟩⟩

/-- **A run is safe throughout if and only if all its steps meet the condition**, when the
condition keeps an invariant that implies safety, and a step that breaks the condition is
unsafe at once. -/
theorem safe_iff_meets {Safe : State → Prop} (hsafe : ∀ state, Inv state → Safe state)
    (hkeep : ∀ action state next, Inv state → cond action state →
      step action state = some next → Inv next)
    (hbreak : ∀ action state next, Inv state → step action state = some next → Safe next →
      cond action state) (hstart : Inv start) (hrun : (run step start actions).isSome) :
    (∀ state, Visits step start actions state → Safe state) ↔ Meets step cond start actions := by
  induction actions generalizing start with
  | nil =>
    refine iff_of_true ?_ trivial
    intro state hvisits
    rw [visits_nil.mp hvisits]
    exact hsafe start hstart
  | cons action actions ih =>
    obtain ⟨last, hlast⟩ := isSome_iff_exists.mp hrun
    obtain ⟨next, hnext, hrest⟩ := bind_eq_some_iff.mp hlast
    constructor
    · intro hall
      have hcond : cond action start := by
        refine hbreak action start next hstart hnext (hall next ?_)
        exact visits_cons.mpr (Or.inr ⟨next, hnext, [], nil_prefix, rfl⟩)
      refine ⟨hcond, ?_⟩
      intro next' hnext'
      obtain rfl := some.inj (hnext.symm.trans hnext')
      refine (ih (hkeep _ _ _ hstart hcond hnext) (hrest ▸ rfl)).mp ?_
      intro state hvisits
      exact hall state (visits_cons.mpr (Or.inr ⟨next, hnext, hvisits⟩))
    · rintro ⟨hcond, hmeets⟩ state hvisits
      rcases visits_cons.mp hvisits with rfl | ⟨next', hnext', hvisits⟩
      · exact hsafe _ hstart
      · obtain rfl := some.inj (hnext.symm.trans hnext')
        exact (ih (hkeep _ _ _ hstart hcond hnext) (hrest ▸ rfl)).mpr (hmeets next hnext)
          state hvisits

/-- **A property holds at the end of a run if and only if all its steps meet the condition**,
when it is kept by the steps that meet the condition, broken by those that do not, and never
restored. -/
theorem holds_iff_meets {Holds : State → Prop}
    (hstep : ∀ action ∈ actions, ∀ state next, Inv state → step action state = some next →
      Inv next ∧ (Holds next ↔ Holds state ∧ cond action state)) (hstart : Inv start)
    (hrun : run step start actions = some state) :
    Inv state ∧ (Holds state ↔ Holds start ∧ Meets step cond start actions) := by
  induction actions generalizing start with
  | nil =>
    cases hrun
    exact ⟨hstart, (and_iff_left trivial).symm⟩
  | cons action actions ih =>
    obtain ⟨next, hnext, hrest⟩ := bind_eq_some_iff.mp hrun
    obtain ⟨hinv, hholds⟩ := hstep action mem_cons_self start next hstart hnext
    obtain ⟨hlast, hiff⟩ :=
      ih (fun action hmem => hstep action (mem_cons_of_mem _ hmem)) hinv hrest
    have hmeets : Meets step cond start (action :: actions) ↔
        cond action start ∧ Meets step cond next actions := by
      simp [Meets, hnext]
    refine ⟨hlast, ?_⟩
    rw [hiff, hholds, hmeets, and_assoc]

/-- A run in which the actions that are dropped keep a relation, and those that are kept can be
taken on both sides, is related to the run of the kept actions alone. -/
theorem run_filter {keep : Action → Bool} {Sim : State → State → Prop}
    (hkeep : ∀ action state state' next, keep action = true → Sim state state' →
      cond action state → step action state = some next →
      ∃ next', step action state' = some next' ∧ Sim next next')
    (hdrop : ∀ action state state' next, keep action = false → Sim state state' →
      cond action state → step action state = some next → Sim next state')
    {start' : State} (hstart : Sim start start') (hmeets : Meets step cond start actions)
    (hrun : run step start actions = some state) :
    ∃ state', run step start' (actions.filter keep) = some state' ∧ Sim state state' := by
  induction actions generalizing start start' with
  | nil =>
    cases hrun
    exact ⟨start', rfl, hstart⟩
  | cons action actions ih =>
    obtain ⟨next, hnext, hrest⟩ := bind_eq_some_iff.mp hrun
    have hmeets' : Meets step cond next actions := hmeets.2 next hnext
    cases haction : keep action with
    | true =>
      obtain ⟨next', hnext', hsim⟩ := hkeep action _ _ next haction hstart hmeets.1 hnext
      obtain ⟨state', hrun', hstate'⟩ := ih hsim hmeets' hrest
      refine ⟨state', ?_, hstate'⟩
      rw [filter_cons_of_pos haction]
      exact bind_eq_some_iff.mpr ⟨next', hnext', hrun'⟩
    | false =>
      rw [filter_cons_of_neg (Bool.eq_false_iff.mp haction)]
      exact ih (hdrop action _ _ next haction hstart hmeets.1 hnext) hmeets' hrest

/-- A machine that can follow every step of another one can follow its runs. -/
theorem run_map {State' Action' : Type*} {step' : Action' → State' → Option State'}
    {translate : Action → Action'} {Fine : Action → Prop} {Sim : State → State' → Prop}
    (hstep : ∀ action state state' next', Sim state state' → Fine action →
      step' (translate action) state' = some next' →
      ∃ next, step action state = some next ∧ Sim next next')
    {start' state' : State'} (hstart : Sim start start') (hfine : ∀ action ∈ actions, Fine action)
    (hrun : run step' start' (actions.map translate) = some state') :
    ∃ state, run step start actions = some state ∧ Sim state state' := by
  induction actions generalizing start start' with
  | nil =>
    cases hrun
    exact ⟨start, rfl, hstart⟩
  | cons action actions ih =>
    obtain ⟨next', hnext', hrest⟩ := bind_eq_some_iff.mp hrun
    obtain ⟨hhead, htail⟩ := forall_mem_cons.mp hfine
    obtain ⟨next, hnext, hsim⟩ := hstep action _ _ next' hstart hhead hnext'
    obtain ⟨state, hstate, hlast⟩ := ih hsim htail hrest
    exact ⟨state, bind_eq_some_iff.mpr ⟨next, hnext, hstate⟩, hlast⟩

end Diego.Machine
