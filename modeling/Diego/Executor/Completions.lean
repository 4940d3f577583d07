import Diego.Executor.StoreNode

/-!
# How a finished process completes its container

`completeWithError` of `depot/containerstore/storenode.go` reports the error with which the
process group of a container has ended.  For a trace it goes through the events: every plain
error is a completion of its own and the loop goes on, but a nested trace is the last event
that is looked at.

So the calls of `complete` are given by the errors that the loop reaches (`reached`), which
are some of the errors in the tree (`reasons`): none, one or several of them.
-/

namespace Diego.Executor

/-! ## The errors of a trace -/

/-- The text of an error of a member of the process group. -/
def memberReason (member : String) (message : GoString) : GoString :=
  if member = "runner" then message else bytes member ++ bytes " exited: " ++ message

/-- The errors of a trace, those of its nested traces included. -/
def traceReasons : List (String × Option ExitError) → List GoString
  | [] => []
  | (_, none) :: events => traceReasons events
  | (member, some (.other message)) :: events => memberReason member message :: traceReasons events
  | (_, some (.trace nested)) :: events => traceReasons nested ++ traceReasons events

/-- The errors of a trace up to the first nested trace, and then what is reached in that. -/
def traceReached : List (String × Option ExitError) → List GoString
  | [] => []
  | (_, none) :: events => traceReached events
  | (member, some (.other message)) :: events => memberReason member message :: traceReached events
  | (_, some (.trace nested)) :: _ => traceReached nested

/-- The errors with which a process has ended. -/
def reasons : Option ExitError → List GoString
  | none => []
  | some (.other message) => [message]
  | some (.trace events) => traceReasons events

def reached : Option ExitError → List GoString
  | none => []
  | some (.other message) => [message]
  | some (.trace events) => traceReached events

variable {events : List (String × Option ExitError)}

theorem traceReached_subset : traceReached events ⊆ traceReasons events := by
  fun_induction traceReached events with
  | case1 => simp
  | case2 member events ih =>
    rw [traceReasons]
    exact ih
  | case3 member message events ih =>
    rw [traceReasons]
    exact List.cons_subset_cons _ ih
  | case4 member nested events ih =>
    rw [traceReasons]
    exact List.Subset.trans ih (List.subset_append_left _ _)

theorem reached_subset (err : Option ExitError) : reached err ⊆ reasons err := by
  match err with
  | none => simp [reached]
  | some (.other message) => simp [reached, reasons]
  | some (.trace events) => exact traceReached_subset

/-! ## The completions -/

theorem completionsOfTrace_eq :
    completionsOfTrace events = (traceReached events).map completionOfMessage := by
  fun_induction traceReached events with
  | case1 => simp [completionsOfTrace]
  | case2 member events ih =>
    rw [completionsOfTrace]
    exact ih
  | case3 member message events ih =>
    rw [completionsOfTrace, ih]
    rfl
  | case4 member nested events ih =>
    rw [completionsOfTrace]
    exact ih

/-- A process that ends with an error makes one call for each error that is reached. -/
theorem completeWithError_some (err : ExitError) :
    completeWithError (some err) = (reached (some err)).map completionOfMessage := by
  cases err with
  | other message => rfl
  | trace events => exact completionsOfTrace_eq

theorem completionOfMessage_failed_iff {message : GoString} :
    (completionOfMessage message).failed = true ↔ message ≠ [] := by
  unfold completionOfMessage
  split <;> simp_all

theorem completionOfMessage_failureReason (message : GoString) :
    (completionOfMessage message).failureReason = message := by
  unfold completionOfMessage
  split <;> simp_all

/-- What the end of a process should do: one completion, which is a failure just when there
is an error, for the reason of one of the errors. -/
structure CompletesOnce (err : Option ExitError) (calls : List Completion) : Prop where
  once : calls.length = 1
  failed : ∀ call ∈ calls, call.failed = true ↔ reasons err ≠ []
  reason : ∀ call ∈ calls, call.failed = true → call.failureReason ∈ reasons err

/-- **When a finished process completes its container as it should**: it has ended without an
error, or the loop reaches exactly one error and that has a text. -/
theorem completeWithError_once_iff (err : Option ExitError) :
    CompletesOnce err (completeWithError err) ↔
      err = none ∨ ∃ reason ≠ [], reached err = [reason] := by
  cases err with
  | none =>
    refine iff_of_true ⟨rfl, ?_, ?_⟩ (Or.inl rfl)
    · simp [completeWithError, completionOfMessage, reasons]
    · simp [completeWithError, completionOfMessage]
  | some err =>
    have hsubset := reached_subset (some err)
    rw [completeWithError_some]
    constructor
    · rintro ⟨honce, hfailed, -⟩
      rw [List.length_map] at honce
      obtain ⟨reason, hreached⟩ := List.length_eq_one_iff.mp honce
      rw [hreached] at hsubset hfailed
      have hmem : reason ∈ reasons (some err) := hsubset (List.mem_singleton_self _)
      have hcall := (hfailed _ (List.mem_singleton_self _)).mpr (List.ne_nil_of_mem hmem)
      exact Or.inr ⟨reason, completionOfMessage_failed_iff.mp hcall, hreached⟩
    · rintro (hnone | ⟨reason, htext, hreached⟩)
      · simp at hnone
      · rw [hreached] at hsubset ⊢
        have hmem : reason ∈ reasons (some err) := hsubset (List.mem_singleton_self _)
        refine ⟨rfl, ?_, ?_⟩ <;> intro call hcall <;> rw [List.mem_singleton.mp hcall]
        · exact iff_of_true (completionOfMessage_failed_iff.mpr htext) (List.ne_nil_of_mem hmem)
        · intro _
          rw [completionOfMessage_failureReason]
          exact hmem

/-- Errors of the credential manager and of the runner are two completions, a trace without
errors is none, and an error without a text completes the container as a success. -/
theorem completeWithError_not_once :
    (completeWithError (some (.trace [("cred-manager-runner", some (.other (bytes "expired"))),
        ("runner", some (.other (bytes "cancelled")))])) =
      [⟨true, bytes "cred-manager-runner exited: expired", false⟩,
        ⟨true, bytes "cancelled", false⟩]) ∧
      completeWithError (some (.trace [("cred-manager-runner", none), ("runner", none)])) = [] ∧
      completeWithError (some (.trace [("runner", some (.other []))])) = [⟨false, [], false⟩] := by
  simp only [completeWithError_some, reached, traceReached]
  decide +kernel

end Diego.Executor
