import Sms112.Resumption.Evaluation

/-!
# Traces

The operations an evaluation performs, each with the state it is performed in.
What a program does on the way is a statement about its trace, where what it
ends with is one about its evaluation.
-/

namespace Resumption.Program

variable {Op : Type} {Res : Op → Type} {Choice State α β : Type}

/-- The operations performed, in their order, with the states before them. -/
def trace
    (handler : Handler Res Choice State)
    (oracle : Op → Choice) : Program Res α → State → List (Op × State)
  | .ret _, _ => []
  | .perform operation next, state =>
      let outcome := handler operation (oracle operation) state
      (operation, state) ::
        (next outcome.1).trace handler oracle outcome.2

variable (handler : Handler Res Choice State) (oracle : Op → Choice)

@[simp] theorem trace_ret (value : α) (state : State) :
    (Program.ret value : Program Res α).trace handler oracle state = [] :=
  rfl

theorem trace_perform
    (operation : Op)
    (next : Res operation → Program Res α)
    (state : State) :
    (Program.perform operation next).trace handler oracle state =
      (operation, state) ::
        (next (handler operation (oracle operation) state).1).trace
          handler oracle (handler operation (oracle operation) state).2 := rfl

@[simp] theorem trace_call (operation : Op) (state : State) :
    (call operation : Program Res (Res operation)).trace
      handler oracle state = [(operation, state)] := rfl

/-- A sequence performs the operations of the one and then of the other. -/
@[simp] theorem trace_bind
    (program : Program Res α)
    (next : α → Program Res β)
    (state : State) :
    (program >>= next).trace handler oracle state =
      program.trace handler oracle state ++
        (next (program.eval handler oracle state).1).trace handler oracle
          (program.eval handler oracle state).2 := by
  induction program generalizing state with
  | ret value => rfl
  | perform operation rest inductionHypothesis =>
      rw [perform_bind, trace_perform, trace_perform, eval_perform,
        inductionHypothesis, List.cons_append]

theorem trace_bind_of_eq
    {program : Program Res α}
    {state later : State}
    {value : α}
    (evaluated : program.eval handler oracle state = (value, later))
    (next : α → Program Res β) :
    (program >>= next).trace handler oracle state =
      program.trace handler oracle state ++
        (next value).trace handler oracle later := by
  rw [trace_bind, evaluated]

@[simp] theorem trace_ite
    (condition : Prop) [Decidable condition]
    (onTrue onFalse : Program Res α)
    (state : State) :
    (if condition then onTrue else onFalse).trace handler oracle state =
      if condition then onTrue.trace handler oracle state
      else onFalse.trace handler oracle state := by
  split <;> rfl

variable {handler oracle}

/-- Every operation performed is one of those the program may use, and what
these preserve holds whenever one of them is performed. -/
theorem Uses.trace
    {allowed : Op → Prop}
    {program : Program Res α}
    (uses : program.Uses allowed)
    (invariant : State → Prop)
    (preserves : ∀ operation choice state, allowed operation →
      invariant state → invariant (handler operation choice state).2)
    {state : State}
    (holds : invariant state) :
    ∀ step ∈ program.trace handler oracle state,
      allowed step.1 ∧ invariant step.2 := by
  induction program generalizing state with
  | ret value => exact List.forall_mem_nil _
  | perform operation next inductionHypothesis =>
      rw [trace_perform, List.forall_mem_cons]
      exact ⟨⟨uses.1, holds⟩, inductionHypothesis _ (uses.2 _)
        (preserves _ _ _ uses.1 holds)⟩

/-- Programs that use only allowed operations perform only such. -/
theorem Uses.performs
    {allowed : Op → Prop}
    {program : Program Res α}
    (uses : program.Uses allowed)
    (state : State) :
    ∀ step ∈ program.trace handler oracle state, allowed step.1 := by
  intro step member
  exact (uses.trace (fun _ => True) (fun _ _ _ _ _ => trivial) trivial step
    member).1

/-- A program does the same with two oracles that agree on the operations it
may use. -/
theorem Uses.oracle_congr
    {allowed : Op → Prop}
    {other : Op → Choice}
    {program : Program Res α}
    (uses : program.Uses allowed)
    (agree : ∀ operation, allowed operation →
      oracle operation = other operation)
    (state : State) :
    program.eval handler oracle state = program.eval handler other state ∧
      program.trace handler oracle state =
        program.trace handler other state := by
  induction program generalizing state with
  | ret value => exact ⟨rfl, rfl⟩
  | perform operation next inductionHypothesis =>
      have rest := inductionHypothesis
        (handler operation (other operation) state).1 (uses.2 _)
        (handler operation (other operation) state).2
      rw [eval_perform, eval_perform, trace_perform, trace_perform,
        agree operation uses.1, rest.1, rest.2]
      exact ⟨rfl, rfl⟩

end Resumption.Program
