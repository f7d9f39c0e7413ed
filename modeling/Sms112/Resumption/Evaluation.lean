import Sms112.Resumption.Program

/-!
# Sequential evaluation

One program is evaluated without interference against an oracle, which fixes
the environment's choice for every operation. The meaning of the operations
is a handler, a total function of the operation, the choice and the state.
-/

namespace Resumption

variable {Op : Type} {Res : Op → Type} {Choice State α β : Type}

/-- The meaning of the atomic operations of one thread. -/
abbrev Handler {Op : Type} (Res : Op → Type) (Choice State : Type) :=
  (operation : Op) → Choice → State → Res operation × State

namespace Program

/-- Evaluate a program with the choices of an oracle. -/
def eval
    (handler : Handler Res Choice State)
    (oracle : Op → Choice) : Program Res α → State → α × State
  | .ret value, state => (value, state)
  | .perform operation next, state =>
      let outcome := handler operation (oracle operation) state
      (next outcome.1).eval handler oracle outcome.2

variable (handler : Handler Res Choice State) (oracle : Op → Choice)

@[simp] theorem eval_ret (value : α) (state : State) :
    (Program.ret value : Program Res α).eval handler oracle state =
      (value, state) := rfl

theorem eval_perform
    (operation : Op)
    (next : Res operation → Program Res α)
    (state : State) :
    (Program.perform operation next).eval handler oracle state =
      (next (handler operation (oracle operation) state).1).eval
        handler oracle (handler operation (oracle operation) state).2 := rfl

@[simp] theorem eval_call (operation : Op) (state : State) :
    (call operation : Program Res (Res operation)).eval
        handler oracle state =
      handler operation (oracle operation) state := rfl

/-- Evaluation of a sequence passes the value and the state on. -/
@[simp] theorem eval_bind
    (program : Program Res α)
    (next : α → Program Res β)
    (state : State) :
    (program >>= next).eval handler oracle state =
      (next (program.eval handler oracle state).1).eval
        handler oracle (program.eval handler oracle state).2 := by
  induction program generalizing state with
  | ret value => rfl
  | perform operation rest inductionHypothesis =>
      rw [perform_bind, eval_perform, eval_perform, inductionHypothesis]

theorem eval_bind_of_eq
    {program : Program Res α}
    {state later : State}
    {value : α}
    (evaluated : program.eval handler oracle state = (value, later))
    (next : α → Program Res β) :
    (program >>= next).eval handler oracle state =
      (next value).eval handler oracle later := by
  rw [eval_bind, evaluated]

@[simp] theorem eval_ite
    (condition : Prop) [Decidable condition]
    (onTrue onFalse : Program Res α)
    (state : State) :
    (if condition then onTrue else onFalse).eval handler oracle state =
      if condition then onTrue.eval handler oracle state
      else onFalse.eval handler oracle state := by
  split <;> rfl

/-- Handlers that agree on the operations a program uses give it one
meaning. -/
theorem Uses.eval_congr
    {other : Handler Res Choice State}
    {allowed : Op → Prop}
    {program : Program Res α}
    (uses : program.Uses allowed)
    (agree : ∀ operation, allowed operation →
      handler operation = other operation)
    (state : State) :
    program.eval handler oracle state = program.eval other oracle state := by
  induction program generalizing state with
  | ret value => rfl
  | perform operation next inductionHypothesis =>
      rw [eval_perform, eval_perform, agree operation uses.1]
      exact inductionHypothesis _ (uses.2 _) _

variable {handler oracle}

/-- What every allowed operation preserves, a program that uses only allowed
operations preserves. -/
theorem Uses.eval_preserves
    {allowed : Op → Prop}
    {relation : State → State → Prop}
    {program : Program Res α}
    (uses : program.Uses allowed)
    (reflexive : ∀ state, relation state state)
    (transitive : ∀ first second third,
      relation first second → relation second third → relation first third)
    (preserves : ∀ operation choice state, allowed operation →
      relation state (handler operation choice state).2)
    (state : State) :
    relation state (program.eval handler oracle state).2 := by
  induction program generalizing state with
  | ret value => exact reflexive state
  | perform operation next inductionHypothesis =>
      rw [eval_perform]
      exact transitive _ _ _
        (preserves operation (oracle operation) state uses.1)
        (inductionHypothesis _ (uses.2 _) _)

end Program

end Resumption
