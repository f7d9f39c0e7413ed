import Sms112.Resumption.Evaluation

/-!
# Every outcome of a program

`Always` says that a program run on its own ends where a postcondition holds,
whatever the environment chooses at each of its operations. The rules follow
the program: one for a sequence, one for an operation, one for a branch.
-/

namespace Resumption

variable {Op : Type} {Res : Op → Type} {Choice State α β : Type}

namespace Program

/-- Whatever the environment chooses, the program ends where `post` holds. -/
def Always
    (handler : Handler Res Choice State)
    (post : α → State → Prop) : Program Res α → State → Prop
  | .ret value, state => post value state
  | .perform operation next, state => ∀ choice,
      (next (handler operation choice state).1).Always handler post
        (handler operation choice state).2

variable {handler : Handler Res Choice State}
variable {post : α → State → Prop} {program : Program Res α} {state : State}

/-- A program, and another one from wherever it ends. -/
theorem Always.bind
    {middle : β → State → Prop}
    {first : Program Res β}
    {next : β → Program Res α}
    (always : first.Always handler middle state)
    (rest : ∀ value state, middle value state →
      (next value).Always handler post state) :
    (first >>= next).Always handler post state := by
  induction first generalizing state with
  | ret value => exact rest value state always
  | perform operation continuation inductionHypothesis =>
      exact fun choice => inductionHypothesis _ (always choice)

/-- An operation and what follows it. -/
theorem Always.step
    {operation : Op}
    {next : Res operation → Program Res α}
    (rest : ∀ choice, (next (handler operation choice state).1).Always handler
      post (handler operation choice state).2) :
    (Program.call operation >>= next).Always handler post state :=
  rest

theorem Always.ite
    {test : Prop} [Decidable test]
    {onTrue onFalse : Program Res α}
    (whenTrue : test → onTrue.Always handler post state)
    (whenFalse : ¬test → onFalse.Always handler post state) :
    (if test then onTrue else onFalse).Always handler post state := by
  split
  next holds => exact whenTrue holds
  next fails => exact whenFalse fails

/-- In particular it does so with the choices of an oracle. -/
theorem Always.eval
    (always : program.Always handler post state)
    (oracle : Op → Choice) :
    post (program.eval handler oracle state).1
      (program.eval handler oracle state).2 := by
  induction program generalizing state with
  | ret value => exact always
  | perform operation next inductionHypothesis =>
      exact inductionHypothesis _ (always (oracle operation))

end Program
end Resumption
