import Sms112.Resumption.Program

/-!
# Instances of a component

A program written for one instance of a component runs in a system of many
when each of its operations is performed as an operation on that instance
(`embed`). `UsesGiven` bounds the operations of a program whose operations
have results of a known kind: a name that the program has read, for example,
is the only one it uses.
-/

namespace Resumption
namespace Program

variable {Op Op' : Type} {Res : Op → Type} {Res' : Op' → Type}
variable {α β γ : Type}

/-- Perform the operations of a program as operations of a larger system. -/
def embed
    (operations : Op → Op')
    (results : ∀ operation, Res' (operations operation) → Res operation) :
    Program Res α → Program Res' α
  | .ret value => .ret value
  | .perform operation next =>
      .perform (operations operation) fun result =>
        (next (results operation result)).embed operations results

theorem embed_bind
    (operations : Op → Op')
    (results : ∀ operation, Res' (operations operation) → Res operation)
    (program : Program Res α)
    (next : α → Program Res β) :
    (program >>= next).embed operations results =
      program.embed operations results >>= fun value =>
        (next value).embed operations results := by
  induction program with
  | ret value => rfl
  | perform operation rest inductionHypothesis =>
      simp only [perform_bind, embed, inductionHypothesis]

/-- A program performs in the larger system what its operations are there. -/
theorem Uses.embed
    {allowed : Op → Prop}
    {permitted : Op' → Prop}
    {operations : Op → Op'}
    {results : ∀ operation, Res' (operations operation) → Res operation}
    {program : Program Res α}
    (uses : program.Uses allowed)
    (each : ∀ operation, allowed operation → permitted (operations operation)) :
    (program.embed operations results).Uses permitted := by
  induction program with
  | ret value => trivial
  | perform operation next inductionHypothesis =>
      exact ⟨each operation uses.1, fun result =>
        inductionHypothesis _ (uses.2 _)⟩

theorem uses_any (program : Program Res α) : program.Uses fun _ => True := by
  induction program with
  | ret value => trivial
  | perform operation next inductionHypothesis =>
      exact ⟨trivial, inductionHypothesis⟩

/-- A sequence of three programs may be grouped either way. -/
theorem bind_bind
    (program : Program Res α)
    (next : α → Program Res β)
    (last : β → Program Res γ) :
    program >>= next >>= last = program >>= fun value => next value >>= last := by
  induction program with
  | ret value => rfl
  | perform operation rest inductionHypothesis =>
      simp only [perform_bind, inductionHypothesis]

/-- Nothing follows a program that returns its value. -/
theorem bind_ret (program : Program Res α) :
    (program >>= fun value => .ret value) = program := by
  induction program with
  | ret value => rfl
  | perform operation next inductionHypothesis =>
      simp only [perform_bind, inductionHypothesis]

/-- Every operation a program can reach satisfies `allowed`, if the results of
the operations before it satisfy `given`. -/
def UsesGiven
    (allowed : Op → Prop)
    (given : (operation : Op) → Res operation → Prop) :
    Program Res α → Prop
  | .ret _ => True
  | .perform operation next =>
      allowed operation ∧ ∀ result, given operation result →
        (next result).UsesGiven allowed given

variable {allowed : Op → Prop}
variable {given : (operation : Op) → Res operation → Prop}

@[simp] theorem usesGiven_ret (value : α) :
    (Program.ret value : Program Res α).UsesGiven allowed given := trivial

theorem UsesGiven.call
    {operation : Op}
    (permitted : allowed operation) :
    (Program.call operation : Program Res (Res operation)).UsesGiven
      allowed given :=
  ⟨permitted, fun _ _ => trivial⟩

theorem UsesGiven.bind
    {program : Program Res α}
    {next : α → Program Res β}
    (first : program.UsesGiven allowed given)
    (rest : ∀ value, (next value).UsesGiven allowed given) :
    (program >>= next).UsesGiven allowed given := by
  induction program with
  | ret value => exact rest value
  | perform operation continuation inductionHypothesis =>
      exact ⟨first.1, fun result holds =>
        inductionHypothesis result (first.2 result holds)⟩

/-- An operation and what follows it. -/
theorem UsesGiven.step
    {operation : Op}
    {next : Res operation → Program Res α}
    (permitted : allowed operation)
    (rest : ∀ result, given operation result →
      (next result).UsesGiven allowed given) :
    (Program.call operation >>= next).UsesGiven allowed given :=
  ⟨permitted, rest⟩

theorem UsesGiven.ite
    {test : Prop} [Decidable test]
    {onTrue onFalse : Program Res α}
    (whenTrue : onTrue.UsesGiven allowed given)
    (whenFalse : onFalse.UsesGiven allowed given) :
    (if test then onTrue else onFalse).UsesGiven allowed given := by
  split <;> assumption

end Program
end Resumption
