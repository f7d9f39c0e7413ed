import Mathlib.Logic.Function.Basic

/-!
# Resumption programs

A resumption program performs atomic operations one at a time and continues
with the result of each of them. It is finite along every branch, so a thread
that runs for ever is a program restarted by its scheduler.

`Uses` bounds the operations a program may perform, whatever the results of
the earlier ones are.
-/

namespace Resumption

/-- A program over the atomic operations `Op`, whose results are given by
`Res`, returning a value of type `α`. -/
inductive Program {Op : Type} (Res : Op → Type) (α : Type)
  | ret (value : α)
  | perform (operation : Op) (next : Res operation → Program Res α)

namespace Program

variable {Op : Type} {Res : Op → Type} {α β : Type}

/-- Run one program and continue with its value. -/
def bind (program : Program Res α) (next : α → Program Res β) :
    Program Res β :=
  match program with
  | .ret value => next value
  | .perform operation rest =>
      .perform operation fun result => (rest result).bind next

/-- The program that performs a single operation and returns its result. -/
def call (operation : Op) : Program Res (Res operation) :=
  .perform operation .ret

instance : Monad (Program Res) where
  pure := .ret
  bind := bind

@[simp] theorem pure_eq_ret (value : α) :
    (pure value : Program Res α) = .ret value := rfl

/-- A program that has returned goes on at once. -/
@[simp] theorem ret_bind (value : α) (next : α → Program Res β) :
    Program.ret value >>= next = next value := rfl

/-- What follows a program follows each of its operations. -/
@[simp] theorem perform_bind
    (operation : Op)
    (rest : Res operation → Program Res α)
    (next : α → Program Res β) :
    Program.perform operation rest >>= next =
      .perform operation fun result => rest result >>= next := rfl

/-- Every operation a program can reach satisfies `allowed`. -/
def Uses (allowed : Op → Prop) : Program Res α → Prop
  | .ret _ => True
  | .perform operation next =>
      allowed operation ∧ ∀ result, (next result).Uses allowed

variable {allowed : Op → Prop}

@[simp] theorem uses_ret (value : α) :
    (Program.ret value : Program Res α).Uses allowed := trivial

@[simp] theorem uses_perform
    (operation : Op)
    (next : Res operation → Program Res α) :
    (Program.perform operation next).Uses allowed ↔
      allowed operation ∧ ∀ result, (next result).Uses allowed := Iff.rfl

/-- A single operation uses just that operation. -/
@[simp] theorem uses_call (operation : Op) :
    (call operation : Program Res (Res operation)).Uses allowed ↔
      allowed operation := by
  simp [call]

/-- A program and what follows it. -/
theorem Uses.bind
    {program : Program Res α}
    {next : α → Program Res β}
    (first : program.Uses allowed)
    (rest : ∀ value, (next value).Uses allowed) :
    (program >>= next).Uses allowed := by
  induction program with
  | ret value => exact rest value
  | perform operation continuation inductionHypothesis =>
      exact ⟨first.1, fun result =>
        inductionHypothesis result (first.2 result)⟩

/-- Two bounds on a program hold together. -/
theorem Uses.and
    {program : Program Res α}
    {required : Op → Prop}
    (first : program.Uses allowed)
    (second : program.Uses required) :
    program.Uses fun operation => allowed operation ∧ required operation := by
  induction program with
  | ret value => trivial
  | perform operation next inductionHypothesis =>
      exact ⟨⟨first.1, second.1⟩, fun result =>
        inductionHypothesis result (first.2 result) (second.2 result)⟩

/-- An operation and what follows it. -/
theorem Uses.step
    {operation : Op}
    {next : Res operation → Program Res α}
    (permitted : allowed operation)
    (rest : ∀ result, (next result).Uses allowed) :
    (call operation >>= next).Uses allowed :=
  ⟨permitted, rest⟩

/-- A weaker bound. -/
theorem Uses.mono
    {larger : Op → Prop}
    {program : Program Res α}
    (uses : program.Uses allowed)
    (implies : ∀ operation, allowed operation → larger operation) :
    program.Uses larger := by
  induction program with
  | ret value => trivial
  | perform operation next inductionHypothesis =>
      exact ⟨implies operation uses.1, fun result =>
        inductionHypothesis result (uses.2 result)⟩

end Program

end Resumption
