import Sms112.Resumption.Instances
import Sms112.Resumption.Interleaving

/-!
# Termination of a thread

A program ends after a bounded number of operations, and a thread starts one
program after the other. If every label has a rank that pays for its program
and for the label that program returns, the thread comes to a label of rank
zero, where it stays, after as many steps of its own as the rank says. The
results the environment cannot give, for example because of what has happened
before, need not be paid for.
-/

namespace Resumption

variable {Op : Type} {Res : Op → Type} {α β : Type}

namespace Program

variable (possible : (operation : Op) → Res operation → Prop)

/-- While the results are possible ones, the program returns before the budget
is spent, and what is left of it covers the rank of the value returned. -/
def Ends (rank : α → Nat) : Program Res α → Nat → Prop
  | .ret value, budget => rank value ≤ budget
  | .perform operation next, budget =>
      0 < budget ∧ ∀ result, possible operation result →
        (next result).Ends rank (budget - 1)

/-- At most so many operations, whatever their results are. -/
abbrev Within (program : Program Res α) (bound : Nat) : Prop :=
  program.Ends (fun _ _ => True) (fun _ => 0) bound

variable {possible} {rank : α → Nat} {program : Program Res α}
variable {budget bound : Nat}

theorem Ends.mono
    (ends : program.Ends possible rank budget)
    {larger : Nat}
    (le : budget ≤ larger) :
    program.Ends possible rank larger := by
  induction program generalizing budget larger with
  | ret value => exact Nat.le_trans ends le
  | perform operation next inductionHypothesis =>
      exact ⟨Nat.lt_of_lt_of_le ends.1 le, fun result holds =>
        inductionHypothesis result (ends.2 result holds)
          (Nat.sub_le_sub_right le 1)⟩

/-- Fewer results need not be paid for. -/
theorem Ends.restrict
    {fewer : (operation : Op) → Res operation → Prop}
    (ends : program.Ends possible rank budget)
    (implies : ∀ operation result,
      fewer operation result → possible operation result) :
    program.Ends fewer rank budget := by
  induction program generalizing budget with
  | ret value => exact ends
  | perform operation next inductionHypothesis =>
      exact ⟨ends.1, fun result isPossible =>
        inductionHypothesis result (ends.2 result (implies _ _ isPossible))⟩

/-- An operation and what follows it. -/
theorem Ends.step
    {operation : Op}
    {next : Res operation → Program Res α}
    (positive : 0 < budget)
    (rest : ∀ result, possible operation result →
      (next result).Ends possible rank (budget - 1)) :
    (call operation >>= next).Ends possible rank budget :=
  ⟨positive, rest⟩

namespace Within

theorem ret (value : α) : (Program.ret value : Program Res α).Within 0 :=
  Nat.le_refl 0

theorem step
    {operation : Op}
    {next : Res operation → Program Res α}
    (rest : ∀ result, (next result).Within bound) :
    (call operation >>= next).Within (bound + 1) :=
  ⟨Nat.succ_pos bound, fun result _ => rest result⟩

/-- A program and what follows it, which may use what is left. -/
theorem andThen
    (first : program.Within bound)
    {next : α → Program Res β}
    {rank : β → Nat}
    (le : bound ≤ budget)
    (rest : ∀ value, (next value).Ends possible rank (budget - bound)) :
    (program >>= next).Ends possible rank budget := by
  induction program generalizing bound budget with
  | ret value => exact (rest value).mono (Nat.sub_le _ _)
  | perform operation continuation inductionHypothesis =>
      obtain ⟨positive, within⟩ := first
      refine ⟨Nat.lt_of_lt_of_le positive le, fun result _ =>
        inductionHypothesis result (within result trivial)
          (Nat.sub_le_sub_right le 1) fun value => ?_⟩
      have same : budget - 1 - (bound - 1) = budget - bound := by omega
      exact same ▸ rest value

theorem bind
    (first : program.Within bound)
    {next : α → Program Res β}
    (le : bound ≤ budget)
    (rest : ∀ value, (next value).Within (budget - bound)) :
    (program >>= next).Within budget :=
  first.andThen le rest

/-- In a larger system a program takes no longer. -/
theorem embed
    {Op' : Type} {Res' : Op' → Type}
    (within : program.Within bound)
    (operations : Op → Op')
    (results : ∀ operation, Res' (operations operation) → Res operation) :
    (program.embed operations results).Within bound := by
  induction program generalizing bound with
  | ret value => exact Nat.zero_le _
  | perform operation next inductionHypothesis =>
      exact ⟨within.1, fun result _ =>
        inductionHypothesis _ (within.2 _ trivial)⟩

/-- What is left of a bounded program, if all it may return is paid for. -/
theorem ends
    (within : program.Within bound)
    {top : Nat}
    (le : ∀ value, rank value ≤ top) :
    program.Ends possible rank (bound + top) := by
  induction program generalizing bound with
  | ret value => exact Nat.le_trans (le value) (Nat.le_add_left _ _)
  | perform operation next inductionHypothesis =>
      obtain ⟨positive, rest⟩ := within
      refine ⟨Nat.lt_of_lt_of_le positive (Nat.le_add_right _ _),
        fun result _ => ?_⟩
      have same : bound + top - 1 = bound - 1 + top := by omega
      exact same ▸ inductionHypothesis result (rest result trivial)

end Within

end Program

namespace Machine

variable {Thread Choice State Label : Type} [DecidableEq Thread]
variable {machine : Machine Res Thread Choice State Label}
variable {start config : Config Res Thread State Label}
variable {condition : Condition Op Thread Choice State}
variable {thread : Thread} {bound budget : Nat}

/-- What is left of a thread's program, with the rank of what it returns, stays
bounded, if this is so for the program of every label of such a rank. -/
theorem Reach.ends
    {possible : (operation : Op) → Res operation → Prop}
    {rank : Label → Nat}
    (code : ∀ label, rank label ≤ bound →
      (machine.code thread label).Ends possible rank bound)
    (results : ∀ state operation choice, possible operation
      (machine.exec thread operation choice state).1)
    (initially : (start.control thread).Ends possible rank bound)
    (reach : machine.Reach condition start config) :
    (config.control thread).Ends possible rank bound := by
  induction reach with
  | start => exact initially
  | @jump config actor label reach returned inductionHypothesis =>
      by_cases same : thread = actor
      · subst same
        rw [returned] at inductionHypothesis
        simp only [Function.update_self]
        exact code label inductionHypothesis
      · simp only [Function.update_of_ne same]
        exact inductionHypothesis
  | @perform config actor operation next reach pending choice holds
      inductionHypothesis =>
      by_cases same : thread = actor
      · subst same
        rw [pending] at inductionHypothesis
        simp only [Function.update_self]
        exact (inductionHypothesis.2 _ (results _ _ _)).mono (Nat.sub_le _ _)
      · simp only [Function.update_of_ne same]
        exact inductionHypothesis

/-- What is left of a thread's program stays bounded. -/
theorem Reach.within
    (code : ∀ label, (machine.code thread label).Within bound)
    (initially : (start.control thread).Within bound)
    (reach : machine.Reach condition start config) :
    (config.control thread).Within bound := by
  -- the rank of a label is that of a program that has returned
  have ends {program : Program Res Label} :
      program.Ends (fun _ _ => True) (fun _ => 0) bound ↔
        program.Within bound := Iff.rfl
  exact ends.mp (reach.ends (fun label _ => ends.mpr (code label))
    (fun _ _ _ => trivial) initially)

/-- Every label's rank pays for a step to its program, for the program, and
for the label that returns; a label of rank zero only leads to itself. -/
structure Winds
    (machine : Machine Res Thread Choice State Label)
    (thread : Thread)
    (possible : (operation : Op) → Res operation → Prop)
    (rank : Label → Nat) : Prop where
  ends : ∀ label, 0 < rank label →
    (machine.code thread label).Ends possible rank (rank label - 1)
  stays : ∀ label, rank label = 0 →
    machine.code thread label = .ret label

variable {possible : (operation : Op) → Res operation → Prop}
variable {rank : Label → Nat}

/-- A step of the thread itself spends some of the budget, unless it is at a
label of rank zero. -/
theorem own_step_of_pos
    (ends : ∀ label, 0 < rank label →
      (machine.code thread label).Ends possible rank (rank label - 1))
    (results : ∀ operation choice, possible operation
      (machine.exec thread operation choice config.state).1)
    (left : (config.control thread).Ends possible rank budget)
    (going : ∀ label, config.control thread = .ret label → 0 < rank label)
    (oracle : Op → Choice) :
    ((machine.step thread oracle config).control thread).Ends possible rank
      (budget - 1) := by
  unfold Machine.step
  split
  next label returned =>
    rw [returned] at left
    have covered : rank label ≤ budget := left
    simp only [Function.update_self]
    exact (ends label (going label returned)).mono
      (Nat.sub_le_sub_right covered 1)
  next operation next pending =>
    rw [pending] at left
    simp only [Function.update_self]
    exact left.2 _ (results operation (oracle operation))

theorem Winds.own_step
    (winds : machine.Winds thread possible rank)
    (results : ∀ operation choice, possible operation
      (machine.exec thread operation choice config.state).1)
    (left : (config.control thread).Ends possible rank budget)
    (oracle : Op → Choice) :
    ((machine.step thread oracle config).control thread).Ends possible rank
      (budget - 1) := by
  by_cases rests : ∃ label, config.control thread = .ret label ∧
      rank label = 0
  · obtain ⟨label, returned, final⟩ := rests
    unfold Machine.step
    rw [returned]
    simp only [Function.update_self]
    rw [winds.stays label final]
    exact Nat.le_trans (Nat.le_of_eq final) (Nat.zero_le _)
  · refine own_step_of_pos winds.ends results left (fun label returned => ?_)
      oracle
    exact Nat.pos_of_ne_zero fun final => rests ⟨label, returned, final⟩

theorem control_step_of_ne
    {other : Thread}
    (different : thread ≠ other)
    (oracle : Op → Choice) :
    (machine.step other oracle config).control thread =
      config.control thread := by
  unfold Machine.step
  split
  · exact Function.update_of_ne different _ _
  · exact Function.update_of_ne different _ _

/-- A thread that takes as many steps as its budget is at a label of rank zero
at some time, whatever the others do in between. -/
theorem run_reaches
    (ends : ∀ label, 0 < rank label →
      (machine.code thread label).Ends possible rank (rank label - 1))
    {good : Config Res Thread State Label → Prop}
    (closed : ∀ config thread oracle, good config →
      good (machine.step thread oracle config))
    (results : ∀ config operation choice, good config → possible operation
      (machine.exec thread operation choice config.state).1)
    (schedule : List (Thread × (Op → Choice)))
    (isGood : good config)
    (left : (config.control thread).Ends possible rank budget)
    (enough : budget ≤ schedule.countP fun entry => entry.1 = thread) :
    ∃ earlier later label, schedule = earlier ++ later ∧
      (machine.run earlier config).control thread = .ret label ∧
        rank label = 0 := by
  induction schedule generalizing config budget with
  | nil =>
      have spent : budget = 0 := Nat.le_zero.mp enough
      subst spent
      refine ⟨[], [], ?_⟩
      show ∃ label, _ ∧ config.control thread = .ret label ∧ rank label = 0
      generalize config.control thread = control at left
      cases control with
      | ret label => exact ⟨label, rfl, rfl, Nat.le_zero.mp left⟩
      | perform operation next => exact absurd left.1 (Nat.lt_irrefl 0)
  | cons entry schedule inductionHypothesis =>
      obtain ⟨actor, oracle⟩ := entry
      have isNext := closed config actor oracle isGood
      have continues {later : Nat}
          (left : ((machine.step actor oracle config).control thread).Ends
            possible rank later)
          (enough : later ≤ schedule.countP fun entry => entry.1 = thread) :
          ∃ earlier later label,
            (actor, oracle) :: schedule = earlier ++ later ∧
              (machine.run earlier config).control thread = .ret label ∧
                rank label = 0 := by
        obtain ⟨earlier, later, label, same, reached⟩ :=
          inductionHypothesis isNext left enough
        exact ⟨(actor, oracle) :: earlier, later, label,
          congrArg _ same, reached⟩
      by_cases own : actor = thread
      · subst own
        rw [List.countP_cons_of_pos (by simp)] at enough
        by_cases rests : ∃ label, config.control actor = .ret label ∧
            rank label = 0
        · obtain ⟨label, rests⟩ := rests
          exact ⟨[], _, label, rfl, rests⟩
        · refine continues (own_step_of_pos ends (fun operation choice =>
            results config operation choice isGood) left
              (fun label returned => Nat.pos_of_ne_zero fun final =>
                rests ⟨label, returned, final⟩) oracle) ?_
          exact Nat.sub_le_of_le_add enough
      · rw [List.countP_cons_of_neg (by simpa using own)] at enough
        have same : (machine.step actor oracle config).control thread =
            config.control thread :=
          control_step_of_ne (Ne.symm own) oracle
        exact continues (same ▸ left) enough

/-- A thread that takes as many steps as its budget comes to rest, whatever
the others do in between. `good` is what makes the results possible. -/
theorem Winds.run_ends
    (winds : machine.Winds thread possible rank)
    {good : Config Res Thread State Label → Prop}
    (closed : ∀ config thread oracle, good config →
      good (machine.step thread oracle config))
    (results : ∀ config operation choice, good config → possible operation
      (machine.exec thread operation choice config.state).1)
    (schedule : List (Thread × (Op → Choice)))
    (isGood : good config)
    (ends : (config.control thread).Ends possible rank budget)
    (enough : budget ≤ schedule.countP fun entry => entry.1 = thread) :
    ∃ label, (machine.run schedule config).control thread = .ret label ∧
      rank label = 0 := by
  induction schedule generalizing config budget with
  | nil =>
      have spent : budget = 0 := Nat.le_zero.mp enough
      subst spent
      show ∃ label, config.control thread = .ret label ∧ rank label = 0
      generalize config.control thread = control at ends
      cases control with
      | ret label => exact ⟨label, rfl, Nat.le_zero.mp ends⟩
      | perform operation next => exact absurd ends.1 (Nat.lt_irrefl 0)
  | cons entry schedule inductionHypothesis =>
      obtain ⟨actor, oracle⟩ := entry
      have isNext := closed config actor oracle isGood
      by_cases own : actor = thread
      · subst own
        rw [List.countP_cons_of_pos (by simp)] at enough
        exact inductionHypothesis isNext (winds.own_step
          (fun operation choice => results config operation choice isGood)
          ends oracle) (Nat.sub_le_of_le_add enough)
      · rw [List.countP_cons_of_neg (by simpa using own)] at enough
        have same : (machine.step actor oracle config).control thread =
            config.control thread :=
          control_step_of_ne (Ne.symm own) oracle
        exact inductionHypothesis isNext (same ▸ ends) enough

end Machine

end Resumption
