import Sms112.Resumption.Evaluation

/-!
# Interleaved threads

A machine runs one program in each thread over a shared state. A scheduler
picks a thread and an environment choice for every step: the thread performs
its next operation, or, when its program has returned a label, it starts the
program that the machine associates with that label. A concrete schedule gives
the choices by an oracle for each step.

`Reach` collects the configurations of all runs whose steps satisfy a
condition on the state before them. `run` executes a concrete schedule, and
`Admits` says that its steps satisfy the condition.
-/

namespace Resumption

/-- Threads over shared atomic operations. The value a thread's program
returns is the label of the program it runs next. -/
structure Machine {Op : Type} (Res : Op → Type)
    (Thread Choice State Label : Type) where
  exec : Thread → Handler Res Choice State
  code : Thread → Label → Program Res Label

/-- The shared state and what is left of the program of every thread. -/
structure Config {Op : Type} (Res : Op → Type)
    (Thread State Label : Type) where
  state : State
  control : Thread → Program Res Label

namespace Machine

variable {Op : Type} {Res : Op → Type}
variable {Thread Choice State Label : Type} [DecidableEq Thread]
variable (machine : Machine Res Thread Choice State Label)

/-- A condition on a step: the thread that takes it, its operation, the
environment's choice and the state before it. -/
abbrev Condition (Op Thread Choice State : Type) :=
  Thread → Op → Choice → State → Prop

/-- One step of a thread, with the choice of an oracle. -/
def step
    (thread : Thread)
    (oracle : Op → Choice)
    (config : Config Res Thread State Label) :
    Config Res Thread State Label :=
  match config.control thread with
  | .ret label =>
      { config with
        control := Function.update config.control thread
          (machine.code thread label) }
  | .perform operation next =>
      let outcome :=
        machine.exec thread operation (oracle operation) config.state
      { state := outcome.2
        control := Function.update config.control thread (next outcome.1) }

/-- Execute a schedule. -/
def run (schedule : List (Thread × (Op → Choice)))
    (config : Config Res Thread State Label) :
    Config Res Thread State Label :=
  schedule.foldl
    (fun current entry => machine.step entry.1 entry.2 current) config

/-- A schedule may be executed in two parts. -/
theorem run_append
    (first second : List (Thread × (Op → Choice)))
    (config : Config Res Thread State Label) :
    machine.run (first ++ second) config =
      machine.run second (machine.run first config) :=
  List.foldl_append

/-- The configurations of the runs from `start` whose operations all satisfy
`condition` in the state they are performed in. -/
inductive Reach
    (condition : Condition Op Thread Choice State)
    (start : Config Res Thread State Label) :
    Config Res Thread State Label → Prop
  | start : Reach condition start start
  | jump
      {config : Config Res Thread State Label}
      {thread : Thread}
      {label : Label}
      (reach : Reach condition start config)
      (returned : config.control thread = .ret label) :
      Reach condition start
        { config with
          control := Function.update config.control thread
            (machine.code thread label) }
  | perform
      {config : Config Res Thread State Label}
      {thread : Thread}
      {operation : Op}
      {next : Res operation → Program Res Label}
      (reach : Reach condition start config)
      (pending : config.control thread = .perform operation next)
      (choice : Choice)
      (holds : condition thread operation choice config.state) :
      Reach condition start
        { state := (machine.exec thread operation choice config.state).2
          control := Function.update config.control thread
            (next (machine.exec thread operation choice config.state).1) }

/-- No condition on the steps of a run. -/
def unconditional : Condition Op Thread Choice State :=
  fun _ _ _ _ => True

instance (thread : Thread) (operation : Op) (choice : Choice)
    (state : State) :
    Decidable (unconditional thread operation choice state) :=
  .isTrue trivial

/-- Every operation a schedule performs satisfies the condition. -/
def Admits (condition : Condition Op Thread Choice State) :
    List (Thread × (Op → Choice)) → Config Res Thread State Label → Prop
  | [], _ => True
  | (thread, oracle) :: schedule, config =>
      (match config.control thread with
        | .ret _ => True
        | .perform operation _ =>
            condition thread operation (oracle operation) config.state) ∧
        Admits condition schedule (machine.step thread oracle config)

instance Admits.decidable
    (condition : Condition Op Thread Choice State)
    [∀ thread operation choice state,
      Decidable (condition thread operation choice state)] :
    (schedule : List (Thread × (Op → Choice))) →
      (config : Config Res Thread State Label) →
        Decidable (machine.Admits condition schedule config)
  | [], _ => .isTrue trivial
  | (thread, oracle) :: schedule, config =>
      have : Decidable (match config.control thread with
          | .ret _ => True
          | .perform operation _ =>
              condition thread operation (oracle operation)
                config.state) :=
        match config.control thread with
        | .ret _ => .isTrue trivial
        | .perform operation _ =>
            inferInstanceAs (Decidable
              (condition thread operation (oracle operation)
                config.state))
      have := Admits.decidable condition schedule
        (machine.step thread oracle config)
      inferInstanceAs (Decidable (_ ∧ _))

variable {machine}
variable {start config : Config Res Thread State Label}
variable {condition : Condition Op Thread Choice State}

theorem Reach.step
    (reach : machine.Reach condition start config)
    (thread : Thread)
    (oracle : Op → Choice)
    (holds : match config.control thread with
      | .ret _ => True
      | .perform operation _ =>
          condition thread operation (oracle operation) config.state) :
    machine.Reach condition start (machine.step thread oracle config) := by
  unfold Machine.step
  split
  next label returned => exact reach.jump returned
  next operation next pending =>
    rw [pending] at holds
    exact reach.perform pending (oracle operation) holds

/-- A schedule executes to a reachable configuration. -/
theorem Reach.run
    (reach : machine.Reach condition start config)
    (schedule : List (Thread × (Op → Choice)))
    (admits : machine.Admits condition schedule config) :
    machine.Reach condition start (machine.run schedule config) := by
  induction schedule generalizing config with
  | nil => exact reach
  | cons entry schedule inductionHypothesis =>
      exact inductionHypothesis (reach.step entry.1 entry.2 admits.1)
        admits.2

theorem admits_unconditional (schedule : List (Thread × (Op → Choice)))
    (config : Config Res Thread State Label) :
    machine.Admits unconditional schedule config := by
  induction schedule generalizing config with
  | nil => trivial
  | cons entry schedule inductionHypothesis =>
      refine ⟨?_, inductionHypothesis _⟩
      split <;> trivial

/-- A run under a condition is one under a weaker condition. -/
theorem Reach.mono
    {weaker : Condition Op Thread Choice State}
    (reach : machine.Reach condition start config)
    (implies : ∀ thread operation choice state,
      condition thread operation choice state →
        weaker thread operation choice state) :
    machine.Reach weaker start config := by
  induction reach with
  | start => exact .start
  | jump _ returned inductionHypothesis =>
      exact inductionHypothesis.jump returned
  | perform _ pending choice holds inductionHypothesis =>
      exact inductionHypothesis.perform pending choice (implies _ _ _ _ holds)

/-- An assertion about the shared state that every operation of every thread
preserves holds in every reachable configuration. -/
theorem Reach.invariant
    {invariant : State → Prop}
    (reach : machine.Reach condition start config)
    (initially : invariant start.state)
    (preserved : ∀ thread operation choice state, invariant state →
      condition thread operation choice state →
      invariant (machine.exec thread operation choice state).2) :
    invariant config.state := by
  induction reach with
  | start => exact initially
  | jump _ _ inductionHypothesis => exact inductionHypothesis
  | perform _ _ choice holds inductionHypothesis =>
      exact preserved _ _ choice _ inductionHypothesis holds

end Machine

end Resumption
