import Sms112.Resumption.Instances
import Sms112.Resumption.Interleaving

/-!
# Refinement of machines

What one machine does in a single operation may be a whole program of another
one (`Program.expand`), which has a larger state and more threads. The smaller
machine sees a part of this state, and some threads of the larger one play the
part of its threads.

`Follows` relates what is left of a thread's program to what is left of the
program of the thread it plays: whatever the first does next, the second can
do some steps, or none, to the same effect on what is seen. A refinement whose
labels are followed so takes every run to a run of the smaller machine
(`Refinement.simulates`).
-/

namespace Resumption

/-! ## Expansion of operations -/

namespace Program

variable {Op Op' : Type} {Res : Op → Type} {Res' : Op' → Type} {α β : Type}

/-- Replace every operation by a program. -/
def expand
    (expansion : (operation : Op) → Program Res' (Res operation)) :
    Program Res α → Program Res' α
  | .ret value => .ret value
  | .perform operation next =>
      expansion operation >>= fun result => (next result).expand expansion

variable (expansion : (operation : Op) → Program Res' (Res operation))

@[simp] theorem expand_ret (value : α) :
    (Program.ret value : Program Res α).expand expansion = .ret value := rfl

theorem expand_perform
    (operation : Op)
    (next : Res operation → Program Res α) :
    (Program.perform operation next).expand expansion =
      expansion operation >>= fun result =>
        (next result).expand expansion := rfl

@[simp] theorem expand_bind
    (program : Program Res α)
    (next : α → Program Res β) :
    (program >>= next).expand expansion =
      program.expand expansion >>= fun value =>
        (next value).expand expansion := by
  induction program with
  | ret value => rfl
  | perform operation rest inductionHypothesis =>
      simp only [perform_bind, expand_perform, inductionHypothesis, bind_bind]

variable {expansion}

/-- An expansion performs what its operations expand to. -/
theorem Uses.expand
    {allowed : Op → Prop}
    {permitted : Op' → Prop}
    {program : Program Res α}
    (uses : program.Uses allowed)
    (operations : ∀ operation, allowed operation →
      (expansion operation).Uses permitted) :
    (program.expand expansion).Uses permitted := by
  induction program with
  | ret value => trivial
  | perform operation next inductionHypothesis =>
      exact (operations operation uses.1).bind fun result =>
        inductionHypothesis result (uses.2 result)

end Program

/-! ## The steps of a single thread -/

namespace Machine

variable {Op : Type} {Res : Op → Type}
variable {Thread Choice State Label : Type}

/-- Some steps of one thread, from a program and a state to what is left of
the program and the state then. -/
inductive Advances
    (machine : Machine Res Thread Choice State Label)
    (condition : Condition Op Thread Choice State)
    (thread : Thread) :
    Program Res Label → State → Program Res Label → State → Prop
  | refl (program : Program Res Label) (state : State) :
      Advances machine condition thread program state program state
  | jump
      {label : Label}
      {state after : State}
      {later : Program Res Label}
      (rest : Advances machine condition thread (machine.code thread label)
        state later after) :
      Advances machine condition thread (.ret label) state later after
  | perform
      {operation : Op}
      {next : Res operation → Program Res Label}
      {state after : State}
      {later : Program Res Label}
      (choice : Choice)
      (holds : condition thread operation choice state)
      (rest : Advances machine condition thread
        (next (machine.exec thread operation choice state).1)
        (machine.exec thread operation choice state).2 later after) :
      Advances machine condition thread (.perform operation next) state later
        after

variable [DecidableEq Thread]
variable {machine : Machine Res Thread Choice State Label}
variable {condition : Condition Op Thread Choice State}
variable {start : Config Res Thread State Label}
variable {thread : Thread}

/-- The steps of one thread lead to a reachable configuration. -/
theorem Reach.advances
    {program later : Program Res Label}
    {state after : State}
    (advances : machine.Advances condition thread program state later after)
    {control : Thread → Program Res Label}
    (pending : control thread = program)
    (reach : machine.Reach condition start { state, control }) :
    machine.Reach condition start
      { state := after, control := Function.update control thread later } := by
  induction advances generalizing control with
  | refl program state =>
      rw [← pending, Function.update_eq_self]
      exact reach
  | jump rest inductionHypothesis =>
      have jumped := inductionHypothesis (Function.update_self ..)
        (reach.jump pending)
      rwa [Function.update_idem] at jumped
  | perform choice holds rest inductionHypothesis =>
      have performed := inductionHypothesis (Function.update_self ..)
        (reach.perform pending choice holds)
      rwa [Function.update_idem] at performed

end Machine

/-! ## Refinements -/

/-- A machine, what a smaller one sees of it, and who plays which part. In
states that are not `live` the run has come to its end. -/
structure Refinement
    {Op Op' : Type} (Res : Op → Type) (Res' : Op' → Type)
    (Thread Choice State Label Thread' Choice' State' Label' : Type) where
  machine : Machine Res Thread Choice State Label
  larger : Machine Res' Thread' Choice' State' Label'
  condition : Machine.Condition Op Thread Choice State
  admits : Machine.Condition Op' Thread' Choice' State'
  view : State' → State
  live : State' → Prop
  role : Thread' → Option Thread

namespace Refinement

variable {Op Op' : Type} {Res : Op → Type} {Res' : Op' → Type}
variable {Thread Choice State Label : Type}
variable {Thread' Choice' State' Label' : Type}
variable (refinement : Refinement Res Res' Thread Choice State Label
  Thread' Choice' State' Label')
variable {Op₀ : Type} {Res₀ : Op₀ → Type} {α β : Type}

/-- What a thread with this part does to the program of the part and to what
is seen: without a part it changes neither. -/
def Moves (role : Option Thread) (program : Program Res Label) (state : State)
    (later : Program Res Label) (after : State) : Prop :=
  match role with
  | some thread => refinement.machine.Advances refinement.condition thread
      program state later after
  | none => later = program ∧ after = state

/-- Whatever the thread does, its part can do the same, up to what is related
when the thread returns. -/
def Follows (actor : Thread') (ends : α → Program Res Label → Prop) :
    Program Res' α → Program Res Label → Prop
  | .ret value, part => ends value part
  | .perform operation next, part => ∀ choice state,
      refinement.admits actor operation choice state →
        let outcome := refinement.larger.exec actor operation choice state
        ∃ later,
          refinement.Moves (refinement.role actor) part
            (refinement.view state) later (refinement.view outcome.2) ∧
          (refinement.live outcome.2 →
            Follows actor ends (next outcome.1) later)

variable {refinement}
variable {actor : Thread'} {part : Program Res Label}

/-- No step, and no effect. -/
theorem Moves.stay
    {state after : State}
    (same : after = state)
    (role : Option Thread)
    (program : Program Res Label) :
    refinement.Moves role program state program after := by
  subst same
  cases role with
  | some thread => exact .refl program after
  | none => exact ⟨rfl, rfl⟩

/-- A single operation. -/
theorem Moves.perform
    {thread : Thread}
    {operation : Op}
    {next : Res operation → Program Res Label}
    {later : Program Res Label}
    {state after : State}
    (choice : Choice)
    (holds : refinement.condition thread operation choice state)
    (goesOn : later =
      next (refinement.machine.exec thread operation choice state).1)
    (same : after =
      (refinement.machine.exec thread operation choice state).2) :
    refinement.Moves (some thread) (.perform operation next) state later
      after := by
  subst goesOn same
  exact Machine.Advances.perform choice holds (.refl _ _)

namespace Follows

variable {ends : α → Program Res Label → Prop}

theorem bind
    {middle : β → Program Res Label → Prop}
    {first : Program Res' β}
    {next : β → Program Res' α}
    (follows : refinement.Follows actor middle first part)
    (rest : ∀ value later, middle value later →
      refinement.Follows actor ends (next value) later) :
    refinement.Follows actor ends (first >>= next) part := by
  induction first generalizing part with
  | ret value => exact rest value part follows
  | perform operation continuation inductionHypothesis =>
      intro choice state admitted
      obtain ⟨later, moves, goesOn⟩ := follows choice state admitted
      exact ⟨later, moves, fun live => inductionHypothesis _ (goesOn live)⟩

theorem ite
    {test : Prop} [Decidable test]
    {onTrue onFalse : Program Res' α}
    (whenTrue : test → refinement.Follows actor ends onTrue part)
    (whenFalse : ¬test → refinement.Follows actor ends onFalse part) :
    refinement.Follows actor ends (if test then onTrue else onFalse) part := by
  split
  next holds => exact whenTrue holds
  next fails => exact whenFalse fails

/-- An operation that is not seen. -/
theorem unseen
    {operation : Op'}
    {next : Res' operation → Program Res' α}
    (same : ∀ choice state,
      refinement.view (refinement.larger.exec actor operation choice state).2 =
        refinement.view state)
    (rest : ∀ result, refinement.Follows actor ends (next result) part) :
    refinement.Follows actor ends (.perform operation next) part := by
  intro choice state _
  exact ⟨part, .stay (same choice state) _ _, fun _ => rest _⟩

/-- A whole program of operations that are not seen. -/
theorem uses
    {allowed : Op' → Prop}
    {program : Program Res' α}
    (programUses : program.Uses allowed)
    (same : ∀ operation choice state, allowed operation →
      refinement.view (refinement.larger.exec actor operation choice state).2 =
        refinement.view state)
    (returns : ∀ value, ends value part) :
    refinement.Follows actor ends program part := by
  induction program with
  | ret value => exact returns value
  | perform operation next inductionHypothesis =>
      exact .unseen (fun choice state => same _ choice state programUses.1)
        fun result => inductionHypothesis result (programUses.2 result)

/-- An operation that does what the next operation of the part does. -/
theorem mimics
    {thread : Thread}
    (plays : refinement.role actor = some thread)
    {operation : Op'}
    {next : Res' operation → Program Res' α}
    {mimicked : Op}
    {continuation : Res mimicked → Program Res Label}
    (chosen : Choice' → Choice)
    (result : Res' operation → Res mimicked)
    (holds : ∀ choice state,
      refinement.admits actor operation choice state →
        refinement.condition thread mimicked (chosen choice)
          (refinement.view state))
    (same : ∀ choice state,
      refinement.machine.exec thread mimicked (chosen choice)
          (refinement.view state) =
        (result (refinement.larger.exec actor operation choice state).1,
          refinement.view
            (refinement.larger.exec actor operation choice state).2))
    (rest : ∀ value, refinement.Follows actor ends (next value)
      (continuation (result value))) :
    refinement.Follows actor ends (.perform operation next)
      (.perform mimicked continuation) := by
  intro choice state admitted
  have moves : refinement.Moves (some thread) (.perform mimicked continuation)
      (refinement.view state) _ _ :=
    .perform (chosen choice) (holds choice state admitted) rfl rfl
  rw [same] at moves
  refine ⟨_, ?_, fun _ => rest _⟩
  rw [plays]
  exact moves

/-- A part that has returned starts over when it has something to do. -/
theorem restart
    {thread : Thread}
    (plays : refinement.role actor = some thread)
    {operation : Op'}
    {next : Res' operation → Program Res' α}
    {label : Label}
    (follows : refinement.Follows actor ends (.perform operation next)
      (refinement.machine.code thread label)) :
    refinement.Follows actor ends (.perform operation next) (.ret label) := by
  intro choice state admitted
  obtain ⟨later, moves, goesOn⟩ := follows choice state admitted
  refine ⟨later, ?_, goesOn⟩
  rw [plays] at moves ⊢
  exact .jump moves

/-- A program whose operations are all followed is followed. -/
theorem expand
    {expansion : (operation : Op) → Program Res' (Res operation)}
    (operations : ∀ operation (next : Res operation → Program Res Label),
      refinement.Follows actor (fun result part => part = next result)
        (expansion operation) (.perform operation next))
    (program : Program Res α)
    (next : α → Program Res Label) :
    refinement.Follows actor (fun value part => part = next value)
      (program.expand expansion) (program >>= next) := by
  induction program with
  | ret value => rfl
  | perform operation continuation inductionHypothesis =>
      refine (operations operation _).bind ?_
      rintro result _ rfl
      exact inductionHypothesis result

/-- A program that is performed on a part of a larger machine. -/
theorem embed
    {thread : Thread}
    (plays : refinement.role actor = some thread)
    {operations : Op → Op'}
    {results : ∀ operation, Res' (operations operation) → Res operation}
    (chosen : Choice' → Choice)
    (holds : ∀ operation choice state,
      refinement.admits actor (operations operation) choice state →
        refinement.condition thread operation (chosen choice)
          (refinement.view state))
    (same : ∀ operation choice state,
      refinement.machine.exec thread operation (chosen choice)
          (refinement.view state) =
        (results operation (refinement.larger.exec actor
            (operations operation) choice state).1,
          refinement.view (refinement.larger.exec actor
            (operations operation) choice state).2))
    (program : Program Res α)
    (next : α → Program Res Label) :
    refinement.Follows actor (fun value part => part = next value)
      (program.embed operations results) (program >>= next) := by
  induction program with
  | ret value => rfl
  | perform operation continuation inductionHypothesis =>
      exact .mimics plays chosen (results operation) (holds operation)
        (same operation) fun value => inductionHypothesis _

/-- A program in which everything leads back to where the part was. -/
theorem expand_same
    {expansion : (operation : Op₀) → Program Res' (Res₀ operation)}
    (operations : ∀ operation, refinement.Follows actor
      (fun _ later => later = part) (expansion operation) part)
    (program : Program Res₀ α)
    (returns : ∀ value, ends value part) :
    refinement.Follows actor ends (program.expand expansion) part := by
  induction program with
  | ret value => exact returns value
  | perform operation continuation inductionHypothesis =>
      refine (operations operation).bind ?_
      rintro result _ rfl
      exact inductionHypothesis result

end Follows

/-! ## Runs -/

/-- Who plays which part is clear, and from every label the program is
followed, by what is related to the label or by what that goes on with. -/
structure Sound
    (refinement : Refinement Res Res' Thread Choice State Label
      Thread' Choice' State' Label')
    (ends : Thread' → Label' → Program Res Label → Prop) : Prop where
  alone : ∀ first second thread,
    refinement.role first = some thread →
      refinement.role second = some thread → first = second
  alive : ∀ actor operation choice state,
    refinement.admits actor operation choice state → refinement.live state
  code : ∀ actor label part, ends actor label part → ∃ later,
    (∀ state, refinement.Moves (refinement.role actor) part state later
      state) ∧
    refinement.Follows actor (ends actor) (refinement.larger.code actor label)
      later

/-- A thread is followed by the thread it plays. -/
def Plays
    (refinement : Refinement Res Res' Thread Choice State Label
      Thread' Choice' State' Label')
    (ends : Thread' → Label' → Program Res Label → Prop)
    (program : Thread' → Program Res' Label')
    (control : Thread → Program Res Label)
    (actor : Thread') : Prop :=
  ∃ part, refinement.Follows actor (ends actor) (program actor) part ∧
    ∀ thread, refinement.role actor = some thread → control thread = part

variable [DecidableEq Thread] [DecidableEq Thread']
variable {ends : Thread' → Label' → Program Res Label → Prop}
variable {start config : Config Res' Thread' State' Label'}
variable {begin : Config Res Thread State Label}

/-- A move of one thread leads to a reachable configuration, in which all the
other threads are followed as before. -/
theorem Sound.moves
    (sound : refinement.Sound ends)
    {program : Thread' → Program Res' Label'}
    {control : Thread → Program Res Label}
    (plays : ∀ actor, refinement.Plays ends program control actor)
    {state after : State}
    (reach : refinement.machine.Reach refinement.condition begin
      { state, control })
    {later : Program Res Label}
    (pending : ∀ thread, refinement.role actor = some thread →
      control thread = part)
    (moves : refinement.Moves (refinement.role actor) part state later after)
    {changed : Program Res' Label'}
    {live : Prop}
    (follows : live →
      refinement.Follows actor (ends actor) changed later) :
    ∃ next, refinement.machine.Reach refinement.condition begin
        { state := after, control := next } ∧
      (live → ∀ other, refinement.Plays ends
        (Function.update program actor changed) next other) := by
  cases plays' : refinement.role actor with
  | none =>
      rw [plays'] at moves
      obtain ⟨rfl, rfl⟩ := moves
      refine ⟨control, reach, fun isLive other => ?_⟩
      by_cases same : other = actor
      · subst same
        refine ⟨later, ?_, pending⟩
        rw [Function.update_self]
        exact follows isLive
      · obtain ⟨part, followed, current⟩ := plays other
        refine ⟨part, ?_, current⟩
        rw [Function.update_of_ne same]
        exact followed
  | some thread =>
      rw [plays'] at moves
      refine ⟨_, reach.advances moves (pending thread plays'),
        fun isLive other => ?_⟩
      by_cases same : other = actor
      · subst same
        refine ⟨later, ?_, fun current plays => ?_⟩
        · rw [Function.update_self]
          exact follows isLive
        · obtain rfl := Option.some.inj (plays'.symm.trans plays)
          exact Function.update_self ..
      · obtain ⟨part, followed, current⟩ := plays other
        refine ⟨part, ?_, fun playing isPlayed => ?_⟩
        · rw [Function.update_of_ne same]
          exact followed
        · rw [Function.update_of_ne]
          · exact current playing isPlayed
          · rintro rfl
            exact same (sound.alone _ _ _ isPlayed plays')

/-- Every run of the larger machine is a run of the smaller one, as far as
this one sees. -/
theorem Sound.simulates
    (sound : refinement.Sound ends)
    (initially : refinement.view start.state = begin.state)
    (plays : ∀ actor,
      refinement.Plays ends start.control begin.control actor)
    (reach : refinement.larger.Reach refinement.admits start config) :
    ∃ control, refinement.machine.Reach refinement.condition begin
        { state := refinement.view config.state, control } ∧
      (refinement.live config.state → ∀ actor,
        refinement.Plays ends config.control control actor) := by
  induction reach with
  | start =>
      refine ⟨begin.control, ?_, fun _ => plays⟩
      rw [initially]
      exact .start
  | @jump config actor label reach returned inductionHypothesis =>
      obtain ⟨control, reached, followed⟩ := inductionHypothesis
      by_cases live : refinement.live config.state
      · obtain ⟨part, follows, current⟩ := followed live actor
        rw [returned] at follows
        obtain ⟨later, moves, goesOn⟩ := sound.code actor label part follows
        obtain ⟨next, reachedNext, playing⟩ := sound.moves (followed live)
          reached current (moves _) fun (_ : True) => goesOn
        exact ⟨next, reachedNext, fun _ => playing trivial⟩
      · exact ⟨control, reached, fun isLive => absurd isLive live⟩
  | @perform config actor operation next reach pending choice holds
      inductionHypothesis =>
      obtain ⟨control, reached, followed⟩ := inductionHypothesis
      have live := sound.alive _ _ _ _ holds
      obtain ⟨part, follows, current⟩ := followed live actor
      rw [pending] at follows
      obtain ⟨later, moves, goesOn⟩ := follows choice config.state holds
      exact sound.moves (followed live) reached current moves goesOn

end Refinement

end Resumption
