import Sms112.Resumption.Interleaving

/-!
# Rely-guarantee reasoning

A protocol fixes an invariant of the shared state and, for every thread, the
interference it tolerates from the others. A thread is safe when each of its
operations preserves the invariant and stays inside the interference that
every other thread tolerates. If all threads are safe, the invariant holds in
every reachable configuration (`Protocol.sound`).

Safety of a program is derived from triples, one for each function, by the
rules for returning, sequencing and a single operation. A program that uses
only harmless operations satisfies every assertion they preserve
(`Triple.uses`).
-/

namespace Resumption

/-- An invariant of the shared state, and the interference that every thread
tolerates. -/
structure Protocol (Thread State : Type) where
  inv : State → Prop
  rely : Thread → State → State → Prop
  rely_refl : ∀ thread state, rely thread state state
  rely_trans : ∀ thread first second third,
    rely thread first second → rely thread second third →
      rely thread first third

namespace Protocol

variable {Op : Type} {Res : Op → Type}
variable {Thread Choice State Label α β : Type}

/-- A step of one thread re-establishes the invariant and is tolerated by
every other thread. -/
structure Keeps
    (protocol : Protocol Thread State)
    (thread : Thread)
    (before after : State) : Prop where
  inv : protocol.inv after
  rely : ∀ other, other ≠ thread → protocol.rely other before after

section Threads

variable (exec : Thread → Handler Res Choice State)
variable (condition : Machine.Condition Op Thread Choice State)
variable (protocol : Protocol Thread State)
variable (thread : Thread)

/-- Whatever the others do between its operations, the program keeps to the
protocol and returns only where `post` holds. -/
def Safe (post : α → State → Prop) : Program Res α → State → Prop
  | .ret value, state => ∀ later,
      protocol.rely thread state later → protocol.inv later →
        post value later
  | .perform operation next, state => ∀ later,
      protocol.rely thread state later → protocol.inv later →
        ∀ choice, condition thread operation choice later →
          let outcome := exec thread operation choice later
          protocol.Keeps thread later outcome.2 ∧
            Safe post (next outcome.1) outcome.2

/-- The interference of the other threads preserves the assertion. -/
def Stable (assertion : State → Prop) : Prop :=
  ∀ before after, protocol.inv before → assertion before →
    protocol.rely thread before after → protocol.inv after → assertion after

/-- From a state satisfying `pre` the program is safe and ends in `post`. -/
def Triple
    (pre : State → Prop)
    (program : Program Res α)
    (post : α → State → Prop) : Prop :=
  ∀ state, protocol.inv state → pre state →
    Safe exec condition protocol thread post program state

end Threads

variable {exec : Thread → Handler Res Choice State}
variable {condition : Machine.Condition Op Thread Choice State}
variable {protocol : Protocol Thread State}
variable {thread : Thread}

/-- The steps of the other threads keep a program safe. -/
theorem Safe.interfere
    {post : α → State → Prop}
    {program : Program Res α}
    {state later : State}
    (safe : Safe exec condition protocol thread post program state)
    (rely : protocol.rely thread state later) :
    Safe exec condition protocol thread post program later := by
  cases program with
  | ret value =>
      intro final further invariant
      exact safe final
        (protocol.rely_trans thread _ _ _ rely further) invariant
  | perform operation next =>
      intro final further invariant
      exact safe final
        (protocol.rely_trans thread _ _ _ rely further) invariant

theorem Safe.bind
    {middle : α → State → Prop}
    {post : β → State → Prop}
    {program : Program Res α}
    {next : α → Program Res β}
    {state : State}
    (invariant : protocol.inv state)
    (safe : Safe exec condition protocol thread middle program state)
    (rest : ∀ value, Triple exec condition protocol thread
      (middle value) (next value) post) :
    Safe exec condition protocol thread post (program >>= next)
      state := by
  induction program generalizing state with
  | ret value =>
      exact rest value state invariant
        (safe state (protocol.rely_refl thread state) invariant)
  | perform operation continuation inductionHypothesis =>
      intro later rely laterInvariant choice holds
      obtain ⟨keeps, safeRest⟩ :=
        safe later rely laterInvariant choice holds
      exact ⟨keeps, inductionHypothesis _ keeps.inv safeRest⟩

namespace Stable

theorem conj
    {first second : State → Prop}
    (firstStable : Stable protocol thread first)
    (secondStable : Stable protocol thread second) :
    Stable protocol thread fun state => first state ∧ second state :=
  fun before after invariant holds rely afterInvariant =>
    ⟨firstStable before after invariant holds.1 rely afterInvariant,
      secondStable before after invariant holds.2 rely afterInvariant⟩

theorem const (proposition : Prop) :
    Stable protocol thread fun _ => proposition :=
  fun _ _ _ holds _ _ => holds

end Stable

namespace Triple

theorem ret
    (post : α → State → Prop)
    (value : α)
    (stable : Stable protocol thread (post value)) :
    Triple exec condition protocol thread
      (post value) (.ret value) post :=
  fun state invariant holds later rely laterInvariant =>
    stable state later invariant holds rely laterInvariant

theorem consequence
    {pre weaker : State → Prop}
    {program : Program Res α}
    {post stronger : α → State → Prop}
    (triple : Triple exec condition protocol thread
      weaker program stronger)
    (weaken : ∀ state, protocol.inv state → pre state → weaker state)
    (strengthen : ∀ value state, protocol.inv state →
      stronger value state → post value state) :
    Triple exec condition protocol thread pre program post := by
  intro state invariant holds
  have safe := triple state invariant (weaken state invariant holds)
  clear triple weaken holds
  induction program generalizing state with
  | ret value =>
      intro later rely laterInvariant
      exact strengthen value later laterInvariant
        (safe later rely laterInvariant)
  | perform operation next inductionHypothesis =>
      intro later rely laterInvariant choice admissible
      obtain ⟨keeps, safeRest⟩ :=
        safe later rely laterInvariant choice admissible
      exact ⟨keeps, inductionHypothesis _ _ keeps.inv safeRest⟩

theorem weakenPre
    {pre weaker : State → Prop}
    {program : Program Res α}
    {post : α → State → Prop}
    (triple : Triple exec condition protocol thread weaker program post)
    (weaken : ∀ state, protocol.inv state → pre state → weaker state) :
    Triple exec condition protocol thread pre program post :=
  triple.consequence weaken fun _ _ _ holds => holds

/-- A value is returned where its postcondition holds. -/
theorem returns
    {pre : State → Prop}
    {post : α → State → Prop}
    {value : α}
    (stable : Stable protocol thread (post value))
    (entails : ∀ state, protocol.inv state → pre state → post value state) :
    Triple exec condition protocol thread pre (.ret value) post :=
  (ret post value stable).weakenPre entails

theorem bind
    {pre : State → Prop}
    {program : Program Res α}
    {middle : α → State → Prop}
    {next : α → Program Res β}
    {post : β → State → Prop}
    (first : Triple exec condition protocol thread pre program middle)
    (rest : ∀ value, Triple exec condition protocol thread
      (middle value) (next value) post) :
    Triple exec condition protocol thread pre (program >>= next) post :=
  fun state invariant holds =>
    Safe.bind invariant (first state invariant holds) rest

/-- One operation: its precondition is stable, and from it every outcome
keeps to the protocol and leads on to the rest of the program. -/
theorem perform
    {pre : State → Prop}
    {operation : Op}
    {next : Res operation → Program Res α}
    {post : α → State → Prop}
    (middle : Res operation → State → Prop)
    (stable : Stable protocol thread pre)
    (outcome : ∀ state choice, protocol.inv state → pre state →
      condition thread operation choice state →
        protocol.Keeps thread state
            (exec thread operation choice state).2 ∧
          middle (exec thread operation choice state).1
            (exec thread operation choice state).2)
    (rest : ∀ result, Triple exec condition protocol thread
      (middle result) (next result) post) :
    Triple exec condition protocol thread
      pre (.perform operation next) post := by
  intro state invariant holds later rely laterInvariant choice admissible
  have laterHolds := stable state later invariant holds rely laterInvariant
  obtain ⟨keeps, reached⟩ :=
    outcome later choice laterInvariant laterHolds admissible
  exact ⟨keeps, rest _ _ keeps.inv reached⟩

/-- A single operation as a whole program. -/
theorem call
    {pre : State → Prop}
    {operation : Op}
    {post : Res operation → State → Prop}
    (stable : Stable protocol thread pre)
    (postStable : ∀ result, Stable protocol thread (post result))
    (outcome : ∀ state choice, protocol.inv state → pre state →
      condition thread operation choice state →
        protocol.Keeps thread state
            (exec thread operation choice state).2 ∧
          post (exec thread operation choice state).1
            (exec thread operation choice state).2) :
    Triple exec condition protocol thread
      pre (Program.call operation) post :=
  perform post stable outcome fun result =>
    ret post result (postStable result)

theorem ite
    {pre : State → Prop}
    {test : Prop} [Decidable test]
    {onTrue onFalse : Program Res α}
    {post : α → State → Prop}
    (whenTrue : test → Triple exec condition protocol thread
      pre onTrue post)
    (whenFalse : ¬test → Triple exec condition protocol thread
      pre onFalse post) :
    Triple exec condition protocol thread
      pre (if test then onTrue else onFalse) post := by
  split
  next holds => exact whenTrue holds
  next fails => exact whenFalse fails

/-- Operations that keep to the protocol and preserve a stable assertion may
be used freely. -/
theorem uses
    {allowed : Op → Prop}
    {assertion : State → Prop}
    {program : Program Res α}
    (programUses : program.Uses allowed)
    (stable : Stable protocol thread assertion)
    (preserves : ∀ operation state choice, allowed operation →
      protocol.inv state → assertion state →
      condition thread operation choice state →
        protocol.Keeps thread state
            (exec thread operation choice state).2 ∧
          assertion (exec thread operation choice state).2) :
    Triple exec condition protocol thread
      assertion program fun _ => assertion := by
  induction program with
  | ret value => exact ret (fun _ => assertion) value stable
  | perform operation next inductionHypothesis =>
      refine perform (fun _ => assertion) stable ?_ ?_
      · intro state choice invariant holds admissible
        exact preserves operation state choice programUses.1 invariant
          holds admissible
      · intro result
        exact inductionHypothesis result (programUses.2 result)

/-- Operations whose steps every thread tolerates, the acting one included,
preserve every stable assertion. -/
theorem unobtrusive
    {allowed : Op → Prop}
    {assertion : State → Prop}
    {program : Program Res α}
    (programUses : program.Uses allowed)
    (stable : Stable protocol thread assertion)
    (tolerated : ∀ operation state choice, allowed operation →
      protocol.inv state → condition thread operation choice state →
        protocol.inv (exec thread operation choice state).2 ∧
          ∀ other, protocol.rely other state
            (exec thread operation choice state).2) :
    Triple exec condition protocol thread
      assertion program fun _ => assertion := by
  refine uses programUses stable ?_
  intro operation state choice permitted invariant holds admissible
  obtain ⟨afterInvariant, rely⟩ :=
    tolerated operation state choice permitted invariant admissible
  exact ⟨⟨afterInvariant, fun other _ => rely other⟩,
    stable _ _ invariant holds (rely thread) afterInvariant⟩

end Triple

/-- If every label's program is safe under its precondition and ends at a
label whose precondition holds, the invariant holds throughout every run. -/
theorem sound [DecidableEq Thread]
    {machine : Machine Res Thread Choice State Label}
    {start config : Config Res Thread State Label}
    {entry : Thread → Label → State → Prop}
    (code : ∀ thread label, Triple machine.exec condition protocol thread
      (entry thread label) (machine.code thread label) (entry thread))
    (invariant : protocol.inv start.state)
    (initially : ∀ thread, Safe machine.exec condition protocol thread
      (entry thread) (start.control thread) start.state)
    (reach : machine.Reach condition start config) :
    protocol.inv config.state ∧ ∀ thread,
      Safe machine.exec condition protocol thread
        (entry thread) (config.control thread) config.state := by
  induction reach with
  | start => exact ⟨invariant, initially⟩
  | @jump config actor label reach returned inductionHypothesis =>
      obtain ⟨currentInvariant, safe⟩ := inductionHypothesis
      refine ⟨currentInvariant, fun other => ?_⟩
      by_cases same : other = actor
      · subst same
        have reachedLabel := safe other
        rw [returned] at reachedLabel
        simp only [Function.update_self]
        exact code other label _ currentInvariant
          (reachedLabel _ (protocol.rely_refl _ _) currentInvariant)
      · simp only [Function.update_of_ne same]
        exact safe other
  | @perform config actor operation next reach pending choice holds
      inductionHypothesis =>
      obtain ⟨currentInvariant, safe⟩ := inductionHypothesis
      have actorSafe := safe actor
      rw [pending] at actorSafe
      obtain ⟨keeps, restSafe⟩ := actorSafe _
        (protocol.rely_refl _ _) currentInvariant choice holds
      refine ⟨keeps.inv, fun other => ?_⟩
      by_cases same : other = actor
      · subst same
        simp only [Function.update_self]
        exact restSafe
      · simp only [Function.update_of_ne same]
        exact (safe other).interfere (keeps.rely other same)

end Protocol

end Resumption
