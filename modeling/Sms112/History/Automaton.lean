import Mathlib.Data.List.Infix

/-!
# Automata over histories

A partial automaton says in which order events may come: in each phase it
allows some events and refuses the others. It reads a history, in which the
newest event is first. Every older part of a history it accepts is accepted,
and what its transitions preserve holds of the phase it is in.
-/

namespace History

/-- The phases of a protocol, and the phase that an event leads to if it is
allowed. -/
structure Automaton (Phase Event : Type) where
  start : Phase
  next : Phase → Event → Option Phase

namespace Automaton

variable {Phase Event : Type} (automaton : Automaton Phase Event)

/-- The phase after a history, if every event was allowed. -/
def phase : List Event → Option Phase
  | [] => some automaton.start
  | event :: earlier =>
      (phase earlier).bind fun before => automaton.next before event

@[simp] theorem phase_nil : automaton.phase [] = some automaton.start := rfl

@[simp] theorem phase_cons (event : Event) (earlier : List Event) :
    automaton.phase (event :: earlier) =
      (automaton.phase earlier).bind
        fun phase => automaton.next phase event := rfl

/-- Every event of a history was allowed. -/
def Accepts (history : List Event) : Prop :=
  (automaton.phase history).isSome

instance (history : List Event) : Decidable (automaton.Accepts history) :=
  inferInstanceAs (Decidable (_ = true))

variable {automaton}

theorem phase_cons_of_eq
    {earlier : List Event}
    {current : Phase}
    (reached : automaton.phase earlier = some current)
    (event : Event) :
    automaton.phase (event :: earlier) = automaton.next current event := by
  rw [phase_cons, reached, Option.bind_some]

/-- An accepted history leads to a phase. -/
theorem Accepts.exists_phase
    {history : List Event}
    (accepts : automaton.Accepts history) :
    ∃ phase, automaton.phase history = some phase :=
  Option.isSome_iff_exists.mp accepts

/-- The newest event of an accepted history was allowed in the phase before
it. -/
theorem Accepts.of_cons
    {event : Event}
    {earlier : List Event}
    (accepts : automaton.Accepts (event :: earlier)) :
    ∃ before, automaton.phase earlier = some before ∧
      (automaton.next before event).isSome := by
  unfold Accepts at accepts
  rw [phase_cons] at accepts
  cases reached : automaton.phase earlier with
  | none =>
      rw [reached] at accepts
      cases accepts
  | some before =>
      rw [reached] at accepts
      exact ⟨before, rfl, accepts⟩

/-- The older part of an accepted history is accepted. -/
theorem Accepts.older
    {newer earlier : List Event}
    (accepts : automaton.Accepts (newer ++ earlier)) :
    automaton.Accepts earlier := by
  induction newer with
  | nil => exact accepts
  | cons event newer inductionHypothesis =>
      obtain ⟨before, reached, -⟩ := accepts.of_cons
      exact inductionHypothesis (Option.isSome_iff_exists.mpr ⟨_, reached⟩)

/-- What holds at the start and is preserved by every transition holds of the
phase that a history leads to. -/
theorem phase_invariant
    {inv : Phase → List Event → Prop}
    (initially : inv automaton.start [])
    (preserved : ∀ before event earlier after, inv before earlier →
      automaton.next before event = some after → inv after (event :: earlier))
    {history : List Event}
    {current : Phase}
    (reached : automaton.phase history = some current) :
    inv current history := by
  induction history generalizing current with
  | nil =>
      rw [phase_nil] at reached
      exact Option.some.inj reached ▸ initially
  | cons event earlier inductionHypothesis =>
      rw [phase_cons, Option.bind_eq_some_iff] at reached
      obtain ⟨before, older, step⟩ := reached
      exact preserved before event earlier current
        (inductionHypothesis older) step

end Automaton

end History
