import Mathlib.Data.List.Infix

/-!
# Streams of frames

A writer hands frames to a channel, which may take less than all of a frame.
What the channel has carried falls into frames, and at most one cut frame
behind them, if only the newest write was short.
-/

namespace Framing

variable {α : Type}

/-- A frame, and how much of it the channel took. -/
structure Write (α : Type) where
  frame : List α
  accepted : Nat
  deriving DecidableEq

/-- The channel did not take the whole frame. -/
def Write.IsShort (write : Write α) : Prop :=
  write.accepted < write.frame.length

instance (write : Write α) : Decidable write.IsShort :=
  inferInstanceAs (Decidable (_ < _))

/-- What the channel carried of a number of writes, oldest first. -/
def carried (writes : List (Write α)) : List α :=
  writes.flatMap fun write => write.frame.take write.accepted

/-- Frames, and behind them at most one that is cut. -/
def Parseable (isFrame : List α → Prop) (stream : List α) : Prop :=
  ∃ (frames : List (List α)) (cut : List α),
    (∀ frame ∈ frames, isFrame frame) ∧ stream = frames.flatten ++ cut ∧
      (cut = [] ∨ ∃ frame, isFrame frame ∧ cut <+: frame)

/-- Behind a short write the channel carried nothing. -/
def SilentBehindShort (writes : List (Write α)) : Prop :=
  ∀ before write after, writes = before ++ write :: after →
    write.IsShort → carried after = []

/-- All writes were whole but perhaps the newest, which comes first. -/
def WholeButNewest (writes : List (Write α)) : Prop :=
  ∀ write ∈ writes.tail, ¬write.IsShort

/-- Whole writes carry their frames. -/
theorem carried_of_whole
    {writes : List (Write α)}
    (whole : ∀ write ∈ writes, ¬write.IsShort) :
    carried writes = (writes.map Write.frame).flatten := by
  unfold carried
  rw [← List.flatMap_def]
  apply List.flatMap_congr
  intro write member
  exact List.take_of_length_le (not_lt.mp (whole write member))

theorem WholeButNewest.parseable
    {isFrame : List α → Prop}
    {writes : List (Write α)}
    (whole : WholeButNewest writes)
    (frames : ∀ write ∈ writes, isFrame write.frame) :
    Parseable isFrame (carried writes.reverse) := by
  cases writes with
  | nil => exact ⟨[], [], List.forall_mem_nil _, rfl, .inl rfl⟩
  | cons newest older =>
      refine ⟨older.reverse.map Write.frame,
        newest.frame.take newest.accepted, ?_, ?_, .inr ?_⟩
      · intro frame member
        obtain ⟨write, inside, rfl⟩ := List.mem_map.mp member
        exact frames write (.tail _ (List.mem_reverse.mp inside))
      · have wholeOlder : ∀ write ∈ older.reverse, ¬write.IsShort :=
          fun write inside => whole write (List.mem_reverse.mp inside)
        rw [List.reverse_cons, ← carried_of_whole wholeOlder]
        simp [carried]
      · exact ⟨newest.frame, frames newest (.head _), List.take_prefix _ _⟩

theorem WholeButNewest.silentBehindShort
    {writes : List (Write α)}
    (whole : WholeButNewest writes) :
    SilentBehindShort writes.reverse := by
  intro before write after split short
  have reversed : writes = after.reverse ++ write :: before.reverse := by
    rw [← List.reverse_reverse writes, split]
    simp
  cases newer : after.reverse with
  | nil =>
      rw [List.reverse_eq_nil_iff.mp newer]
      rfl
  | cons newest rest =>
      -- then the short write is not the newest
      have older : write ∈ writes.tail := by
        rw [reversed, newer]
        simp
      exact absurd short (whole write older)

end Framing
