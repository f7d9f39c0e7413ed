import Mathlib.Data.List.Basic
import Mathlib.Order.Basic

/-!
# Occurrences of one list in another

Offsets at which a list occurs, the first of them from a given place on, and
the part of a text from the first occurrence of one list to the end of the
first following occurrence of another.
-/

namespace Search

variable {α : Type}

/-- A list stands in a text at an offset. -/
def OccursAt (needle text : List α) (offset : Nat) : Prop :=
  ∃ front back, text = front ++ needle ++ back ∧ front.length = offset

theorem occursAt_iff
    (needle text : List α)
    (offset : Nat) :
    OccursAt needle text offset ↔
      offset ≤ text.length ∧ needle <+: text.drop offset := by
  constructor
  · rintro ⟨front, back, rfl, rfl⟩
    refine ⟨by simp, back, ?_⟩
    rw [List.append_assoc, List.drop_left]
  · rintro ⟨inside, back, rest⟩
    refine ⟨text.take offset, back, ?_, ?_⟩
    · rw [List.append_assoc, rest, List.take_append_drop]
    · rw [List.length_take, Nat.min_eq_left inside]

namespace OccursAt

variable {needle text : List α} {offset : Nat}

theorem add_length_le (occurs : OccursAt needle text offset) :
    offset + needle.length ≤ text.length := by
  obtain ⟨front, back, rfl, rfl⟩ := occurs
  simp

theorem le_length (occurs : OccursAt needle text offset) :
    offset ≤ text.length :=
  Nat.le_trans (Nat.le_add_right _ _) occurs.add_length_le

end OccursAt

/-- Occurrences in what is left of a text behind a place. -/
theorem occursAt_drop_iff
    (needle : List α)
    {text : List α}
    {start : Nat}
    (inside : start ≤ text.length)
    (offset : Nat) :
    OccursAt needle (text.drop start) offset ↔
      OccursAt needle text (start + offset) := by
  rw [occursAt_iff, occursAt_iff, List.drop_drop, List.length_drop]
  refine and_congr_left fun _ => ?_
  omega

/-- Occurrences that end before a place. -/
theorem occursAt_take_iff
    (needle text : List α)
    (length offset : Nat) :
    OccursAt needle (text.take length) offset ↔
      OccursAt needle text offset ∧ offset + needle.length ≤ length := by
  constructor
  · intro occurs
    have fits := occurs.add_length_le
    rw [List.length_take] at fits
    obtain ⟨front, back, equal, placed⟩ := occurs
    refine ⟨⟨front, back ++ text.drop length, ?_, placed⟩, by omega⟩
    rw [← List.append_assoc, ← equal, List.take_append_drop]
  · rintro ⟨⟨front, back, rfl, rfl⟩, fits⟩
    refine ⟨front, back.take (length - (front ++ needle).length), ?_, rfl⟩
    rw [List.take_append, List.take_of_length_le]
    simpa using fits

/-- The first occurrence that does not begin before a place. -/
structure FirstFrom
    (needle text : List α)
    (start offset : Nat) : Prop where
  after : start ≤ offset
  occurs : OccursAt needle text offset
  earliest : ∀ other, start ≤ other → OccursAt needle text other →
    offset ≤ other

theorem FirstFrom.unique
    {needle text : List α}
    {start offset other : Nat}
    (first : FirstFrom needle text start offset)
    (second : FirstFrom needle text start other) :
    offset = other :=
  Nat.le_antisymm (first.earliest other second.after second.occurs)
    (second.earliest offset first.after first.occurs)

/-- Where there is an occurrence there is a first one. -/
theorem exists_firstFrom
    {needle text : List α}
    {start offset : Nat}
    (after : start ≤ offset)
    (occurs : OccursAt needle text offset) :
    ∃ first, FirstFrom needle text start first := by
  induction offset using Nat.strongRecOn with
  | ind offset inductionHypothesis =>
      by_cases earlier : ∃ other < offset,
          start ≤ other ∧ OccursAt needle text other
      · obtain ⟨other, less, later, found⟩ := earlier
        exact inductionHypothesis other less later found
      · refine ⟨offset, after, occurs, fun other later found => ?_⟩
        by_contra less
        exact earlier ⟨other, Nat.lt_of_not_le less, later, found⟩

/-! ## The part of a text between two marks -/

/-- From the first opening mark through the end of the first closing mark
that does not begin before it. -/
def Encloses (opening closing text found : List α) : Prop :=
  ∃ start stop, FirstFrom opening text 0 start ∧
    FirstFrom closing text start stop ∧
    found = (text.drop start).take (stop + closing.length - start)

/-- The marks cannot overlap with the opening one first. -/
def Apart (opening closing : List α) : Prop :=
  ∀ shift < opening.length,
    ¬ opening.drop shift <+: closing ∧ ¬ closing <+: opening.drop shift

instance [DecidableEq α] (opening closing : List α) :
    Decidable (Apart opening closing) :=
  inferInstanceAs (Decidable (∀ shift < opening.length, _))

/-- A closing mark behind the beginning of an opening one is behind its
end. -/
theorem Apart.add_length_le
    {opening closing text : List α}
    (apart : Apart opening closing)
    {start stop : Nat}
    (opened : OccursAt opening text start)
    (closed : OccursAt closing text stop)
    (after : start ≤ stop) :
    start + opening.length ≤ stop := by
  by_contra inside
  have shifted : opening.drop (stop - start) <+: text.drop stop := by
    obtain ⟨back, rest⟩ := ((occursAt_iff _ _ _).mp opened).2
    refine ⟨back, ?_⟩
    rw [← List.drop_append_of_le_length (by omega), rest, List.drop_drop,
      Nat.add_sub_cancel' after]
  obtain ⟨notLonger, notShorter⟩ := apart (stop - start) (by omega)
  rcases List.prefix_or_prefix_of_prefix shifted
      ((occursAt_iff _ _ _).mp closed).2 with shorter | longer
  · exact notLonger shorter
  · exact notShorter longer

/-- There is something to be kept exactly if a closing mark follows the first
opening one. -/
theorem exists_encloses_iff (opening closing text : List α) :
    (∃ found, Encloses opening closing text found) ↔
      ∃ start, FirstFrom opening text 0 start ∧
        ∃ stop, start ≤ stop ∧ OccursAt closing text stop := by
  constructor
  · rintro ⟨found, start, stop, opened, closed, -⟩
    exact ⟨start, opened, stop, closed.after, closed.occurs⟩
  · rintro ⟨start, opened, stop, after, occurs⟩
    obtain ⟨first, closed⟩ := exists_firstFrom after occurs
    exact ⟨_, start, first, opened, closed, rfl⟩

namespace Encloses

variable {opening closing text found : List α}

/-- What is kept is a contiguous part of the text. -/
theorem isInfix (encloses : Encloses opening closing text found) :
    found <:+: text := by
  obtain ⟨start, stop, -, -, rfl⟩ := encloses
  exact (List.take_prefix _ _).isInfix.trans (List.drop_suffix _ _).isInfix

/-- A closing mark stands in what is kept only at its end. -/
theorem occursAt_closing_iff
    (encloses : Encloses opening closing text found)
    (offset : Nat) :
    OccursAt closing found offset ↔
      offset + closing.length = found.length := by
  obtain ⟨start, stop, opened, closed, rfl⟩ := encloses
  have after := closed.after
  have fits := closed.occurs.add_length_le
  rw [occursAt_take_iff, occursAt_drop_iff _ opened.occurs.le_length,
    List.length_take, List.length_drop]
  constructor
  · rintro ⟨occurs, inside⟩
    have notEarlier := closed.earliest _ (Nat.le_add_right _ _) occurs
    omega
  · intro atEnd
    have placed : start + offset = stop := by omega
    exact ⟨placed ▸ closed.occurs, by omega⟩

/-- What is kept begins with an opening mark. -/
theorem occursAt_opening
    (encloses : Encloses opening closing text found)
    (apart : Apart opening closing) :
    OccursAt opening found 0 := by
  obtain ⟨start, stop, opened, closed, rfl⟩ := encloses
  have behind := apart.add_length_le opened.occurs closed.occurs closed.after
  rw [occursAt_take_iff, occursAt_drop_iff _ opened.occurs.le_length]
  exact ⟨opened.occurs, by omega⟩

/-- Nothing more is cut off what has been kept. -/
theorem again
    (encloses : Encloses opening closing text found)
    (apart : Apart opening closing) :
    Encloses opening closing found found := by
  have opened := encloses.occursAt_opening apart
  have closings := encloses.occursAt_closing_iff
  have long : closing.length ≤ found.length := by
    obtain ⟨start, stop, -, closed, rfl⟩ := encloses
    have after := closed.after
    have fits := closed.occurs.add_length_le
    rw [List.length_take, List.length_drop]
    omega
  refine ⟨0, found.length - closing.length, ?_, ?_, ?_⟩
  · exact ⟨Nat.le_refl 0, opened, fun other _ _ => Nat.zero_le other⟩
  · refine ⟨Nat.zero_le _, (closings _).mpr (by omega), ?_⟩
    intro other _ occurs
    have atEnd := (closings other).mp occurs
    omega
  · rw [List.drop_zero, List.take_of_length_le (by omega)]

end Encloses

end Search
