import Sms112.Handler.Log

/-!
# Text buffers

What the blocks of the heap hold after an allocation and after a write inside
it, and what a consumer reads of a block.
-/

namespace Sms112

open Resumption

namespace State

variable (state : State)

@[simp] theorem block_allocate (contents : Octets) :
    (state.allocate contents).2.block (state.allocate contents).1 =
      contents := by
  simp [allocate, block]

theorem lookup_storeBlock (address : Nat) (contents : Octets) :
    (state.storeBlock address contents).heap.lookup address =
      (state.heap.lookup address).map fun _ => contents := by
  unfold storeBlock
  dsimp only
  induction state.heap with
  | nil => rfl
  | cons entry heap inductionHypothesis =>
      obtain ⟨other, old⟩ := entry
      by_cases same : address = other
      · simp [same]
      · have different : (address == other) = false := by simpa using same
        have reversed : ¬other = address := fun equal => same equal.symm
        simp only [List.map_cons, List.lookup_cons, different, reversed,
          if_false]
        exact inductionHypothesis

/-- A write inside a block replaces the octets it covers. -/
theorem block_writeChars
    (address offset : Nat)
    (data : Octets)
    (inside : offset + data.length ≤ (state.block address).length) :
    (state.writeChars address offset data).block address =
      (state.block address).take offset ++ data ++
        (state.block address).drop (offset + data.length) := by
  rw [writeChars, if_pos inside, block, lookup_storeBlock]
  cases live : state.heap.lookup address with
  | some old => rfl
  | none =>
      have empty : state.block address = [] := by simp [block, live]
      rw [empty, List.length_nil] at inside
      have nothing : data = [] := List.length_eq_zero_iff.mp (by omega)
      simp [empty, nothing]

end State

theorem length_fit (size : Nat) (contents : Octets) :
    (fit size contents).length = size := by
  simp [fit]

variable (thread : Thread) (oracle : Op → Choice)

@[simp] theorem readText_eval (printData : Option Nat) (state : State) :
    (readText printData).eval (exec thread) oracle state =
      (printData.map fun address => cString (state.block address),
        state) := by
  cases printData <;> rfl

end Sms112
