import Mathlib.Data.List.Basic

/-!
# The store of active requests

`sms112_stor.cpp` keeps the requests that wait for a response in a map from
sequence numbers to pointers. A pointer carries, beside the address the
program sees, the identity of the object it was taken from: the address of a
stack object is used again once the object is gone, its identity is not.
-/

namespace Sms112

def EEXIST : Int := 17

/-- A pointer to an `SReqData` and, as its provenance, the object. -/
structure ReqPtr where
  addr : Nat
  owner : Nat
  deriving DecidableEq

/-- `g_mapReq`. -/
abbrev MapReq := List (Nat × ReqPtr)

namespace MapReq

/-- The entries without the one stored under a number. -/
def erase (map : MapReq) (seqNum : Nat) : MapReq :=
  map.filter fun entry => entry.1 ≠ seqNum

/-- The objects that the entries point to. -/
def owners (map : MapReq) : List Nat :=
  map.map fun entry => entry.2.owner

end MapReq

/-- `sms112_req_stor_add`. -/
def reqStorAdd (map : MapReq) (seqNum : Nat) (pointer : ReqPtr) :
    Int × MapReq :=
  match map.lookup seqNum with
  | none => (0, (seqNum, pointer) :: map)
  | some _ => (EEXIST, map)

/-- `sms112_req_stor_get_and_rem`: the pointer found, and the map without its
entry; nothing is found where the source returns `ENOENT`. -/
def reqStorGetAndRem (map : MapReq) (seqNum : Nat) :
    Option ReqPtr × MapReq :=
  match map.lookup seqNum with
  | some pointer => (some pointer, map.erase seqNum)
  | none => (none, map)

/-- What is found was stored. -/
theorem mem_of_lookup
    {κ α : Type} [DecidableEq κ]
    {entries : List (κ × α)}
    {key : κ}
    {value : α}
    (found : entries.lookup key = some value) :
    (key, value) ∈ entries := by
  obtain ⟨front, back, equal, -⟩ := List.lookup_eq_some_iff.mp found
  simp [equal]

/-- Changing the value stored under a key. -/
theorem lookup_change
    {α : Type}
    (entries : List (Nat × α))
    (address : Nat)
    (change : α → α)
    (key : Nat) :
    (entries.map fun entry =>
        if entry.1 = address then (entry.1, change entry.2)
        else entry).lookup key =
      if key = address then (entries.lookup key).map change
      else entries.lookup key := by
  induction entries with
  | nil => simp
  | cons entry entries inductionHypothesis =>
      obtain ⟨other, value⟩ := entry
      by_cases here : key = other
      · subst here
        by_cases same : key = address <;> simp [same]
      · have different : (key == other) = false := by simpa using here
        by_cases same : other = address
        · subst same
          simpa [here, List.lookup_cons, different]
            using inductionHypothesis
        · simpa [same, List.lookup_cons, different]
            using inductionHypothesis

/-- Adding either inserts the entry or leaves the map alone because the
number is taken. -/
theorem reqStorAdd_cases (map : MapReq) (seqNum : Nat) (pointer : ReqPtr) :
    reqStorAdd map seqNum pointer = (0, (seqNum, pointer) :: map) ∨
      reqStorAdd map seqNum pointer = (EEXIST, map) ∧
        ∃ other, (seqNum, other) ∈ map := by
  unfold reqStorAdd
  cases found : map.lookup seqNum with
  | none => exact .inl rfl
  | some other => exact .inr ⟨rfl, other, mem_of_lookup found⟩

/-- Looking up takes an entry out of the map or finds none. -/
theorem reqStorGetAndRem_cases (map : MapReq) (seqNum : Nat) :
    reqStorGetAndRem map seqNum = (none, map) ∨
      ∃ pointer, (seqNum, pointer) ∈ map ∧
        reqStorGetAndRem map seqNum = (some pointer, map.erase seqNum) := by
  unfold reqStorGetAndRem
  cases found : map.lookup seqNum with
  | none => exact .inl rfl
  | some pointer => exact .inr ⟨pointer, mem_of_lookup found, rfl⟩

end Sms112
